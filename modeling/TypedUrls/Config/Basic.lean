/-!
# Conventions — the configuration of a generation run

Every rule that classification, route-template reading and source emission apply is data held
here: suffixes, handler verbs, attribute class names, route constraint names, and the names used
in the emitted source. Each table has defaults with the well-known framework values, so that a
configuration only lists what it changes.
-/

namespace TypedUrls

/-- The full attribute class names that stand for each attribute role. -/
structure AttributeTable where
  controller : List String := ["Microsoft.AspNetCore.Mvc.ControllerAttribute"]
  nonController : List String := ["Microsoft.AspNetCore.Mvc.NonControllerAttribute"]
  nonAction : List String := ["Microsoft.AspNetCore.Mvc.NonActionAttribute"]
  actionName : List String := ["Microsoft.AspNetCore.Mvc.ActionNameAttribute"]
  area : List String := ["Microsoft.AspNetCore.Mvc.AreaAttribute"]
  fromBody : List String := ["Microsoft.AspNetCore.Mvc.FromBodyAttribute"]
  fromForm : List String := ["Microsoft.AspNetCore.Mvc.FromFormAttribute"]
  fromHeader : List String := ["Microsoft.AspNetCore.Mvc.FromHeaderAttribute"]
  fromServices : List String := ["Microsoft.AspNetCore.Mvc.FromServicesAttribute"]
  fromQuery : List String := ["Microsoft.AspNetCore.Mvc.FromQueryAttribute"]
  fromRoute : List String := ["Microsoft.AspNetCore.Mvc.FromRouteAttribute"]
  bindProperty : List String := ["Microsoft.AspNetCore.Mvc.BindPropertyAttribute"]
  nonHandler : List String := ["Microsoft.AspNetCore.Mvc.RazorPages.NonHandlerAttribute"]
deriving DecidableEq, Repr, Inhabited

/-- Rules for controllers and their actions. -/
structure ControllerConventions where
  /-- Stripped from controller names, matched without regard to ASCII case. -/
  containerSuffix : String := "Controller"
  /-- Stripped from action names. -/
  actionAsyncSuffix : String := "Async"
  rootObjectType : String := "System.Object"
  /-- Methods of the root object that are never actions when overridden. -/
  rootObjectOverrides : List String := ["Equals", "GetHashCode", "ToString"]
  /-- The one-method disposal contract. -/
  disposalInterface : String := "System.IDisposable"
  disposalMethod : String := "Dispose"
  /-- Parameters of these types are uploads bound by the server. -/
  fileUploadTypes : List String :=
    ["Microsoft.AspNetCore.Http.IFormFile", "Microsoft.AspNetCore.Http.IFormFileCollection"]
deriving DecidableEq, Repr, Inhabited

/-- Rules for pages. -/
structure PageConventions where
  /-- The marker line of a page template; its optional quoted argument is the route template. -/
  pageMarker : String := "@page"
  /-- The marker line naming the bound model type. -/
  modelMarker : String := "@model"
  templateExtension : String := ".cshtml"
  pagesRoot : String := "Pages"
  areasRoot : String := "Areas"
  /-- When set, template paths are first made relative to this directory. -/
  projectRoot : Option String := none
  handlerPrefix : String := "On"
  handlerVerbs : List String := ["Delete", "Get", "Head", "Options", "Patch", "Post", "Put"]
  handlerAsyncSuffix : String := "Async"
deriving DecidableEq, Repr, Inhabited

/-- Route constraint names and the parameter types they imply; names are matched without regard
to ASCII case. -/
structure ConstraintTable where
  /-- Bare constraints that make a parameter a string. -/
  stringConstraints : List String := ["alpha"]
  /-- Constraint functions that make a parameter a string. -/
  stringFunctions : List String := ["length", "minlength", "maxlength", "regex"]
  /-- Constraint functions that suggest `numericRangeType` without settling it. -/
  numericRangeFunctions : List String := ["range", "min", "max"]
  numericRangeType : String := "int"
  /-- Constraints naming a type outright, sorted by name. -/
  typeConstraints : List (String × String) :=
    [("bool", "bool"), ("datetime", "System.DateTime"), ("decimal", "decimal"),
     ("double", "double"), ("float", "float"), ("guid", "System.Guid"), ("int", "int"),
     ("long", "long")]
  /-- The type of a parameter that no constraint decides. -/
  defaultType : String := "string"
deriving DecidableEq, Repr, Inhabited

/-- Names used in the emitted source. -/
structure EmitterOptions where
  «namespace» : String := "RouteLinks"
  usings : List String := ["Microsoft.AspNetCore.Mvc", "Microsoft.AspNetCore.Routing"]
  urlHelperType : String := "IUrlHelper"
  routeValuesType : String := "RouteValueDictionary"
  /-- The call that resolves the URL of an action. -/
  actionMethod : String := "Action"
  /-- The call that resolves the URL of a page. -/
  pageMethod : String := "Page"
  areaKey : String := "area"
  controllerExtensionsClass : String := "ControllerUrlExtensions"
  pageExtensionsClass : String := "PageUrlExtensions"
  rootControllersAccessor : String := "Controllers"
  rootPagesAccessor : String := "Pages"
  controllersFileName : String := "RouteLinks.Controllers.g.cs"
  pagesFileName : String := "RouteLinks.Pages.g.cs"
deriving DecidableEq, Repr, Inhabited

/-- Everything one generation run needs. -/
structure Config where
  attributes : AttributeTable := {}
  controllers : ControllerConventions := {}
  pages : PageConventions := {}
  routeConstraints : ConstraintTable := {}
  emitter : EmitterOptions := {}
  /-- Quoted in the diagnostics of a failed run. -/
  issueUrl : String := "https://github.com/routelink/routelink/issues"
deriving DecidableEq, Repr, Inhabited

end TypedUrls
