import TypedUrls.Model.Query
import TypedUrls.Config.Basic

/-!
# What attributes mean

An attribute is known by its class name: the attribute table lists, for each role (controller,
non-action, area, binding source, …), the class names that play it. An attribute class declared
in the program model plays the role of the first class up its base chain that the table lists.
Where the table lists one name under several roles, the last role listed wins.

`AttributeKind` is what an attribute means once its role is known, with the arguments that role
reads: the first positional string of an area or action name, the named `Name` of a binding
source, and the named `SupportsGet` of a bound property.
-/

namespace TypedUrls

/-- What an attribute means. -/
inductive AttributeKind where
  | controller
  | nonController
  | nonAction
  | actionName (value : Option String)
  | area (value : Option String)
  | fromBody
  | fromForm
  | fromHeader
  | fromServices
  | fromQuery (name : Option String)
  | fromRoute (name : Option String)
  | bindProperty (name : Option String) (supportsGet : Bool)
  | nonHandler
  | other
deriving DecidableEq, Repr

namespace AttributeKind

/-- Whether the server binds the value itself, so that callers never give it in a URL. -/
def isServerBound : AttributeKind → Bool
  | .fromBody | .fromForm | .fromHeader | .fromServices => true
  | _ => false

/-- The binding name an attribute gives explicitly, if it is not empty. -/
def bindingName : AttributeKind → Option String
  | .fromQuery (some n) | .fromRoute (some n) | .bindProperty (some n) _ =>
    if n.isEmpty then none else some n
  | _ => none

end AttributeKind

/-- The roles an attribute class can play. -/
inductive AttributeRole where
  | controller
  | nonController
  | nonAction
  | actionName
  | area
  | fromBody
  | fromForm
  | fromHeader
  | fromServices
  | fromQuery
  | fromRoute
  | bindProperty
  | nonHandler
deriving DecidableEq, Repr

/-- The class names of each role, in the order of the table. -/
def AttributeTable.roles (t : AttributeTable) : List (List String × AttributeRole) :=
  [(t.controller, .controller), (t.nonController, .nonController), (t.nonAction, .nonAction),
   (t.actionName, .actionName), (t.area, .area), (t.fromBody, .fromBody),
   (t.fromForm, .fromForm), (t.fromHeader, .fromHeader), (t.fromServices, .fromServices),
   (t.fromQuery, .fromQuery), (t.fromRoute, .fromRoute), (t.bindProperty, .bindProperty),
   (t.nonHandler, .nonHandler)]

/-- The role the table gives a class name: the last role listing it. -/
def AttributeTable.roleOf? (t : AttributeTable) (className : String) : Option AttributeRole :=
  (t.roles.reverse.find? fun (names, _) => names.contains className).map (·.2)

/-- The role of a class name, looking up its base chain in the model for at most `fuel`
classes, none of them in `seen`. -/
def Program.roleFrom (m : Program) (t : AttributeTable) : Nat → List String → String →
    Option AttributeRole
  | 0, _, _ => none
  | fuel + 1, seen, name =>
    match t.roleOf? name with
    | some r => some r
    | none =>
      if seen.contains name then none
      else (m.baseTypeOf name).bind (m.roleFrom t fuel (name :: seen))

/-- The role of an attribute class, looking through its base classes in the model. -/
def Program.roleOf? (m : Program) (t : AttributeTable) (className : String) :
    Option AttributeRole :=
  m.roleFrom t (m.types.length + 2) [] className

/-- What an attribute means, given its role. -/
def AttributeRole.kind (a : Attribute) : AttributeRole → AttributeKind
  | .controller => .controller
  | .nonController => .nonController
  | .nonAction => .nonAction
  | .actionName => .actionName a.firstString?
  | .area => .area a.firstString?
  | .fromBody => .fromBody
  | .fromForm => .fromForm
  | .fromHeader => .fromHeader
  | .fromServices => .fromServices
  | .fromQuery => .fromQuery (a.namedString? "Name")
  | .fromRoute => .fromRoute (a.namedString? "Name")
  | .bindProperty => .bindProperty (a.namedString? "Name") ((a.namedBool? "SupportsGet").getD false)
  | .nonHandler => .nonHandler

/-- What an attribute means in a model under an attribute table. -/
def Program.attributeKind (m : Program) (t : AttributeTable) (a : Attribute) : AttributeKind :=
  match m.roleOf? t a.className with
  | some r => r.kind a
  | none => .other

/-- The meanings of the attributes of a type and of each of its base types in the model, most
derived first. -/
def Program.inheritedKinds (m : Program) (t : AttributeTable) (fullName : String) :
    List AttributeKind :=
  ((m.baseChain fullName).flatMap m.attributesOf).map (m.attributeKind t)

end TypedUrls
