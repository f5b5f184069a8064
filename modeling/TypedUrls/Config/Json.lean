import TypedUrls.Config.Basic
import TypedUrls.Json.Decode

/-!
# Conventions as JSON

Every table is read with every member optional: a member left out keeps its default, so `{}`
is the default configuration. Members have camelCase names; a table may also be written as the
array of its members in order, the missing tail keeping its defaults. The writer gives every
member, `projectRoot` as null when it is unset.
-/

namespace TypedUrls

open Json

/-- Reads a list of strings. -/
def Decode.strings : Decoder (List String) := Decode.list Decode.string

/-- Reads an attribute table. -/
def AttributeTable.decode : Decoder AttributeTable :=
  Decode.record "struct AttributeTable"
    [.optional "controller" Decode.strings fun v t => { t with controller := v },
     .optional "nonController" Decode.strings fun v t => { t with nonController := v },
     .optional "nonAction" Decode.strings fun v t => { t with nonAction := v },
     .optional "actionName" Decode.strings fun v t => { t with actionName := v },
     .optional "area" Decode.strings fun v t => { t with area := v },
     .optional "fromBody" Decode.strings fun v t => { t with fromBody := v },
     .optional "fromForm" Decode.strings fun v t => { t with fromForm := v },
     .optional "fromHeader" Decode.strings fun v t => { t with fromHeader := v },
     .optional "fromServices" Decode.strings fun v t => { t with fromServices := v },
     .optional "fromQuery" Decode.strings fun v t => { t with fromQuery := v },
     .optional "fromRoute" Decode.strings fun v t => { t with fromRoute := v },
     .optional "bindProperty" Decode.strings fun v t => { t with bindProperty := v },
     .optional "nonHandler" Decode.strings fun v t => { t with nonHandler := v }]
    {}

/-- An attribute table as JSON. -/
def AttributeTable.toJson (t : AttributeTable) : Json :=
  .obj [("controller", .strs t.controller), ("nonController", .strs t.nonController),
    ("nonAction", .strs t.nonAction), ("actionName", .strs t.actionName), ("area", .strs t.area),
    ("fromBody", .strs t.fromBody), ("fromForm", .strs t.fromForm),
    ("fromHeader", .strs t.fromHeader), ("fromServices", .strs t.fromServices),
    ("fromQuery", .strs t.fromQuery), ("fromRoute", .strs t.fromRoute),
    ("bindProperty", .strs t.bindProperty), ("nonHandler", .strs t.nonHandler)]

/-- Reads controller conventions. -/
def ControllerConventions.decode : Decoder ControllerConventions :=
  Decode.record "struct ControllerConventions"
    [.optional "containerSuffix" Decode.string fun v t => { t with containerSuffix := v },
     .optional "actionAsyncSuffix" Decode.string fun v t => { t with actionAsyncSuffix := v },
     .optional "rootObjectType" Decode.string fun v t => { t with rootObjectType := v },
     .optional "rootObjectOverrides" Decode.strings fun v t => { t with rootObjectOverrides := v },
     .optional "disposalInterface" Decode.string fun v t => { t with disposalInterface := v },
     .optional "disposalMethod" Decode.string fun v t => { t with disposalMethod := v },
     .optional "fileUploadTypes" Decode.strings fun v t => { t with fileUploadTypes := v }]
    {}

/-- Controller conventions as JSON. -/
def ControllerConventions.toJson (t : ControllerConventions) : Json :=
  .obj [("containerSuffix", .str t.containerSuffix),
    ("actionAsyncSuffix", .str t.actionAsyncSuffix), ("rootObjectType", .str t.rootObjectType),
    ("rootObjectOverrides", .strs t.rootObjectOverrides),
    ("disposalInterface", .str t.disposalInterface), ("disposalMethod", .str t.disposalMethod),
    ("fileUploadTypes", .strs t.fileUploadTypes)]

/-- Reads page conventions. -/
def PageConventions.decode : Decoder PageConventions :=
  Decode.record "struct PageConventions"
    [.optional "pageMarker" Decode.string fun v t => { t with pageMarker := v },
     .optional "modelMarker" Decode.string fun v t => { t with modelMarker := v },
     .optional "templateExtension" Decode.string fun v t => { t with templateExtension := v },
     .optional "pagesRoot" Decode.string fun v t => { t with pagesRoot := v },
     .optional "areasRoot" Decode.string fun v t => { t with areasRoot := v },
     .optional "projectRoot" (Decode.option Decode.string) fun v t => { t with projectRoot := v },
     .optional "handlerPrefix" Decode.string fun v t => { t with handlerPrefix := v },
     .optional "handlerVerbs" Decode.strings fun v t => { t with handlerVerbs := v },
     .optional "handlerAsyncSuffix" Decode.string fun v t => { t with handlerAsyncSuffix := v }]
    {}

/-- Page conventions as JSON. -/
def PageConventions.toJson (t : PageConventions) : Json :=
  .obj [("pageMarker", .str t.pageMarker), ("modelMarker", .str t.modelMarker),
    ("templateExtension", .str t.templateExtension), ("pagesRoot", .str t.pagesRoot),
    ("areasRoot", .str t.areasRoot), ("projectRoot", .opt .str t.projectRoot),
    ("handlerPrefix", .str t.handlerPrefix), ("handlerVerbs", .strs t.handlerVerbs),
    ("handlerAsyncSuffix", .str t.handlerAsyncSuffix)]

/-- Reads a route constraint table. -/
def ConstraintTable.decode : Decoder ConstraintTable :=
  Decode.record "struct RouteConstraintTable"
    [.optional "stringConstraints" Decode.strings fun v t => { t with stringConstraints := v },
     .optional "stringFunctions" Decode.strings fun v t => { t with stringFunctions := v },
     .optional "numericRangeFunctions" Decode.strings fun v t => { t with numericRangeFunctions := v },
     .optional "numericRangeType" Decode.string fun v t => { t with numericRangeType := v },
     .optional "typeConstraints" (Decode.map Decode.string) fun v t => { t with typeConstraints := v },
     .optional "defaultType" Decode.string fun v t => { t with defaultType := v }]
    {}

/-- A route constraint table as JSON. -/
def ConstraintTable.toJson (t : ConstraintTable) : Json :=
  .obj [("stringConstraints", .strs t.stringConstraints),
    ("stringFunctions", .strs t.stringFunctions),
    ("numericRangeFunctions", .strs t.numericRangeFunctions),
    ("numericRangeType", .str t.numericRangeType),
    ("typeConstraints", .obj (t.typeConstraints.map fun (k, v) => (k, .str v))),
    ("defaultType", .str t.defaultType)]

/-- Reads emitter options. -/
def EmitterOptions.decode : Decoder EmitterOptions :=
  Decode.record "struct EmitterOptions"
    [.optional "namespace" Decode.string fun v t => { t with «namespace» := v },
     .optional "usings" Decode.strings fun v t => { t with usings := v },
     .optional "urlHelperType" Decode.string fun v t => { t with urlHelperType := v },
     .optional "routeValuesType" Decode.string fun v t => { t with routeValuesType := v },
     .optional "actionMethod" Decode.string fun v t => { t with actionMethod := v },
     .optional "pageMethod" Decode.string fun v t => { t with pageMethod := v },
     .optional "areaKey" Decode.string fun v t => { t with areaKey := v },
     .optional "controllerExtensionsClass" Decode.string
       fun v t => { t with controllerExtensionsClass := v },
     .optional "pageExtensionsClass" Decode.string fun v t => { t with pageExtensionsClass := v },
     .optional "rootControllersAccessor" Decode.string
       fun v t => { t with rootControllersAccessor := v },
     .optional "rootPagesAccessor" Decode.string fun v t => { t with rootPagesAccessor := v },
     .optional "controllersFileName" Decode.string fun v t => { t with controllersFileName := v },
     .optional "pagesFileName" Decode.string fun v t => { t with pagesFileName := v }]
    {}

/-- Emitter options as JSON. -/
def EmitterOptions.toJson (t : EmitterOptions) : Json :=
  .obj [("namespace", .str t.«namespace»), ("usings", .strs t.usings),
    ("urlHelperType", .str t.urlHelperType), ("routeValuesType", .str t.routeValuesType),
    ("actionMethod", .str t.actionMethod), ("pageMethod", .str t.pageMethod),
    ("areaKey", .str t.areaKey), ("controllerExtensionsClass", .str t.controllerExtensionsClass),
    ("pageExtensionsClass", .str t.pageExtensionsClass),
    ("rootControllersAccessor", .str t.rootControllersAccessor),
    ("rootPagesAccessor", .str t.rootPagesAccessor),
    ("controllersFileName", .str t.controllersFileName), ("pagesFileName", .str t.pagesFileName)]

/-- Reads a configuration. -/
def Config.decode : Decoder Config :=
  Decode.record "struct GeneratorConfig"
    [.optional "attributes" AttributeTable.decode fun v t => { t with attributes := v },
     .optional "controllers" ControllerConventions.decode fun v t => { t with controllers := v },
     .optional "pages" PageConventions.decode fun v t => { t with pages := v },
     .optional "routeConstraints" ConstraintTable.decode fun v t => { t with routeConstraints := v },
     .optional "emitter" EmitterOptions.decode fun v t => { t with emitter := v },
     .optional "issueUrl" Decode.string fun v t => { t with issueUrl := v }]
    {}

/-- A configuration as JSON. -/
def Config.toJson (c : Config) : Json :=
  .obj [("attributes", c.attributes.toJson), ("controllers", c.controllers.toJson),
    ("pages", c.pages.toJson), ("routeConstraints", c.routeConstraints.toJson),
    ("emitter", c.emitter.toJson), ("issueUrl", .str c.issueUrl)]

end TypedUrls
