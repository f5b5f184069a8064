import TypedUrls.Descriptor.Basic
import TypedUrls.Model.Json

/-!
# Descriptors as JSON

Every descriptor is written with camelCase member names, every member present: a parameter's
type under `type`, a missing default or description as null, and constants as the model writes
them.
-/

namespace TypedUrls.Descriptor

open Json

/-- A parameter as JSON. -/
def Parameter.toJson (p : Parameter) : Json :=
  .obj [("name", .str p.name), ("type", .str p.type), ("hasDefaultValue", .bool p.hasDefault),
    ("defaultValue", .opt Constant.toJson p.default), ("description", .opt .str p.description)]

/-- An endpoint as JSON. -/
def Endpoint.toJson (e : Endpoint) : Json :=
  .obj [("name", .str e.name), ("container", .str e.container),
    ("parameters", .arr (e.parameters.map Parameter.toJson))]

/-- A container as JSON. -/
def Container.toJson (c : Container) : Json :=
  .obj [("name", .str c.name), ("area", .str c.area),
    ("endpoints", .arr (c.endpoints.map Endpoint.toJson))]

/-- An area as JSON. -/
def Area.toJson (a : Area) : Json :=
  .obj [("name", .str a.name), ("containers", .arr (a.containers.map Container.toJson))]

/-- A page as JSON. -/
def Page.toJson (p : Page) : Json :=
  .obj [("name", .str p.name), ("segment", .str p.segment), ("pageHandler", .opt .str p.handler),
    ("parameters", .arr (p.parameters.map Parameter.toJson))]

mutual

/-- A folder as JSON. -/
def Folder.toJson : Folder → Json
  | .mk name path folders pages =>
    .obj [("name", .str name), ("path", .str path), ("folders", .arr (Folder.listToJson folders)),
      ("pages", .arr (pages.map Page.toJson))]

/-- Folders as JSON. -/
def Folder.listToJson : List Folder → List Json
  | [] => []
  | f :: fs => f.toJson :: Folder.listToJson fs

end

/-- A page area as JSON. -/
def PageArea.toJson (a : PageArea) : Json :=
  .obj [("name", .str a.name), ("path", .str a.path), ("folders", .arr (Folder.listToJson a.folders)),
    ("pages", .arr (a.pages.map Page.toJson))]

end TypedUrls.Descriptor
