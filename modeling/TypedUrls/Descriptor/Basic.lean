import TypedUrls.Model.Basic

/-!
# Descriptors — what the emitted helpers are made from

Discovery describes every URL the emitted source can build:

* an endpoint family: areas, their containers (controllers), and the containers' endpoints
  (actions);
* a page family: areas, their folders, and the pages in them.

Each endpoint and page takes parameters (`Descriptor.Parameter`): a camel-cased name, a C# type
name (nullable when it ends in `?`), maybe a default value, and maybe a description.
-/

namespace TypedUrls.Descriptor

/-- One value a caller passes to a generated URL method. -/
structure Parameter where
  name : String
  type : String
  hasDefault : Bool := false
  default : Option Constant := none
  description : Option String := none
deriving Repr, Inhabited

namespace Parameter

/-- A parameter given a default value. -/
def withDefault (p : Parameter) (c : Constant) : Parameter :=
  { p with hasDefault := true, default := some c }

/-- A parameter given a description. -/
def withDescription (p : Parameter) (d : String) : Parameter :=
  { p with description := some d }

/-- Whether the parameter's type is nullable: it ends in `?`. -/
def isNullable (p : Parameter) : Bool := p.type.endsWith "?"

end Parameter

/-- The types of a parameter list: two lists with the same types make the same method
signature. -/
def signature (ps : List Parameter) : List String := ps.map (·.type)

/-- A URL of an action. -/
structure Endpoint where
  name : String
  /-- The name of the container it belongs to. -/
  container : String
  parameters : List Parameter
deriving Repr, Inhabited

/-- A controller and its actions. -/
structure Container where
  name : String
  /-- The name of the area it belongs to; empty for the root area. -/
  area : String
  endpoints : List Endpoint := []
deriving Repr, Inhabited

/-- An area of controllers; the root area has the empty name. -/
structure Area where
  name : String
  containers : List Container := []
deriving Repr, Inhabited

/-- Whether an area is the root area. -/
def Area.isRoot (a : Area) : Bool := a.name.isEmpty

/-- A URL of a page, maybe of one of its handlers. -/
structure Page where
  /-- The full path from the area's root, with a leading `/`. -/
  name : String
  /-- The last segment of the path. -/
  segment : String
  handler : Option String
  parameters : List Parameter
deriving Repr, Inhabited

/-- A folder of pages: its name (one segment), its path, its folders and its pages. -/
inductive Folder where
  | mk (name path : String) (folders : List Folder) (pages : List Page)
deriving Repr, Inhabited

namespace Folder

/-- The folder's name. -/
def name : Folder → String
  | .mk n _ _ _ => n

/-- The folder's path. -/
def path : Folder → String
  | .mk _ p _ _ => p

/-- The folders inside. -/
def folders : Folder → List Folder
  | .mk _ _ fs _ => fs

/-- The pages inside. -/
def pages : Folder → List Page
  | .mk _ _ _ ps => ps

end Folder

/-- An area of pages: its name (empty for the root area), its path, and its top folder's
folders and pages. -/
structure PageArea where
  name : String
  path : String
  folders : List Folder
  pages : List Page
deriving Repr, Inhabited

/-- Whether a page area is the root area. -/
def PageArea.isRoot (a : PageArea) : Bool := a.name.isEmpty

end TypedUrls.Descriptor
