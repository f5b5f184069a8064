import TypedUrls.Descriptor.Basic
import TypedUrls.Text.Lower
import TypedUrls.Text.Basic

/-!
# Building descriptor trees

Discovery adds descriptors one at a time to a tree under construction; the tree keeps
insertion order and refuses duplicates:

* areas, containers and folders are grouped by the lowercase form of their names, the first
  spelling seen being the one kept;
* within a container, an endpoint with the name and parameter types of one already there is
  dropped; within a folder, so is a page with the path, handler and parameter types of one
  already there. The first one found stays.

`EndpointTree.build` drops containers without endpoints and areas without containers;
`PageTree.build` drops areas without pages.
-/

namespace TypedUrls.Descriptor

/-- The key under which names are grouped: their lowercase form. -/
def groupKey (s : String) : String := Text.lowercase s

/-- A builder's get-or-create followed by a change: the first element of the list grouped under
`k`, or `fresh` added at the end when there is none, is changed by `f`, which also gives a
result. -/
def upsert {α β : Type} (key : α → String) (k : String) (fresh : α) (f : α → α × β) :
    List α → List α × β
  | [] => let r := f fresh; ([r.1], r.2)
  | a :: rest =>
    if key a = k then let r := f a; (r.1 :: rest, r.2)
    else let r := upsert key k fresh f rest; (a :: r.1, r.2)

/-! ## The endpoint family -/

/-- The key of an endpoint: its name and parameter types. -/
def Endpoint.key (e : Endpoint) : String × List String := (e.name, signature e.parameters)

/-- Adds an endpoint unless one with the same name and parameter types is there; says whether
it was kept. -/
def Container.addEndpoint (c : Container) (name : String) (parameters : List Parameter) :
    Container × Bool :=
  if c.endpoints.any (·.key == (name, signature parameters)) then (c, false)
  else ({ c with endpoints := c.endpoints ++ [⟨name, c.name, parameters⟩] }, true)

/-- The container grouped under `name`, if any. -/
def Area.container? (a : Area) (name : String) : Option Container :=
  a.containers.find? (groupKey ·.name == groupKey name)

/-- Changes the container grouped under `name` (created empty if missing) by `f`. -/
def Area.updateContainer {β : Type} (a : Area) (name : String) (f : Container → Container × β) :
    Area × β :=
  let r := upsert (groupKey ·.name) (groupKey name) { name, area := a.name } f a.containers
  ({ a with containers := r.1 }, r.2)

/-- The area with a container grouped under `name`, created empty if missing. -/
def Area.withContainer (a : Area) (name : String) : Area :=
  (a.updateContainer name fun c => (c, ())).1

/-- The endpoint family under construction. -/
structure EndpointTree where
  areas : List Area := []
deriving Repr, Inhabited

namespace EndpointTree

/-- The area grouped under `name`, if any. -/
def area? (t : EndpointTree) (name : String) : Option Area :=
  t.areas.find? (groupKey ·.name == groupKey name)

/-- Changes the area grouped under `name` (created empty if missing) by `f`. -/
def updateArea {β : Type} (t : EndpointTree) (name : String) (f : Area → Area × β) :
    EndpointTree × β :=
  let r := upsert (groupKey ·.name) (groupKey name) { name } f t.areas
  ({ areas := r.1 }, r.2)

/-- The tree with an area grouped under `name`, created empty if missing. -/
def withArea (t : EndpointTree) (name : String) : EndpointTree :=
  (t.updateArea name fun a => (a, ())).1

/-- The tree with a container grouped under `container` in the area grouped under `area`,
both created empty if missing. -/
def withContainer (t : EndpointTree) (area container : String) : EndpointTree :=
  (t.updateArea area fun a => (a.withContainer container, ())).1

/-- Adds an endpoint to a container of an area, creating both if missing; says whether the
endpoint was kept. -/
def addEndpoint (t : EndpointTree) (area container name : String) (parameters : List Parameter) :
    EndpointTree × Bool :=
  t.updateArea area (·.updateContainer container (·.addEndpoint name parameters))

/-- The finished family: containers without endpoints and areas without containers dropped. -/
def build (t : EndpointTree) : List Area :=
  t.areas.filterMap fun a =>
    match a.containers.filter (!·.endpoints.isEmpty) with
    | [] => none
    | containers => some { a with containers }

end EndpointTree

/-! ## The page family -/

/-- The key of a page: its path, handler and parameter types. -/
def Page.key (p : Page) : String × Option String × List String :=
  (p.name, p.handler, signature p.parameters)

/-- The path of a folder named `segment` inside a folder at `path`. -/
def childPath (path segment : String) : String :=
  if path = "/" then "/" ++ segment else path ++ "/" ++ segment

namespace Folder

/-- Adds a page to this folder unless one with the same key is there; says whether it was
kept. -/
def insert (f : Folder) (page : Page) : Folder × Bool :=
  match f with
  | .mk n p fs ps =>
    if ps.any (·.key == page.key) then (f, false) else (.mk n p fs (ps ++ [page]), true)

/-- Adds a page to the folder reached through `segments`, creating missing folders and reusing
those grouped under the same key; says whether the page was kept. -/
def addPage : List String → Page → Folder → Folder × Bool
  | [], page, f => f.insert page
  | segment :: rest, page, .mk n p fs ps =>
    let r := upsert (groupKey ·.name) (groupKey segment) (.mk segment (childPath p segment) [] [])
      (addPage rest page) fs
    (.mk n p r.1 ps, r.2)

end Folder

/-- A page area under construction: its name and its top folder. -/
structure PageAreaDraft where
  name : String
  root : Folder := .mk "" "/" [] []
deriving Repr, Inhabited

/-- The segments of a page path: the nonempty pieces between slashes. -/
def pathSegments (path : String) : List String :=
  (Text.pieces (· = '/') path).filter (!·.isEmpty)

/-- Adds a page at `path` to an area; a path without segments is refused. Says whether the page
was kept. -/
def PageAreaDraft.addPage (a : PageAreaDraft) (path : String) (handler : Option String)
    (parameters : List Parameter) : PageAreaDraft × Bool :=
  let segments := pathSegments path
  match segments.getLast? with
  | none => (a, false)
  | some last =>
    let page : Page := ⟨"/" ++ "/".intercalate segments, last, handler, parameters⟩
    let (root, kept) := a.root.addPage segments.dropLast page
    ({ a with root }, kept)

/-- The page family under construction. -/
structure PageTree where
  areas : List PageAreaDraft := []
deriving Repr, Inhabited

namespace PageTree

/-- The area grouped under `name`, if any. -/
def area? (t : PageTree) (name : String) : Option PageAreaDraft :=
  t.areas.find? (groupKey ·.name == groupKey name)

/-- Changes the area grouped under `name` (created empty if missing) by `f`. -/
def updateArea {β : Type} (t : PageTree) (name : String) (f : PageAreaDraft → PageAreaDraft × β) :
    PageTree × β :=
  let r := upsert (groupKey ·.name) (groupKey name) { name } f t.areas
  ({ areas := r.1 }, r.2)

/-- The tree with an area grouped under `name`, created empty if missing. -/
def withArea (t : PageTree) (name : String) : PageTree :=
  (t.updateArea name fun a => (a, ())).1

/-- Adds a page to an area, creating the area if missing; says whether the page was kept. -/
def addPage (t : PageTree) (area path : String) (handler : Option String)
    (parameters : List Parameter) : PageTree × Bool :=
  t.updateArea area (·.addPage path handler parameters)

/-- The finished family: areas without pages dropped. -/
def build (t : PageTree) : List PageArea :=
  t.areas.filterMap fun a =>
    if a.root.pages.isEmpty ∧ a.root.folders.isEmpty then none
    else some ⟨a.name, a.root.path, a.root.folders, a.root.pages⟩

end PageTree

end TypedUrls.Descriptor
