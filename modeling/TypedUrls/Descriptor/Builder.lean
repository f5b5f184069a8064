import TypedUrls.Descriptor.Tree
import TypedUrls.Panic

/-!
# Tree builders with indexes

The builders of the two descriptor families find an area, a container or a folder through an
index: a map from the lowercase form of a name to the position of its element in the builder's
list. A name the index does not have gets a fresh element pushed at the end, and its position
recorded (`locate`). The element is then read at its position, changed, and written back
(`updateAt`); a position past the end stops the pass. An endpoint or a page is refused when its
key is already in the set of keys of its container or folder.

Forgetting the indexes and the sets of keys (`view`) reads each builder as the list builder of
`Descriptor.Tree`, which finds elements by searching the list itself.
-/

namespace TypedUrls.Descriptor

/-- A get-or-create through an index: the position of the element under `k`, with `fresh` pushed
at the end of `xs` and its position recorded when the index has none. -/
def locate {α : Type} (k : String) (fresh : α) (xs : List α) (index : List (String × Nat)) :
    (List α × List (String × Nat)) × Nat :=
  match index.lookup k with
  | some position => ((xs, index), position)
  | none =>
    let pushed := xs ++ [fresh]
    ((pushed, (k, pushed.length - 1) :: index), pushed.length - 1)

/-- A change made through a position: the element there is read, changed by `f`, and written
back; a position past the end stops the pass. -/
def updateAt {α β : Type} (xs : List α) (position : Nat) (f : α → Except Panic (α × β)) :
    Except Panic (List α × β) := do
  let x ← readAt xs position
  let r ← f x
  pure (xs.set position r.1, r.2)

theorem updateAt_of_lt {α β : Type} {xs : List α} {position : Nat} {f : α → Except Panic (α × β)}
    {y : α} {r : β} (hp : position < xs.length) (hf : f xs[position] = .ok (y, r)) :
    updateAt xs position f = .ok (xs.set position y, r) := by
  rw [updateAt, readAt_of_lt hp]
  simp only [bind, Except.bind, hf]
  rfl

/-! ## The endpoint family -/

/-- A container under construction, with the keys of its endpoints. -/
structure ContainerBuilder where
  name : String
  area : String
  endpoints : List Endpoint := []
  keys : List (String × List String) := []
deriving Repr, Inhabited

namespace ContainerBuilder

/-- Adds an endpoint unless its name and parameter types are among the keys; says whether it
was kept. -/
def addEndpoint (c : ContainerBuilder) (name : String) (parameters : List Parameter) :
    ContainerBuilder × Bool :=
  let key := (name, signature parameters)
  if c.keys.contains key then (c, false)
  else ({ c with endpoints := c.endpoints ++ [⟨name, c.name, parameters⟩], keys := key :: c.keys },
    true)

/-- Adds endpoints, each a name and its parameters, one after the other. -/
def addEndpoints (c : ContainerBuilder) (endpoints : List (String × List Parameter)) :
    ContainerBuilder :=
  endpoints.foldl (fun c e => (c.addEndpoint e.1 e.2).1) c

/-- The container without its keys. -/
def view (c : ContainerBuilder) : Container := ⟨c.name, c.area, c.endpoints⟩

/-- The finished container; none without endpoints. -/
def build (c : ContainerBuilder) : Option Container :=
  if c.endpoints.isEmpty then none else some ⟨c.name, c.area, c.endpoints⟩

end ContainerBuilder

/-- An area under construction, with the index of its containers. -/
structure AreaBuilder where
  name : String
  containers : List ContainerBuilder := []
  index : List (String × Nat) := []
deriving Repr, Inhabited

namespace AreaBuilder

/-- The position of the container named `name` (by its lowercase form), created if missing. -/
def container (a : AreaBuilder) (name : String) : AreaBuilder × Nat :=
  let r := locate (groupKey name) { name, area := a.name } a.containers a.index
  ({ a with containers := r.1.1, index := r.1.2 }, r.2)

/-- Changes the container at `position` by `f`. -/
def atContainer {β : Type} (a : AreaBuilder) (position : Nat)
    (f : ContainerBuilder → Except Panic (ContainerBuilder × β)) : Except Panic (AreaBuilder × β) := do
  let r ← updateAt a.containers position f
  pure ({ a with containers := r.1 }, r.2)

/-- Adds endpoints to the container named `container`, created if missing: the container is
found once, and every endpoint is added through it. -/
def addEndpoints (a : AreaBuilder) (container : String)
    (endpoints : List (String × List Parameter)) : Except Panic (AreaBuilder × Unit) :=
  let r := a.container container
  r.1.atContainer r.2 fun c => pure (c.addEndpoints endpoints, ())

/-- The area without its indexes. -/
def view (a : AreaBuilder) : Area := ⟨a.name, a.containers.map ContainerBuilder.view⟩

/-- The finished area: its containers with endpoints; none when there is none. -/
def build (a : AreaBuilder) : Option Area :=
  match a.containers.filterMap ContainerBuilder.build with
  | [] => none
  | containers => some ⟨a.name, containers⟩

end AreaBuilder

/-- The endpoint family under construction, with the index of its areas. -/
structure ControllerTreeBuilder where
  areas : List AreaBuilder := []
  index : List (String × Nat) := []
deriving Repr, Inhabited

namespace ControllerTreeBuilder

/-- The position of the area named `name` (by its lowercase form), created if missing. -/
def area (t : ControllerTreeBuilder) (name : String) : ControllerTreeBuilder × Nat :=
  let r := locate (groupKey name) { name } t.areas t.index
  ({ areas := r.1.1, index := r.1.2 }, r.2)

/-- Changes the area at `position` by `f`. -/
def atArea {β : Type} (t : ControllerTreeBuilder) (position : Nat)
    (f : AreaBuilder → Except Panic (AreaBuilder × β)) : Except Panic (ControllerTreeBuilder × β) := do
  let r ← updateAt t.areas position f
  pure ({ t with areas := r.1 }, r.2)

/-- Adds endpoints, each a name and its parameters, to the container `container` of the area
`area`, both created if missing. -/
def addEndpoints (t : ControllerTreeBuilder) (area container : String)
    (endpoints : List (String × List Parameter)) : Except Panic ControllerTreeBuilder := do
  let r := t.area area
  let r ← r.1.atArea r.2 (·.addEndpoints container endpoints)
  pure r.1

/-- The tree without its indexes. -/
def view (t : ControllerTreeBuilder) : EndpointTree := ⟨t.areas.map AreaBuilder.view⟩

/-- The finished family: containers without endpoints and areas without containers dropped. -/
def build (t : ControllerTreeBuilder) : List Area := t.areas.filterMap AreaBuilder.build

end ControllerTreeBuilder

/-! ## The page family -/

/-- A folder under construction, with the index of its folders and the keys of its pages. -/
structure FolderNode where
  name : String
  path : String
  folders : List FolderNode := []
  folderIndex : List (String × Nat) := []
  pages : List Page := []
  pageKeys : List (String × Option String × List String) := []
deriving Inhabited

namespace FolderNode

/-- The finished folder: the folder without its indexes, its folders finished too. -/
def toFolder : FolderNode → Folder
  | ⟨name, path, folders, _, pages, _⟩ => .mk name path (folders.map toFolder) pages

/-- The position of the folder named `segment` (by its lowercase form), created if missing at
the path below this folder. -/
def folder (n : FolderNode) (segment : String) : FolderNode × Nat :=
  let r := locate (groupKey segment) { name := segment, path := childPath n.path segment }
    n.folders n.folderIndex
  ({ n with folders := r.1.1, folderIndex := r.1.2 }, r.2)

/-- Changes the folder at `position` by `f`. -/
def atFolder {β : Type} (n : FolderNode) (position : Nat)
    (f : FolderNode → Except Panic (FolderNode × β)) : Except Panic (FolderNode × β) := do
  let r ← updateAt n.folders position f
  pure ({ n with folders := r.1 }, r.2)

/-- Adds a page to this folder unless its key is among the keys; says whether it was kept. -/
def insert (n : FolderNode) (page : Page) : FolderNode × Bool :=
  if n.pageKeys.contains page.key then (n, false)
  else ({ n with pages := n.pages ++ [page], pageKeys := page.key :: n.pageKeys }, true)

/-- Adds a page to the folder reached through `segments`, creating missing folders and reusing
those grouped under the same key; says whether the page was kept. -/
def addPage (page : Page) : List String → FolderNode → Except Panic (FolderNode × Bool)
  | [], n => pure (n.insert page)
  | segment :: rest, n =>
    let r := n.folder segment
    r.1.atFolder r.2 (addPage page rest)

end FolderNode

/-- A page area under construction: its name and its top folder. -/
structure PageAreaBuilder where
  name : String
  root : FolderNode := { name := "", path := "/" }
deriving Inhabited

namespace PageAreaBuilder

/-- Adds a page at `path`; a path without segments is refused. Says whether the page was
kept. -/
def addPage (a : PageAreaBuilder) (path : String) (handler : Option String)
    (parameters : List Parameter) : Except Panic (PageAreaBuilder × Bool) :=
  let segments := pathSegments path
  match segments.getLast? with
  | none => pure (a, false)
  | some last => do
    let page : Page := ⟨"/" ++ "/".intercalate segments, last, handler, parameters⟩
    let r ← a.root.addPage page segments.dropLast
    pure ({ a with root := r.1 }, r.2)

/-- Adds the variants of a page at `path`, each a handler and its parameters, one after the
other. -/
def addVariants (a : PageAreaBuilder) (path : String)
    (variants : List (Option String × List Parameter)) : Except Panic (PageAreaBuilder × Unit) := do
  let a ← variants.foldlM (fun a v => do
    let r ← a.addPage path v.1 v.2
    pure r.1) a
  pure (a, ())

/-- The area without its indexes. -/
def view (a : PageAreaBuilder) : PageAreaDraft := ⟨a.name, a.root.toFolder⟩

/-- The finished area; none when it has no page and no folder. -/
def build (a : PageAreaBuilder) : Option PageArea :=
  if a.root.pages.isEmpty ∧ a.root.folders.isEmpty then none
  else some ⟨a.name, a.root.path, a.root.folders.map FolderNode.toFolder, a.root.pages⟩

end PageAreaBuilder

/-- The page family under construction, with the index of its areas. -/
structure PageTreeBuilder where
  areas : List PageAreaBuilder := []
  index : List (String × Nat) := []
deriving Inhabited

namespace PageTreeBuilder

/-- The position of the area named `name` (by its lowercase form), created if missing. -/
def area (t : PageTreeBuilder) (name : String) : PageTreeBuilder × Nat :=
  let r := locate (groupKey name) { name } t.areas t.index
  ({ areas := r.1.1, index := r.1.2 }, r.2)

/-- Changes the area at `position` by `f`. -/
def atArea {β : Type} (t : PageTreeBuilder) (position : Nat)
    (f : PageAreaBuilder → Except Panic (PageAreaBuilder × β)) : Except Panic (PageTreeBuilder × β) := do
  let r ← updateAt t.areas position f
  pure ({ t with areas := r.1 }, r.2)

/-- Adds the variants of a page, each a handler and its parameters, to the area `area`, created
if missing. -/
def addPages (t : PageTreeBuilder) (area path : String)
    (variants : List (Option String × List Parameter)) : Except Panic PageTreeBuilder := do
  let r := t.area area
  let r ← r.1.atArea r.2 (·.addVariants path variants)
  pure r.1

/-- The tree without its indexes. -/
def view (t : PageTreeBuilder) : PageTree := ⟨t.areas.map PageAreaBuilder.view⟩

/-- The finished family: areas without pages dropped. -/
def build (t : PageTreeBuilder) : List PageArea := t.areas.filterMap PageAreaBuilder.build

end PageTreeBuilder

end TypedUrls.Descriptor
