import TypedUrls.Proofs.Grouping
import TypedUrls.Descriptor.Builder

/-!
# Builders with indexes against the list builders

The builders of `Descriptor.Builder` find an area, a container or a folder through an index of
positions, and refuse an endpoint or a page through a set of keys. This module proves that they
build what the list builders of `Descriptor.Tree` build, and that none of their reads through a
position ever fails.

Everything rests on one invariant of an index, `IndexFinds`: the index answers, for each key, the
position the search of the list by key finds, and nothing for a key the list lacks. It holds of
an empty builder, a change in place that keeps keys keeps it (`IndexFinds.set`), and so does a
push at the end of an element with a new key (`IndexFinds.push`). Under it, the get-or-create
through the index followed by a change at the position found is the list builder's get-or-create
(`updateAt_locate`), one lemma used at every level: areas, containers and folders. The sets of
keys are consistent when they hold the keys of the endpoints or pages kept, and then the key test
is the list builder's search (`ContainerBuilder.addEndpoint_view`, `FolderNode.insert_view`).

The refinement is stated through `view`, which forgets the indexes: each builder call is `.ok`,
its view is the list builder's answer on the view, and the builder stays consistent. The
finished families are then those of the views (`ControllerTreeBuilder.build_eq_view`,
`PageTreeBuilder.build_eq_view`).
-/

namespace TypedUrls.Descriptor

variable {α β : Type}

section UpsertAt
variable (key : α → String) (k : String) (fresh : α)

/-- `upsert` changes the element at the position the first search by key finds. -/
theorem upsert_of_findIdx? (f : α → α × β) {xs : List α} {p : Nat}
    (h : xs.findIdx? (fun x => key x == k) = some p) (hp : p < xs.length) :
    upsert key k fresh f xs = (xs.set p (f xs[p]).1, (f xs[p]).2) := by
  induction xs generalizing p with
  | nil => cases hp
  | cons x xs ih =>
    rw [List.findIdx?_cons] at h
    rw [upsert_cons]
    by_cases hx : key x = k
    · have hp0 : p = 0 := by simpa [hx] using h.symm
      subst hp0
      rw [if_pos hx]
      rfl
    · rw [if_neg (by simpa using hx), Option.map_eq_some_iff] at h
      obtain ⟨q, hq, rfl⟩ := h
      rw [if_neg hx, ih hq (by simpa using hp)]
      rfl

/-- Two changes of the element grouped under one key are one change, when the first keeps the
key. -/
theorem upsert_upsert (f : α → α × β) {γ : Type} (g : α → α × γ)
    (hkey : ∀ a, key (f a).1 = key a) (hfresh : key fresh = k) (xs : List α) :
    upsert key k fresh g (upsert key k fresh f xs).1 =
      upsert key k fresh (fun a => g (f a).1) xs := by
  induction xs with
  | nil => rw [upsert_nil, upsert_nil, upsert_cons, if_pos ((hkey fresh).trans hfresh)]
  | cons x xs ih =>
    rw [upsert_cons, upsert_cons]
    by_cases hx : key x = k
    · rw [if_pos hx, if_pos hx, upsert_cons, if_pos ((hkey x).trans hx)]
    · rw [if_neg hx, if_neg hx, upsert_cons, if_neg hx, ih]
end UpsertAt

section Index
variable (key : α → String)

/-- The index of a builder's list finds each element by its key: a key maps to the position of
the first element with that key, and a key of no element is missing. -/
def IndexFinds (xs : List α) (index : List (String × Nat)) : Prop :=
  ∀ k, index.lookup k = xs.findIdx? (fun x => key x == k)

theorem indexFinds_nil : IndexFinds key [] [] := fun _ => rfl

variable {key}

/-- Changing an element without changing its key leaves every search by key as it is. -/
theorem findIdx?_set_of_key_eq {xs : List α} {p : Nat} {y : α} (hp : p < xs.length)
    (hy : key y = key xs[p]) (k : String) :
    (xs.set p y).findIdx? (fun x => key x == k) = xs.findIdx? (fun x => key x == k) := by
  induction xs generalizing p with
  | nil => cases hp
  | cons x xs ih =>
    cases p with
    | zero => simp only [List.set_cons_zero, List.findIdx?_cons, hy]; rfl
    | succ q =>
      simp only [List.set_cons_succ, List.findIdx?_cons]
      rw [ih (by simpa using hp) hy]

theorem IndexFinds.set {xs : List α} {index : List (String × Nat)} (h : IndexFinds key xs index)
    {p : Nat} {y : α} (hp : p < xs.length) (hy : key y = key xs[p]) :
    IndexFinds key (xs.set p y) index :=
  fun k => (h k).trans (findIdx?_set_of_key_eq hp hy k).symm

theorem IndexFinds.push {xs : List α} {index : List (String × Nat)} (h : IndexFinds key xs index)
    {y : α} (hnew : ∀ x ∈ xs, key x ≠ key y) :
    IndexFinds key (xs ++ [y]) ((key y, xs.length) :: index) := by
  intro k
  rw [Text.lookup_cons_pair, List.findIdx?_append, ← h k, List.findIdx?_singleton]
  by_cases hk : k = key y
  · subst hk
    have hnone : index.lookup (key y) = none := by
      rw [h, List.findIdx?_eq_none_iff]
      intro x hx
      simpa using hnew x hx
    simp [hnone]
  · have hne : (key y == k) = false := beq_false_of_ne (Ne.symm hk)
    simp [hk, hne]

end Index

section Locate
variable {α' : Type}

/-- A get-or-create through a consistent index, followed by a change through the position it
gives, does on the views what the list builder's get-or-create does, and keeps the index
consistent. -/
theorem updateAt_locate (v : α → α') (key : α → String) (key' : α' → String)
    (hkey : ∀ x, key' (v x) = key x)
    (k : String) (fresh : α) (f : α → Except Panic (α × β)) (g : α' → α' × β)
    {Inv : α → Prop}
    {xs : List α} {index : List (String × Nat)}
    (hidx : IndexFinds key xs index) (hinv : ∀ x ∈ xs, Inv x)
    (hfresh : key fresh = k) (hfreshInv : Inv fresh)
    (hf : ∀ x, Inv x →
      ∃ y, f x = .ok (y, (g (v x)).2) ∧ v y = (g (v x)).1 ∧ key y = key x ∧ Inv y) :
    ∃ ys, updateAt (locate k fresh xs index).1.1 (locate k fresh xs index).2 f =
        .ok (ys, (upsert key' k (v fresh) g (xs.map v)).2) ∧
      ys.map v = (upsert key' k (v fresh) g (xs.map v)).1 ∧
      IndexFinds key ys (locate k fresh xs index).1.2 ∧ ∀ y ∈ ys, Inv y := by
  have hsearch :
      (xs.map v).findIdx? (fun x => key' x == k) = xs.findIdx? (fun x => key x == k) := by
    rw [List.findIdx?_map]
    simp only [Function.comp_def, hkey]
  cases hlook : index.lookup k with
  | some p =>
    -- the index has the key: the element at its position is changed in place
    have hfound : xs.findIdx? (fun x => key x == k) = some p := (hidx k).symm.trans hlook
    obtain ⟨hp, -, -⟩ := List.findIdx?_eq_some_iff_getElem.mp hfound
    obtain ⟨y, hfy, hvy, hky, hiy⟩ := hf xs[p] (hinv _ (List.getElem_mem hp))
    have hloc : locate k fresh xs index = ((xs, index), p) := by rw [locate, hlook]
    have hup := upsert_of_findIdx? key' k (v fresh) g (hsearch.trans hfound) (by simpa using hp)
    simp only [List.getElem_map] at hup
    refine ⟨xs.set p y, ?_, ?_, ?_, ?_⟩
    · rw [hloc, updateAt_of_lt hp hfy, hup]
    · rw [hup, List.map_set, hvy]
    · rw [hloc]
      exact hidx.set hp hky
    · intro z hz
      rcases List.mem_or_eq_of_mem_set hz with hz | rfl
      · exact hinv z hz
      · exact hiy
  | none =>
    -- the index has no such key: the fresh element is pushed, changed, and indexed
    have hnone : ∀ x ∈ xs, key x ≠ k := by
      have := (hidx k).symm.trans hlook
      rw [List.findIdx?_eq_none_iff] at this
      intro x hx hxk
      simpa [hxk] using this x hx
    obtain ⟨y, hfy, hvy, hky, hiy⟩ := hf fresh hfreshInv
    have hloc : locate k fresh xs index =
        ((xs ++ [fresh], (k, xs.length) :: index), xs.length) := by
      rw [locate, hlook]
      simp
    have hvnone : ∀ z ∈ xs.map v, key' z ≠ k := by
      intro z hz
      obtain ⟨x, hx, rfl⟩ := List.mem_map.mp hz
      rw [hkey]
      exact hnone x hx
    have hup := upsert_of_forall_ne key' k (v fresh) g hvnone
    refine ⟨xs ++ [y], ?_, ?_, ?_, ?_⟩
    · have hp : xs.length < (xs ++ [fresh]).length := by simp
      have hfy' : f (xs ++ [fresh])[xs.length] = .ok (y, (g (v fresh)).2) := by
        rw [List.getElem_concat_length rfl]
        exact hfy
      have hset : (xs ++ [fresh]).set xs.length y = xs ++ [y] := by simp
      rw [hloc, updateAt_of_lt hp hfy', hset, hup]
    · rw [hup, List.map_append, List.map_singleton, hvy]
    · rw [hloc, ← hfresh, ← hky]
      exact hidx.push fun x hx => hky ▸ hfresh ▸ hnone x hx
    · intro z hz
      rcases List.mem_append.mp hz with hz | hz
      · exact hinv z hz
      · rw [List.mem_singleton.mp hz]
        exact hiy

end Locate

/-! ## Sets of keys -/

section Keys
variable {γ κ : Type} (keyOf : γ → κ) {keys : List κ} {es : List γ}

/-- A set of keys that holds the keys of a list answers the search of the list by key. -/
theorem contains_eq_any_of_keys [BEq κ] [LawfulBEq κ]
    (h : ∀ k, k ∈ keys ↔ ∃ e ∈ es, keyOf e = k) (k : κ) :
    keys.contains k = es.any (keyOf · == k) := by
  rw [Bool.eq_iff_iff, List.contains_iff_mem, h, List.any_eq_true]
  simp

/-- Recording the key of an element pushed at the end keeps the set the keys of the list. -/
theorem keys_push (h : ∀ k, k ∈ keys ↔ ∃ e ∈ es, keyOf e = k) (e : γ) (k : κ) :
    k ∈ keyOf e :: keys ↔ ∃ x ∈ es ++ [e], keyOf x = k := by
  simp only [List.mem_cons, h k, List.mem_append, List.not_mem_nil, or_false]
  constructor
  · rintro (rfl | ⟨x, hx, rfl⟩)
    · exact ⟨e, .inr rfl, rfl⟩
    · exact ⟨x, .inl hx, rfl⟩
  · rintro ⟨x, hx | rfl, rfl⟩
    · exact .inr ⟨x, hx, rfl⟩
    · exact .inl rfl

end Keys

/-! ## The endpoint family -/

/-- Endpoints added one after the other to a container of the list builder. -/
def Container.addEndpoints (c : Container) (endpoints : List (String × List Parameter)) :
    Container :=
  endpoints.foldl (fun c e => (c.addEndpoint e.1 e.2).1) c

/-- Endpoints added to one container of an area of the list builder, created if missing. -/
def Area.addEndpoints (a : Area) (container : String)
    (endpoints : List (String × List Parameter)) : Area × Unit :=
  a.updateContainer container fun c => (c.addEndpoints endpoints, ())

namespace ContainerBuilder

/-- The keys of a container are the keys of its endpoints. -/
def Consistent (c : ContainerBuilder) : Prop :=
  ∀ key, key ∈ c.keys ↔ ∃ e ∈ c.endpoints, e.key = key

theorem consistent_fresh (name area : String) : ({ name, area } : ContainerBuilder).Consistent := by
  simp [Consistent]

/-- Adding an endpoint through the keys adds it as the list builder does. -/
theorem addEndpoint_view {c : ContainerBuilder} (hc : c.Consistent) (name : String)
    (parameters : List Parameter) :
    (c.addEndpoint name parameters).1.view = (c.view.addEndpoint name parameters).1 ∧
      (c.addEndpoint name parameters).2 = (c.view.addEndpoint name parameters).2 ∧
      (c.addEndpoint name parameters).1.name = c.name ∧
      (c.addEndpoint name parameters).1.Consistent := by
  have hendpoints : c.view.endpoints = c.endpoints := rfl
  unfold addEndpoint Container.addEndpoint
  dsimp only
  rw [contains_eq_any_of_keys Endpoint.key hc, hendpoints]
  split
  · exact ⟨rfl, rfl, rfl, hc⟩
  · exact ⟨rfl, rfl, rfl, keys_push Endpoint.key hc ⟨name, c.name, parameters⟩⟩

/-- Endpoints added one after the other through the keys are added as the list builder adds
them. -/
theorem addEndpoints_view {c : ContainerBuilder} (hc : c.Consistent)
    (endpoints : List (String × List Parameter)) :
    (c.addEndpoints endpoints).view = c.view.addEndpoints endpoints ∧
      (c.addEndpoints endpoints).name = c.name ∧ (c.addEndpoints endpoints).Consistent := by
  induction endpoints generalizing c with
  | nil => exact ⟨rfl, rfl, hc⟩
  | cons e rest ih =>
    obtain ⟨hview, -, hname, hcons⟩ := addEndpoint_view hc e.1 e.2
    obtain ⟨hview', hname', hcons'⟩ := ih hcons
    refine ⟨hview'.trans ?_, hname'.trans hname, hcons'⟩
    rw [hview]
    rfl

end ContainerBuilder

/-- An area's index finds its containers, whose keys are those of their endpoints. -/
def AreaBuilder.Consistent (a : AreaBuilder) : Prop :=
  IndexFinds (groupKey ·.name) a.containers a.index ∧ ∀ c ∈ a.containers, c.Consistent

/-- The tree's index finds its areas, which are consistent. -/
def ControllerTreeBuilder.Consistent (t : ControllerTreeBuilder) : Prop :=
  IndexFinds (groupKey ·.name) t.areas t.index ∧ ∀ a ∈ t.areas, a.Consistent

theorem ControllerTreeBuilder.consistent_empty : ({} : ControllerTreeBuilder).Consistent :=
  ⟨indexFinds_nil _, by simp⟩

/-- Adding endpoints to a container through the area's index does what the list builder does. -/
theorem AreaBuilder.addEndpoints_view {a : AreaBuilder} (ha : a.Consistent) (container : String)
    (endpoints : List (String × List Parameter)) :
    ∃ a', a.addEndpoints container endpoints = .ok (a', ()) ∧
      a'.view = (a.view.addEndpoints container endpoints).1 ∧ a'.name = a.name ∧
      a'.Consistent := by
  obtain ⟨cs, hcs, hview, hidx, hinv⟩ := updateAt_locate ContainerBuilder.view
    (groupKey ·.name) (groupKey ·.name) (fun _ => rfl) (groupKey container)
    { name := container, area := a.name }
    (fun c => pure (c.addEndpoints endpoints, ())) (fun c => (c.addEndpoints endpoints, ()))
    ha.1 ha.2 rfl (ContainerBuilder.consistent_fresh container a.name) (by
      intro c hc
      obtain ⟨hview, hname, hcons⟩ := ContainerBuilder.addEndpoints_view hc endpoints
      exact ⟨_, rfl, hview, by rw [hname], hcons⟩)
  refine ⟨⟨a.name, cs, _⟩, ?_, ?_, rfl, hidx, hinv⟩
  · simp only [AreaBuilder.addEndpoints, AreaBuilder.container, AreaBuilder.atContainer, hcs]
    rfl
  · simp only [AreaBuilder.view, hview, Area.addEndpoints, Area.updateContainer]
    rfl

/-- Adding the endpoints of a container through the indexes does what the list builder does when
the container is changed once by adding them all. -/
theorem ControllerTreeBuilder.addEndpoints_view {t : ControllerTreeBuilder} (ht : t.Consistent)
    (area container : String) (endpoints : List (String × List Parameter)) :
    ∃ t', t.addEndpoints area container endpoints = .ok t' ∧ t'.Consistent ∧
      t'.view = (t.view.updateArea area (·.addEndpoints container endpoints)).1 := by
  obtain ⟨as, has, hview, hidx, hinv⟩ := updateAt_locate AreaBuilder.view (groupKey ·.name)
    (groupKey ·.name) (fun _ => rfl) (groupKey area) { name := area }
    (·.addEndpoints container endpoints) (·.addEndpoints container endpoints) ht.1 ht.2 rfl
    ⟨indexFinds_nil _, by simp⟩ (by
      intro a ha
      obtain ⟨a', ha', hview, hname, hcons⟩ :=
        AreaBuilder.addEndpoints_view ha container endpoints
      exact ⟨a', ha', hview, by rw [hname], hcons⟩)
  refine ⟨⟨as, _⟩, ?_, ⟨hidx, hinv⟩, ?_⟩
  · simp only [addEndpoints, ControllerTreeBuilder.area, atArea, has]
    rfl
  · simp only [view, hview, EndpointTree.updateArea]
    rfl


/-! ## The page family -/

namespace FolderNode

/-- A folder's index finds its folders, its keys are the keys of its pages, and its folders are
consistent too. -/
inductive Consistent : FolderNode → Prop
  | intro {n : FolderNode} (folders : IndexFinds (groupKey ·.name) n.folders n.folderIndex)
      (pages : ∀ key, key ∈ n.pageKeys ↔ ∃ p ∈ n.pages, p.key = key)
      (nested : ∀ f ∈ n.folders, Consistent f) : Consistent n

theorem toFolder_eq (n : FolderNode) :
    n.toFolder = .mk n.name n.path (n.folders.map toFolder) n.pages := by
  cases n
  rw [toFolder]

@[simp] theorem name_toFolder (n : FolderNode) : n.toFolder.name = n.name := by
  rw [toFolder_eq]
  rfl

theorem consistent_fresh (name path : String) : ({ name, path } : FolderNode).Consistent :=
  .intro (indexFinds_nil _) (by simp) (by simp)

/-- Adding a page to a folder through its keys adds it as the list builder does. -/
theorem insert_view {n : FolderNode} (hn : n.Consistent) (page : Page) :
    (n.insert page).1.toFolder = (n.toFolder.insert page).1 ∧
      (n.insert page).2 = (n.toFolder.insert page).2 ∧
      (n.insert page).1.name = n.name ∧ (n.insert page).1.Consistent := by
  obtain ⟨hidx, hkeys, hnested⟩ := hn
  have hcontains := contains_eq_any_of_keys Page.key hkeys page.key
  by_cases hdup : n.pages.any (·.key == page.key)
  · -- a page with that key is there: both builders keep the folder as it is
    have hnode : n.insert page = (n, false) := by rw [insert, hcontains, if_pos hdup]
    have hlist : n.toFolder.insert page = (n.toFolder, false) := by
      rw [toFolder_eq]
      simp [Folder.insert, hdup]
    rw [hnode, hlist]
    exact ⟨rfl, rfl, rfl, .intro hidx hkeys hnested⟩
  · have hnode : n.insert page =
        ({ n with pages := n.pages ++ [page], pageKeys := page.key :: n.pageKeys }, true) := by
      rw [insert, hcontains, if_neg hdup]
    have hlist : n.toFolder.insert page =
        (.mk n.name n.path (n.folders.map toFolder) (n.pages ++ [page]), true) := by
      rw [toFolder_eq]
      simp [Folder.insert, hdup]
    rw [hnode, hlist, toFolder_eq]
    exact ⟨rfl, rfl, rfl, .intro hidx (keys_push Page.key hkeys page) hnested⟩

/-- Adding a page through the folder indexes does what the list builder does, folder by folder
along the segments. -/
theorem addPage_view (page : Page) (segments : List String) {n : FolderNode} (hn : n.Consistent) :
    ∃ n', n.addPage page segments = .ok (n', (n.toFolder.addPage segments page).2) ∧
      n'.toFolder = (n.toFolder.addPage segments page).1 ∧ n'.name = n.name ∧
      n'.Consistent := by
  induction segments generalizing n with
  | nil =>
    obtain ⟨hview, hkept, hname, hcons⟩ := insert_view hn page
    exact ⟨_, by rw [addPage, Folder.addPage, ← hkept]; rfl, hview, hname, hcons⟩
  | cons segment rest ih =>
    obtain ⟨hidx, hkeys, hnested⟩ := hn
    obtain ⟨fs, hfs, hview, hidx', hnested'⟩ := updateAt_locate toFolder (groupKey ·.name)
      (groupKey ·.name) (fun x => by rw [name_toFolder]) (groupKey segment)
      { name := segment, path := childPath n.path segment } (addPage page rest)
      (Folder.addPage rest page) hidx hnested rfl (consistent_fresh _ _) (by
        intro f hf
        obtain ⟨f', hf', hview, hname, hcons⟩ := ih hf
        exact ⟨f', hf', hview, by rw [hname], hcons⟩)
    refine ⟨{ n with folders := fs, folderIndex := _ }, ?_, ?_, rfl,
      .intro hidx' hkeys hnested'⟩
    · simp only [addPage, folder, atFolder, hfs, toFolder_eq, Folder.addPage]
      rfl
    · simp only [toFolder_eq, hview, Folder.addPage]
      rfl

end FolderNode

/-- The variants of a page added one after the other to an area of the list builder. -/
def PageAreaDraft.addVariants (a : PageAreaDraft) (path : String)
    (variants : List (Option String × List Parameter)) : PageAreaDraft × Unit :=
  (variants.foldl (fun a v => (a.addPage path v.1 v.2).1) a, ())

namespace PageAreaBuilder

/-- Adding a page through the folder indexes does what the list builder does. -/
theorem addPage_view {a : PageAreaBuilder} (ha : a.root.Consistent) (path : String)
    (handler : Option String) (parameters : List Parameter) :
    ∃ a', a.addPage path handler parameters =
        .ok (a', (a.view.addPage path handler parameters).2) ∧
      a'.view = (a.view.addPage path handler parameters).1 ∧ a'.name = a.name ∧
      a'.root.Consistent := by
  unfold addPage PageAreaDraft.addPage
  dsimp only
  cases (pathSegments path).getLast? with
  | none => exact ⟨a, rfl, rfl, rfl, ha⟩
  | some last =>
    obtain ⟨r, hr, hview, -, hcons⟩ := a.root.addPage_view
      ⟨"/" ++ "/".intercalate (pathSegments path), last, handler, parameters⟩
      (pathSegments path).dropLast ha
    refine ⟨{ a with root := r }, ?_, ?_, rfl, hcons⟩
    · simp only [hr, view]
      rfl
    · simp only [view, hview]

/-- The pages of variants added one after the other through the indexes, against the fold of the
list builder: each call is `.ok` and the folders stay consistent. -/
theorem foldlM_addPage_view (path : String) (variants : List (Option String × List Parameter))
    {a : PageAreaBuilder} (ha : a.root.Consistent) :
    ∃ a', variants.foldlM (fun a v => (do
          let r ← a.addPage path v.1 v.2
          pure r.1)) a = .ok a' ∧
      a'.view = variants.foldl (fun a v => (a.addPage path v.1 v.2).1) a.view ∧
      a'.name = a.name ∧ a'.root.Consistent := by
  induction variants generalizing a with
  | nil => exact ⟨a, rfl, rfl, rfl, ha⟩
  | cons v rest ih =>
    obtain ⟨b, hb, hview, hname, hcons⟩ := addPage_view ha path v.1 v.2
    obtain ⟨c, hc, hview', hname', hcons'⟩ := ih hcons
    refine ⟨c, ?_, ?_, hname'.trans hname, hcons'⟩
    · rw [List.foldlM_cons, hb]
      exact hc
    · rw [List.foldl_cons, hview', hview]

/-- The variants of a page added one after the other through the indexes are added as the list
builder adds them. -/
theorem addVariants_view {a : PageAreaBuilder} (ha : a.root.Consistent) (path : String)
    (variants : List (Option String × List Parameter)) :
    ∃ a', a.addVariants path variants = .ok (a', ()) ∧
      a'.view = (a.view.addVariants path variants).1 ∧ a'.name = a.name ∧
      a'.root.Consistent := by
  obtain ⟨a', ha', hview, hname, hcons⟩ := foldlM_addPage_view path variants ha
  refine ⟨a', ?_, hview, hname, hcons⟩
  simp only [addVariants, ha']
  rfl

end PageAreaBuilder

/-- A fresh area is the list builder's fresh area. -/
theorem PageAreaBuilder.view_fresh (name : String) :
    ({ name } : PageAreaBuilder).view = { name } := by
  simp only [PageAreaBuilder.view, FolderNode.toFolder_eq, List.map_nil]

/-- The tree's index finds its areas, whose folders are consistent. -/
def PageTreeBuilder.Consistent (t : PageTreeBuilder) : Prop :=
  IndexFinds (groupKey ·.name) t.areas t.index ∧ ∀ a ∈ t.areas, a.root.Consistent

theorem PageTreeBuilder.consistent_empty : ({} : PageTreeBuilder).Consistent :=
  ⟨indexFinds_nil _, by simp⟩

/-- Adding the variants of a page through the indexes does what the list builder does when the
area is changed once by adding them all. -/
theorem PageTreeBuilder.addPages_view {t : PageTreeBuilder} (ht : t.Consistent)
    (area path : String) (variants : List (Option String × List Parameter)) :
    ∃ t', t.addPages area path variants = .ok t' ∧ t'.Consistent ∧
      t'.view = (t.view.updateArea area (·.addVariants path variants)).1 := by
  obtain ⟨as, has, hview, hidx, hinv⟩ := updateAt_locate PageAreaBuilder.view (groupKey ·.name)
    (groupKey ·.name) (fun _ => rfl) (groupKey area) { name := area }
    (·.addVariants path variants) (·.addVariants path variants) ht.1 ht.2 rfl
    (FolderNode.consistent_fresh _ _) (by
      intro a ha
      obtain ⟨a', ha', hview, hname, hcons⟩ := PageAreaBuilder.addVariants_view ha path variants
      exact ⟨a', ha', hview, by rw [hname], hcons⟩)
  refine ⟨⟨as, _⟩, ?_, ⟨hidx, hinv⟩, ?_⟩
  · simp only [addPages, PageTreeBuilder.area, atArea, has]
    rfl
  · simp only [view, hview, PageTree.updateArea, PageAreaBuilder.view_fresh]

/-! ## Finishing -/

theorem ContainerBuilder.filterMap_build (cs : List ContainerBuilder) :
    cs.filterMap build = (cs.map view).filter (!·.endpoints.isEmpty) := by
  induction cs with
  | nil => rfl
  | cons c cs ih =>
    rw [List.filterMap_cons, List.map_cons, List.filter_cons, ih]
    by_cases h : c.endpoints.isEmpty <;> simp [build, view, h]

/-- The finished endpoint family is the list builder's finished family of the views. -/
theorem ControllerTreeBuilder.build_eq_view (t : ControllerTreeBuilder) :
    t.build = t.view.build := by
  rw [build, view, EndpointTree.build, List.filterMap_map]
  congr 1
  funext a
  have hcs : a.view.containers.filter (!·.endpoints.isEmpty) =
      a.containers.filterMap ContainerBuilder.build :=
    (ContainerBuilder.filterMap_build a.containers).symm
  simp only [Function.comp_apply, AreaBuilder.build, hcs]
  cases a.containers.filterMap ContainerBuilder.build <;> rfl

/-- The finished page family is the list builder's finished family of the views. -/
theorem PageTreeBuilder.build_eq_view (t : PageTreeBuilder) : t.build = t.view.build := by
  rw [build, view, PageTree.build, List.filterMap_map]
  congr 1
  funext a
  simp [PageAreaBuilder.build, PageAreaBuilder.view, FolderNode.toFolder_eq, Folder.pages,
    Folder.folders, Folder.path]

end TypedUrls.Descriptor
