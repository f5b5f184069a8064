import Mathlib
import TypedUrls.Proofs.PageFolder

/-!
# The page tree builder — what a sequence of calls builds

Page discovery fills the page family through two calls on a builder: get an area, and add a
page to an area at a path, with a handler and parameters. Areas are grouped by their lowercase
names and keep the first spelling. `Op` names the two calls, `replay` runs a sequence of them
from an empty builder, and `kept` reads back what each add call answered.

Every call is a change of the one area it is addressed to (`step_eq_updateArea`), so each fact
about the areas is a run lemma over the sequence from its end, with the get-or-create lemmas of
`Grouping` at each step: the areas keep the first spellings in order (`names_replay`), every
root is a well-formed folder at `/` (`roots_replay`), and an area holds a page exactly when a
call addressed to it kept one (`hasPage_replay_iff`). Freezing the tree drops the areas that
hold nothing, and `build_replay_wellFormed` says what is left.
-/

namespace TypedUrls.Descriptor

/-- A finished area seen as its top folder. -/
def PageArea.top (A : PageArea) : Folder := .mk "" A.path A.folders A.pages

/-! ## Areas of pages -/

namespace PageAreaDraft

variable (a : PageAreaDraft) (path : String) (handler : Option String) (ps : List Parameter)

/-- What adding a page to an area can do: refuse a path without segments, or add the page,
named by all the segments and keyed by the last, below the root through the others. -/
theorem addPage_cases :
    (pathSegments path = [] ∧ a.addPage path handler ps = (a, false)) ∨
      ∃ last, (pathSegments path).getLast? = some last ∧
        a.addPage path handler ps =
          ({ a with root := (a.root.addPage (pathSegments path).dropLast
              ⟨"/" ++ "/".intercalate (pathSegments path), last, handler, ps⟩).1 },
            (a.root.addPage (pathSegments path).dropLast
              ⟨"/" ++ "/".intercalate (pathSegments path), last, handler, ps⟩).2) := by
  cases h : (pathSegments path).getLast? with
  | none => exact .inl ⟨List.getLast?_eq_none_iff.mp h, by simp [addPage, h]⟩
  | some last => exact .inr ⟨last, rfl, by simp [addPage, h]⟩

@[simp] theorem name_addPage : (a.addPage path handler ps).1.name = a.name := by
  rcases addPage_cases a path handler ps with ⟨_, h⟩ | ⟨last, _, h⟩ <;> rw [h]

theorem root_name_addPage : (a.addPage path handler ps).1.root.name = a.root.name := by
  rcases addPage_cases a path handler ps with ⟨_, h⟩ | ⟨last, _, h⟩ <;> simp [h]

theorem root_path_addPage : (a.addPage path handler ps).1.root.path = a.root.path := by
  rcases addPage_cases a path handler ps with ⟨_, h⟩ | ⟨last, _, h⟩ <;> simp [h]

theorem wellFormed_addPage (hw : a.root.WellFormed) :
    (a.addPage path handler ps).1.root.WellFormed := by
  rcases addPage_cases a path handler ps with ⟨_, h⟩ | ⟨last, _, h⟩
  · rw [h]
    exact hw
  · rw [h]
    exact Folder.wellFormed_addPage _ hw

/-- A page that is not kept leaves the area as it was. -/
theorem addPage_fst_of_snd_false (h : (a.addPage path handler ps).2 = false) :
    (a.addPage path handler ps).1 = a := by
  rcases addPage_cases a path handler ps with ⟨_, h'⟩ | ⟨last, _, h'⟩
  · rw [h']
  · rw [h'] at h ⊢
    rw [Folder.addPage_fst_of_snd_false _ h]

/-- An area holds a page after a call exactly when it held one before or the call kept one. -/
theorem hasPage_addPage_iff :
    (a.addPage path handler ps).1.root.HasPage ↔
      a.root.HasPage ∨ (a.addPage path handler ps).2 = true := by
  cases hkept : (a.addPage path handler ps).2 with
  | false =>
    rw [addPage_fst_of_snd_false a path handler ps hkept]
    simp
  | true =>
    rcases addPage_cases a path handler ps with ⟨_, h⟩ | ⟨last, _, h⟩
    · rw [h] at hkept
      cases hkept
    · rw [h] at hkept ⊢
      simp only [or_true, iff_true]
      exact Folder.hasPage_addPage_of_snd _ hkept

/-- A call is kept exactly when its path has a segment and its key is new in the folder it
targets. -/
theorem addPage_snd_iff :
    (a.addPage path handler ps).2 = true ↔
      pathSegments path ≠ [] ∧
        ∀ g, a.root.reach (pathSegments path).dropLast = some g →
          ∀ q ∈ g.pages,
            q.key ≠ ("/" ++ "/".intercalate (pathSegments path), handler, signature ps) := by
  rcases addPage_cases a path handler ps with ⟨hnil, h⟩ | ⟨last, hlast, h⟩
  · simp [h, hnil]
  · have hne : pathSegments path ≠ [] := fun hnil => by simp [hnil] at hlast
    rw [h, Folder.addPage_snd_iff]
    simp only [ne_eq, hne, not_false_eq_true, true_and]
    rfl

end PageAreaDraft

/-! ## The page tree builder -/

namespace PageTree

/-- A call on the page tree builder: touch an area, or add a page to it. -/
inductive Op where
  | area (area : String)
  | add (area path : String) (handler : Option String) (parameters : List Parameter)

namespace Op

/-- The area a call is addressed to. -/
def areaName : Op → String
  | .area a => a
  | .add a _ _ _ => a

/-- What a call does to the area it is addressed to, and whether it kept a page. -/
def apply : Op → PageAreaDraft → PageAreaDraft × Bool
  | .area _, d => (d, false)
  | .add _ path handler ps, d => d.addPage path handler ps

end Op

/-- Runs one call on a tree; the flag says whether the call kept a page. -/
def step (t : PageTree) : Op → PageTree × Bool
  | .area a => (t.withArea a, false)
  | .add a path handler ps => t.addPage a path handler ps

/-- The tree a sequence of calls builds, from an empty builder. -/
def replay (ops : List Op) : PageTree := ops.foldl (fun t op => (t.step op).1) {}

/-- Whether call `i` of a sequence kept a page. -/
def kept (ops : List Op) (i : Nat) : Bool :=
  match ops[i]? with
  | some op => ((replay (ops.take i)).step op).2
  | none => false

/-- The first spelling of each area a sequence of calls addresses, by lowercase name. -/
def areaNames (ops : List Op) : List String := firstBy groupKey (ops.map Op.areaName)

/-- The folder an area's segments reach from its root, when the area and the folders exist. -/
def target (t : PageTree) (area : String) (segments : List String) : Option Folder :=
  (t.area? area).bind (·.root.reach segments)

/-- Every call is a change of the area it is addressed to. -/
theorem step_eq_updateArea (t : PageTree) (op : Op) :
    t.step op = t.updateArea op.areaName op.apply := by
  cases op with
  | area a =>
    have hfst := upsert_fst_congr (groupKey ·.name) (groupKey a) ({ name := a } : PageAreaDraft)
      (fun d => (d, ())) (fun d => (d, false)) t.areas rfl
    simp only [step, withArea, updateArea, Op.areaName, hfst, upsert_snd]
    rfl
  | add a path handler ps => rfl

section Apply
variable (op : Op) (d : PageAreaDraft)

@[simp] theorem name_apply : (op.apply d).1.name = d.name := by
  cases op <;> simp [Op.apply]

theorem root_apply :
    (op.apply d).1.root.name = d.root.name ∧ (op.apply d).1.root.path = d.root.path := by
  cases op with
  | area a => exact ⟨rfl, rfl⟩
  | add a path handler ps =>
    exact ⟨PageAreaDraft.root_name_addPage .., PageAreaDraft.root_path_addPage ..⟩

theorem wellFormed_apply (hw : d.root.WellFormed) : (op.apply d).1.root.WellFormed := by
  cases op with
  | area a => exact hw
  | add a path handler ps => exact PageAreaDraft.wellFormed_addPage _ _ _ _ hw

theorem hasPage_apply_iff :
    (op.apply d).1.root.HasPage ↔ d.root.HasPage ∨ (op.apply d).2 = true := by
  cases op with
  | area a => simp [Op.apply]
  | add a path handler ps => exact PageAreaDraft.hasPage_addPage_iff ..

end Apply

/-! ### What a sequence of calls builds -/

section Replay
variable (ops : List Op)

theorem replay_append (op : Op) : replay (ops ++ [op]) = ((replay ops).step op).1 := by
  simp [replay, List.foldl_append]

theorem step_snd (t : PageTree) (op : Op) :
    (t.step op).2 = (upsert (groupKey ·.name) (groupKey op.areaName) { name := op.areaName }
      op.apply t.areas).2 := by
  rw [step_eq_updateArea]
  rfl

theorem exists_area_iff {t : PageTree} (h : t.areas.map (·.name) = areaNames ops) (k : String) :
    (∃ d ∈ t.areas, groupKey d.name = k) ↔ ∃ y ∈ ops.map Op.areaName, groupKey y = k := by
  have hnames : (∃ d ∈ t.areas, groupKey d.name = k) ↔
      ∃ y ∈ t.areas.map (·.name), groupKey y = k := by
    simp
  rw [hnames, h, areaNames, exists_mem_firstBy]

/-- The areas are named by the first spelling of each area the calls address, in order. -/
theorem names_replay : (replay ops).areas.map (·.name) = areaNames ops := by
  induction ops using List.reverseRecOn with
  | nil => rfl
  | append_singleton ops op ih =>
    rw [replay_append, step_eq_updateArea]
    have hmap := map_upsert_fst (groupKey ·.name) (groupKey op.areaName) { name := op.areaName }
      op.apply (·.name) (name_apply op) (replay ops).areas
    rw [updateArea, hmap, areaNames, List.map_append, List.map_singleton,
      firstBy_append_singleton, ← areaNames, ← ih]
    simp only [exists_area_iff ops ih]

theorem pairwise_replay :
    (replay ops).areas.Pairwise fun a b => groupKey a.name ≠ groupKey b.name := by
  have h := pairwise_firstBy groupKey (ops.map Op.areaName)
  rw [← areaNames, ← names_replay, List.pairwise_map] at h
  exact h

/-- Every area's root is a well-formed folder named `""` at `/`. -/
theorem roots_replay :
    ∀ d ∈ (replay ops).areas, d.root.name = "" ∧ d.root.path = "/" ∧ d.root.WellFormed := by
  induction ops using List.reverseRecOn with
  | nil =>
    intro d hd
    cases hd
  | append_singleton ops op ih =>
    intro d hd
    rw [replay_append, step_eq_updateArea] at hd
    rcases mem_upsert_fst (fun x : PageAreaDraft => groupKey x.name) (groupKey op.areaName)
      { name := op.areaName } op.apply (pairwise_replay ops) hd with
        ⟨hd, _⟩ | ⟨x, hx, rfl, _⟩
    · exact ih d hd
    · have hx' : x.root.name = "" ∧ x.root.path = "/" ∧ x.root.WellFormed := by
        rcases hx with ⟨hx, _⟩ | ⟨rfl, _⟩
        · exact ih x hx
        · exact ⟨rfl, rfl, Folder.wellFormed_empty _ _⟩
      obtain ⟨hname, hpath⟩ := root_apply op x
      exact ⟨hname.trans hx'.1, hpath.trans hx'.2.1, wellFormed_apply op x hx'.2.2⟩

theorem kept_append_of_lt (op : Op) {i : Nat} (hi : i < ops.length) :
    kept (ops ++ [op]) i = kept ops i := by
  simp only [kept, List.getElem?_append_left hi, List.take_append_of_le_length hi.le]

theorem kept_append_length (op : Op) :
    kept (ops ++ [op]) ops.length = ((replay ops).step op).2 := by
  simp [kept]

/-- A kept call of a longer sequence is a kept call of the shorter one or the last call. -/
theorem exists_kept_append (op : Op) (P : Op → Prop) :
    (∃ i, ∃ hi : i < (ops ++ [op]).length,
        kept (ops ++ [op]) i = true ∧ P (ops ++ [op])[i]) ↔
      (∃ i, ∃ hi : i < ops.length, kept ops i = true ∧ P ops[i]) ∨
        (((replay ops).step op).2 = true ∧ P op) := by
  constructor
  · rintro ⟨i, hi, hk, hp⟩
    rw [List.length_append, List.length_singleton] at hi
    rcases Nat.lt_succ_iff_lt_or_eq.mp hi with hi | rfl
    · rw [kept_append_of_lt ops op hi] at hk
      rw [List.getElem_append_left hi] at hp
      exact .inl ⟨i, hi, hk, hp⟩
    · rw [kept_append_length] at hk
      simp only [List.getElem_concat_length] at hp
      exact .inr ⟨hk, hp⟩
  · rintro (⟨i, hi, hk, hp⟩ | ⟨hk, hp⟩)
    · refine ⟨i, by simp; omega, ?_, ?_⟩
      · rw [kept_append_of_lt ops op hi]
        exact hk
      · rw [List.getElem_append_left hi]
        exact hp
    · refine ⟨ops.length, by simp, ?_, ?_⟩
      · rw [kept_append_length]
        exact hk
      · simp only [List.getElem_concat_length]
        exact hp

/-- An area holds a page exactly when some call addressed to it was kept. -/
theorem hasPage_replay_iff :
    ∀ d ∈ (replay ops).areas, d.root.HasPage ↔
      ∃ i, ∃ hi : i < ops.length,
        kept ops i = true ∧ groupKey ops[i].areaName = groupKey d.name := by
  induction ops using List.reverseRecOn with
  | nil =>
    intro d hd
    cases hd
  | append_singleton ops op ih =>
    intro d hd
    rw [replay_append, step_eq_updateArea] at hd
    have hkept := exists_kept_append ops op fun o => groupKey o.areaName = groupKey d.name
    rw [hkept, step_snd]
    rcases mem_upsert_fst (fun x : PageAreaDraft => groupKey x.name) (groupKey op.areaName)
      { name := op.areaName } op.apply (pairwise_replay ops) hd with
        ⟨hd, hne⟩ | ⟨x, hx, rfl, hsnd⟩
    · -- an area the call is not addressed to is as it was
      have hne' : groupKey op.areaName ≠ groupKey d.name := fun h => hne h.symm
      rw [ih d hd]
      simp [hne']
    · rw [hsnd, name_apply, hasPage_apply_iff]
      rcases hx with ⟨hx, hk⟩ | ⟨rfl, hnone⟩
      · rw [ih x hx]
        simp [hk]
      · -- a new area: it held no page, and no earlier call was addressed to it
        have hno : ¬ ∃ i, ∃ hi : i < ops.length, kept ops i = true ∧
            groupKey ops[i].areaName = groupKey op.areaName := by
          rintro ⟨i, hi, _, hk⟩
          obtain ⟨d, hd, hdk⟩ := (exists_area_iff ops (names_replay ops) _).mpr
            ⟨ops[i].areaName, List.mem_map_of_mem (List.getElem_mem hi), hk⟩
          exact hnone d hd hdk
        have hempty := Folder.not_hasPage_empty "" "/"
        simp only [hempty, false_or, hno, and_true]

end Replay

/-! ### One call on any tree -/

section Call
variable (t : PageTree) (a path : String) (handler : Option String) (ps : List Parameter)

/-- A call is kept exactly when its path has a segment and its key is new in the folder it
targets; a missing area or folder holds no page yet. -/
theorem addPage_snd_iff :
    (t.addPage a path handler ps).2 = true ↔
      pathSegments path ≠ [] ∧
        ∀ g, t.target a (pathSegments path).dropLast = some g →
          ∀ q ∈ g.pages,
            q.key ≠ ("/" ++ "/".intercalate (pathSegments path), handler, signature ps) := by
  simp only [addPage, updateArea, upsert_snd, target, area?]
  cases hx : t.areas.find? fun d => groupKey d.name = groupKey a with
  | none =>
    -- the area is created with an empty root
    rw [Option.getD_none, PageAreaDraft.addPage_snd_iff]
    refine and_congr_right fun _ => ⟨fun _ g hg => ?_, fun _ g hg q hq => ?_⟩
    · simp at hg
    rw [Folder.pages_of_reach_empty hg] at hq
    cases hq
  | some d =>
    rw [Option.getD_some, PageAreaDraft.addPage_snd_iff, Option.bind_some]

/-- A call that is not kept changes nothing but touching its area. -/
theorem addPage_fst_of_snd_false (h : (t.addPage a path handler ps).2 = false) :
    (t.addPage a path handler ps).1 = t.withArea a := by
  simp only [addPage, updateArea, upsert_snd] at h
  simp only [addPage, withArea, updateArea]
  rw [upsert_fst_congr (fun d : PageAreaDraft => groupKey d.name) (groupKey a) { name := a }
    (·.addPage path handler ps) (fun d => (d, ())) t.areas
    (PageAreaDraft.addPage_fst_of_snd_false _ _ _ _ h)]

end Call

/-! ### The finished tree -/

/-- The finished areas are the areas holding something, each as its name and its root. -/
theorem build_eq (t : PageTree) :
    t.build = (t.areas.filter fun d => !(d.root.pages.isEmpty && d.root.folders.isEmpty)).map
      fun d => ⟨d.name, d.root.path, d.root.folders, d.root.pages⟩ := by
  obtain ⟨areas⟩ := t
  induction areas with
  | nil => rfl
  | cons d ds ih =>
    simp only [build] at ih ⊢
    by_cases hd : d.root.pages.isEmpty = true ∧ d.root.folders.isEmpty = true
    · simp only [List.filterMap_cons, hd, and_self, ↓reduceIte, List.filter_cons, Bool.and_self,
        Bool.not_true, Bool.false_eq_true]
      exact ih
    · have hd' : (!(d.root.pages.isEmpty && d.root.folders.isEmpty)) = true := by
        cases hp : d.root.pages.isEmpty
        · rfl
        · cases hf : d.root.folders.isEmpty
          · rfl
          · exact absurd ⟨hp, hf⟩ hd
      simp only [List.filterMap_cons, hd, ↓reduceIte, List.filter_cons, hd', List.map_cons, ih]

section Finished
variable {ops : List Op}

/-- Every area's root is a folder named `""` at `/`. -/
theorem root_eq_of_mem_replay {d : PageAreaDraft} (hd : d ∈ (replay ops).areas) :
    ∃ fs ps, d.root = .mk "" "/" fs ps := by
  obtain ⟨hname, hpath, _⟩ := roots_replay ops d hd
  cases hr : d.root with
  | mk n p fs ps =>
    rw [hr] at hname hpath
    cases hname
    cases hpath
    exact ⟨fs, ps, rfl⟩

/-- An area is kept at the end exactly when it holds a page. -/
theorem keep_iff_hasPage {d : PageAreaDraft} (hd : d ∈ (replay ops).areas) :
    (!(d.root.pages.isEmpty && d.root.folders.isEmpty)) = true ↔ d.root.HasPage := by
  have hw := (roots_replay ops d hd).2.2
  obtain ⟨fs, ps, hr⟩ := root_eq_of_mem_replay hd
  rw [hr] at hw ⊢
  rw [Folder.hasPage_iff_of_wellFormed hw, Folder.pages, Folder.folders]
  cases ps.isEmpty <;> cases fs.isEmpty <;> decide

theorem mem_build_replay {A : PageArea} (hA : A ∈ (replay ops).build) :
    ∃ d ∈ (replay ops).areas,
      d.root.HasPage ∧ A.name = d.name ∧ A.path = "/" ∧ A.top = d.root := by
  rw [build_eq] at hA
  obtain ⟨d, hd, rfl⟩ := List.mem_map.mp hA
  obtain ⟨hd, hkeep⟩ := List.mem_filter.mp hd
  obtain ⟨fs, ps, hr⟩ := root_eq_of_mem_replay hd
  refine ⟨d, hd, (keep_iff_hasPage hd).mp hkeep, rfl, ?_, ?_⟩
  · rw [hr]
    rfl
  · rw [hr]
    rfl

theorem mem_build_of_hasPage {d : PageAreaDraft} (hd : d ∈ (replay ops).areas)
    (hp : d.root.HasPage) : ∃ A ∈ (replay ops).build, A.name = d.name := by
  rw [build_eq]
  have hkeep := (keep_iff_hasPage hd).mpr hp
  exact ⟨_, List.mem_map_of_mem (List.mem_filter.mpr ⟨hd, hkeep⟩), rfl⟩

end Finished

/-- What any sequence of calls on the page tree builder finishes as. The areas are named by the
first spelling of each lowercase name, in the order of the first calls, and kept exactly when a
call addressed to them kept a page; their lowercase names differ. Each area is a well-formed
folder at `/` holding a page: every folder's path is its parent's joined to its name, siblings
have distinct lowercase names, and every folder holds a page somewhere below it. The next call
is kept exactly when its path has a segment and its key is new in the folder its other
segments reach; when it is not kept, it changes nothing but touching its area. -/
theorem build_replay_wellFormed (ops : List Op) :
    ((replay ops).build.map (·.name)).Sublist (areaNames ops) ∧
    (∀ a ∈ areaNames ops, a ∈ (replay ops).build.map (·.name) ↔
      ∃ i, ∃ hi : i < ops.length, kept ops i = true ∧ groupKey ops[i].areaName = groupKey a) ∧
    (replay ops).build.Pairwise (fun A B => groupKey A.name ≠ groupKey B.name) ∧
    (∀ A ∈ (replay ops).build, A.path = "/" ∧ A.top.HasPage ∧ A.top.WellFormed) ∧
    ∀ a path handler ps,
      (((replay ops).addPage a path handler ps).2 = true ↔
        pathSegments path ≠ [] ∧
          ∀ g, (replay ops).target a (pathSegments path).dropLast = some g →
            ∀ q ∈ g.pages,
              q.key ≠ ("/" ++ "/".intercalate (pathSegments path), handler, signature ps)) ∧
      (((replay ops).addPage a path handler ps).2 = false →
        ((replay ops).addPage a path handler ps).1 = (replay ops).withArea a) := by
  have hnames : (replay ops).build.map (·.name) =
      ((replay ops).areas.filter fun d => !(d.root.pages.isEmpty && d.root.folders.isEmpty)).map
        (·.name) := by
    rw [build_eq, List.map_map]
    rfl
  refine ⟨?_, ?_, ?_, ?_, fun a path handler ps =>
    ⟨addPage_snd_iff (replay ops) a path handler ps,
      addPage_fst_of_snd_false (replay ops) a path handler ps⟩⟩
  · rw [hnames, ← names_replay]
    exact (List.filter_sublist).map _
  · intro a ha
    constructor
    · intro hmem
      obtain ⟨A, hA, rfl⟩ := List.mem_map.mp hmem
      obtain ⟨d, hd, hp, hname, -⟩ := mem_build_replay hA
      rw [hname]
      exact (hasPage_replay_iff ops d hd).mp hp
    · intro hkept
      rw [← names_replay] at ha
      obtain ⟨d, hd, rfl⟩ := List.mem_map.mp ha
      obtain ⟨A, hA, hname⟩ := mem_build_of_hasPage hd ((hasPage_replay_iff ops d hd).mpr hkept)
      exact List.mem_map.mpr ⟨A, hA, hname⟩
  · rw [build_eq, List.pairwise_map]
    exact (pairwise_replay ops).filter _
  · intro A hA
    obtain ⟨d, hd, hp, -, hpath, htop⟩ := mem_build_replay hA
    rw [htop]
    exact ⟨hpath, hp, (roots_replay ops d hd).2.2⟩

example : ((replay [.add "" "/Admin/Users" none [], .add "" "/admin/Roles" none [],
    .add "" "/Admin/Users" none [], .add "b" "/" none []]).build.map fun A =>
      A.folders.map fun f => (f.name, f.path, f.pages.map (·.name))) =
    [[("Admin", "/Admin", ["/Admin/Users", "/admin/Roles"])]] := by decide

end PageTree

end TypedUrls.Descriptor
