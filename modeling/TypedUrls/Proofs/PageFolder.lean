import Mathlib
import TypedUrls.Proofs.Grouping

/-!
# Folders of pages — reaching a folder, and the shape the builder keeps

A page area is a tree of folders. A page is added below a folder through the segments of its
path: each segment finds the folder inside with the same lowercase name, the first one, or makes
a fresh one at the end; the page goes into the last folder reached unless a page with its key is
there already.

`reach` walks the same segments without making anything, so it names the folder a call targets.
`HasPage` says that a page lies somewhere below a folder, and `WellFormed` is the shape every
folder the builder makes has: each folder's path is its parent's joined to its name, siblings
have distinct lowercase names, and no folder is empty.

The folder chain is made before the duplicate check, so a refused page could leave empty folders
behind. It does not: a duplicate key means the folder was reached, so the whole chain was there
(`addPage_fst_of_snd_false`). A kept page lands in the folder its segments reach
(`reach_addPage_of_snd`), which is why every folder the chain makes holds a page
(`wellFormed_addPage`). Whether a page is kept is read off the folder it targets
(`addPage_snd_iff`).
-/

namespace TypedUrls.Descriptor

namespace Folder

/-- The folder reached from this one through `segments`, each matched, by its lowercase form,
against the folders inside, the first match taken. -/
def reach : List String → Folder → Option Folder
  | [], f => some f
  | s :: rest, f => (f.folders.find? fun g => groupKey g.name = groupKey s).bind (reach rest)

/-- A page lies in this folder or somewhere below it. -/
inductive HasPage : Folder → Prop where
  | here {n p : String} {fs : List Folder} {ps : List Page} {page : Page}
      (mem : page ∈ ps) : HasPage (.mk n p fs ps)
  | within {n p : String} {fs : List Folder} {ps : List Page} {f : Folder}
      (mem : f ∈ fs) (has : HasPage f) : HasPage (.mk n p fs ps)

/-- The shape the builder keeps below a folder: each folder's path is its parent's path joined
to its name, each holds a page somewhere, and siblings have distinct lowercase names. -/
inductive WellFormed : Folder → Prop where
  | mk {n p : String} {fs : List Folder} {ps : List Page}
      (paths : ∀ f ∈ fs, f.path = childPath p f.name)
      (pages : ∀ f ∈ fs, f.HasPage)
      (distinct : fs.Pairwise fun f g => groupKey f.name ≠ groupKey g.name)
      (children : ∀ f ∈ fs, f.WellFormed) : WellFormed (.mk n p fs ps)

theorem reach_cons (s : String) (rest : List String) (f : Folder) :
    f.reach (s :: rest) =
      (f.folders.find? fun g => groupKey g.name = groupKey s).bind (reach rest) := rfl

/-- Below a folder with nothing in it, no page is reached. -/
theorem pages_of_reach_empty {n p : String} {segs : List String} {g : Folder}
    (h : (Folder.mk n p [] []).reach segs = some g) : g.pages = [] := by
  cases segs with
  | nil =>
    cases h
    rfl
  | cons s rest => simp [reach, folders] at h

theorem hasPage_of_reach {segs : List String} {f g : Folder} (h : f.reach segs = some g)
    (hg : g.HasPage) : f.HasPage := by
  induction segs generalizing f with
  | nil =>
    cases h
    exact hg
  | cons s rest ih =>
    obtain ⟨x, hx, hreach⟩ := Option.bind_eq_some_iff.mp h
    obtain ⟨n, p, fs, ps⟩ := f
    exact HasPage.within (List.mem_of_find?_eq_some hx) (ih hreach)

theorem not_hasPage_empty (n p : String) : ¬ (Folder.mk n p [] []).HasPage := by
  rintro (⟨hmem⟩ | ⟨hmem, _⟩) <;> cases hmem

theorem wellFormed_empty (n p : String) : (Folder.mk n p [] []).WellFormed :=
  .mk (by simp) (by simp) List.Pairwise.nil (by simp)

/-- Under a well-formed folder, holding a page is having pages or folders. -/
theorem hasPage_iff_of_wellFormed {n p : String} {fs : List Folder} {ps : List Page}
    (hw : (Folder.mk n p fs ps).WellFormed) :
    (Folder.mk n p fs ps).HasPage ↔ ¬ (ps.isEmpty ∧ fs.isEmpty) := by
  constructor
  · rintro (⟨hmem⟩ | ⟨hmem, _⟩) ⟨hps, hfs⟩
    · rw [List.isEmpty_iff.mp hps] at hmem
      cases hmem
    · rw [List.isEmpty_iff.mp hfs] at hmem
      cases hmem
  · intro hne
    cases hw with
    | mk _ pages _ _ =>
      cases ps with
      | cons page _ => exact HasPage.here List.mem_cons_self
      | nil =>
        cases fs with
        | nil => exact absurd ⟨rfl, rfl⟩ hne
        | cons f _ => exact HasPage.within List.mem_cons_self (pages f List.mem_cons_self)

/-! ### Adding a page below a folder -/

section AddPage
variable (page : Page)

theorem addPage_cons (s : String) (rest : List String) (n p : String) (fs : List Folder)
    (ps : List Page) :
    (Folder.mk n p fs ps).addPage (s :: rest) page =
      (.mk n p (upsert (groupKey ·.name) (groupKey s) (.mk s (childPath p s) [] [])
          (addPage rest page) fs).1 ps,
        (upsert (groupKey ·.name) (groupKey s) (.mk s (childPath p s) [] [])
          (addPage rest page) fs).2) := rfl

/-- Adding a page keeps a folder's name and path. -/
@[simp] theorem name_addPage (segs : List String) (f : Folder) :
    (f.addPage segs page).1.name = f.name := by
  obtain ⟨n, p, fs, ps⟩ := f
  cases segs with
  | nil =>
    simp only [addPage, insert]
    split <;> rfl
  | cons s rest => rfl

@[simp] theorem path_addPage (segs : List String) (f : Folder) :
    (f.addPage segs page).1.path = f.path := by
  obtain ⟨n, p, fs, ps⟩ := f
  cases segs with
  | nil =>
    simp only [addPage, insert]
    split <;> rfl
  | cons s rest => rfl

/-- A page is kept exactly when no page with its key is in the folder its segments reach. -/
theorem addPage_snd_iff (segs : List String) (f : Folder) :
    (f.addPage segs page).2 = true ↔
      ∀ g, f.reach segs = some g → ∀ q ∈ g.pages, q.key ≠ page.key := by
  induction segs generalizing f with
  | nil =>
    obtain ⟨n, p, fs, ps⟩ := f
    simp only [addPage, insert, reach, Option.some.injEq, forall_eq', pages]
    split
    · next hany =>
      obtain ⟨q, hq, hkey⟩ := List.any_eq_true.mp hany
      simp only [Bool.false_eq_true, false_iff, not_forall, not_not]
      exact ⟨q, hq, beq_iff_eq.mp hkey⟩
    · next hany =>
      simp only [true_iff]
      intro q hq hkey
      exact hany (List.any_eq_true.mpr ⟨q, hq, beq_iff_eq.mpr hkey⟩)
  | cons s rest ih =>
    obtain ⟨n, p, fs, ps⟩ := f
    rw [addPage_cons, upsert_snd, reach_cons]
    cases hx : fs.find? fun g => groupKey g.name = groupKey s with
    | none =>
      -- a fresh folder is made, and nothing is reached yet
      simp only [folders, hx, Option.getD_none, Option.bind_none, reduceCtorEq, false_implies,
        implies_true, iff_true]
      refine (ih _).mpr fun g hg q hq => ?_
      rw [pages_of_reach_empty hg] at hq
      cases hq
    | some x =>
      simp only [folders, hx, Option.getD_some, Option.bind_some]
      exact ih x

/-- A page added below an empty folder is kept. -/
theorem addPage_empty_snd (segs : List String) (n p : String) :
    ((Folder.mk n p [] []).addPage segs page).2 = true := by
  refine (addPage_snd_iff page segs _).mpr fun g hg q hq => ?_
  rw [pages_of_reach_empty hg] at hq
  cases hq

/-- A page that is not kept leaves the folder as it was: a duplicate key means the whole chain
of folders was already there. -/
theorem addPage_fst_of_snd_false {segs : List String} {f : Folder}
    (h : (f.addPage segs page).2 = false) : (f.addPage segs page).1 = f := by
  induction segs generalizing f with
  | nil =>
    obtain ⟨n, p, fs, ps⟩ := f
    simp only [addPage, insert] at h ⊢
    split at h
    · next hany => rw [if_pos hany]
    · cases h
  | cons s rest ih =>
    obtain ⟨n, p, fs, ps⟩ := f
    rw [addPage_cons] at h ⊢
    rw [upsert_snd] at h
    cases hx : fs.find? fun g => groupKey g.name = groupKey s with
    | none =>
      rw [hx, Option.getD_none, addPage_empty_snd] at h
      cases h
    | some x =>
      rw [hx, Option.getD_some] at h
      rw [upsert_fst_of_find? _ _ _ _ hx (ih h)]

/-- A kept page lands in the folder its segments reach. -/
theorem reach_addPage_of_snd {segs : List String} {f : Folder}
    (h : (f.addPage segs page).2 = true) :
    ∃ g, (f.addPage segs page).1.reach segs = some g ∧ page ∈ g.pages := by
  induction segs generalizing f with
  | nil =>
    obtain ⟨n, p, fs, ps⟩ := f
    simp only [addPage, insert] at h ⊢
    split at h
    · cases h
    · next hany =>
      rw [if_neg hany]
      exact ⟨_, rfl, List.mem_append_right ps List.mem_cons_self⟩
  | cons s rest ih =>
    obtain ⟨n, p, fs, ps⟩ := f
    rw [addPage_cons] at h ⊢
    rw [upsert_snd] at h
    have hfind := find?_upsert_fst (fun x : Folder => groupKey x.name) (groupKey s)
      (.mk s (childPath p s) [] []) (addPage rest page) (fun a => by rw [name_addPage]) rfl fs
    rw [reach_cons, folders, hfind, Option.bind_some]
    exact ih h

theorem hasPage_addPage_of_snd {segs : List String} {f : Folder}
    (h : (f.addPage segs page).2 = true) : (f.addPage segs page).1.HasPage := by
  obtain ⟨⟨n, p, fs, ps⟩, hg, hmem⟩ := reach_addPage_of_snd page h
  exact hasPage_of_reach hg (HasPage.here hmem)

/-- Adding a page never takes one away. -/
theorem hasPage_addPage {segs : List String} {f : Folder} (hf : f.HasPage) :
    (f.addPage segs page).1.HasPage := by
  cases h : (f.addPage segs page).2 with
  | false =>
    rw [addPage_fst_of_snd_false page h]
    exact hf
  | true => exact hasPage_addPage_of_snd page h

/-- Adding a page keeps a folder well formed: a folder the chain creates gets its path from its
parent and a lowercase name no sibling has, and it holds the page. -/
theorem wellFormed_addPage {segs : List String} {f : Folder} (hf : f.WellFormed) :
    (f.addPage segs page).1.WellFormed := by
  induction segs generalizing f with
  | nil =>
    cases hf with
    | mk paths pages distinct children =>
      -- the page goes into this folder; the folders inside stay as they are
      simp only [addPage, insert]
      split
      · exact .mk paths pages distinct children
      · exact .mk paths pages distinct children
  | cons s rest ih =>
    cases hf with
    | mk paths pages distinct children =>
      rename_i n p fs ps
      rw [addPage_cons]
      have hfresh : (Folder.mk s (childPath p s) [] []).WellFormed := wellFormed_empty _ _
      -- each folder after the change is an old one of another name, or the changed one
      have hmem : ∀ y ∈ (upsert (fun x : Folder => groupKey x.name) (groupKey s)
          (.mk s (childPath p s) [] []) (addPage rest page) fs).1,
          y ∈ fs ∨ ∃ x, (x ∈ fs ∨ x = .mk s (childPath p s) [] []) ∧
            y = (x.addPage rest page).1 := by
        intro y hy
        rcases mem_upsert_fst (fun x : Folder => groupKey x.name) (groupKey s)
          (.mk s (childPath p s) [] []) (addPage rest page) distinct hy with
          ⟨hy, _⟩ | ⟨x, hx, rfl, _⟩
        · exact .inl hy
        · rcases hx with ⟨hx, _⟩ | ⟨rfl, _⟩
          · exact .inr ⟨x, .inl hx, rfl⟩
          · exact .inr ⟨_, .inr rfl, rfl⟩
      refine .mk ?_ ?_ ?_ ?_
      · intro y hy
        rcases hmem y hy with hy | ⟨x, hx | rfl, rfl⟩
        · exact paths y hy
        · rw [path_addPage, name_addPage]
          exact paths x hx
        · rw [path_addPage, name_addPage]
          rfl
      · intro y hy
        rcases hmem y hy with hy | ⟨x, hx | rfl, rfl⟩
        · exact pages y hy
        · exact hasPage_addPage page (pages x hx)
        · exact hasPage_addPage_of_snd page (addPage_empty_snd page rest _ _)
      · exact pairwise_upsert_fst (fun x : Folder => groupKey x.name) (groupKey s)
          (.mk s (childPath p s) [] []) (addPage rest page) (fun a => by rw [name_addPage]) rfl
          distinct
      · intro y hy
        rcases hmem y hy with hy | ⟨x, hx | rfl, rfl⟩
        · exact children y hy
        · exact ih (children x hx)
        · exact ih hfresh

end AddPage

end Folder

end TypedUrls.Descriptor
