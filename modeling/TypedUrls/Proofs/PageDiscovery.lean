import Mathlib
import TypedUrls.Discovery.Pages
import TypedUrls.Proofs.PageTree

/-!
# Page discovery — the calls it makes on the page tree builder

Discovery reads the templates in order. A template counts when its text has a page marker line
and its path lies below a pages root; it then touches its area and adds its page once per
handler of its page model, or once with no handler when there is none. This module states that
walk without its bookkeeping: the calls a template makes are `templateOps`, the warnings it gives
`templateWarnings`, and `pages_eq_build_templateOps` says that the report is the tree these calls
build, with those warnings.

It also says what the calls carry. The page path of a located template is the folders after the
pages root and the file's stem, each after a `/`; split again on `/` by the builder, it gives
those segments back (`pathSegments_join`), so the page keeps the path as its name and the stem
as its segment (`addPage_location`). The parameters of every variant are the route template's, then the new
ones of the page model's bound properties, then the new ones of the handler
(`merge_eq_append_fresh`): a name met before wins.
-/

namespace TypedUrls.Text

/-! ## Pieces between separators -/

section Pieces
variable (p : Char → Bool)

/-- A run without separators only grows the current piece. -/
theorem piecesFrom_of_forall {cs : List Char} (h : ∀ c ∈ cs, p c = false) (acc : List Char) :
    piecesFrom p cs acc = [acc.reverse ++ cs] := by
  induction cs generalizing acc with
  | nil => simp [piecesFrom]
  | cons c cs ih =>
    have hc : ¬ p c = true := by simp [h c List.mem_cons_self]
    rw [piecesFrom, if_neg hc, ih fun d hd => h d (List.mem_cons_of_mem c hd)]
    simp

/-- A separator ends the current piece. -/
theorem piecesFrom_append_sep {cs : List Char} (h : ∀ c ∈ cs, p c = false) {d : Char}
    (hd : p d = true) (rest acc : List Char) :
    piecesFrom p (cs ++ d :: rest) acc = (acc.reverse ++ cs) :: piecesFrom p rest [] := by
  induction cs generalizing acc with
  | nil => simp [piecesFrom, hd]
  | cons c cs ih =>
    have hc : ¬ p c = true := by simp [h c List.mem_cons_self]
    rw [List.cons_append, piecesFrom, if_neg hc, ih fun e he => h e (List.mem_cons_of_mem c he)]
    simp

/-- No piece holds a separator. -/
theorem forall_mem_piecesFrom {cs acc : List Char} (hacc : ∀ c ∈ acc, p c = false) :
    ∀ piece ∈ piecesFrom p cs acc, ∀ c ∈ piece, p c = false := by
  induction cs generalizing acc with
  | nil =>
    intro piece hpiece
    rw [piecesFrom, List.mem_singleton] at hpiece
    subst hpiece
    simpa using hacc
  | cons c cs ih =>
    rw [piecesFrom]
    split
    · intro piece hpiece
      rcases List.mem_cons.mp hpiece with rfl | hpiece
      · simpa using hacc
      · exact ih (by simp) piece hpiece
    · next hc =>
      refine ih fun e he => ?_
      rcases List.mem_cons.mp he with rfl | he
      · simpa using hc
      · exact hacc e he

/-- Pieces written each after a separator come back, after the piece before the first
separator. -/
theorem piecesFrom_append_flatMap {d : Char} (hd : p d = true) (segs : List (List Char))
    (hsegs : ∀ t ∈ segs, ∀ c ∈ t, p c = false) {s : List Char} (hs : ∀ c ∈ s, p c = false) :
    piecesFrom p (s ++ segs.flatMap (d :: ·)) [] = s :: segs := by
  induction segs generalizing s with
  | nil => simp [piecesFrom_of_forall p hs]
  | cons t segs ih =>
    rw [List.flatMap_cons, List.cons_append, piecesFrom_append_sep p hs hd,
      ih (fun u hu => hsegs u (List.mem_cons_of_mem t hu)) (hsegs t List.mem_cons_self)]
    simp

end Pieces

end TypedUrls.Text

namespace TypedUrls.Descriptor

/-- Segments written each after a `/`, none of them empty or holding a `/`, are the segments of
the path they make. -/
theorem pathSegments_join {segs : List String} (h : ∀ s ∈ segs, s ≠ "" ∧ '/' ∉ s.toList) :
    pathSegments (String.join (segs.map ("/" ++ ·))) = segs := by
  have hchars : (String.join (segs.map ("/" ++ ·))).toList =
      [] ++ (segs.map String.toList).flatMap ('/' :: ·) := by
    simp [String.toList_join, List.flatMap_map]
  have hnone : ∀ t ∈ segs.map String.toList, ∀ c ∈ t, decide (c = '/') = false := by
    intro t ht c hc
    obtain ⟨s, hs, rfl⟩ := List.mem_map.mp ht
    exact decide_eq_false fun hc' => (h s hs).2 (hc' ▸ hc)
  have hkeep : ∀ s ∈ segs, (!s.isEmpty) = true := by
    intro s hs
    simpa [String.isEmpty_iff] using (h s hs).1
  rw [pathSegments, Text.pieces, hchars,
    Text.piecesFrom_append_flatMap _ (by decide) _ hnone (by simp)]
  simp [Function.comp_def, List.filter_eq_self.mpr hkeep]

/-- A path of segments, each after a `/`, is the `/`-join of its segments after a `/`. -/
theorem join_eq_slash_intercalate {segs : List String} (h : segs ≠ []) :
    String.join (segs.map ("/" ++ ·)) = "/" ++ "/".intercalate segs := by
  rw [String.ext_iff]
  induction segs with
  | nil => exact absurd rfl h
  | cons s rest ih =>
    cases rest with
    | nil => simp
    | cons t rest =>
      have ih' := ih (List.cons_ne_nil t rest)
      simp only [String.toList_join, String.toList_append, String.toList_intercalate,
        List.map_cons, List.flatMap_cons] at ih' ⊢
      rw [ih', List.intercalate_cons_cons]
      simp

/-- Adding a page at a path of segments `folders ++ [stem]`, written back as the path itself,
files the page named by the path, with the segment `stem`, below `folders`. -/
theorem PageAreaDraft.addPage_of_pathSegments (d : PageAreaDraft) {path stem : String}
    {folders : List String} (hsegs : pathSegments path = folders ++ [stem])
    (hjoin : "/" ++ "/".intercalate (folders ++ [stem]) = path) (handler : Option String)
    (ps : List Parameter) :
    d.addPage path handler ps =
      ({ d with root := (d.root.addPage folders ⟨path, stem, handler, ps⟩).1 },
        (d.root.addPage folders ⟨path, stem, handler, ps⟩).2) := by
  simp only [PageAreaDraft.addPage, hsegs, List.getLast?_concat, List.dropLast_concat, hjoin]

end TypedUrls.Descriptor

namespace TypedUrls.Page

/-! ## Where a template's page lives -/

theorem mem_pathSegments {path s : String} (hs : s ∈ Template.pathSegments path) :
    s ≠ "" ∧ '/' ∉ s.toList := by
  obtain ⟨hs, hne⟩ := List.mem_filter.mp hs
  obtain ⟨piece, hpiece, rfl⟩ := List.mem_map.mp hs
  refine ⟨by simpa [String.isEmpty_iff] using hne, fun hslash => ?_⟩
  have hsep := Text.forall_mem_piecesFrom _ (by simp) piece hpiece '/'
    (by simpa using hslash)
  simp at hsep

theorem mem_of_mem_belowRoot {segs : List String} {root : Option String} {s : String}
    (hs : s ∈ belowRoot segs root) : s ∈ segs := by
  cases root with
  | none => exact hs
  | some r =>
    simp only [belowRoot] at hs
    split at hs
    · exact List.mem_of_mem_drop hs
    · exact hs

/-- Making a path relative to the project root keeps its last segment. -/
theorem getLast?_belowRoot (segs : List String) (root : Option String) :
    (belowRoot segs root).getLast? = segs.getLast? := by
  cases root with
  | none => rfl
  | some r =>
    simp only [belowRoot]
    split
    · next h => rw [List.getLast?_drop, if_neg (by omega)]
    · rfl

/-- A stem is a nonempty start of the file name. -/
theorem stem?_eq_some {fileName extension stem : String}
    (h : stem? fileName extension = some stem) :
    stem ≠ "" ∧ ∀ c ∈ stem.toList, c ∈ fileName.toList := by
  simp only [stem?] at h
  split at h
  · cases h
  · split at h
    · next pre tail hsplit =>
      split at h
      · next hcond =>
        cases h
        have hkeep := (Text.splitAtByte?_append hsplit).1
        refine ⟨fun hnil => ?_, fun c hc => ?_⟩
        · have hpre : pre = [] := by simpa using congrArg String.toList hnil
          simp [hpre] at hcond
        · rw [← hkeep]
          exact List.mem_append_left _ (by simpa using hc)
      · cases h
    · cases h

/-- The page path of a located template: its folders after the pages root, then the stem of its
file name, each after a `/`; none of them is empty or holds a `/`. -/
theorem location_eq_some {path : String} {conventions : PageConventions} {area page : String}
    (h : location path conventions = some (area, page)) :
    ∃ folders stem fileName,
      (Template.pathSegments path).getLast? = some fileName ∧
      stem? fileName conventions.templateExtension = some stem ∧
      (∀ s ∈ folders ++ [stem], s ≠ "" ∧ '/' ∉ s.toList) ∧
      page = String.join ((folders ++ [stem]).map ("/" ++ ·)) := by
  simp only [location, Option.bind_eq_bind, Option.bind_eq_some_iff, Option.pure_def,
    Option.some.injEq, Prod.mk.injEq] at h
  obtain ⟨pagesAt, -, fileName, hlast, stem, hstem, -, hpage⟩ := h
  have hfile : (Template.pathSegments path).getLast? = some fileName := by
    rw [List.getLast?_drop] at hlast
    split at hlast
    · cases hlast
    · rwa [getLast?_belowRoot] at hlast
  have hsegment : ∀ s ∈ belowRoot (Template.pathSegments path) conventions.projectRoot,
      s ≠ "" ∧ '/' ∉ s.toList :=
    fun s hs => mem_pathSegments (mem_of_mem_belowRoot hs)
  refine ⟨_, stem, fileName, hfile, hstem, ?_, hpage.symm⟩
  intro s hs
  rcases List.mem_append.mp hs with hs | hs
  · exact hsegment s (List.mem_of_mem_drop (List.mem_of_mem_dropLast hs))
  · rw [List.mem_singleton] at hs
    subst hs
    obtain ⟨hne, hchars⟩ := stem?_eq_some hstem
    have hname := hsegment fileName
      (List.mem_of_mem_drop (List.mem_of_getLast? hlast))
    exact ⟨hne, fun hslash => hname.2 (hchars '/' hslash)⟩

end TypedUrls.Page

namespace TypedUrls.Discovery

open Descriptor

/-! ## What a template contributes -/

/-- The page model a template names, resolved as source names are. -/
def pageModel (c : Classifier) (text : String) : Option TypeDecl :=
  (modelName c.config.pages text).bind c.model.resolveByName

/-- The parameters the bound properties of a page model give. -/
def boundParameters (c : Classifier) (pm : TypeDecl) : List Parameter :=
  (c.model.propertiesOf pm.fullName).filterMap (modelParameter c)

/-- The parameters every variant of a page has: the route template's, then the bound properties'
of its page model. -/
def sharedParameters (c : Classifier) (text route : String) : List Parameter :=
  match pageModel c text with
  | some pm => merge (Route.parameters c.config.routeConstraints route) (boundParameters c pm)
  | none => Route.parameters c.config.routeConstraints route

/-- The variants of a page, each a handler name and the handler's parameters: one per page
handler of the page model, or a single one with no handler and no parameters. -/
def handlerVariants (c : Classifier) (text : String) : List (Option String × List Parameter) :=
  match (pageModel c text).map fun pm => (pageHandlers c pm.fullName).1 with
  | none | some [] => [(none, [])]
  | some hs => hs

/-- The calls a template makes on the page tree builder: when it is a page below a pages root,
it touches its area, then adds its page once per variant. -/
def templateOps (c : Classifier) (f : Template) : List PageTree.Op :=
  match routeTemplate c.config.pages f.text, Page.location f.path c.config.pages with
  | some route, some (area, page) =>
    .area area :: (handlerVariants c f.text).map fun v =>
      .add area page v.1 (merge (sharedParameters c f.text route) v.2)
  | _, _ => []

/-- The warnings a template gives: those of the methods of its page model that could not be
classified, in declaration order. -/
def templateWarnings (c : Classifier) (f : Template) : List GenerationError :=
  match routeTemplate c.config.pages f.text, Page.location f.path c.config.pages,
      pageModel c f.text with
  | some _, some _, some pm => (pageHandlers c pm.fullName).2.reverse
  | _, _, _ => []

/-! ## Merged parameters -/

/-- What tells merged parameters apart: the name with its ASCII letters lowered. -/
def nameKey (p : Parameter) : List Char := p.name.toList.map Text.asciiLower

/-- The parameters of `extra` that a merge into `ps` appends: those whose names are not in
`ps`, the first of each name. -/
def fresh (ps extra : List Parameter) : List Parameter :=
  firstBy nameKey (extra.filter fun q => ps.all fun p => nameKey p ≠ nameKey q)

theorem any_eqIgnoreAsciiCase_iff (ps : List Parameter) (q : Parameter) :
    ps.any (Text.eqIgnoreAsciiCase ·.name q.name) = true ↔ ∃ p ∈ ps, nameKey p = nameKey q := by
  simp [Text.eqIgnoreAsciiCase, nameKey]

/-- A name is met in a merge exactly when the first list has it or the second has it as a new
name. -/
theorem any_append_fresh_iff (ps extra : List Parameter) (q : Parameter) :
    (ps ++ fresh ps extra).any (Text.eqIgnoreAsciiCase ·.name q.name) = true ↔
      (∃ p ∈ ps, nameKey p = nameKey q) ∨
        ∃ y ∈ extra.filter (fun q => ps.all fun p => nameKey p ≠ nameKey q), nameKey y = nameKey q := by
  rw [any_eqIgnoreAsciiCase_iff, fresh]
  simp only [List.mem_append, or_and_right, exists_or]
  rw [exists_mem_firstBy]

/-- A merge keeps the first list as it is and appends the new names of the second, the first
parameter of each name: an earlier source wins. -/
theorem merge_eq_append_fresh (ps extra : List Parameter) : merge ps extra = ps ++ fresh ps extra := by
  induction extra using List.reverseRecOn with
  | nil => simp [merge, fresh]
  | append_singleton extra q ih =>
    have hmerge : merge ps (extra ++ [q]) =
        if (merge ps extra).any (Text.eqIgnoreAsciiCase ·.name q.name) then merge ps extra
        else merge ps extra ++ [q] := by
      simp [merge, List.foldl_append]
    have hfresh : fresh ps (extra ++ [q]) =
        firstBy nameKey (extra.filter (fun q => ps.all fun p => nameKey p ≠ nameKey q) ++
          [q].filter fun q => ps.all fun p => nameKey p ≠ nameKey q) := by
      rw [fresh, List.filter_append]
    rw [hmerge, ih, hfresh]
    have hany := any_append_fresh_iff ps extra q
    by_cases hps : ∃ p ∈ ps, nameKey p = nameKey q
    · -- a name of the first list: neither side takes `q`
      have hq : (ps.all fun p => nameKey p ≠ nameKey q) = false := by simpa using hps
      rw [if_pos (hany.mpr (.inl hps)), List.filter_singleton, hq, cond_false, List.append_nil,
        fresh]
    · have hq : (ps.all fun p => nameKey p ≠ nameKey q) = true := by simpa using hps
      rw [List.filter_singleton, hq, cond_true, firstBy_append_singleton]
      by_cases hseen : ∃ y ∈ extra.filter (fun q => ps.all fun p => nameKey p ≠ nameKey q),
          nameKey y = nameKey q
      · -- an earlier parameter of the second list has the name
        rw [if_pos (hany.mpr (.inr hseen)), if_pos hseen, fresh]
      · have hnew : ¬ (ps ++ fresh ps extra).any (Text.eqIgnoreAsciiCase ·.name q.name) = true :=
          fun h => (hany.mp h).elim hps hseen
        rw [if_neg hnew, if_neg hseen, fresh, List.append_assoc]

/-! ## The walk over the templates -/

section Walk
variable (c : Classifier)

theorem foldl_addPage_variants (t : PageTree) (area page : String) (shared : List Parameter)
    (vs : List (Option String × List Parameter)) :
    vs.foldl (fun t v => (t.addPage area page v.1 (merge shared v.2)).1) t =
      (vs.map fun v => PageTree.Op.add area page v.1 (merge shared v.2)).foldl
        (fun t op => (t.step op).1) t := by
  induction vs generalizing t with
  | nil => rfl
  | cons v vs ih => exact ih _

/-- One template, as `addTemplate` handles it: its calls are made on the tree, and its warnings
come before those met so far (the list is kept last first). -/
theorem addTemplate_replay (pre : List PageTree.Op) (ws : List GenerationError) (f : Template) :
    addTemplate c (PageTree.replay pre, ws) f =
      (PageTree.replay (pre ++ templateOps c f), (templateWarnings c f).reverse ++ ws) := by
  have hreplay : ∀ ops, PageTree.replay (pre ++ ops) =
      ops.foldl (fun t op => (t.step op).1) (PageTree.replay pre) := by
    intro ops
    simp [PageTree.replay, List.foldl_append]
  have hmodel : (modelName c.config.pages f.text).bind c.model.resolveByName = pageModel c f.text :=
    rfl
  unfold addTemplate templateOps templateWarnings
  cases hr : routeTemplate c.config.pages f.text with
  | none => simp
  | some route =>
    cases hl : Page.location f.path c.config.pages with
    | none => simp
    | some loc =>
      obtain ⟨area, page⟩ := loc
      have harea : ((PageTree.replay pre).step (.area area)).1 = (PageTree.replay pre).withArea area :=
        rfl
      simp only [hmodel, hreplay, List.foldl_cons, harea]
      -- the page model gives the bound parameters, the handlers and the warnings
      cases hpm : pageModel c f.text with
      | none =>
        simp [handlerVariants, sharedParameters, hpm, PageTree.step, merge]
      | some pm =>
        cases hhs : (pageHandlers c pm.fullName).1 with
        | nil =>
          simp [handlerVariants, sharedParameters, hpm, hhs, PageTree.step, merge, boundParameters]
        | cons v vs =>
          simp only [handlerVariants, sharedParameters, hpm, hhs, Option.map_some]
          rw [← foldl_addPage_variants]
          simp [boundParameters]

/-- The walk over the templates makes the calls of each template in order. -/
theorem foldl_addTemplate (templates : List Template) :
    templates.foldl (addTemplate c) ({}, []) =
      (PageTree.replay (templates.flatMap (templateOps c)),
        (templates.flatMap (templateWarnings c)).reverse) := by
  induction templates using List.reverseRecOn with
  | nil => rfl
  | append_singleton templates f ih =>
    rw [List.foldl_append, ih, List.foldl_cons, List.foldl_nil, addTemplate_replay]
    simp

end Walk

/-! ## The page family -/

section Family
variable (c : Classifier)

/-- The parameters every variant of a page has: the route template's, unchanged and in order,
then those of the page model's bound properties whose names are new. -/
theorem sharedParameters_eq (text route : String) :
    sharedParameters c text route =
      Route.parameters c.config.routeConstraints route ++
        ((pageModel c text).map fun pm =>
          fresh (Route.parameters c.config.routeConstraints route) (boundParameters c pm)).getD [] := by
  unfold sharedParameters
  cases pageModel c text with
  | none => simp
  | some pm => simp [merge_eq_append_fresh]

/-- The page a located template adds is named by its page path and has the stem of its file
name as its segment; it is filed below the folders between the pages root and the file. -/
theorem addPage_location {path : String} {conventions : PageConventions}
    {area page : String} (h : Page.location path conventions = some (area, page)) :
    ∃ folders stem fileName,
      (Template.pathSegments path).getLast? = some fileName ∧
      Page.stem? fileName conventions.templateExtension = some stem ∧
      ∀ (d : PageAreaDraft) handler ps, d.addPage page handler ps =
        ({ d with root := (d.root.addPage folders ⟨page, stem, handler, ps⟩).1 },
          (d.root.addPage folders ⟨page, stem, handler, ps⟩).2) := by
  obtain ⟨folders, stem, fileName, hlast, hstem, hsegs, rfl⟩ := Page.location_eq_some h
  have hjoin : "/" ++ "/".intercalate (folders ++ [stem]) =
      String.join ((folders ++ [stem]).map ("/" ++ ·)) :=
    (join_eq_slash_intercalate (by simp)).symm
  exact ⟨folders, stem, fileName, hlast, hstem, fun d handler ps =>
    d.addPage_of_pathSegments (pathSegments_join hsegs) hjoin handler ps⟩

/-- Page discovery builds the tree of its calls, template by template. A template that is not a
page, or lies below no pages root, makes none. Any other touches its area, then adds its page
once per variant: once per handler of its page model, or once with no handler. The page path
is the folders after the pages root and the stem of the file name, so the builder files the
page below those folders, names it by the path itself and gives it the stem as its segment. The
parameters of every variant are the route template's, unchanged and in order, then the new
names of the page model's bound properties, then the new names of the handler's parameters.
The warnings are those of the page models' methods that could not be classified, in order. -/
theorem pages_eq_build_templateOps (templates : List Template) :
    pages c templates =
        ⟨(PageTree.replay (templates.flatMap (templateOps c))).build,
          templates.flatMap (templateWarnings c)⟩ ∧
      ∀ f : Template,
        ((routeTemplate c.config.pages f.text).isNone ∨
            (Page.location f.path c.config.pages).isNone → templateOps c f = []) ∧
        ∀ route area page,
          routeTemplate c.config.pages f.text = some route →
          Page.location f.path c.config.pages = some (area, page) →
          (∃ folders stem fileName,
            (Template.pathSegments f.path).getLast? = some fileName ∧
            Page.stem? fileName c.config.pages.templateExtension = some stem ∧
            ∀ (d : PageAreaDraft) handler ps, d.addPage page handler ps =
              ({ d with root := (d.root.addPage folders ⟨page, stem, handler, ps⟩).1 },
                (d.root.addPage folders ⟨page, stem, handler, ps⟩).2)) ∧
          sharedParameters c f.text route =
            Route.parameters c.config.routeConstraints route ++
              ((pageModel c f.text).map fun pm =>
                fresh (Route.parameters c.config.routeConstraints route)
                  (boundParameters c pm)).getD [] ∧
          templateOps c f = .area area :: (handlerVariants c f.text).map fun v =>
            .add area page v.1
              (sharedParameters c f.text route ++ fresh (sharedParameters c f.text route) v.2) := by
  refine ⟨?_, fun f => ⟨fun hnone => ?_, fun route area page hroute hloc =>
    ⟨addPage_location hloc, sharedParameters_eq c f.text route, ?_⟩⟩⟩
  · simp only [pages, foldl_addTemplate, List.reverse_reverse]
  · unfold templateOps
    rcases hnone with hnone | hnone
    · rw [Option.isNone_iff_eq_none.mp hnone]
    · rw [Option.isNone_iff_eq_none.mp hnone]
      cases routeTemplate c.config.pages f.text <;> rfl
  · simp [templateOps, hroute, hloc, merge_eq_append_fresh]

end Family

end TypedUrls.Discovery
