import TypedUrls.Proofs.BuilderIndex
import TypedUrls.Proofs.RouteBytes
import TypedUrls.Proofs.EndpointDiscovery
import TypedUrls.Proofs.PageDiscovery

/-!
# The discovery passes as they run, against the list passes

The discovery passes of a run (`Discovery.endpoints?`, `Discovery.pages?`) build their trees
through the builders' indexes, read a template's path by the positions of its segments, and read
a route template over its bytes; each of these reads would stop the pass if it failed. This
module proves that none does: each pass is `.ok` of the pass over the list builders
(`endpoints?_eq`, `pages?_eq`), whose trees are known from `EndpointDiscovery` and
`PageDiscovery`.

The proofs follow the passes. A template path is read in range because the pages root was found
in it (`Page.location?_eq`), and a route template's bytes are cut where characters start
(`Route.parameters?_eq`). The trees go through the refinement of `BuilderIndex`: the builder
stays consistent from call to call, and its view is the list builder's tree. A container's
actions are added at once, where the list pass makes one call per action; `foldl_add_withContainer`
and `foldl_add_withArea` say the two agree. The run lemmas `foldlM_addContainer?` and
`foldlM_addTemplate?` carry the invariant through the types and the templates.
-/

namespace TypedUrls

/-! ## Locations read by positions -/

namespace Page

open Text

/-- Read at a position below the pages root, the area is the one `areaBefore` reads. -/
theorem areaAt?_eq (segments : List String) (pagesAt : Fin segments.length) (areasRoot : String) :
    areaAt? segments pagesAt areasRoot = .ok (areaBefore segments pagesAt areasRoot) := by
  unfold areaAt? areaBefore
  by_cases h : 2 ≤ pagesAt.val
  · rw [if_pos h, dif_pos h, readAt_of_lt (by omega)]
    simp only [bind, Except.bind, List.get_eq_getElem]
    split
    · rw [readAt_of_lt (by omega)]
    · rfl
  · rw [if_neg h, dif_neg h]
    rfl

/-- Read by positions and slices, a template path gives its location, and no read fails. -/
theorem location?_eq (path : String) (conventions : PageConventions) :
    location? path conventions = .ok (location path conventions) := by
  unfold location? location
  generalize belowRoot (Template.pathSegments path) conventions.projectRoot = segments
  dsimp only
  rw [List.findIdx?_eq_map_findFinIdx?_val]
  cases segments.findFinIdx? (eqIgnoreAsciiCase · conventions.pagesRoot) with
  | none => rfl
  | some pagesAt =>
    simp only [Option.map_some]
    -- both reads before the root are in range, and the slice after it starts at most at the end
    rw [areaAt?_eq, sliceFrom_of_le (by omega)]
    simp only [bind, Except.bind, Option.bind_some]
    cases (segments.drop (pagesAt.val + 1)).getLast? with
    | none => rfl
    | some fileName =>
      simp only [Option.bind_some]
      cases stem? fileName conventions.templateExtension <;> rfl

end Page

namespace Descriptor

/-! ## Endpoints added to one container -/

@[simp] theorem Container.name_addEndpoints (c : Container)
    (endpoints : List (String × List Parameter)) :
    (c.addEndpoints endpoints).name = c.name := by
  induction endpoints generalizing c with
  | nil => rfl
  | cons e rest ih =>
    rw [Container.addEndpoints, List.foldl_cons, ← Container.addEndpoints, ih]
    unfold Container.addEndpoint
    split <;> rfl

/-- Adding one more endpoint to a container after some is adding them all. -/
theorem Area.addEndpoints_append (a : Area) (container : String)
    (endpoints : List (String × List Parameter)) (e : String × List Parameter) :
    ((a.addEndpoints container endpoints).1.updateContainer container
        (·.addEndpoint e.1 e.2)).1 = (a.addEndpoints container (endpoints ++ [e])).1 := by
  simp only [Area.addEndpoints, Area.updateContainer]
  rw [upsert_upsert (fun x : Container => groupKey x.name) (groupKey container)
    { name := container, area := a.name } _ _ (fun c => by simp) rfl]
  congr 1
  refine upsert_fst_congr _ _ _ _ _ _ ?_
  simp [Container.addEndpoints, List.foldl_append]

namespace EndpointTree

/-- Touching a container, then adding endpoints to it call by call, is one change of its area:
the endpoints added to the container, created if missing. -/
theorem foldl_add_withContainer (t : EndpointTree) (area container : String)
    (endpoints : List (String × List Parameter)) :
    (endpoints.map fun e => Op.add area container e.1 e.2).foldl (fun t op => (t.step op).1)
        (t.withContainer area container) =
      (t.updateArea area (·.addEndpoints container endpoints)).1 := by
  induction endpoints using List.reverseRecOn with
  | nil => rfl
  | append_singleton endpoints e ih =>
    rw [List.map_append, List.foldl_append, ih, List.map_singleton, List.foldl_cons,
      List.foldl_nil]
    simp only [step, addEndpoint, updateArea]
    rw [upsert_upsert (fun x : Area => groupKey x.name) (groupKey area) { name := area }
      (·.addEndpoints container endpoints) _ (fun a => rfl) rfl]
    congr 1
    exact upsert_fst_congr _ _ _ _ _ _ (Area.addEndpoints_append _ _ _ _)

end EndpointTree

end Descriptor

namespace Discovery

open Descriptor

/-! ## The walk of a container's methods, gathering actions -/

section Walk
variable (c : Classifier)

/-- The action a method of a container gives, when it is one: its name and its parameters. -/
def actionOf (x : MethodAt) : Option (String × List Parameter) :=
  match c.isAction x with
  | .ok true => some (c.actionName x.method, methodParameters c x.method)
  | _ => none

theorem actionOp_eq (area container : String) (x : MethodAt) :
    actionOp c area container x = (actionOf c x).map fun e => .add area container e.1 e.2 := by
  unfold actionOp actionOf
  cases c.isAction x with
  | ok b => cases b <;> rfl
  | error e => rfl

/-- One method of the walk, as `walkActions` handles it. -/
def walkStep (w : ActionWalk) (x : MethodAt) : ActionWalk := walkActions c w [x]

theorem walkActions_eq_foldl (w : ActionWalk) (ms : List MethodAt) :
    walkActions c w ms = ms.foldl (walkStep c) w := by
  induction ms generalizing w with
  | nil => rfl
  | cons x ms ih => exact ih _

theorem walkStep_of_declared {w : ActionWalk} {x : MethodAt} (h : signatureOf x ∈ w.declared) :
    walkStep c w x = w := by
  have hc : w.declared.contains (signatureOf x) = true := List.contains_iff_mem.mpr h
  simp only [walkStep, walkActions, List.foldl_cons, List.foldl_nil]
  exact if_pos hc

theorem walkStep_of_new {w : ActionWalk} {x : MethodAt} (h : signatureOf x ∉ w.declared) :
    walkStep c w x =
      { actions := ([x].filterMap (actionOf c)).reverse ++ w.actions,
        warnings := ([x].filterMap (actionError c)).reverse ++ w.warnings,
        declared := signatureOf x :: w.declared } := by
  have hc : ¬ w.declared.contains (signatureOf x) = true :=
    fun h' => h (List.contains_iff_mem.mp h')
  simp only [walkStep, walkActions, List.foldl_cons, List.foldl_nil]
  refine (if_neg hc).trans ?_
  -- the classifier's three answers: an action, not an action, a warning
  cases hx : c.isAction x with
  | ok b =>
    cases b with
    | true => simp [actionOf, actionError, hx, signatureOf]
    | false => simp [actionOf, actionError, hx, signatureOf]
  | error e => simp [actionOf, actionError, hx, signatureOf]

/-- The walk over a container's methods, from nothing declared: the first method of each
signature is classified, in order, and the others are passed over. -/
theorem foldl_walkStep (warnings : List GenerationError) (ms : List MethodAt) :
    ms.foldl (walkStep c) { warnings } =
      { actions := ((firstBy signatureOf ms).filterMap (actionOf c)).reverse,
        warnings := ((firstBy signatureOf ms).filterMap (actionError c)).reverse ++ warnings,
        declared := ((firstBy signatureOf ms).map signatureOf).reverse } := by
  induction ms using List.reverseRecOn with
  | nil => simp
  | append_singleton ms x ih =>
    rw [List.foldl_append, ih, List.foldl_cons, List.foldl_nil, firstBy_append_singleton]
    by_cases hx : ∃ y ∈ ms, signatureOf y = signatureOf x
    · -- a more derived method of the same signature hides this one
      rw [if_pos hx]
      exact walkStep_of_declared c ((mem_reverse_map_firstBy _ ms _).mpr hx)
    · have hnew : signatureOf x ∉ ((firstBy signatureOf ms).map signatureOf).reverse :=
        fun h => hx ((mem_reverse_map_firstBy _ ms _).mp h)
      rw [if_neg hx, walkStep_of_new c hnew]
      simp [List.filterMap_append]

/-- The walk of a container up its base chain gathers the actions and the warnings of its walked
methods. -/
theorem walkActions_baseChain (d : TypeDecl) (warnings : List GenerationError) :
    ((c.model.baseChain d.fullName).foldl
        (fun w owner => walkActions c w (c.model.methodsAt owner)) { warnings }).actions.reverse =
        (walkedMethods c d.fullName).filterMap (actionOf c) ∧
      ((c.model.baseChain d.fullName).foldl
        (fun w owner => walkActions c w (c.model.methodsAt owner)) { warnings }).warnings =
        (containerWarnings c d).reverse ++ warnings := by
  simp only [walkActions_eq_foldl]
  rw [← List.foldl_flatMap, foldl_walkStep]
  exact ⟨List.reverse_reverse _, rfl⟩

end Walk

/-! ## The endpoint pass through the indexes -/

section EndpointPass
variable (c : Classifier)

/-- The calls made for a container are one change of its area: its actions added to it. -/
theorem replay_containerOps (pre : List EndpointTree.Op) (d : TypeDecl) :
    EndpointTree.replay (pre ++ containerOps c d) =
      ((EndpointTree.replay pre).updateArea (c.areaName d.fullName)
        (·.addEndpoints (c.containerName d)
          ((walkedMethods c d.fullName).filterMap (actionOf c)))).1 := by
  have hops : (walkedMethods c d.fullName).filterMap
        (actionOp c (c.areaName d.fullName) (c.containerName d)) =
      ((walkedMethods c d.fullName).filterMap (actionOf c)).map fun e =>
        .add (c.areaName d.fullName) (c.containerName d) e.1 e.2 := by
    rw [List.map_filterMap]
    simp only [actionOp_eq]
  rw [← EndpointTree.foldl_add_withContainer, ← hops, EndpointTree.replay, List.foldl_append,
    containerOps, List.foldl_cons]
  rfl

/-- A type that is no container leaves the pass as it is. -/
theorem addContainer?_of_not_isContainer (acc : ControllerTreeBuilder × List GenerationError)
    {d : TypeDecl} (hd : c.isContainer d = false) : addContainer? c acc d = .ok acc := by
  simp [addContainer?, hd, pure, Except.pure]

/-- A container is found once through the indexes, and its actions are added to it as the list
builder adds them. -/
theorem addContainer?_of_isContainer {t : ControllerTreeBuilder} (ht : t.Consistent)
    (warnings : List GenerationError) {d : TypeDecl} (hd : c.isContainer d = true) :
    ∃ t', addContainer? c (t, warnings) d =
        .ok (t', (containerWarnings c d).reverse ++ warnings) ∧
      t'.Consistent ∧
      t'.view = (t.view.updateArea (c.areaName d.fullName)
        (·.addEndpoints (c.containerName d)
          ((walkedMethods c d.fullName).filterMap (actionOf c)))).1 := by
  obtain ⟨hactions, hwarnings⟩ := walkActions_baseChain c d warnings
  obtain ⟨t', ht', hcons, hview⟩ := ControllerTreeBuilder.addEndpoints_view ht
    (c.areaName d.fullName) (c.containerName d)
    ((walkedMethods c d.fullName).filterMap (actionOf c))
  refine ⟨t', ?_, hcons, hview⟩
  simp only [addContainer?, hd, Bool.not_true, Bool.false_eq_true, ↓reduceIte, hactions, ht',
    hwarnings]
  rfl

/-- The pass over the types through the indexes: each container visited adds its calls and its
warnings, and the builder stays consistent. -/
theorem foldlM_addContainer? (ds : List TypeDecl) :
    ∃ t, ds.foldlM (addContainer? c) ({}, []) =
        .ok (t, ((ds.filter c.isContainer).flatMap (containerWarnings c)).reverse) ∧
      t.Consistent ∧
      t.view = EndpointTree.replay ((ds.filter c.isContainer).flatMap (containerOps c)) := by
  induction ds using List.reverseRecOn with
  | nil => exact ⟨{}, rfl, ControllerTreeBuilder.consistent_empty, rfl⟩
  | append_singleton ds d ih =>
    obtain ⟨t, ht, hcons, hview⟩ := ih
    rw [List.foldlM_append, ht, List.filter_append]
    cases hd : c.isContainer d with
    | false =>
      refine ⟨t, ?_, hcons, by simp [hd, hview]⟩
      simp [hd, addContainer?_of_not_isContainer c _ hd, bind, Except.bind, pure, Except.pure]
    | true =>
      obtain ⟨t', ht', hcons', hview'⟩ := addContainer?_of_isContainer c hcons
        ((ds.filter c.isContainer).flatMap (containerWarnings c)).reverse hd
      refine ⟨t', ?_, hcons', ?_⟩
      · simp [hd, ht', bind, Except.bind, pure, Except.pure]
      · rw [hview', hview, List.filter_singleton, hd, cond_true, List.flatMap_append,
          List.flatMap_singleton, replay_containerOps]

/-- Endpoint discovery through the builder's indexes never stops, and gives what endpoint
discovery over the list builder gives. -/
theorem endpoints?_eq : endpoints? c = .ok (endpoints c) := by
  obtain ⟨t, ht, -, hview⟩ := foldlM_addContainer? c (firstFragments c.model.types)
  obtain ⟨htree, hwarnings⟩ := foldl_addContainer c (firstFragments c.model.types)
  unfold endpoints? endpoints
  rw [ht]
  simp only [bind, Except.bind, pure, Except.pure, ControllerTreeBuilder.build_eq_view, hview,
    htree, hwarnings]

end EndpointPass

end Discovery

namespace Descriptor

/-! ## Pages added to one area -/

@[simp] theorem PageAreaDraft.name_addVariants (a : PageAreaDraft) (path : String)
    (variants : List (Option String × List Parameter)) :
    (a.addVariants path variants).1.name = a.name := by
  induction variants generalizing a with
  | nil => rfl
  | cons v rest ih =>
    simp only [PageAreaDraft.addVariants, List.foldl_cons] at ih ⊢
    rw [ih, PageAreaDraft.name_addPage]

namespace PageTree

/-- Touching an area, then adding the variants of a page to it call by call, is one change of
the area: the variants added to it. -/
theorem foldl_add_withArea (t : PageTree) (area path : String)
    (variants : List (Option String × List Parameter)) :
    (variants.map fun v => Op.add area path v.1 v.2).foldl (fun t op => (t.step op).1)
        (t.withArea area) =
      (t.updateArea area (·.addVariants path variants)).1 := by
  induction variants using List.reverseRecOn with
  | nil => rfl
  | append_singleton variants v ih =>
    rw [List.map_append, List.foldl_append, ih, List.map_singleton, List.foldl_cons,
      List.foldl_nil]
    simp only [step, addPage, updateArea]
    rw [upsert_upsert (fun x : PageAreaDraft => groupKey x.name) (groupKey area) { name := area }
      (·.addVariants path variants) _ (fun a => by rw [PageAreaDraft.name_addVariants]) rfl]
    congr 1
    refine upsert_fst_congr _ _ _ _ _ _ ?_
    simp [PageAreaDraft.addVariants, List.foldl_append]

end PageTree

/-- Adding the variants of a page through the indexes is the list builder's calls: the area
touched, then each variant added. -/
theorem PageTreeBuilder.addPages_replay {t : PageTreeBuilder} (ht : t.Consistent)
    {pre : List PageTree.Op} (hview : t.view = PageTree.replay pre) (area path : String)
    (variants : List (Option String × List Parameter)) :
    ∃ t', t.addPages area path variants = .ok t' ∧ t'.Consistent ∧
      t'.view = PageTree.replay
        (pre ++ .area area :: variants.map fun v => .add area path v.1 v.2) := by
  obtain ⟨t', ht', hcons, hview'⟩ := t.addPages_view ht area path variants
  refine ⟨t', ht', hcons, ?_⟩
  rw [hview', hview, PageTree.replay, PageTree.replay, List.foldl_append, List.foldl_cons,
    ← PageTree.foldl_add_withArea]
  rfl

end Descriptor

namespace Discovery

open Descriptor

/-! ## The page pass through the indexes -/

section PagePass
variable (c : Classifier)

/-- At a page below a pages root, one template through the indexes adds the variants of the list
pass, each with the shared parameters merged in, and puts the template's warnings first. -/
theorem addTemplate?_of_page {f : Template} {route area page : String}
    (hr : routeTemplate c.config.pages f.text = some route)
    (hl : Page.location f.path c.config.pages = some (area, page))
    (t : PageTreeBuilder) (warnings : List GenerationError) :
    addTemplate? c (t, warnings) f =
      (·, (templateWarnings c f).reverse ++ warnings) <$> t.addPages area page
        ((handlerVariants c f.text).map fun v =>
          (v.1, merge (sharedParameters c f.text route) v.2)) := by
  have hmodel : (modelName c.config.pages f.text).bind c.model.resolveByName = pageModel c f.text :=
    rfl
  rw [map_eq_pure_bind]
  simp only [addTemplate?, templateWarnings, hr, hl, Page.location?_eq, Route.parameters?_eq,
    hmodel]
  -- the variants: one with no handler without a page model or its handlers, else one per handler
  cases hpm : pageModel c f.text with
  | none =>
    simp [handlerVariants, sharedParameters, hpm, merge, bind, Except.bind, pure, Except.pure]
  | some pm =>
    cases hhs : (pageHandlers c pm.fullName).1 with
    | nil =>
      simp [handlerVariants, sharedParameters, boundParameters, hpm, hhs, merge, bind, Except.bind,
        pure, Except.pure]
    | cons v vs =>
      simp [handlerVariants, sharedParameters, boundParameters, hpm, hhs, bind, Except.bind, pure,
        Except.pure]

/-- One template through the indexes: its calls are made on the tree, its warnings come before
those met so far, and the builder stays consistent. -/
theorem addTemplate?_replay {t : PageTreeBuilder} (ht : t.Consistent) {pre : List PageTree.Op}
    (hview : t.view = PageTree.replay pre) (warnings : List GenerationError) (f : Template) :
    ∃ t', addTemplate? c (t, warnings) f =
        .ok (t', (templateWarnings c f).reverse ++ warnings) ∧
      t'.Consistent ∧ t'.view = PageTree.replay (pre ++ templateOps c f) := by
  cases hr : routeTemplate c.config.pages f.text with
  | none =>
    refine ⟨t, ?_, ht, by simp [templateOps, hr, hview]⟩
    simp [addTemplate?, templateWarnings, hr, pure, Except.pure]
  | some route =>
    cases hl : Page.location f.path c.config.pages with
    | none =>
      refine ⟨t, ?_, ht, by simp [templateOps, hr, hl, hview]⟩
      simp [addTemplate?, templateWarnings, hr, hl, Page.location?_eq, bind, Except.bind, pure,
        Except.pure]
    | some loc =>
      obtain ⟨area, page⟩ := loc
      obtain ⟨t', ht', hcons, hview'⟩ := PageTreeBuilder.addPages_replay ht hview area page
        ((handlerVariants c f.text).map fun v => (v.1, merge (sharedParameters c f.text route) v.2))
      refine ⟨t', ?_, hcons, ?_⟩
      · rw [addTemplate?_of_page c hr hl, ht']
        rfl
      · rw [hview', templateOps, hr, hl, List.map_map]
        rfl

/-- The walk over the templates through the indexes makes the calls of each template in order,
and the builder stays consistent. -/
theorem foldlM_addTemplate? (templates : List Template) :
    ∃ t, templates.foldlM (addTemplate? c) ({}, []) =
        .ok (t, (templates.flatMap (templateWarnings c)).reverse) ∧
      t.Consistent ∧ t.view = PageTree.replay (templates.flatMap (templateOps c)) := by
  induction templates using List.reverseRecOn with
  | nil => exact ⟨{}, rfl, PageTreeBuilder.consistent_empty, rfl⟩
  | append_singleton templates f ih =>
    obtain ⟨t, ht, hcons, hview⟩ := ih
    obtain ⟨t', ht', hcons', hview'⟩ :=
      addTemplate?_replay c hcons hview (templates.flatMap (templateWarnings c)).reverse f
    refine ⟨t', ?_, hcons', ?_⟩
    · rw [List.foldlM_append, ht]
      simp [ht', bind, Except.bind, pure, Except.pure]
    · rw [hview', List.flatMap_append, List.flatMap_singleton]

/-- Page discovery through the builder's indexes, with route templates read over their bytes and
template paths read by positions, never stops, and gives what page discovery over the list
builder gives. -/
theorem pages?_eq (templates : List Template) : pages? c templates = .ok (pages c templates) := by
  obtain ⟨t, ht, -, hview⟩ := foldlM_addTemplate? c templates
  unfold pages? pages
  rw [ht, foldl_addTemplate]
  simp only [bind, Except.bind, pure, Except.pure, PageTreeBuilder.build_eq_view, hview]

end PagePass

end Discovery

end TypedUrls
