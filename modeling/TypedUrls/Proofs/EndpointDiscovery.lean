import Mathlib
import TypedUrls.Discovery.Endpoints
import TypedUrls.Proofs.EndpointTree

/-!
# Endpoint discovery — the calls it makes on the tree builder

Discovery walks the types once, at the first fragment of each full name, and for a container
walks the methods up its base chain while remembering the signatures already declared. This
module states what that walk amounts to without its bookkeeping: the containers visited are
`visitedContainers`, the methods classified for one of them are `walkedMethods` (the first of
each signature, most derived first), and the whole pass makes the builder calls `discoveryOps`
and gives the warnings `discoveryWarnings`.

`endpoints_eq_build_discoveryOps` says that the report is the tree these calls build, with those
warnings. It is proved by two run lemmas, both inductions from the end of the list: the walk over
a container's methods (`foldl_actionStep`, over one step lemma per case of the signature check)
and the pass over the types (`foldl_addContainer`); the seen list of first fragments is
`foldl_eq_firstBy`. With `build_replay_eq_finished`, the report's tree is then known in full.
-/

namespace TypedUrls.Discovery

open Descriptor

/-- The name and parameter types by which a more derived method hides a base one. -/
def signatureOf (x : MethodAt) : String × List String :=
  (x.method.name, x.method.parameters.map (CSharp.display ·.type))

/-- The endpoint a method of a container adds, when it is an action. -/
def actionOp (c : Classifier) (area container : String) (x : MethodAt) : Option EndpointTree.Op :=
  match c.isAction x with
  | .ok true => some (.add area container (c.actionName x.method) (methodParameters c x.method))
  | _ => none

/-- The warning a method of a container gives, when it cannot be classified. -/
def actionError (c : Classifier) (x : MethodAt) : Option GenerationError :=
  match c.isAction x with
  | .error e => some e
  | _ => none

/-- The methods classified for a container: over its base chain, most derived first, the first
method of each signature. -/
def walkedMethods (c : Classifier) (fullName : String) : List MethodAt :=
  firstBy signatureOf ((c.model.baseChain fullName).flatMap c.model.methodsAt)

/-- The containers visited: the first fragment of each type, when it is a container. -/
def visitedContainers (c : Classifier) : List TypeDecl :=
  (firstBy (·.fullName) c.model.types).filter c.isContainer

/-- The builder calls made for a container: it is touched, then its actions are added. -/
def containerOps (c : Classifier) (d : TypeDecl) : List EndpointTree.Op :=
  .container (c.areaName d.fullName) (c.containerName d) ::
    (walkedMethods c d.fullName).filterMap (actionOp c (c.areaName d.fullName) (c.containerName d))

/-- The warnings given for a container. -/
def containerWarnings (c : Classifier) (d : TypeDecl) : List GenerationError :=
  (walkedMethods c d.fullName).filterMap (actionError c)

/-- The builder calls of a whole discovery pass. -/
def discoveryOps (c : Classifier) : List EndpointTree.Op :=
  (visitedContainers c).flatMap (containerOps c)

/-- The warnings of a whole discovery pass. -/
def discoveryWarnings (c : Classifier) : List GenerationError :=
  (visitedContainers c).flatMap (containerWarnings c)

/-- One method of the walk, as `addActions` handles it. -/
def actionStep (c : Classifier) (area container : String) (w : EndpointWalk) (x : MethodAt) :
    EndpointWalk :=
  addActions c area container w [x]

theorem addActions_eq_foldl (c : Classifier) (area container : String) (w : EndpointWalk)
    (ms : List MethodAt) :
    addActions c area container w ms = ms.foldl (actionStep c area container) w := by
  induction ms generalizing w with
  | nil => rfl
  | cons x ms ih => exact ih _

theorem firstFragments_eq (types : List TypeDecl) :
    firstFragments types = firstBy (·.fullName) types := by
  rw [firstFragments, foldl_eq_firstBy (·.fullName) ?_, List.reverse_reverse]
  intro seen acc x
  rfl

/-! ## The walk over a container's methods -/

section Walk
variable (c : Classifier) (area container : String)

theorem actionStep_of_declared {w : EndpointWalk} {x : MethodAt}
    (h : signatureOf x ∈ w.declared) : actionStep c area container w x = w := by
  have hc : w.declared.contains (signatureOf x) = true := List.contains_iff_mem.mpr h
  simp only [actionStep, addActions, List.foldl_cons, List.foldl_nil]
  exact if_pos hc

theorem actionStep_of_new {w : EndpointWalk} {x : MethodAt} {pre : List EndpointTree.Op}
    (h : signatureOf x ∉ w.declared) (hw : w.tree = EndpointTree.replay pre) :
    actionStep c area container w x =
      { tree := EndpointTree.replay (pre ++ [x].filterMap (actionOp c area container)),
        warnings := ([x].filterMap (actionError c)).reverse ++ w.warnings,
        declared := signatureOf x :: w.declared } := by
  have hc : ¬ w.declared.contains (signatureOf x) = true :=
    fun h' => h (List.contains_iff_mem.mp h')
  simp only [actionStep, addActions, List.foldl_cons, List.foldl_nil]
  refine (if_neg hc).trans ?_
  -- the classifier's three answers: an action, not an action, a warning
  cases hx : c.isAction x with
  | ok b =>
    cases b with
    | true =>
      simp only [List.filterMap_cons, List.filterMap_nil, actionOp, actionError, hx,
        EndpointTree.replay_append, ← hw]
      rfl
    | false =>
      simp [actionOp, actionError, hx, hw, signatureOf]
  | error e =>
    simp [actionOp, actionError, hx, hw, signatureOf]

/-- The walk over a container's methods, from nothing declared: the first method of each
signature is classified, in order, and the others are passed over. -/
theorem foldl_actionStep (pre : List EndpointTree.Op) (warnings : List GenerationError)
    (ms : List MethodAt) :
    ms.foldl (actionStep c area container) ⟨EndpointTree.replay pre, warnings, []⟩ =
      { tree := EndpointTree.replay
          (pre ++ (firstBy signatureOf ms).filterMap (actionOp c area container)),
        warnings := ((firstBy signatureOf ms).filterMap (actionError c)).reverse ++ warnings,
        declared := ((firstBy signatureOf ms).map signatureOf).reverse } := by
  induction ms using List.reverseRecOn with
  | nil => simp
  | append_singleton ms x ih =>
    rw [List.foldl_append, ih, List.foldl_cons, List.foldl_nil, firstBy_append_singleton]
    by_cases hx : ∃ y ∈ ms, signatureOf y = signatureOf x
    · -- a more derived method of the same signature hides this one
      rw [if_pos hx]
      exact actionStep_of_declared c area container ((mem_reverse_map_firstBy _ ms _).mpr hx)
    · have hnew : signatureOf x ∉ ((firstBy signatureOf ms).map signatureOf).reverse :=
        fun h => hx ((mem_reverse_map_firstBy _ ms _).mp h)
      rw [if_neg hx, actionStep_of_new c area container hnew rfl]
      simp [List.filterMap_append, List.append_assoc]

end Walk

/-! ## The pass over the types -/

section Pass
variable (c : Classifier)

/-- A container's visit touches it, then walks its methods with a fresh set of signatures. -/
theorem addContainer_of_isContainer {w : EndpointWalk} {d : TypeDecl}
    {pre : List EndpointTree.Op} (hd : c.isContainer d = true)
    (hw : w.tree = EndpointTree.replay pre) :
    (addContainer c w d).tree = EndpointTree.replay (pre ++ containerOps c d) ∧
      (addContainer c w d).warnings = (containerWarnings c d).reverse ++ w.warnings := by
  have htouch : w.tree.withContainer (c.areaName d.fullName) (c.containerName d) =
      EndpointTree.replay
        (pre ++ [EndpointTree.Op.container (c.areaName d.fullName) (c.containerName d)]) := by
    rw [EndpointTree.replay_append, ← hw]
    rfl
  simp only [addContainer, hd, Bool.not_true, Bool.false_eq_true, ↓reduceIte,
    addActions_eq_foldl]
  rw [← List.foldl_flatMap, htouch, foldl_actionStep]
  simp [containerOps, containerWarnings, walkedMethods]

theorem addContainer_of_not_isContainer (w : EndpointWalk) {d : TypeDecl}
    (hd : c.isContainer d = false) : addContainer c w d = w := by
  simp [addContainer, hd]

/-- The pass over the types: each container visited adds its calls and its warnings. -/
theorem foldl_addContainer (ds : List TypeDecl) :
    (ds.foldl (addContainer c) {}).tree =
        EndpointTree.replay ((ds.filter c.isContainer).flatMap (containerOps c)) ∧
      (ds.foldl (addContainer c) {}).warnings =
        ((ds.filter c.isContainer).flatMap (containerWarnings c)).reverse := by
  induction ds using List.reverseRecOn with
  | nil => exact ⟨rfl, rfl⟩
  | append_singleton ds d ih =>
    obtain ⟨htree, hwarnings⟩ := ih
    rw [List.foldl_append, List.foldl_cons, List.foldl_nil, List.filter_append]
    cases hd : c.isContainer d with
    | false =>
      rw [addContainer_of_not_isContainer c _ hd]
      simp [hd, htree, hwarnings]
    | true =>
      obtain ⟨htree', hwarnings'⟩ := addContainer_of_isContainer c hd htree
      simp [hd, htree', hwarnings', hwarnings]

/-- Endpoint discovery builds the tree of its calls: the first fragment of each type that is a
container is touched, then the actions among the first methods of each signature up its base
chain are added to it; the warnings are those of the methods that could not be classified, in
the order they were met. -/
theorem endpoints_eq_build_discoveryOps :
    endpoints c = ⟨(EndpointTree.replay (discoveryOps c)).build, discoveryWarnings c⟩ := by
  obtain ⟨htree, hwarnings⟩ := foldl_addContainer c (firstBy (·.fullName) c.model.types)
  simp only [endpoints, firstFragments_eq, htree, hwarnings, List.reverse_reverse]
  rfl

end Pass

end TypedUrls.Discovery
