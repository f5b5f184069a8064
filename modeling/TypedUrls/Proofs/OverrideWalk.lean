import Mathlib
import TypedUrls.Proofs.MethodPlaces

/-!
# Override walks

The override chain of a method (`Program.overrideChain`) walks from the method to the method it
overrides, found in the model by its type, name and parameter types (`Program.findMethod`), and
so on. The walk carries fuel, one more than the number of methods of the model, and remembers
the places it has passed to notice that it comes back to a method.

The main statement, `overrideChain_walk`, says what the walk does without the fuel. It follows
the `Overrides` steps through methods at pairwise distinct places and ends in one of four ways
(`WalkEnds`): at a method that overrides nothing, at an override that names no method (an
error naming it), at a reference the model cannot resolve (kept as the external root), or at a
method passed before (an error naming the method the walk began at). Every method after the
first is a method of the model, so the walk passes at most as many methods as the model has
(`length_le_methodCount`) and the fuel never runs out.

An action or a page handler fails exactly when the method passes the checks made before the
walk and the walk fails; a method that fails those checks is never walked.
-/

namespace TypedUrls

namespace Program

variable (m : Program)

/-! ## The places of a program -/

/-- The places of all methods of the program, declaration by declaration. -/
def places : List (Nat × Nat) :=
  (m.types.zipIdx.flatMap fun p => methodsOfFragment p.1 p.2).map MethodAt.id

theorem length_places : m.places.length = m.methodCount := by
  have hcount : m.methodCount = (m.types.map (·.methods.length)).sum := by
    unfold methodCount
    induction m.types with
    | nil => rfl
    | cons t ts ih => simp [ih]
  rw [hcount, places, List.length_map, List.length_flatMap]
  simp only [methodsOfFragment, List.length_map, List.length_zipIdx]
  conv_rhs => rw [← List.zipIdx_map_fst 0 m.types, List.map_map]
  rfl

variable {m}

theorem id_mem_places {n : String} {y : MethodAt} (h : y ∈ m.methodsAt n) : y.id ∈ m.places := by
  simp only [methodsAt, List.mem_flatMap, List.mem_filter] at h
  obtain ⟨p, ⟨hp, -⟩, hy⟩ := h
  exact List.mem_map.mpr ⟨y, List.mem_flatMap.mpr ⟨p, hp, hy⟩, rfl⟩

/-- Methods of the model at pairwise distinct places are at most as many as the model has. -/
theorem length_le_methodCount {ws : List MethodAt} (hmodel : ∀ w ∈ ws, w ∈ m.methodsAt w.owner)
    (hnodup : (ws.map MethodAt.id).Nodup) : ws.length ≤ m.methodCount := by
  have hsub : ws.map MethodAt.id ⊆ m.places := by
    intro a ha
    obtain ⟨w, hw, rfl⟩ := List.mem_map.mp ha
    exact id_mem_places (hmodel w hw)
  simpa [length_places] using hnodup.length_le_of_subset hsub

/-- A method that a reference finds is a method of the model, of the type it names. -/
theorem mem_methodsAt_of_findMethod {r : MethodRef} {y : MethodAt} (h : m.findMethod r = some y) :
    y ∈ m.methodsAt y.owner := by
  have hmem := List.mem_of_find?_eq_some h
  rwa [owner_of_mem_methodsAt hmem]

/-! ## Walks -/

variable (m)

/-- `b` is the method `a` overrides: `a` is an override, and the model finds the method it names
at `b`. -/
def Overrides (a b : MethodAt) : Prop :=
  a.method.isOverride = true ∧ ∃ r, a.method.overrides = some r ∧ m.findMethod r = some b

/-- The chain a walk lists: each method with its type. -/
def chainOf (ws : List MethodAt) : List (String × MethodDecl) :=
  ws.map fun w => (w.owner, w.method)

/-- How a walk over `ws`, begun at `x`, ends, and the answer it gives. -/
inductive WalkEnds (x : MethodAt) (ws : List MethodAt) : Except GenerationError OverrideChain → Prop
  /-- The last method overrides nothing. -/
  | final {w : MethodAt} : ws.getLast? = some w → w.method.isOverride = false →
      WalkEnds x ws (.ok ⟨chainOf ws, none⟩)
  /-- The last method is an override that names no method. -/
  | broken {w : MethodAt} : ws.getLast? = some w → w.method.isOverride = true →
      w.method.overrides = none → WalkEnds x ws (.error (.brokenOverride w.owner w.method.name))
  /-- The last method overrides a method the model does not have. -/
  | external {w : MethodAt} {r : MethodRef} : ws.getLast? = some w → w.method.isOverride = true →
      w.method.overrides = some r → m.findMethod r = none →
      WalkEnds x ws (.ok ⟨chainOf ws, some r⟩)
  /-- The last method overrides a method the walk has passed. -/
  | cyclic {w y : MethodAt} {r : MethodRef} : ws.getLast? = some w → w.method.isOverride = true →
      w.method.overrides = some r → m.findMethod r = some y → y.id ∈ ws.map MethodAt.id →
      WalkEnds x ws (.error (.cyclicOverride x.owner x.method.name))

/-- The walk from `x` so far, with `current` last: the state the chain is walked from. -/
structure Walked (x current : MethodAt) (vs : List MethodAt) : Prop where
  head : vs.head? = some x
  last : vs.getLast? = some current
  chain : vs.IsChain m.Overrides
  nodup : (vs.map MethodAt.id).Nodup
  model : ∀ w ∈ vs.tail, w ∈ m.methodsAt w.owner

variable {m}

/-- One more step keeps the walk a walk. -/
theorem Walked.step {x current next : MethodAt} {vs : List MethodAt} (hw : m.Walked x current vs)
    (hstep : m.Overrides current next) (hfresh : next.id ∉ vs.map MethodAt.id) :
    m.Walked x next (vs ++ [next]) := by
  obtain ⟨-, r, -, hfind⟩ := id hstep
  have hne : vs ≠ [] := by
    rintro rfl
    cases hw.head
  refine ⟨?_, by simp, ?_, ?_, ?_⟩
  · rw [List.head?_append, hw.head]
    rfl
  · exact hw.chain.append (.singleton next) fun a ha b hb => by
      rw [hw.last] at ha
      cases ha
      cases hb
      exact hstep
  · rw [List.map_append, List.nodup_append]
    exact ⟨hw.nodup, by simp, by simpa using hfresh⟩
  · intro w hwmem
    rw [List.tail_append_of_ne_nil hne] at hwmem
    rcases List.mem_append.mp hwmem with hwt | hwn
    · exact hw.model w hwt
    · rw [List.mem_singleton.mp hwn]
      exact mem_methodsAt_of_findMethod hfind

/-- A walk passes at most one method more than the model has. -/
theorem Walked.length_le {x current : MethodAt} {vs : List MethodAt} (hw : m.Walked x current vs) :
    vs.length ≤ m.methodCount + 1 := by
  have htail := length_le_methodCount hw.model (hw.nodup.sublist ((List.tail_sublist vs).map _))
  rw [List.length_tail] at htail
  omega

/-- From a walk so far, the chain walk with enough fuel ends as a walk that extends it ends. -/
theorem chainFrom_walkEnds {x current : MethodAt} {vs : List MethodAt} (fuel : Nat)
    (hw : m.Walked x current vs) (hfuel : m.methodCount + 1 < fuel + vs.length) :
    ∃ ws w, vs <+: ws ∧ m.Walked x w ws ∧
      m.WalkEnds x ws (m.chainFrom x fuel (vs.map MethodAt.id).reverse (chainOf vs).reverse current) := by
  induction fuel generalizing vs current with
  | zero =>
    -- the walk so far would pass more methods than the model has
    have := hw.length_le
    omega
  | succ fuel ih =>
    rw [chainFrom]
    by_cases hover : current.method.isOverride
    · rw [if_neg (by simp [hover])]
      cases hr : current.method.overrides with
      | none => exact ⟨vs, current, List.prefix_refl _, hw, .broken hw.last hover hr⟩
      | some r =>
        dsimp only
        cases hfind : m.findMethod r with
        | none =>
          refine ⟨vs, current, List.prefix_refl _, hw, ?_⟩
          rw [List.reverse_reverse]
          exact .external hw.last hover hr hfind
        | some next =>
          dsimp only
          by_cases hseen : next.id ∈ vs.map MethodAt.id
          · rw [if_pos (by simpa using hseen)]
            exact ⟨vs, current, List.prefix_refl _, hw, .cyclic hw.last hover hr hfind hseen⟩
          · -- one step further, with one unit of fuel less
            rw [if_neg (by simpa using hseen)]
            have hw' := hw.step ⟨hover, r, hr, hfind⟩ hseen
            obtain ⟨ws, w, hpre, hws, hend⟩ := ih hw' (by rw [List.length_append, List.length_singleton]; omega)
            refine ⟨ws, w, (List.prefix_append vs [next]).trans hpre, hws, ?_⟩
            simpa [chainOf] using hend
    · rw [if_pos (by simpa using hover)]
      refine ⟨vs, current, List.prefix_refl _, hw, ?_⟩
      rw [List.reverse_reverse]
      exact .final hw.last (by simpa using hover)

/-- The override chain of a method follows the methods it overrides, at pairwise distinct places,
never more than the model has, and ends as its last step says. -/
theorem overrideChain_walkEnds (x : MethodAt) :
    ∃ ws, (x :: ws).IsChain m.Overrides ∧ ((x :: ws).map MethodAt.id).Nodup ∧
      ws.length ≤ m.methodCount ∧ m.WalkEnds x (x :: ws) (m.overrideChain x) := by
  have hstart : m.Walked x x [x] :=
    ⟨rfl, rfl, .singleton x, List.nodup_singleton _, by simp⟩
  obtain ⟨ws, w, hpre, hws, hend⟩ := chainFrom_walkEnds (m.methodCount + 1) hstart (by simp)
  obtain ⟨rest, rfl⟩ := hpre
  -- the methods after the first are methods of the model at distinct places
  have hlength := length_le_methodCount hws.model
    (hws.nodup.sublist ((List.tail_sublist _).map _))
  exact ⟨rest, hws.chain, hws.nodup, by simpa using hlength, hend⟩

end Program

namespace Classifier

variable {c : Classifier} {x : MethodAt} {e : GenerationError}

/-- A check that runs after the walk fails only when the walk fails. -/
theorem bind_eq_error_iff {α : Type} {w : Except GenerationError α}
    {f : α → Except GenerationError Bool} (hf : ∀ a, ∃ b, f a = .ok b) :
    w >>= f = .error e ↔ w = .error e := by
  cases w with
  | error e' => simp [bind, Except.bind]
  | ok a =>
    obtain ⟨b, hb⟩ := hf a
    simp [bind, Except.bind, hb]

/-- The checks made before the walk, when they fail. -/
theorem precheck_eq_true (meth : MethodDecl)
    (h : ¬(meth.kind = .ordinary ∧ meth.isStatic = false ∧ isCallable meth = true)) :
    (meth.kind != .ordinary || meth.isStatic || !isCallable meth) = true := by
  rcases not_and_or.mp h with hkind | hrest
  · simp [hkind]
  · rcases not_and_or.mp hrest with hstatic | hcallable
    · simp [hstatic]
    · simp [hcallable]

/-- An action fails exactly when the method passes the checks made before its walk and the walk
fails. -/
theorem isAction_eq_error_iff :
    c.isAction x = .error e ↔
      (x.method.kind = .ordinary ∧ x.method.isStatic = false ∧ isCallable x.method = true) ∧
        c.model.overrideChain x = .error e := by
  unfold isAction
  dsimp only
  by_cases hpre : x.method.kind = .ordinary ∧ x.method.isStatic = false ∧
      isCallable x.method = true
  · obtain ⟨hkind, hstatic, hcallable⟩ := hpre
    rw [if_neg (by simp [hkind, hstatic, hcallable])]
    rw [bind_eq_error_iff fun chain => by split <;> exact ⟨_, rfl⟩]
    exact ⟨fun h => ⟨⟨hkind, hstatic, hcallable⟩, h⟩, And.right⟩
  · rw [if_pos (precheck_eq_true _ hpre)]
    simp [hpre]

/-- A page handler fails exactly when the method has a handler rest, passes the checks made
before its walk and the walk fails. -/
theorem isPageHandler_eq_error_iff :
    c.isPageHandler x = .error e ↔
      (c.handlerSuffix x.method.name).isSome ∧
        (x.method.kind = .ordinary ∧ x.method.isStatic = false ∧ isCallable x.method = true) ∧
          c.model.overrideChain x = .error e := by
  unfold isPageHandler
  dsimp only
  by_cases hpre : (c.handlerSuffix x.method.name).isSome ∧ (x.method.kind = .ordinary ∧
      x.method.isStatic = false ∧ isCallable x.method = true)
  · obtain ⟨hsuffix, hkind, hstatic, hcallable⟩ := hpre
    rw [if_neg (by simp [Option.ne_none_iff_isSome.mpr hsuffix, hkind, hstatic, hcallable])]
    rw [bind_eq_error_iff fun chain => by split <;> exact ⟨_, rfl⟩]
    exact ⟨fun h => ⟨hsuffix, ⟨hkind, hstatic, hcallable⟩, h⟩, fun h => h.2.2⟩
  · have hcond : ((c.handlerSuffix x.method.name).isNone || x.method.kind != .ordinary ||
        x.method.isStatic || !isCallable x.method) = true := by
      by_cases hsuffix : (c.handlerSuffix x.method.name).isSome
      · have hcheck := precheck_eq_true x.method fun h => hpre ⟨hsuffix, h⟩
        simp only [Bool.or_eq_true] at hcheck
        rcases hcheck with (h | h) | h <;> simp [h]
      · simp [Option.not_isSome_iff_eq_none.mp hsuffix]
    rw [if_pos hcond]
    simp only [reduceCtorEq, false_iff, not_and]
    exact fun hsuffix hcheck => absurd ⟨hsuffix, hcheck⟩ hpre

end Classifier

/-- The override chain of a method follows the methods it overrides, at pairwise distinct places,
never more than the model has, and ends as its last step says: at a method that overrides
nothing, at an override that names no method, at a method outside the model, or back at a method
it passed. An action or a page handler fails exactly when the method passes the checks made
before the walk and its walk fails. -/
theorem overrideChain_walk (m : Program) (x : MethodAt) :
    (∃ ws, (x :: ws).IsChain m.Overrides ∧ ((x :: ws).map MethodAt.id).Nodup ∧
      ws.length ≤ m.methodCount ∧ m.WalkEnds x (x :: ws) (m.overrideChain x)) ∧
    ∀ (config : Config) (e : GenerationError),
      ((⟨m, config⟩ : Classifier).isAction x = .error e ↔
        (x.method.kind = .ordinary ∧ x.method.isStatic = false ∧
          Classifier.isCallable x.method = true) ∧ m.overrideChain x = .error e) ∧
      ((⟨m, config⟩ : Classifier).isPageHandler x = .error e ↔
        ((⟨m, config⟩ : Classifier).handlerSuffix x.method.name).isSome ∧
          (x.method.kind = .ordinary ∧ x.method.isStatic = false ∧
            Classifier.isCallable x.method = true) ∧ m.overrideChain x = .error e) :=
  ⟨m.overrideChain_walkEnds x, fun _ _ =>
    ⟨Classifier.isAction_eq_error_iff, Classifier.isPageHandler_eq_error_iff⟩⟩

end TypedUrls
