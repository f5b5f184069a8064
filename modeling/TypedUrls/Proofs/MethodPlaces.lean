import Mathlib
import TypedUrls.Classify.Basic

/-!
# The places of methods

The classifier tells the methods of a program apart by their places: the index of the fragment
that declares one among all declarations, and its index among that fragment's methods
(`MethodAt.id`). An override chain uses the places it has passed to notice that it has come
back to a method.

Places depend on how a type is split into fragments, but only through positions: a place is the
place of another method exactly when both stand at the same position among the methods of the
same type (`id_eq_iff`). So two programs whose types have the same methods in the same order
(`SamePlace` relates the methods at one position) find the same overridden methods
(`findMethod_cases`) and walk the same override chains (`overrideChain_eq`), however their
fragments differ.
-/

namespace TypedUrls

namespace Program

/-! ## Where a method stands -/

section Places

variable {m : Program}

/-- A method of a type stands in a fragment of that type, at its index. -/
theorem mem_methodsAt {n : String} {x : MethodAt} :
    x ∈ m.methodsAt n ↔ x.owner = n ∧ ∃ t, m.types[x.fragment]? = some t ∧ t.fullName = n ∧
      t.methods[x.index]? = some x.method := by
  simp only [methodsAt, methodsOfFragment, List.mem_flatMap, List.mem_filter, List.mem_map,
    List.mem_zipIdx_iff_getElem?, beq_iff_eq]
  constructor
  · rintro ⟨⟨t, k⟩, ⟨hk, hname⟩, ⟨meth, i⟩, hi, rfl⟩
    exact ⟨hname, t, hk, hname, hi⟩
  · rintro ⟨hown, t, ht, hname, hmeth⟩
    refine ⟨⟨t, x.fragment⟩, ⟨ht, hname⟩, ⟨x.method, x.index⟩, hmeth, ?_⟩
    cases x
    simp_all

theorem owner_of_mem_methodsAt {n : String} {x : MethodAt} (h : x ∈ m.methodsAt n) :
    x.owner = n :=
  (mem_methodsAt.mp h).1

/-- Read without their places, the methods of a type are those of its fragments. -/
theorem methodsAt_map_method (n : String) : (m.methodsAt n).map (·.method) = m.methodsOf n := by
  have hfrag : ∀ (t : TypeDecl) (k : Nat), (methodsOfFragment t k).map (·.method) = t.methods := by
    intro t k
    rw [methodsOfFragment, List.map_map]
    exact List.zipIdx_map_fst 0 t.methods
  have hfilter : (m.types.zipIdx.filter (·.1.fullName == n)).map Prod.fst = m.fragments n := by
    rw [fragments_eq_filter]
    exact map_fst_filter_zipIdx m.types n
  rw [methodsAt, List.map_flatMap, methodsOf, ← hfilter, List.flatMap_map]
  exact List.flatMap_congr fun p _ => hfrag p.1 p.2

/-- A place holds one method of the program. -/
theorem eq_of_id_eq {a b : String} {x y : MethodAt} (hx : x ∈ m.methodsAt a)
    (hy : y ∈ m.methodsAt b) (hid : x.id = y.id) : x = y := by
  obtain ⟨hxo, t, ht, hta, htx⟩ := mem_methodsAt.mp hx
  obtain ⟨hyo, u, hu, hub, huy⟩ := mem_methodsAt.mp hy
  obtain ⟨hfragment, hindex⟩ := Prod.mk.inj hid
  rw [hfragment, hu] at ht
  cases ht
  rw [hindex, huy] at htx
  have hmeth : y.method = x.method := Option.some.inj htx
  obtain ⟨xo, xf, xi, xm⟩ := x
  obtain ⟨yo, yf, yi, ym⟩ := y
  simp_all

/-- The methods of one type stand at different places. -/
theorem nodup_ids (n : String) : ((m.methodsAt n).map MethodAt.id).Nodup := by
  have hinner : ∀ (t : TypeDecl) (k : Nat), ((methodsOfFragment t k).map MethodAt.id) =
      (List.range' 0 t.methods.length).map (Prod.mk k) := by
    intro t k
    rw [← List.zipIdx_map_snd, methodsOfFragment, List.map_map, List.map_map]
    rfl
  -- the fragments of the type come in increasing order of their indices
  have hsorted : (m.types.zipIdx.filter (·.1.fullName == n)).Pairwise (·.2 < ·.2) := by
    refine List.Pairwise.filter _ ?_
    rw [← List.pairwise_map (R := (· < ·)), List.zipIdx_map_snd]
    exact List.pairwise_lt_range' _
  simp only [methodsAt, List.map_flatMap]
  rw [List.nodup_flatMap]
  refine ⟨fun p _ => ?_, hsorted.imp fun {p q} hlt => ?_⟩
  · rw [hinner]
    exact (List.nodup_range' _).map fun a b h => (Prod.mk.inj h).2
  · rw [Function.onFun, hinner, hinner]
    intro a ha hb
    obtain ⟨i, -, rfl⟩ := List.mem_map.mp ha
    obtain ⟨j, -, hj⟩ := List.mem_map.mp hb
    have hk := (Prod.mk.inj hj).1
    omega

/-- Two methods share a place exactly when they stand at the same position among the methods of
the same type. -/
theorem id_eq_iff {a b : String} {j l : Nat} {x y : MethodAt} (hx : (m.methodsAt a)[j]? = some x)
    (hy : (m.methodsAt b)[l]? = some y) : x.id = y.id ↔ a = b ∧ j = l := by
  have hxa := List.mem_of_getElem? hx
  have hyb := List.mem_of_getElem? hy
  constructor
  · intro hid
    obtain rfl := eq_of_id_eq hxa hyb hid
    obtain rfl : a = b := (owner_of_mem_methodsAt hxa).symm.trans (owner_of_mem_methodsAt hyb)
    refine ⟨rfl, ?_⟩
    have hj : ((m.methodsAt a).map MethodAt.id)[j]? = some x.id := by simp [hx]
    have hl : ((m.methodsAt a).map MethodAt.id)[l]? = some x.id := by simp [hy]
    exact (List.getElem?_inj (List.getElem?_eq_some_iff.mp hj).1 (nodup_ids a)).mp
      (hj.trans hl.symm)
  · rintro ⟨rfl, rfl⟩
    rw [hx] at hy
    cases hy
    rfl

end Places

/-! ## Methods at the same place in two programs -/

/-- `x` of `m` and `x'` of `m'` stand at the same position among the methods of one type. -/
def SamePlace (m m' : Program) (x x' : MethodAt) : Prop :=
  ∃ (n : String) (j : Nat), (m.methodsAt n)[j]? = some x ∧ (m'.methodsAt n)[j]? = some x'

section SamePlace

variable {m m' : Program} (hm : ∀ n, m'.methodsOf n = m.methodsOf n)
include hm

theorem length_methodsAt (n : String) : (m'.methodsAt n).length = (m.methodsAt n).length := by
  rw [← List.length_map (f := (·.method)), methodsAt_map_method, hm, ← methodsAt_map_method,
    List.length_map]

/-- Methods at the same place are the same method of the same type. -/
theorem SamePlace.owner_method {x x' : MethodAt} (h : SamePlace m m' x x') :
    x'.owner = x.owner ∧ x'.method = x.method := by
  obtain ⟨n, j, hx, hx'⟩ := h
  refine ⟨(owner_of_mem_methodsAt (List.mem_of_getElem? hx')).trans
    (owner_of_mem_methodsAt (List.mem_of_getElem? hx)).symm, ?_⟩
  have hmeth := congrArg (·[j]?) (methodsAt_map_method (m := m') n)
  rw [hm, ← methodsAt_map_method] at hmeth
  simpa [hx, hx'] using hmeth

omit hm in
/-- Two pairs of methods at the same places share a place in one program exactly when they do in
the other. -/
theorem SamePlace.id_eq_iff {x x' y y' : MethodAt} (hx : SamePlace m m' x x')
    (hy : SamePlace m m' y y') : x'.id = y'.id ↔ x.id = y.id := by
  obtain ⟨a, j, hxj, hxj'⟩ := hx
  obtain ⟨b, l, hyl, hyl'⟩ := hy
  rw [Program.id_eq_iff hxj hyl, Program.id_eq_iff hxj' hyl']

/-- The methods of a type, place by place. -/
theorem forall₂_samePlace (n : String) :
    List.Forall₂ (SamePlace m m') (m.methodsAt n) (m'.methodsAt n) := by
  refine List.forall₂_iff_get.mpr ⟨(length_methodsAt hm n).symm, fun j h h' => ?_⟩
  exact ⟨n, j, List.getElem?_eq_getElem h, List.getElem?_eq_getElem h'⟩

/-- A method reference finds nothing in both programs, or methods at the same place. -/
theorem findMethod_cases (r : MethodRef) :
    (m.findMethod r = none ∧ m'.findMethod r = none) ∨
      ∃ x x', m.findMethod r = some x ∧ m'.findMethod r = some x' ∧ SamePlace m m' x x' := by
  let q : MethodDecl → Bool := fun meth =>
    meth.name == r.name && meth.parameters.length == r.parameterTypes.length &&
      (meth.parameters.zip r.parameterTypes).all fun pt => CSharp.display pt.1.type == pt.2
  -- the search reads the methods only, so it stops at the same position in both
  have hidx : ∀ p : Program, p.findMethod r =
      (p.methodsAt r.containingType)[(p.methodsOf r.containingType).findIdx q]? := by
    intro p
    rw [findMethod, List.find?_eq_getElem?_findIdx, ← methodsAt_map_method, List.findIdx_map]
    rfl
  rw [hidx m, hidx m', hm]
  have hlen := length_methodsAt hm r.containingType
  cases hx : (m.methodsAt r.containingType)[(m.methodsOf r.containingType).findIdx q]? with
  | none =>
    refine .inl ⟨rfl, ?_⟩
    rw [List.getElem?_eq_none_iff] at hx ⊢
    omega
  | some x =>
    obtain ⟨hlt, -⟩ := List.getElem?_eq_some_iff.mp hx
    refine .inr ⟨x, _, rfl, List.getElem?_eq_getElem (by omega), r.containingType, _, hx,
      List.getElem?_eq_getElem (by omega)⟩

/-- An override walk goes the same way in both programs from methods at the same place, as long
as the places passed so far are the same. -/
theorem chainFrom_eq {start start' : MethodAt} (hstart : start'.owner = start.owner ∧
    start'.method = start.method) (fuel : Nat) {seen seen' : List (Nat × Nat)}
    {acc : List (String × MethodDecl)} {current current' : MethodAt}
    (hcurrent : SamePlace m m' current current')
    (hseen : ∀ y y', SamePlace m m' y y' → seen'.contains y'.id = seen.contains y.id) :
    m'.chainFrom start' fuel seen' acc current' = m.chainFrom start fuel seen acc current := by
  induction fuel generalizing seen seen' acc current current' with
  | zero => rfl
  | succ fuel ih =>
    obtain ⟨hown, hmeth⟩ := hcurrent.owner_method hm
    rw [chainFrom, chainFrom, hown, hmeth]
    split
    · rfl
    · split
      · rfl
      · next r _ =>
        rcases findMethod_cases hm r with ⟨hnone, hnone'⟩ | ⟨x, x', hx, hx', hsame⟩
        · rw [hnone, hnone']
        · obtain ⟨hxown, hxmeth⟩ := hsame.owner_method hm
          rw [hx, hx']
          dsimp only
          rw [hseen x x' hsame, hxown, hxmeth, hstart.1, hstart.2]
          split
          · rfl
          · -- one more place passed, in both walks
            refine ih hsame fun y y' hy => ?_
            simp only [List.contains_cons, hseen y y' hy]
            congr 1
            exact Bool.eq_iff_iff.mpr (by simpa using hy.id_eq_iff hsame)

/-- Methods at the same place have the same override chain. -/
theorem overrideChain_eq (hcount : m'.methodCount = m.methodCount) {x x' : MethodAt}
    (h : SamePlace m m' x x') : m'.overrideChain x' = m.overrideChain x := by
  obtain ⟨hown, hmeth⟩ := h.owner_method hm
  unfold overrideChain
  rw [hcount, hown, hmeth]
  refine chainFrom_eq hm ⟨hown, hmeth⟩ _ h fun y y' hy => ?_
  simp only [List.contains_cons, List.contains_nil, Bool.or_false]
  exact Bool.eq_iff_iff.mpr (by simpa using hy.id_eq_iff h)

end SamePlace

end Program

end TypedUrls
