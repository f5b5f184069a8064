import Mathlib
import TypedUrls.Classify.Basic
import TypedUrls.Proofs.Grouping

/-!
# Programs that declare the same types

A type may be declared in several fragments, and the queries of a program model see a type
through all of them at once. `Program.SameTypes m m'` says that the accessors cannot tell two
programs apart: they declare the same full names, each type has the same members in the same
order, the same first base type and the same flags over its fragments, and the first fragments
of the types come in the same order with the same headers. How the members are split among
fragments is left open.

The queries built on the accessors then agree as well, although each of them also reads the list
of declarations itself:

* a walk up a base chain (`baseChain`, `roleOf?`) carries fuel of the number of declarations,
  which differs between the programs. A walk stops once it has seen every type, so fuel beyond
  the number of types it has not seen changes nothing (`baseChainFrom_fuel_stable`,
  `roleFrom_fuel_stable`);
* a name resolved by its simple name looks at every declaration, but keeps each full name once,
  sorted, so only the set of names counts (`resolveByName_eq`);
* the number of methods is the sum over the types of their methods (`methodCount_eq_sum`).
-/

namespace TypedUrls

/-- What the first fragment of a type says for the whole type: its name, kind, accessibility,
type parameters and containing type. -/
structure TypeDecl.Header where
  fullName : String
  kind : TypeKind
  accessibility : Accessibility
  typeParameters : List String
  containingType : Option String
deriving DecidableEq

/-- The header of a declaration. -/
def TypeDecl.header (t : TypeDecl) : TypeDecl.Header :=
  ⟨t.fullName, t.kind, t.accessibility, t.typeParameters, t.containingType⟩

namespace Program

open Descriptor (firstBy)

/-- Two programs that declare the same types, whatever fragments they split them into: the
same full names, and for each type the same methods, properties, attributes and interfaces in
the same order, the same first base type, abstract or static in some fragment alike, and the
first fragments in the same order with the same headers. -/
structure SameTypes (m m' : Program) : Prop where
  contains : ∀ n, m'.contains n = m.contains n
  baseTypeOf : ∀ n, m'.baseTypeOf n = m.baseTypeOf n
  methodsOf : ∀ n, m'.methodsOf n = m.methodsOf n
  propertiesOf : ∀ n, m'.propertiesOf n = m.propertiesOf n
  attributesOf : ∀ n, m'.attributesOf n = m.attributesOf n
  interfacesOf : ∀ n, m'.interfacesOf n = m.interfacesOf n
  isAbstract : ∀ n, (m'.fragments n).any (·.isAbstract) = (m.fragments n).any (·.isAbstract)
  isStatic : ∀ n, (m'.fragments n).any (·.isStatic) = (m.fragments n).any (·.isStatic)
  headers :
    (firstBy (·.fullName) m'.types).map (·.header) = (firstBy (·.fullName) m.types).map (·.header)

/-- The full names a program declares. -/
def names (m : Program) : Finset String := (m.types.map (·.fullName)).toFinset

theorem mem_names {m : Program} {n : String} : n ∈ m.names ↔ m.contains n = true := by
  simp [names, contains_eq_any]

theorem card_names_le (m : Program) : m.names.card ≤ m.types.length :=
  (List.toFinset_card_le _).trans_eq (List.length_map _)

theorem SameTypes.names_eq {m m' : Program} (h : m.SameTypes m') : m'.names = m.names := by
  ext n
  rw [mem_names, mem_names, h.contains]

theorem fragments_eq_nil {m : Program} {n : String} (h : m.contains n = false) :
    m.fragments n = [] := by
  by_contra hne
  rw [(fragments_ne_nil_iff m n).mp hne] at h
  cases h

theorem baseTypeOf_eq_none {m : Program} {n : String} (h : m.contains n = false) :
    m.baseTypeOf n = none := by
  simp [baseTypeOf, fragments_eq_nil h]

theorem contains_of_baseTypeOf {m : Program} {n b : String} (h : m.baseTypeOf n = some b) :
    m.contains n = true := by
  cases hc : m.contains n
  · rw [baseTypeOf_eq_none hc] at h
    cases h
  · rfl

/-- A type of the program not seen yet leaves one type fewer unseen once it is. -/
theorem card_unseen_lt {m : Program} {n : String} {seen : List String}
    (hn : m.contains n = true) (hseen : n ∉ seen) :
    (m.names \ (n :: seen).toFinset).card < (m.names \ seen.toFinset).card := by
  apply Finset.card_lt_card
  rw [List.toFinset_cons, Finset.ssubset_iff_of_subset
    (Finset.sdiff_subset_sdiff le_rfl (Finset.subset_insert _ _))]
  exact ⟨n, by simp [mem_names.mpr hn, hseen], by simp⟩

/-! ## Base chains -/

/-- A walk whose result is stable above some fuel gives one result for every fuel above it. -/
theorem eq_of_fuel_stable {β : Type} {f : Nat → β} {c a b : Nat}
    (hf : ∀ extra, f (c + 1 + extra) = f (c + 1)) (ha : c < a) (hb : c < b) : f a = f b := by
  obtain ⟨i, rfl⟩ := Nat.exists_eq_add_of_lt ha
  obtain ⟨j, rfl⟩ := Nat.exists_eq_add_of_lt hb
  rw [Nat.add_right_comm, hf, Nat.add_right_comm, hf]

/-- A walk up the base chain sees each type of the program at most once, so fuel beyond the
number of types it has not seen yet changes nothing. -/
theorem baseChainFrom_fuel_stable (m : Program) {fuel : Nat} (extra : Nat) {seen : List String}
    (n : String) (hfuel : (m.names \ seen.toFinset).card < fuel) :
    m.baseChainFrom (fuel + extra) seen n = m.baseChainFrom fuel seen n := by
  induction fuel generalizing seen n with
  | zero => omega
  | succ fuel ih =>
    rw [Nat.add_right_comm, baseChainFrom, baseChainFrom]
    split
    · rfl
    · next hgo =>
      simp only [Bool.or_eq_true, Bool.not_eq_true', not_or, Bool.not_eq_false,
        List.contains_iff_mem] at hgo
      have hless := card_unseen_lt hgo.1 hgo.2
      split
      · rw [ih _ (by omega)]
      · rfl

/-- The walk up the base chain reads the program only through `contains` and `baseTypeOf`. -/
theorem baseChainFrom_congr {m m' : Program} (hc : ∀ n, m'.contains n = m.contains n)
    (hb : ∀ n, m'.baseTypeOf n = m.baseTypeOf n) (fuel : Nat) (seen : List String) (n : String) :
    m'.baseChainFrom fuel seen n = m.baseChainFrom fuel seen n := by
  induction fuel generalizing seen n with
  | zero => rfl
  | succ fuel ih => simp only [baseChainFrom, hc, hb, ih]

/-- Both programs walk the same base chains: the fuel of either suffices for both. -/
theorem SameTypes.baseChain_eq {m m' : Program} (h : m.SameTypes m') (n : String) :
    m'.baseChain n = m.baseChain n := by
  have hm := m.card_names_le
  have hm' := m'.card_names_le
  rw [h.names_eq] at hm'
  unfold baseChain
  rw [baseChainFrom_congr h.contains h.baseTypeOf]
  -- both fuels exceed the number of names, above which the walk is stable
  have hunseen : (m.names \ ([] : List String).toFinset).card < m.names.card + 1 := by simp
  exact eq_of_fuel_stable (f := fun fuel => m.baseChainFrom fuel [] n)
    (fun extra => m.baseChainFrom_fuel_stable extra n hunseen) (by omega) (by omega)

/-! ## Attribute roles -/

/-- A walk up an attribute class's bases sees each type at most once, so fuel beyond the number
of types it has not seen yet changes nothing. -/
theorem roleFrom_fuel_stable (m : Program) (t : AttributeTable) {fuel : Nat} (extra : Nat)
    {seen : List String} (n : String) (hfuel : (m.names \ seen.toFinset).card < fuel) :
    m.roleFrom t (fuel + extra) seen n = m.roleFrom t fuel seen n := by
  induction fuel generalizing seen n with
  | zero => omega
  | succ fuel ih =>
    rw [Nat.add_right_comm, roleFrom, roleFrom]
    split
    · rfl
    · split
      · rfl
      · next hseen =>
        -- a base is only followed from a type of the program
        cases hb : m.baseTypeOf n with
        | none => rfl
        | some b =>
          have hless := card_unseen_lt (contains_of_baseTypeOf hb)
            (fun hmem => hseen (List.contains_iff_mem.mpr hmem))
          simp only [Option.bind_some]
          exact ih _ (by omega)

theorem roleFrom_congr {m m' : Program} (hb : ∀ n, m'.baseTypeOf n = m.baseTypeOf n)
    (t : AttributeTable) (fuel : Nat) (seen : List String) (n : String) :
    m'.roleFrom t fuel seen n = m.roleFrom t fuel seen n := by
  induction fuel generalizing seen n with
  | zero => rfl
  | succ fuel ih => simp only [roleFrom, hb, ih]

theorem SameTypes.roleOf?_eq {m m' : Program} (h : m.SameTypes m') (t : AttributeTable)
    (n : String) : m'.roleOf? t n = m.roleOf? t n := by
  have hm := m.card_names_le
  have hm' := m'.card_names_le
  rw [h.names_eq] at hm'
  unfold roleOf?
  rw [roleFrom_congr h.baseTypeOf]
  have hunseen : (m.names \ ([] : List String).toFinset).card < m.names.card + 1 := by simp
  exact eq_of_fuel_stable (f := fun fuel => m.roleFrom t fuel [] n)
    (fun extra => m.roleFrom_fuel_stable t extra n hunseen) (by omega) (by omega)

theorem SameTypes.attributeKind_eq {m m' : Program} (h : m.SameTypes m') (t : AttributeTable) :
    m'.attributeKind t = m.attributeKind t := by
  funext a
  simp only [attributeKind, h.roleOf?_eq]

theorem SameTypes.inheritedKinds_eq {m m' : Program} (h : m.SameTypes m') (t : AttributeTable)
    (n : String) : m'.inheritedKinds t n = m.inheritedKinds t n := by
  simp only [inheritedKinds, h.baseChain_eq, h.attributeKind_eq]
  congr 1
  exact List.flatMap_congr fun k _ => h.attributesOf k

/-! ## Names resolved as written in source -/

theorem mem_insertName {n y : String} {l : List String} : y ∈ insertName n l ↔ y = n ∨ y ∈ l := by
  induction l with
  | nil => simp [insertName]
  | cons x rest ih =>
    unfold insertName
    split_ifs with hlt heq
    · simp
    · subst heq
      simp
    · simp only [List.mem_cons, ih]
      tauto

/-- Inserting keeps a list of names strictly sorted. -/
theorem pairwise_insertName (n : String) {l : List String} (hl : l.Pairwise (· < ·)) :
    (insertName n l).Pairwise (· < ·) := by
  induction l with
  | nil => simp [insertName]
  | cons x rest ih =>
    obtain ⟨hx, hrest⟩ := List.pairwise_cons.mp hl
    unfold insertName
    split_ifs with hlt heq
    · exact List.Pairwise.cons (fun y hy => by
        rcases List.mem_cons.mp hy with rfl | hy
        · exact hlt
        · exact lt_trans hlt (hx y hy)) hl
    · exact hl
    · have hxn : x < n := lt_of_le_of_ne (not_lt.mp hlt) (Ne.symm heq)
      refine List.Pairwise.cons (fun y hy => ?_) (ih hrest)
      rcases mem_insertName.mp hy with rfl | hy
      · exact hxn
      · exact hx y hy

/-- The names `resolveByName` chooses among: those of the types with the simple name, sorted,
each once. -/
theorem candidates_spec (ts : List TypeDecl) (acc : List String) (hacc : acc.Pairwise (· < ·)) :
    (ts.foldl (fun acc t => insertName t.fullName acc) acc).Pairwise (· < ·) ∧
      ∀ y, y ∈ ts.foldl (fun acc t => insertName t.fullName acc) acc ↔
        y ∈ acc ∨ ∃ t ∈ ts, t.fullName = y := by
  induction ts generalizing acc with
  | nil => exact ⟨hacc, by simp⟩
  | cons t ts ih =>
    obtain ⟨hsorted, hmem⟩ := ih _ (pairwise_insertName t.fullName hacc)
    refine ⟨hsorted, fun y => ?_⟩
    simp only [List.foldl_cons, hmem, mem_insertName, List.mem_cons, exists_eq_or_imp]
    tauto

theorem resolve_map_fullName (m : Program) (n : String) :
    (m.resolve n).map (·.fullName) = if m.contains n then some n else none := by
  rw [← resolve_isSome]
  cases hr : m.resolve n with
  | none => rfl
  | some t =>
    simp [fullName_of_resolve hr]

theorem resolve_map_fullName_eq {m m' : Program} (hc : ∀ n, m'.contains n = m.contains n)
    (n : String) : (m'.resolve n).map (·.fullName) = (m.resolve n).map (·.fullName) := by
  rw [resolve_map_fullName, resolve_map_fullName, hc]

/-- The candidates for a simple name depend only on the names a program declares: they are
those names, sorted, each once. -/
theorem candidates_eq {m m' : Program} (hc : ∀ n, m'.contains n = m.contains n) (name : String) :
    (m'.types.filter (·.simpleName == name)).foldl (fun acc t => insertName t.fullName acc) [] =
      (m.types.filter (·.simpleName == name)).foldl (fun acc t => insertName t.fullName acc) [] := by
  -- the simple name is read off the full name
  have hsimple : ∀ (p : Program) (y : String),
      (∃ t ∈ p.types.filter (·.simpleName == name), t.fullName = y) ↔
        p.contains y = true ∧ TypeDecl.simpleName { fullName := y } = name := by
    intro p y
    simp only [List.mem_filter, beq_iff_eq, contains_eq_any, List.any_eq_true]
    constructor
    · rintro ⟨t, ⟨ht, hs⟩, rfl⟩
      exact ⟨⟨t, ht, by simp⟩, hs⟩
    · rintro ⟨⟨t, ht, hy⟩, hs⟩
      have hy : t.fullName = y := by simpa using hy
      exact ⟨t, ⟨ht, by rw [← hs, ← hy]; rfl⟩, hy⟩
  obtain ⟨hsorted', hmem'⟩ :=
    candidates_spec (m'.types.filter (·.simpleName == name)) [] List.Pairwise.nil
  obtain ⟨hsorted, hmem⟩ :=
    candidates_spec (m.types.filter (·.simpleName == name)) [] List.Pairwise.nil
  refine hsorted'.eq_of_mem_iff hsorted fun y => ?_
  simp only [hmem', hmem, List.not_mem_nil, false_or, hsimple, hc]

/-- Names resolved as written in source resolve to the same full names: which one depends only
on the set of names the programs declare. -/
theorem resolveByName_eq {m m' : Program} (hc : ∀ n, m'.contains n = m.contains n)
    (name : String) :
    (m'.resolveByName name).map (·.fullName) = (m.resolveByName name).map (·.fullName) := by
  unfold resolveByName
  rw [candidates_eq hc]
  -- a full name resolves in both programs or in neither, to itself
  have hexact := resolve_map_fullName_eq hc name
  cases hr : m.resolve name with
  | some t =>
    cases hr' : m'.resolve name with
    | some t' =>
      rw [hr, hr'] at hexact
      exact hexact
    | none =>
      rw [hr, hr'] at hexact
      cases hexact
  | none =>
    cases hr' : m'.resolve name with
    | some t' =>
      rw [hr, hr'] at hexact
      cases hexact
    | none =>
      dsimp only
      split
      · exact resolve_map_fullName_eq hc _
      · rfl

/-! ## The number of methods -/

/-- A sum over a list, regrouped by a key. -/
theorem sum_map_eq_sum_groups {α : Type} (key : α → String) (g : α → Nat) (l : List α) :
    (l.map g).sum = ∑ n ∈ (l.map key).toFinset, ((l.filter (key · == n)).map g).sum := by
  induction l with
  | nil => simp
  | cons a as ih =>
    rw [List.map_cons, List.sum_cons, ih, List.map_cons, List.toFinset_cons]
    -- the new element adds to the group of its key only
    have hgroup : ∀ n, (((a :: as).filter (key · == n)).map g).sum =
        (if key a = n then g a else 0) + ((as.filter (key · == n)).map g).sum := by
      intro n
      by_cases hn : key a = n <;> simp [hn]
    simp only [hgroup]
    by_cases hmem : key a ∈ (as.map key).toFinset
    · rw [Finset.insert_eq_of_mem hmem, Finset.sum_add_distrib, Finset.sum_ite_eq, if_pos hmem]
    · -- no element of `as` has the new key
      have hnone : ((as.filter (key · == key a)).map g).sum = 0 := by
        rw [List.filter_eq_nil_iff.mpr, List.map_nil, List.sum_nil]
        intro x hx hxa
        exact hmem (List.mem_toFinset.mpr (List.mem_map.mpr ⟨x, hx, by simpa using hxa⟩))
      rw [Finset.sum_insert hmem, Finset.sum_add_distrib, Finset.sum_ite_eq, if_neg hmem,
        if_pos rfl, hnone]
      omega

/-- The number of methods of a program, type by type. -/
theorem methodCount_eq_sum (m : Program) :
    m.methodCount = ∑ n ∈ m.names, (m.methodsOf n).length := by
  have hcount : m.methodCount = (m.types.map (·.methods.length)).sum := by
    unfold methodCount
    induction m.types with
    | nil => rfl
    | cons t ts ih => simp [ih]
  rw [hcount, sum_map_eq_sum_groups (·.fullName)]
  simp [names, methodsOf, fragments_eq_filter, List.length_flatMap]

theorem SameTypes.methodCount_eq {m m' : Program} (h : m.SameTypes m') :
    m'.methodCount = m.methodCount := by
  rw [methodCount_eq_sum, methodCount_eq_sum, h.names_eq]
  exact Finset.sum_congr rfl fun n _ => by rw [h.methodsOf]

end Program

end TypedUrls
