import Mathlib
import TypedUrls.Proofs.SameTypes

/-!
# Base chains

Two walks follow base types up through a program model: the base chain of a type
(`Program.baseChain`) and the search for the role of an attribute class (`Program.roleOf?`).
Each step goes from a name to the base type that the first fragment naming one names
(`baseTypeOf`). The links come from the program, so they may leave the model or come back to a
name already passed; each walk carries fuel and the names it has seen.

`BaseWalk m n l` says that `l` follows these links from `n` and passes no name twice. As each name
has at most one base type, the walks from one name are prefixes of one another. The main
statement, `baseChain_longest_roleOf_first`, says what the two walks return, fuel aside:

* the base chain of `n` is the longest walk from `n` through names the model declares; it is
  empty exactly when `n` is not declared;
* the role of an attribute class `c` is the table's role of the first name on the walk from `c`
  that the table lists. The walk goes on only from declared names (an undeclared name has no base
  type) and ends before a repeat; the role is `none` when no name on it is listed.

A walk through declared names passes at most as many names as the model has declarations
(`BaseWalk.length_le`), and each walk's fuel exceeds that, so the fuel never ends a walk.
-/

namespace TypedUrls

namespace Program

variable {m : Program}

/-- `l` walks up base types from `n`: it starts at `n`, each later name is the base type of the
name before it, and no name comes twice. -/
structure BaseWalk (m : Program) (n : String) (l : List String) : Prop where
  head : ∀ x ∈ l.head?, x = n
  chain : l.IsChain fun a b => m.baseTypeOf a = some b
  nodup : l.Nodup

theorem BaseWalk.nil (n : String) : m.BaseWalk n [] :=
  ⟨by simp, .nil, .nil⟩

/-- One step of a walk: it starts at `n`, never comes back to it, and goes on, if at all, as a
walk from the base type of `n`. -/
theorem baseWalk_cons_iff {n x : String} {rest : List String} :
    m.BaseWalk n (x :: rest) ↔
      x = n ∧ x ∉ rest ∧ (rest = [] ∨ ∃ b, m.baseTypeOf x = some b ∧ m.BaseWalk b rest) := by
  constructor
  · rintro ⟨hhead, hchain, hnodup⟩
    obtain ⟨hlink, hrest⟩ := List.isChain_cons.mp hchain
    obtain ⟨hx, hnodup⟩ := List.nodup_cons.mp hnodup
    refine ⟨by simpa using hhead, hx, ?_⟩
    cases rest with
    | nil => exact .inl rfl
    | cons b rest' => exact .inr ⟨b, hlink b rfl, by simp, hrest, hnodup⟩
  · rintro ⟨rfl, hx, hrest⟩
    rcases hrest with rfl | ⟨b, hb, hwalk⟩
    · exact ⟨by simp, .singleton x, List.nodup_singleton x⟩
    · refine ⟨by simp, List.isChain_cons.mpr ⟨fun y hy => ?_, hwalk.chain⟩,
        List.nodup_cons.mpr ⟨hx, hwalk.nodup⟩⟩
      rw [hwalk.head y hy]
      exact hb

/-- A walk cut short is a walk. -/
theorem BaseWalk.of_append {n : String} {l₁ l₂ : List String} (hw : m.BaseWalk n (l₁ ++ l₂)) :
    m.BaseWalk n l₁ :=
  ⟨fun y hy => hw.head y (by cases l₁ <;> simp_all), (List.isChain_append.mp hw.chain).1,
    (List.nodup_append.mp hw.nodup).1⟩

theorem baseWalk_singleton (n : String) : m.BaseWalk n [n] :=
  baseWalk_cons_iff.mpr ⟨rfl, List.not_mem_nil, .inl rfl⟩

/-- A walk through declared names passes at most as many names as the model has declarations. -/
theorem BaseWalk.length_le {n : String} {l : List String} (hw : m.BaseWalk n l)
    (hmodel : ∀ x ∈ l, m.contains x = true) : l.length ≤ m.types.length := by
  have hsub : l ⊆ m.types.map (·.fullName) := by
    intro x hx
    obtain ⟨t, ht, hname⟩ := contains_iff_exists.mp (hmodel x hx)
    exact List.mem_map.mpr ⟨t, ht, hname⟩
  simpa using hw.nodup.length_le_of_subset hsub

/-! ## The base chain -/

/-- The chain from `n` with any fuel and any seen names walks from `n` through declared names
it has not seen. -/
theorem baseWalk_baseChainFrom (fuel : Nat) (seen : List String) (n : String) :
    m.BaseWalk n (m.baseChainFrom fuel seen n) ∧
      ∀ x ∈ m.baseChainFrom fuel seen n, m.contains x = true ∧ x ∉ seen := by
  induction fuel generalizing seen n with
  | zero => exact ⟨.nil n, by simp [baseChainFrom]⟩
  | succ fuel ih =>
    rw [baseChainFrom]
    by_cases hstop : (!m.contains n || seen.contains n) = true
    · rw [if_pos hstop]
      exact ⟨.nil n, by simp⟩
    · rw [if_neg hstop]
      simp only [Bool.or_eq_true, Bool.not_eq_true', not_or, Bool.not_eq_false,
        List.contains_iff_mem] at hstop
      obtain ⟨hn, hseen⟩ := hstop
      cases hb : m.baseTypeOf n with
      | none => exact ⟨baseWalk_singleton n, by simp [hn, hseen]⟩
      | some b =>
        -- the rest is a walk from the base that avoids `n`, now seen
        obtain ⟨hwalk, hrest⟩ := ih (n :: seen) b
        have hfresh : n ∉ m.baseChainFrom fuel (n :: seen) b := fun h => (hrest n h).2 (by simp)
        refine ⟨baseWalk_cons_iff.mpr ⟨rfl, hfresh, .inr ⟨b, hb, hwalk⟩⟩, ?_⟩
        intro x hx
        rcases List.mem_cons.mp hx with rfl | hx
        · exact ⟨hn, hseen⟩
        · exact ⟨(hrest x hx).1, fun h => (hrest x hx).2 (List.mem_cons_of_mem n h)⟩

/-- Every walk from `n` through declared names not seen, no longer than the fuel, is a prefix of
the chain from `n`. -/
theorem prefix_baseChainFrom {fuel : Nat} {seen : List String} {n : String} {l : List String}
    (hw : m.BaseWalk n l) (hmodel : ∀ x ∈ l, m.contains x = true ∧ x ∉ seen)
    (hfuel : l.length ≤ fuel) : l <+: m.baseChainFrom fuel seen n := by
  induction l generalizing fuel seen n with
  | nil => exact List.nil_prefix
  | cons x rest ih =>
    obtain ⟨rfl, hfresh, hrest⟩ := baseWalk_cons_iff.mp hw
    obtain ⟨hx, hseen⟩ := hmodel x List.mem_cons_self
    obtain ⟨fuel, rfl⟩ := Nat.exists_eq_add_one.mpr (Nat.lt_of_lt_of_le (Nat.succ_pos _) hfuel)
    rw [baseChainFrom, if_neg (by simp [hx, hseen])]
    refine List.cons_prefix_cons.mpr ⟨rfl, ?_⟩
    rcases hrest with rfl | ⟨b, hb, hwalk⟩
    · exact List.nil_prefix
    · rw [hb]
      -- the rest of the walk avoids `x`, so it is a walk the recursive call can take
      refine ih hwalk (fun y hy => ⟨(hmodel y (List.mem_cons_of_mem x hy)).1, fun h => ?_⟩)
        (by simpa using hfuel)
      rcases List.mem_cons.mp h with rfl | h
      · exact hfresh hy
      · exact (hmodel y (List.mem_cons_of_mem x hy)).2 h

/-- The base chain is a walk through declared names, and every such walk is a prefix of it. -/
theorem baseChain_longest (n : String) :
    (m.BaseWalk n (m.baseChain n) ∧ ∀ x ∈ m.baseChain n, m.contains x = true) ∧
      ∀ l, m.BaseWalk n l → (∀ x ∈ l, m.contains x = true) → l <+: m.baseChain n := by
  obtain ⟨hwalk, hmodel⟩ := baseWalk_baseChainFrom (m := m) (m.types.length + 1) [] n
  refine ⟨⟨hwalk, fun x hx => (hmodel x hx).1⟩, fun l hl hlmodel => ?_⟩
  exact prefix_baseChainFrom hl (fun x hx => ⟨hlmodel x hx, List.not_mem_nil⟩)
    (by have := hl.length_le hlmodel; omega)

theorem baseChain_eq_nil_iff (n : String) : m.baseChain n = [] ↔ m.contains n = false := by
  constructor
  · intro h
    by_contra hn
    have hpre := (baseChain_longest (m := m) n).2 [n] (baseWalk_singleton n) (by simpa using hn)
    rw [h] at hpre
    exact List.cons_ne_nil _ _ (List.prefix_nil.mp hpre)
  · intro h
    simp [baseChain, baseChainFrom, h]

/-! ## Attribute roles -/

variable {t : AttributeTable} {r : AttributeRole}

/-- A role found within any fuel is the role of the last name of a walk whose earlier names are
declared, not seen and not listed. -/
theorem exists_walk_of_roleFrom {fuel : Nat} {seen : List String} {c : String}
    (h : m.roleFrom t fuel seen c = some r) :
    ∃ l x, m.BaseWalk c (l ++ [x]) ∧ (∀ y ∈ l, m.contains y = true ∧ y ∉ seen ∧
      t.roleOf? y = none) ∧ t.roleOf? x = some r := by
  induction fuel generalizing seen c with
  | zero => cases h
  | succ fuel ih =>
    rw [roleFrom] at h
    cases hc : t.roleOf? c with
    | some r' =>
      rw [hc] at h
      exact ⟨[], c, baseWalk_singleton c, by simp, hc.trans h⟩
    | none =>
      rw [hc] at h
      dsimp only at h
      by_cases hseen : seen.contains c = true
      · rw [if_pos hseen] at h
        cases h
      · rw [if_neg hseen] at h
        cases hb : m.baseTypeOf c with
        | none =>
          rw [hb] at h
          cases h
        | some b =>
          rw [hb, Option.bind_some] at h
          obtain ⟨l, x, hwalk, hl, hx⟩ := ih h
          -- `c` is listed nowhere further on: not in `l` (seen there), not at `x` (listed)
          have hfresh : c ∉ l ++ [x] := by
            intro hmem
            rcases List.mem_append.mp hmem with hmem | hmem
            · exact (hl c hmem).2.1 List.mem_cons_self
            · rw [List.mem_singleton.mp hmem, hx] at hc
              cases hc
          refine ⟨c :: l, x, baseWalk_cons_iff.mpr ⟨rfl, hfresh, .inr ⟨b, hb, hwalk⟩⟩, ?_, hx⟩
          intro y hy
          rcases List.mem_cons.mp hy with rfl | hy
          · exact ⟨contains_of_baseTypeOf hb, by simpa using hseen, hc⟩
          · obtain ⟨hmodel, hnot, hnone⟩ := hl y hy
            exact ⟨hmodel, fun h => hnot (List.mem_cons_of_mem c h), hnone⟩

/-- The walk finds the role of the last name of a walk whose earlier names are declared, not seen
and not listed, if the fuel exceeds their number. -/
theorem roleFrom_of_walk {fuel : Nat} {seen : List String} {c x : String} {l : List String}
    (hw : m.BaseWalk c (l ++ [x]))
    (hl : ∀ y ∈ l, m.contains y = true ∧ y ∉ seen ∧ t.roleOf? y = none)
    (hx : t.roleOf? x = some r) (hfuel : l.length < fuel) : m.roleFrom t fuel seen c = some r := by
  induction l generalizing fuel seen c with
  | nil =>
    obtain ⟨rfl, -, -⟩ := baseWalk_cons_iff.mp hw
    obtain ⟨fuel, rfl⟩ := Nat.exists_eq_add_one.mpr hfuel
    rw [roleFrom, hx]
  | cons y rest ih =>
    obtain ⟨rfl, hfresh, hrest⟩ := baseWalk_cons_iff.mp hw
    obtain ⟨-, hseen, hnone⟩ := hl y List.mem_cons_self
    obtain ⟨fuel, rfl⟩ := Nat.exists_eq_add_one.mpr (Nat.lt_of_le_of_lt (Nat.zero_le _) hfuel)
    rw [roleFrom, hnone]
    dsimp only
    rw [if_neg (by simpa using hseen)]
    rcases hrest with hnil | ⟨b, hb, hwalk⟩
    · exact absurd hnil (by simp)
    · rw [hb, Option.bind_some]
      -- the rest of the walk avoids `y`, which is now seen
      refine ih hwalk (fun z hz => ?_) (by simpa using hfuel)
      obtain ⟨hmodel, hnot, hz'⟩ := hl z (List.mem_cons_of_mem y hz)
      refine ⟨hmodel, fun h => ?_, hz'⟩
      rcases List.mem_cons.mp h with rfl | h
      · exact hfresh (List.mem_append_left _ hz)
      · exact hnot h

/-- The role of an attribute class is the table's role of the first listed name on the walk up
its bases through declared names. -/
theorem roleOf?_eq_some_iff (c : String) :
    m.roleOf? t c = some r ↔
      ∃ l x, m.BaseWalk c (l ++ [x]) ∧ (∀ y ∈ l, m.contains y = true ∧ t.roleOf? y = none) ∧
        t.roleOf? x = some r := by
  constructor
  · intro h
    obtain ⟨l, x, hw, hl, hx⟩ := exists_walk_of_roleFrom h
    exact ⟨l, x, hw, fun y hy => ⟨(hl y hy).1, (hl y hy).2.2⟩, hx⟩
  · rintro ⟨l, x, hw, hl, hx⟩
    -- the names before `x` are declared and distinct, so fewer than the fuel
    have hlen : l.length ≤ m.types.length := hw.of_append.length_le fun y hy => (hl y hy).1
    exact roleFrom_of_walk hw (fun y hy => ⟨(hl y hy).1, List.not_mem_nil, (hl y hy).2⟩) hx
      (by omega)

end Program

/-- The base chain of a type is the longest walk up its base types through declared names that
passes no name twice, and is empty exactly when the type is not declared. The role of an
attribute class is the table's role of the first name on its walk up base types that the table
lists, where the walk goes on only from declared names and stops before a repeat; there is none
when the walk passes no listed name. -/
theorem baseChain_longest_roleOf_first (m : Program) (n : String) :
    ((m.BaseWalk n (m.baseChain n) ∧ ∀ x ∈ m.baseChain n, m.contains x = true) ∧
      ∀ l, m.BaseWalk n l → (∀ x ∈ l, m.contains x = true) → l <+: m.baseChain n) ∧
    (m.baseChain n = [] ↔ m.contains n = false) ∧
    ∀ (t : AttributeTable) (r : AttributeRole), m.roleOf? t n = some r ↔
      ∃ l x, m.BaseWalk n (l ++ [x]) ∧ (∀ y ∈ l, m.contains y = true ∧ t.roleOf? y = none) ∧
        t.roleOf? x = some r :=
  ⟨Program.baseChain_longest n, Program.baseChain_eq_nil_iff n,
    fun _ _ => Program.roleOf?_eq_some_iff n⟩

end TypedUrls
