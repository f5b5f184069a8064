import Mathlib
import TypedUrls.Proofs.SameTypes

/-!
# Looking types up by name

A program model keeps its declarations in declaration order, and every query of it is a scan of
that list. The fragments of a type are the declarations with its full name, in order; a type is
declared when one of them exists; it resolves to the first; its members and interfaces are those
of its fragments, one fragment after the other.

A name written in source resolves by `Program.resolveByName`: as a full name when it is one,
else through the simple names of the declarations (`TypeDecl.simpleName`, the text after the last
`.` or `+` of the full name, `simpleName_split`). The candidates keep each full name once, so the
fragments of one type count as one: the name resolves to the first fragment of the one type with
that simple name, and to nothing when no type or several have it (`resolveByName_eq_some_iff`).

The main statement, `lookups_eq_scan`, puts these together.
-/

namespace TypedUrls

namespace Text

/-- The last piece of a text cut at the characters satisfying `p`, read from an accumulator of the
current piece: the text splits into a part ending with a cut (or empty) and the last piece, which
has no cut. -/
theorem piecesFrom_getLast? (p : Char → Bool) (cs acc : List Char) (hacc : ∀ c ∈ acc, p c = false) :
    ∃ pre last, (piecesFrom p cs acc).getLast? = some last ∧ acc.reverse ++ cs = pre ++ last ∧
      (∀ c ∈ last, p c = false) ∧ ∀ c ∈ pre.getLast?, p c = true := by
  induction cs generalizing acc with
  | nil => exact ⟨[], acc.reverse, by simp [piecesFrom], by simp, by simpa using hacc, by simp⟩
  | cons c cs ih =>
    rw [piecesFrom]
    by_cases hc : p c = true
    · -- a cut: the current piece ends, and the last piece lies after the cut
      rw [if_pos hc]
      obtain ⟨pre, last, hlast, hsplit, hnone, hcut⟩ := ih [] (by simp)
      refine ⟨acc.reverse ++ c :: pre, last, ?_, by simpa using hsplit, hnone, ?_⟩
      · rw [List.getLast?_cons, hlast]
        rfl
      · intro d hd
        cases pre with
        | nil => simp_all
        | cons e pre => exact hcut d (by simpa using hd)
    · rw [if_neg hc]
      obtain ⟨pre, last, hlast, hsplit, hnone, hcut⟩ :=
        ih (c :: acc) (by simpa [hc] using hacc)
      exact ⟨pre, last, hlast, by simpa using hsplit, hnone, hcut⟩

end Text

/-- A simple name is the text after the last `.` or `+` of the full name: the full name splits
into a part that is empty or ends with a separator, and the simple name, which has none. -/
theorem TypeDecl.simpleName_split (t : TypeDecl) :
    ∃ pre, t.fullName.toList = pre ++ t.simpleName.toList ∧
      (∀ c ∈ t.simpleName.toList, c ≠ '.' ∧ c ≠ '+') ∧ ∀ c ∈ pre.getLast?, c = '.' ∨ c = '+' := by
  obtain ⟨pre, last, hlast, hsplit, hnone, hcut⟩ :=
    Text.piecesFrom_getLast? (fun c => decide (c = '.' ∨ c = '+')) t.fullName.toList [] (by simp)
  have hsimple : t.simpleName = String.ofList last := by
    rw [simpleName, Text.pieces, List.getLast?_map, hlast]
    rfl
  refine ⟨pre, by simpa [hsimple] using hsplit, fun c hc => ?_, fun c hc => by simpa using hcut c hc⟩
  rw [hsimple, String.toList_ofList] at hc
  simpa using hnone c hc

namespace Program

variable {m : Program} {n : String}


/-- The names `resolveByName` chooses among for a simple name. -/
theorem mem_candidates_iff (name y : String) :
    y ∈ (m.types.filter (·.simpleName == name)).foldl (fun acc t => insertName t.fullName acc) [] ↔
      ∃ d ∈ m.types, d.simpleName = name ∧ d.fullName = y := by
  rw [((candidates_spec _ [] List.Pairwise.nil).2 y)]
  simp [and_assoc]

/-- The candidates are one name exactly when every declaration with the simple name has that full
name, and one does. -/
theorem candidates_eq_singleton_iff (name y : String) :
    (m.types.filter (·.simpleName == name)).foldl (fun acc t => insertName t.fullName acc) [] = [y] ↔
      (∃ d ∈ m.types, d.simpleName = name ∧ d.fullName = y) ∧
        ∀ d ∈ m.types, d.simpleName = name → d.fullName = y := by
  constructor
  · intro h
    have hmem := fun z => (mem_candidates_iff (m := m) name z).symm
    rw [h] at hmem
    refine ⟨(hmem y).mpr (List.mem_singleton_self y), fun d hd hs => ?_⟩
    exact List.mem_singleton.mp ((hmem d.fullName).mp ⟨d, hd, hs, rfl⟩)
  · rintro ⟨hsome, hall⟩
    -- a sorted list with the members of `[y]` is `[y]`
    refine (candidates_spec _ [] List.Pairwise.nil).1.eq_of_mem_iff (List.pairwise_singleton _ y)
      fun z => ?_
    rw [mem_candidates_iff, List.mem_singleton]
    constructor
    · rintro ⟨d, hd, hs, rfl⟩
      exact hall d hd hs
    · rintro rfl
      exact hsome

/-- A name written in source resolves as a full name when it is one; otherwise to the first
fragment of the one type whose simple name it is, and to nothing when no type or several types
have that simple name. -/
theorem resolveByName_eq_some_iff (t : TypeDecl) :
    m.resolveByName n = some t ↔
      m.resolve n = some t ∨
        (m.contains n = false ∧ m.resolve t.fullName = some t ∧ t.simpleName = n ∧
          ∀ d ∈ m.types, d.simpleName = n → d.fullName = t.fullName) := by
  unfold resolveByName
  cases hr : m.resolve n with
  | some t' =>
    have hc : m.contains n = true := by rw [← resolve_isSome, hr]; rfl
    simp [hc]
  | none =>
    have hc : m.contains n = false := by rw [← resolve_isSome, hr]; rfl
    simp only [reduceCtorEq, false_or, hc, true_and]
    split
    · next y hy =>
      obtain ⟨⟨d, hd, hs, hname⟩, hall⟩ := (candidates_eq_singleton_iff n y).mp hy
      constructor
      · intro ht
        -- the first fragment of `y` has the simple name of every fragment of `y`
        have hfull := fullName_of_resolve ht
        refine ⟨by rw [hfull]; exact ht, ?_, by rw [hfull]; exact hall⟩
        rw [← hs]
        exact TypeDecl.simpleName_eq (hfull.trans hname.symm)
      · rintro ⟨ht, hs', -⟩
        have hy' : t.fullName = y := hall t (mem_of_resolve ht) hs'
        rw [← hy']
        exact ht
    · next hne =>
      simp only [reduceCtorEq, false_iff, not_and]
      intro ht hs hall
      exact hne t.fullName ((candidates_eq_singleton_iff n t.fullName).mpr
        ⟨⟨t, mem_of_resolve ht, hs, rfl⟩, hall⟩)

end Program

/-- A program model built from a list of declarations indexes them by full name: the index holds
a name exactly when some declaration has it, and then the positions of those declarations in
declaration order. Every lookup through the index is therefore a scan of the declarations in
order: the fragments of a type are the declarations with its full name, in order; it is declared
when one exists; it resolves to the first; its methods, properties, attributes and interfaces are
those of these declarations one after the other. A simple name is the text after the last `.` or
`+` of a full name, and a name written in source resolves as a full name, else to the first
fragment of the one type with that simple name, and to nothing when no type or several have it. -/
theorem Program.lookups_eq_scan (ts : List TypeDecl) (n : String) :
    (Program.new ts).index.lookup n =
      (if ts.any (·.fullName == n) then some ((ts.zipIdx.filter (·.1.fullName == n)).map (·.2))
       else none) ∧
    (Program.new ts).fragments n = ts.filter (fun d => decide (d.fullName = n)) ∧
    ((Program.new ts).contains n = true ↔ ∃ d ∈ ts, d.fullName = n) ∧
    (Program.new ts).resolve n = ts.find? (fun d => decide (d.fullName = n)) ∧
    (Program.new ts).methodsOf n = (ts.filter (fun d => decide (d.fullName = n))).flatMap (·.methods) ∧
    (Program.new ts).propertiesOf n =
      (ts.filter (fun d => decide (d.fullName = n))).flatMap (·.properties) ∧
    (Program.new ts).attributesOf n =
      (ts.filter (fun d => decide (d.fullName = n))).flatMap (·.attributes) ∧
    (Program.new ts).interfacesOf n =
      (ts.filter (fun d => decide (d.fullName = n))).flatMap (·.interfaces) ∧
    (∀ d : TypeDecl, ∃ pre, d.fullName.toList = pre ++ d.simpleName.toList ∧
      (∀ c ∈ d.simpleName.toList, c ≠ '.' ∧ c ≠ '+') ∧ ∀ c ∈ pre.getLast?, c = '.' ∨ c = '+') ∧
    ∀ t, (Program.new ts).resolveByName n = some t ↔
      (Program.new ts).resolve n = some t ∨
        ((Program.new ts).contains n = false ∧ (Program.new ts).resolve t.fullName = some t ∧
          t.simpleName = n ∧ ∀ d ∈ ts, d.simpleName = n → d.fullName = t.fullName) := by
  -- the fragments through the index are the scan; the member lists are read over the fragments
  have hscan : (Program.new ts).fragments n = ts.filter (fun d => decide (d.fullName = n)) := by
    rw [Program.fragments_eq_filter]
    simp only [Program.types_new, Bool.beq_eq_decide_eq]
  refine ⟨Program.lookup_indexTypes ts n, hscan, Program.contains_iff_exists, ?_,
    by rw [Program.methodsOf, hscan], by rw [Program.propertiesOf, hscan],
    by rw [Program.attributesOf, hscan], by rw [Program.interfacesOf, hscan],
    TypeDecl.simpleName_split, Program.resolveByName_eq_some_iff⟩
  rw [Program.resolve_eq_find?]
  simp only [Program.types_new, Bool.beq_eq_decide_eq]

end TypedUrls
