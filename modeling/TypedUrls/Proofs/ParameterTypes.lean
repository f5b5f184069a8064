import Mathlib
import TypedUrls.Route.Template

/-!
# The types of route parameters

A route parameter `{name:c₁:…:cₙ}` gets its type from its constraints, read against a
`ConstraintTable`. The reader scans the constraints left to right with an early return and a
tentative answer; this module states the result without the scan.

* A constraint calls a function, its text before the first `(`, trimmed (`Route.callee`). It is
  *string-shaped* when the table lists that function as a string constraint or function, a
  *range function* when it lists it as a numeric range function, and it *names* a type when a key
  of the type constraints equals it without regard to ASCII case (`ConstraintTable.namedType`,
  the first such key).
* The constraint that *decides* is the first one that is string-shaped, or that names a type
  without being a range function (`ConstraintTable.decides`). It gives the default type if it is
  string-shaped, else the type it names. With no deciding constraint the type is the numeric
  range type if some constraint is a range function, else the default type
  (`ConstraintTable.settledType`, equal to the reader's `resolveType` by `resolveType_eq`).
* Constraints whose parentheses do not balance give the default type (`Route.Balanced`, the
  declarative reading of the reader's depth count, `isBalanced_iff`).

An optional parameter, whose last top-level `:`-piece ends with `?` once trailing blanks are
dropped, has that type followed by `?` (`parameters_type`).
-/

namespace TypedUrls

open Text

namespace Route

/-! ## Balanced parentheses -/

/-- Read with `d` parentheses already open, no prefix of the text closes more than are open, and
at its end none is. -/
def ClosesFrom (d : Nat) (cs : List Char) : Prop :=
  (∀ p, p <+: cs → p.count ')' ≤ d + p.count '(') ∧ cs.count ')' = d + cs.count '('

/-- No prefix of the text closes more parentheses than it opens, and the whole text closes as
many as it opens. -/
def Balanced (cs : List Char) : Prop := ClosesFrom 0 cs

theorem forall_prefix_cons {c : Char} {cs : List Char} {f : List Char → Prop} :
    (∀ p, p <+: c :: cs → f p) ↔ f [] ∧ ∀ p, p <+: cs → f (c :: p) := by
  simp only [List.prefix_cons_iff]
  constructor
  · intro h
    exact ⟨h [] (.inl rfl), fun p hp => h _ (.inr ⟨p, rfl, hp⟩)⟩
  · rintro ⟨hnil, hcons⟩ p (rfl | ⟨t, rfl, ht⟩)
    · exact hnil
    · exact hcons t ht

/-- A character that takes the count of open parentheses from `d` to `d'` on every text after
it. -/
theorem closesFrom_cons {c : Char} {cs : List Char} {d : Nat} (d' : Nat)
    (hstep : ∀ p : List Char,
      ((c :: p).count ')' ≤ d + (c :: p).count '(' ↔ p.count ')' ≤ d' + p.count '(') ∧
        ((c :: p).count ')' = d + (c :: p).count '(' ↔ p.count ')' = d' + p.count '(')) :
    ClosesFrom d (c :: cs) ↔ ClosesFrom d' cs := by
  unfold ClosesFrom
  rw [forall_prefix_cons]
  constructor
  · rintro ⟨⟨-, hall⟩, hend⟩
    exact ⟨fun p hp => (hstep p).1.mp (hall p hp), (hstep cs).2.mp hend⟩
  · rintro ⟨hall, hend⟩
    exact ⟨⟨by simp, fun p hp => (hstep p).1.mpr (hall p hp)⟩, (hstep cs).2.mpr hend⟩

/-- The depth count from `d` open parentheses accepts exactly the texts that close from `d`. -/
theorem balancedFrom_iff (d : Nat) (cs : List Char) :
    balancedFrom d cs = true ↔ ClosesFrom d cs := by
  induction cs generalizing d with
  | nil => simp [balancedFrom, ClosesFrom, eq_comm]
  | cons c cs ih =>
    by_cases hopen : c = '('
    · -- one more parenthesis is open
      subst hopen
      have hstep : balancedFrom d ('(' :: cs) = balancedFrom ((d + 1 : Nat) : Int) cs := by
        simp [balancedFrom]
      rw [hstep, ih, closesFrom_cons (d + 1)]
      intro p
      rw [List.count_cons_of_ne (by decide), List.count_cons_self]
      constructor <;> constructor <;> intro h <;> omega
    · by_cases hclose : c = ')'
      · subst hclose
        cases d with
        | zero =>
          -- a parenthesis closed while none is open
          have hstep : balancedFrom ((0 : Nat) : Int) (')' :: cs) = false := by
            simp [balancedFrom]
          rw [hstep, Bool.false_eq_true, false_iff]
          rintro ⟨hall, -⟩
          have := hall [')'] (List.prefix_cons_iff.mpr (.inr ⟨[], rfl, List.nil_prefix⟩))
          simp at this
        | succ d =>
          have hstep : balancedFrom ((d + 1 : Nat) : Int) (')' :: cs) =
              balancedFrom (d : Int) cs := by
            simp [balancedFrom]
          rw [hstep, ih, closesFrom_cons d]
          intro p
          rw [List.count_cons_self, List.count_cons_of_ne (by decide)]
          constructor <;> constructor <;> intro h <;> omega
      · have hstep : balancedFrom d (c :: cs) = balancedFrom d cs := by
          simp [balancedFrom, hopen, hclose]
        rw [hstep, ih, closesFrom_cons d]
        intro p
        rw [List.count_cons_of_ne hclose, List.count_cons_of_ne hopen]
        exact ⟨Iff.rfl, Iff.rfl⟩

/-- The reader's depth count accepts exactly the balanced texts. -/
theorem isBalanced_iff (cs : List Char) : isBalanced cs = true ↔ Balanced cs :=
  balancedFrom_iff 0 cs

instance : DecidablePred Balanced := fun cs => decidable_of_iff _ (isBalanced_iff cs)

/-! ## Constraints and their functions -/

/-- The function a constraint calls: its text before the first `(`, trimmed. -/
def callee (c : String) : String :=
  trim (String.ofList (c.toList.takeWhile (· ≠ '(')))

end Route

namespace ConstraintTable

open Route

variable (t : ConstraintTable)

/-- The constraint makes a parameter a string. -/
def stringShaped (c : String) : Bool :=
  listed t.stringConstraints (callee c) || listed t.stringFunctions (callee c)

/-- The constraint calls a numeric range function. -/
def rangeFunction (c : String) : Bool :=
  listed t.numericRangeFunctions (callee c)

/-- The type that the first key equal to the constraint's function names. -/
def namedType (c : String) : Option String :=
  (t.typeConstraints.find? (eqIgnoreAsciiCase ·.1 (callee c))).map (·.2)

/-- The constraint settles the type: it is string-shaped, or it names a type and calls no range
function. -/
def decides (c : String) : Bool :=
  t.stringShaped c || (!t.rangeFunction c && (t.namedType c).isSome)

/-- The type a deciding constraint gives. -/
def decidedType (c : String) : String :=
  if t.stringShaped c then t.defaultType else (t.namedType c).getD t.defaultType

/-- The type that balanced constraints give: the first deciding one's, else the numeric range
type when a range function occurs, else the default type. -/
def settledType (cs : List String) : String :=
  match cs.find? t.decides with
  | some c => t.decidedType c
  | none => if cs.any t.rangeFunction then t.numericRangeType else t.defaultType

/-- The type that constraints give: the default type unless all balance. -/
def typeOf (cs : List String) : String :=
  if ∀ c ∈ cs, Balanced c.toList then t.settledType cs else t.defaultType

end ConstraintTable

namespace Route

/-! ## The reader's scan -/

/-- One step of the scan, in the words of the table: a string-shaped constraint returns the
default type, a range function makes its type tentative, and a named type is returned. -/
theorem resolveFrom_cons (table : ConstraintTable) (r : Option String) (c : String)
    (cs : List String) :
    resolveFrom table r (c :: cs) =
      if table.stringShaped c then table.defaultType
      else if table.rangeFunction c then resolveFrom table (some table.numericRangeType) cs
      else (table.namedType c).getD (resolveFrom table r cs) := by
  rw [resolveFrom]
  unfold ConstraintTable.stringShaped ConstraintTable.rangeFunction ConstraintTable.namedType callee
  split_ifs
  · rfl
  · rfl
  · cases table.typeConstraints.find? _ <;> rfl

/-- A deciding constraint ends the scan with its type. -/
theorem resolveFrom_cons_of_decides {table : ConstraintTable} {c : String}
    (hd : table.decides c = true) (r : Option String) (cs : List String) :
    resolveFrom table r (c :: cs) = table.decidedType c := by
  rw [resolveFrom_cons]
  by_cases hstring : table.stringShaped c
  · simp [ConstraintTable.decidedType, hstring]
  · -- not string-shaped, so it names a type and calls no range function
    have hnamed : table.rangeFunction c = false ∧ (table.namedType c).isSome := by
      simpa [ConstraintTable.decides, hstring] using hd
    obtain ⟨named, hsome⟩ := Option.isSome_iff_exists.mp hnamed.2
    simp [ConstraintTable.decidedType, hstring, hnamed.1, hsome]

/-- A constraint that does not decide passes the scan on, its type made tentative when it calls a
range function. -/
theorem resolveFrom_cons_of_not_decides {table : ConstraintTable} {c : String}
    (hd : table.decides c = false) (r : Option String) (cs : List String) :
    resolveFrom table r (c :: cs) =
      resolveFrom table (if table.rangeFunction c then some table.numericRangeType else r) cs := by
  have hstring : table.stringShaped c = false := by
    simp_all [ConstraintTable.decides]
  rw [resolveFrom_cons, if_neg (by simp [hstring])]
  by_cases hrange : table.rangeFunction c
  · rw [if_pos hrange, if_pos hrange]
  · -- neither a range function nor a named type: the constraint is passed over
    have hnamed : table.namedType c = none := by
      simpa [ConstraintTable.decides, hstring, hrange] using hd
    rw [if_neg hrange, if_neg hrange, hnamed, Option.getD_none]

/-- The scan with a tentative type `r` gives the deciding constraint's type, else the numeric
range type once a range function has occurred, else the tentative type or the default. -/
theorem resolveFrom_eq (table : ConstraintTable) (r : Option String) (cs : List String) :
    resolveFrom table r cs =
      match cs.find? table.decides with
      | some c => table.decidedType c
      | none => (if cs.any table.rangeFunction then some table.numericRangeType else r).getD
          table.defaultType := by
  induction cs generalizing r with
  | nil => rfl
  | cons c cs ih =>
    cases hd : table.decides c with
    | true => rw [resolveFrom_cons_of_decides hd, List.find?_cons_of_pos hd]
    | false =>
      rw [resolveFrom_cons_of_not_decides hd, ih, List.find?_cons_of_neg (by simp [hd])]
      cases cs.find? table.decides with
      | some d => rfl
      | none => by_cases hrange : table.rangeFunction c <;> simp [hrange]

/-- The reader's type resolution is the settled type. -/
theorem resolveType_eq (table : ConstraintTable) (cs : List String) :
    resolveType table cs = table.settledType cs := by
  rw [resolveType, resolveFrom_eq, ConstraintTable.settledType]
  cases cs.find? table.decides with
  | some c => rfl
  | none => by_cases h : cs.any table.rangeFunction <;> simp [h]

/-- The reader's choice between the settled type and the default is the type the constraints
give. -/
theorem typeOf_eq (table : ConstraintTable) (cs : List String) :
    (if cs.all (isBalanced ·.toList) then resolveType table cs else table.defaultType) =
      table.typeOf cs := by
  have hall : cs.all (isBalanced ·.toList) = true ↔ ∀ c ∈ cs, Balanced c.toList := by
    simp [List.all_eq_true, isBalanced_iff]
  rw [ConstraintTable.typeOf, resolveType_eq]
  by_cases hb : ∀ c ∈ cs, Balanced c.toList
  · rw [if_pos (hall.mpr hb), if_pos hb]
  · rw [if_neg (mt hall.mp hb), if_neg hb]

/-! ## A parameter's text -/

/-- The last top-level `:`-piece of a parameter's text ends with `?` once trailing blanks are
dropped. -/
def optionalMark (segment : List Char) : Bool :=
  (trimEnd (String.ofList ((splitTop ':' segment).getLastD []))).toList.getLast? == some '?'

/-- The constraints of a parameter's text: its top-level `:`-pieces after the name, with the `?`
and the `=value` of the last one peeled off. -/
def constraintsOf (segment : List Char) : List String :=
  let pieces := splitTop ':' segment
  ((pieces.dropLast ++ [(lastPiece (pieces.getLastD [])).1]).drop 1).map String.ofList

/-- The last piece marks its parameter optional when it ends with `?` before trailing blanks. -/
theorem lastPiece_optional (piece : List Char) :
    (lastPiece piece).2.1 = ((trimEnd (String.ofList piece)).toList.getLast? == some '?') := by
  unfold lastPiece
  dsimp only
  split <;> split <;> simp_all

/-- A parameter's type is the type its constraints give, followed by `?` exactly when its text
marks it optional. -/
theorem parameter_type {table : ConstraintTable} {segment : List Char} {p : Descriptor.Parameter}
    (h : parameter table segment = some p) :
    p.type = if optionalMark segment then table.typeOf (constraintsOf segment) ++ "?"
      else table.typeOf (constraintsOf segment) := by
  unfold parameter at h
  dsimp only at h
  split at h
  · cases h
  · next rawName constraints hpieces =>
    split at h
    · cases h
    · obtain rfl := Option.some.inj h
      have hconstraints : constraintsOf segment = constraints.map String.ofList := by
        rw [constraintsOf, hpieces]
        rfl
      rw [hconstraints, ← typeOf_eq, optionalMark, ← lastPiece_optional]
      -- a default changes no type
      split <;> dsimp only [Descriptor.Parameter.withDefault]

/-- Every parameter of a template is declared by the text of one of its `{...}`, and has the type
that text's constraints give, followed by `?` exactly when the text marks it optional. -/
theorem parameters_type (table : ConstraintTable) (template : String) :
    ∀ p ∈ parameters table template, ∃ segment ∈ segments template,
      parameter table segment = some p ∧
        p.type = if optionalMark segment then table.typeOf (constraintsOf segment) ++ "?"
          else table.typeOf (constraintsOf segment) := by
  intro p hp
  obtain ⟨segment, hsegment, hp⟩ := List.mem_filterMap.mp hp
  exact ⟨segment, hsegment, hp, parameter_type hp⟩

/-- In `{id:min(1):alpha?}` the range function `min` suggests `int`, but the string constraint
`alpha` after it decides: the parameter is an optional string. -/
theorem range_then_string_type :
    ({ name := "id", type := "string?" } : Descriptor.Parameter) ∈
        parameters {} "/items/\x7bid:min(1):alpha?\x7d" ∧
      ∃ segment ∈ segments "/items/\x7bid:min(1):alpha?\x7d",
        parameter {} segment = some { name := "id", type := "string?" } ∧
          "string?" = if optionalMark segment then ConstraintTable.typeOf {} (constraintsOf segment) ++ "?"
            else ConstraintTable.typeOf {} (constraintsOf segment) :=
  have hp : ({ name := "id", type := "string?" } : Descriptor.Parameter) ∈
      parameters {} "/items/\x7bid:min(1):alpha?\x7d" := by
    rw [show parameters {} "/items/\x7bid:min(1):alpha?\x7d" = [{ name := "id", type := "string?" }] by rfl]
    exact List.mem_singleton_self _
  ⟨hp, parameters_type {} _ _ hp⟩

end Route

end TypedUrls
