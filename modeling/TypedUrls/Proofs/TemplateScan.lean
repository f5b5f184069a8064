import Mathlib
import TypedUrls.Route.Template

/-!
# Reading a route template in pieces

The scan of a route template (`Route.scanFrom`) looks one character ahead: `{{` and `}}` are
literal braces, a lone `{` opens a parameter, and a parameter runs to the first `}` outside its
parentheses. A template cut in two is still read piece by piece, as long as the scan of the
first piece leaves no parameter open:

* between parameters a `}` changes nothing, alone or doubled (`scanFrom_close`), so a `}` that
  ends the first piece may pair with one that starts the second without harm;
* a `{` that ends the first piece would open a parameter there, which the hypothesis rules out.

So the scan of `a ++ b` is that of `a` followed by that of `b` (`scanFrom_append`), and the
parameters of `a ++ b` are those of `a` followed by those of `b` (`parameters_append`).
-/

namespace TypedUrls.Route

/-! ## Steps between parameters -/

/-- Between parameters a `}` is passed over, alone or doubled. -/
@[simp] theorem scanFrom_close (cs : List Char) : scanFrom none ('}' :: cs) = scanFrom none cs := by
  induction cs with
  | nil => rfl
  | cons c cs ih =>
    by_cases hc : c = '}'
    · -- `}}` is skipped whole; the lone `}` left in `cs` is passed over by induction
      subst hc
      rw [scanFrom, ih]
    · rw [scanFrom]
      all_goals simp_all

/-- Between parameters a character that is no brace is passed over. -/
theorem scanFrom_plain {c : Char} (hopen : c ≠ '{') (hclose : c ≠ '}') (cs : List Char) :
    scanFrom none (c :: cs) = scanFrom none cs := by
  rw [scanFrom]
  all_goals simp_all

/-- A `{` followed by a character opens a parameter with that character, unless it is a second
`{`. -/
theorem scanFrom_open {c : Char} (hc : c ≠ '{') (cs : List Char) :
    scanFrom none ('{' :: c :: cs) = scanFrom (some (0, [])) (c :: cs) := by
  rw [scanFrom]
  all_goals simp_all

/-! ## A template in two pieces -/

/-- A scan that ends with no parameter open reads what follows from the state between
parameters. -/
theorem scanFrom_append {inside : Option (Nat × List Char)} {a : List Char}
    (h : (scanFrom inside a).2 = none) (b : List Char) :
    scanFrom inside (a ++ b) =
      ((scanFrom inside a).1 ++ (scanFrom none b).1, (scanFrom none b).2) := by
  fun_induction scanFrom inside a with
  | case1 inside =>
    obtain rfl : inside = none := h
    rfl
  | case2 rest ih | case3 rest ih =>
    rw [List.cons_append, List.cons_append, scanFrom]
    exact ih h
  | case4 rest hrest ih =>
    -- a `{` ending the piece would leave its parameter open
    obtain _ | ⟨c, rest⟩ := rest
    · simp [scanFrom] at h
    · have hc : c ≠ '{' := fun hc => hrest rest (by rw [hc])
      rw [List.cons_append, List.cons_append, scanFrom_open hc, ← List.cons_append]
      exact ih h
  | case5 c rest _ _ hopen ih =>
    by_cases hclose : c = '}'
    · subst hclose
      rw [List.cons_append, scanFrom_close]
      exact ih h
    · rw [List.cons_append, scanFrom_plain hopen hclose]
      exact ih h
  | case6 depth acc rest ih | case7 depth acc rest _ ih =>
    rw [List.cons_append, scanFrom]
    simpa using ih h
  | case8 depth acc c rest hleft hright hclose after ih =>
    rw [List.cons_append, scanFrom]
    rw [if_neg hleft, if_neg hright, if_pos hclose, ih h]
    rfl
  | case9 depth acc c rest hleft hright hclose ih =>
    rw [List.cons_append, scanFrom]
    rw [if_neg hleft, if_neg hright, if_neg hclose]
    exact ih h

/-- The parameters of a template cut in two, the first piece leaving no parameter open, are those
of the first piece followed by those of the second. -/
theorem parameters_append (table : ConstraintTable) (a b : String)
    (h : (scanFrom none a.toList).2 = none) :
    parameters table (a ++ b) = parameters table a ++ parameters table b := by
  have hsegments : segments (a ++ b) = segments a ++ segments b := by
    simp only [segments, String.toList_append, scanFrom_append h, h, Option.map_none,
      Option.toList_none, List.append_nil, List.append_assoc]
  rw [parameters, hsegments, List.filterMap_append]
  rfl

/-- `/x/{id:int}}` ends with a lone `}` that pairs with the first `}` of `}{slug?}`; the two
templates still read as one. -/
theorem parameters_append_close_pair :
    (scanFrom none "/x/\x7bid:int\x7d\x7d".toList).2 = none ∧
      parameters {} ("/x/\x7bid:int\x7d\x7d" ++ "\x7d\x7bslug?\x7d") =
        parameters {} "/x/\x7bid:int\x7d\x7d" ++ parameters {} "\x7d\x7bslug?\x7d" :=
  ⟨by decide, parameters_append {} "/x/\x7bid:int\x7d\x7d" "\x7d\x7bslug?\x7d" (by decide)⟩

end TypedUrls.Route
