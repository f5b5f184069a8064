import Mathlib
import TypedUrls.Route.Template

/-!
# The defaults of route parameters

A route parameter `{name:constraints=value}` gets a default when its text reads as a value of the
parameter's type (`Route.typedDefault`). `DefaultFits t v` lists what a default of type `t` can
be: the readers are those of the program, so an `int` default is any integer of 64 bits, and a
`decimal` default keeps any text that reads as a binary64 literal, `NaN`, `inf` and `5.`
included. Every other type gets no default.

The main statement, `parameters_default_fits`, says that every default of a parsed parameter fits
the type the parameter's values have, its type name without the `?` of an optional parameter.
It is all the reader promises: the default of `{id:int=3000000000}` is an integer outside the
range of a 32-bit `int` (`int_default_out_of_range`).
-/

namespace TypedUrls.Route

open Descriptor

/-- The defaults a route parameter of type `t` can get: an integer of 64 bits for `int` and
`long`, a binary32 for `float`, a binary64 for `double`, a text that reads as a binary64 literal
for `decimal`, a boolean for `bool` and a text for `string`. No other type has one. -/
inductive DefaultFits : String → Constant → Prop
  | int (i : Int) : -((Nat.pow 2 63 : Nat) : Int) ≤ i → i < ((Nat.pow 2 63 : Nat) : Int) →
      DefaultFits "int" (.integer i)
  | long (i : Int) : -((Nat.pow 2 63 : Nat) : Int) ≤ i → i < ((Nat.pow 2 63 : Nat) : Int) →
      DefaultFits "long" (.integer i)
  | float (x : Binary32) : DefaultFits "float" (.float x)
  | double (x : Binary64) : DefaultFits "double" (.double x)
  | decimal (text : String) (f : FloatLiteral) : FloatLiteral.read? text = .ok f →
      DefaultFits "decimal" (.decimal text)
  | bool (b : Bool) : DefaultFits "bool" (.bool b)
  | string (s : String) : DefaultFits "string" (.string s)

/-- The type of a parameter's values: its type name without a trailing `?`. -/
def valueType (t : String) : String :=
  match t.toList.getLast? with
  | some '?' => String.ofList t.toList.dropLast
  | _ => t

theorem valueType_append_optional (t : String) : valueType (t ++ "?") = t := by
  simp [valueType]

/-- A type that has defaults names no optional type. -/
theorem DefaultFits.valueType_eq {t : String} {v : Constant} (h : DefaultFits t v) :
    valueType t = t := by
  cases h <;> decide

theorem readInteger?_bounds {s : String} {i : Int} (h : readInteger? s = some i) :
    -((Nat.pow 2 63 : Nat) : Int) ≤ i ∧ i < ((Nat.pow 2 63 : Nat) : Int) := by
  unfold readInteger? at h
  split at h
  dsimp only at h
  split at h
  · cases h
  · obtain ⟨hrange, hsome⟩ := Option.ite_none_right_eq_some.mp h
    rw [← Option.some.inj hsome]
    exact hrange

/-- A default read from a text fits the type it was read for. -/
theorem typedDefault_fits {t text : String} {v : Constant} (h : typedDefault t text = some v) :
    DefaultFits t v := by
  unfold typedDefault at h
  simp only at h
  split_ifs at h with hint hfloat hdouble hdecimal hbool htrue hfalse hstring
  · obtain ⟨i, hi, rfl⟩ := Option.map_eq_some_iff.mp h
    obtain ⟨lo, hi'⟩ := readInteger?_bounds hi
    rcases hint with rfl | rfl
    · exact .int i lo hi'
    · exact .long i lo hi'
  · subst hfloat
    split at h <;> cases h
    exact .float _
  · subst hdouble
    split at h <;> cases h
    exact .double _
  · subst hdecimal
    split at h
    · next f hf =>
      cases h
      exact .decimal text f hf
    · cases h
  · subst hbool
    cases h
    exact .bool true
  · subst hbool
    cases h
    exact .bool false
  · subst hstring
    cases h
    exact .string text

/-- The default of a parameter read from one `{...}` fits its type, less the `?` of an optional
parameter. -/
theorem parameter_default_fits {table : ConstraintTable} {segment : List Char} {p : Parameter}
    {v : Constant} (hp : parameter table segment = some p) (hv : p.default = some v) :
    DefaultFits (valueType p.type) v := by
  unfold parameter at hp
  dsimp only at hp
  split at hp
  · cases hp
  · split at hp
    · cases hp
    · obtain rfl := Option.some.inj hp
      -- the default is read for the resolved type, and `?` is put after it only then
      split at hv
      · next w hw =>
        simp only [Parameter.withDefault, Option.some.injEq] at hv
        subst hv
        obtain ⟨text, -, htyped⟩ := Option.bind_eq_some_iff.mp hw
        have hfits := typedDefault_fits htyped
        simp only [Parameter.withDefault]
        split
        · rw [valueType_append_optional]; exact hfits
        · rw [hfits.valueType_eq]; exact hfits
      · simp at hv

/-- Every default that a route template gives a parameter fits the type of the parameter's
values. -/
theorem parameters_default_fits (table : ConstraintTable) (template : String) :
    ∀ p ∈ parameters table template, ∀ v, p.default = some v →
      DefaultFits (valueType p.type) v := by
  intro p hp v hv
  obtain ⟨segment, -, hsegment⟩ := List.mem_filterMap.mp hp
  exact parameter_default_fits hsegment hv

/-- The default of `{id:int=42}` fits its type. -/
theorem int_default_fits :
    ({ name := "id", type := "int", hasDefault := true, default := some (.integer 42) } :
        Parameter) ∈ parameters {} "{id:int=42}" ∧
      DefaultFits (valueType "int") (.integer 42) :=
  have hp : ({ name := "id", type := "int", hasDefault := true, default := some (.integer 42) } :
      Parameter) ∈ parameters {} "{id:int=42}" := by
    rw [show parameters {} "{id:int=42}" =
      [{ name := "id", type := "int", hasDefault := true, default := some (.integer 42) }] by rfl]
    exact List.mem_singleton_self _
  ⟨hp, parameters_default_fits {} "{id:int=42}" _ hp _ rfl⟩

/-- The default of `{id:int=3000000000}` is an `int` default beyond 32 bits. -/
theorem int_default_out_of_range :
    parameters {} "{id:int=3000000000}" =
      [{ name := "id", type := "int", hasDefault := true, default := some (.integer 3000000000) }] ∧
      (2 : Int) ^ 31 ≤ 3000000000 := by
  refine ⟨by rfl, by norm_num⟩

end TypedUrls.Route
