import Mathlib
import TypedUrls.Classify.Basic

/-!
# Page handler names

A method of a page model is a handler when its name is the handler prefix, then a handler verb,
then anything (`OnGet`, `onpost`, `OnPostDeleteAsync`); prefix and verb are matched without
regard to ASCII case. The name is cut at byte offsets, the lengths of the prefix and of the
verb, and a cut inside a character finds nothing.

`handlerSuffix_eq_some_iff` reads the cuts as a decomposition of the name
(`PageConventions.Splits`): the rest after the marker is `r` exactly when the name is
`p ++ v ++ r` with `p` the prefix and `v` a verb, taken for the first verb in list order that
splits the name. Two facts carry it:

* a text equal to another up to ASCII case has as many bytes (`byteLength_eq_of_eqIgnoreAsciiCase`),
  since ASCII lowering keeps the size of every character;
* a cut at byte offset `n` splits a text exactly into a part of `n` bytes and the rest
  (`splitAtByte?_eq_some_iff`).

So whether a cut would fall inside a character never matters: a name with a non-ASCII character
where the prefix or the verb should end splits with no verb. The handler's name is the rest
without one trailing async suffix (`pageHandlerName_eq_some_iff`), and a method whose name has no
rest is never walked up its override chain. The main statement, `handler_rest_first_split`,
gathers these; with the default conventions `Oñget`, `OnGé` and `Bücher` are no handlers, and
`OnPostÜbersicht` is the handler `Übersicht`.
-/

namespace TypedUrls

namespace Text

/-! ## Bytes and ASCII case -/

theorem utf8Size_eq_one_of_toNat_lt {c : Char} (h : c.toNat < 128) : c.utf8Size = 1 := by
  rw [Char.utf8Size_eq_one_iff, UInt32.le_iff_toNat_le]
  have e : c.toNat = c.val.toNat := rfl
  simp only [UInt32.reduceToNat]
  omega

/-- ASCII lowering keeps the size of a character. -/
@[simp] theorem utf8Size_asciiLower (c : Char) : (asciiLower c).utf8Size = c.utf8Size := by
  unfold asciiLower
  split
  · next h =>
    -- an upper-case letter and its lower case are both one byte
    obtain ⟨-, hZ⟩ := h
    simp only [Char.le_def, UInt32.le_iff_toNat_le] at hZ
    have e : c.toNat = c.val.toNat := rfl
    simp only [Char.reduceVal, UInt32.reduceToNat] at hZ
    have hlower : (Char.ofNat (c.toNat + 32)).toNat = c.toNat + 32 := by
      rw [Char.toNat_ofNat, if_pos (by unfold Nat.isValidChar; omega)]
    rw [utf8Size_eq_one_of_toNat_lt (by omega), utf8Size_eq_one_of_toNat_lt (by omega)]
  · rfl

theorem byteLength_map_asciiLower (cs : List Char) :
    byteLength (cs.map asciiLower) = byteLength cs := by
  induction cs with
  | nil => rfl
  | cons c cs ih => simp [ih]

/-- Texts equal up to ASCII case have the same number of bytes. -/
theorem byteLength_eq_of_eqIgnoreAsciiCase {a b : String} (h : eqIgnoreAsciiCase a b = true) :
    byteLength a.toList = byteLength b.toList := by
  have hmap : a.toList.map asciiLower = b.toList.map asciiLower := by
    simpa [eqIgnoreAsciiCase] using h
  rw [← byteLength_map_asciiLower, hmap, byteLength_map_asciiLower]

end Text

open Text

namespace PageConventions

variable (pc : PageConventions)

/-- `name` is the handler prefix, then `verb`, then `rest`, prefix and verb matched without
regard to ASCII case. -/
def Splits (verb name rest : String) : Prop :=
  ∃ p v, name = p ++ v ++ rest ∧ eqIgnoreAsciiCase p pc.handlerPrefix = true ∧
    eqIgnoreAsciiCase v verb = true

/-- The rest of `name` after the handler prefix and `verb`, when it starts with them: the test
the handler suffix makes for each verb. -/
def afterVerb (name verb : String) : Option String := do
  let (pre, rest) ← splitAtByte? name.toList (byteLength pc.handlerPrefix.toList)
  let (verbPart, after) ← splitAtByte? rest (byteLength verb.toList)
  if eqIgnoreAsciiCase (String.ofList pre) pc.handlerPrefix &&
      eqIgnoreAsciiCase (String.ofList verbPart) verb then
    some (String.ofList after)
  else none

/-- The byte cuts after the prefix and the verb find exactly the decompositions of the name. -/
theorem afterVerb_eq_some_iff {name verb r : String} :
    pc.afterVerb name verb = some r ↔ pc.Splits verb name r := by
  simp only [afterVerb, Option.bind_eq_bind, Option.bind_eq_some_iff]
  constructor
  · rintro ⟨⟨pre, rest⟩, hpre, ⟨verbPart, after⟩, hverb, hr⟩
    dsimp only at hverb hr
    obtain ⟨hname, -⟩ := splitAtByte?_eq_some_iff.mp hpre
    obtain ⟨hrest, -⟩ := splitAtByte?_eq_some_iff.mp hverb
    split at hr
    · next hcheck =>
      obtain ⟨hp, hv⟩ := Bool.and_eq_true_iff.mp hcheck
      refine ⟨String.ofList pre, String.ofList verbPart, ?_, hp, hv⟩
      rw [← Option.some.inj hr, ← String.ofList_toList (s := name), ← hname, ← hrest]
      simp [String.ofList_append, String.append_assoc]
    · cases hr
  · rintro ⟨p, v, rfl, hp, hv⟩
    refine ⟨(p.toList, v.toList ++ r.toList), ?_, (v.toList, r.toList), ?_, ?_⟩
    · rw [← byteLength_eq_of_eqIgnoreAsciiCase hp, String.toList_append, String.toList_append,
        List.append_assoc]
      exact splitAtByte?_append_self _ _
    · rw [← byteLength_eq_of_eqIgnoreAsciiCase hv]
      exact splitAtByte?_append_self _ _
    · simp [hp, hv]

end PageConventions

namespace Classifier

variable (c : Classifier)

theorem handlerSuffix_eq (name : String) :
    c.handlerSuffix name = c.config.pages.handlerVerbs.findSome? (c.config.pages.afterVerb name) :=
  rfl

/-- What is left of a handler's rest once one trailing async suffix, matched exactly, is cut off. -/
theorem stripped_eq_iff {r suffix h : String} :
    (if suffix.toList.isSuffixOf r.toList then String.ofList (r.toList.take (r.length - suffix.length))
      else r) = h ↔ r = h ++ suffix ∨ (¬ ∃ s, r = s ++ suffix) ∧ h = r := by
  by_cases hs : suffix.toList <:+ r.toList
  · obtain ⟨s, hs⟩ := hs
    have hlength : r.length - suffix.length = s.length := by
      rw [← String.length_toList, ← String.length_toList, ← hs, List.length_append]
      omega
    have hsplit : r = String.ofList s ++ suffix := by
      rw [← String.ofList_toList (s := r), ← hs, String.ofList_append, String.ofList_toList]
    rw [if_pos (List.isSuffixOf_iff_suffix.mpr ⟨s, hs⟩), hlength, ← hs, List.take_left]
    constructor
    · rintro rfl
      exact .inl hsplit
    · rintro (hr | ⟨hnot, -⟩)
      · -- the rest before the suffix is `h`, cancelled on the right
        have hlists : s ++ suffix.toList = h.toList ++ suffix.toList := by
          rw [hs, hr, String.toList_append]
        rw [List.append_cancel_right hlists, String.ofList_toList]
      · exact absurd ⟨_, hsplit⟩ hnot
  · have hnone : ¬ ∃ s, r = s ++ suffix := by
      rintro ⟨s, rfl⟩
      exact hs ⟨s.toList, by rw [String.toList_append]⟩
    rw [if_neg (mt List.isSuffixOf_iff_suffix.mp hs)]
    constructor
    · rintro rfl
      exact .inr ⟨hnone, rfl⟩
    · rintro (rfl | ⟨-, rfl⟩)
      · exact absurd ⟨h, rfl⟩ hnone
      · rfl

/-- A method whose name has no handler rest is no page handler, whatever its override chain. -/
theorem isPageHandler_of_handlerSuffix_eq_none {x : MethodAt}
    (h : c.handlerSuffix x.method.name = none) : c.isPageHandler x = .ok false := by
  simp [isPageHandler, h]

/-- The handler rest of a name is what follows the prefix and the first verb that splits it. -/
theorem handlerSuffix_eq_some_iff {name r : String} :
    c.handlerSuffix name = some r ↔
      ∃ before verb after, c.config.pages.handlerVerbs = before ++ verb :: after ∧
        c.config.pages.Splits verb name r ∧ ∀ v ∈ before, ∀ r', ¬ c.config.pages.Splits v name r' := by
  rw [handlerSuffix_eq, List.findSome?_eq_some_iff]
  simp only [PageConventions.afterVerb_eq_some_iff]
  constructor
  · rintro ⟨before, verb, after, hverbs, hsplit, hfirst⟩
    refine ⟨before, verb, after, hverbs, hsplit, fun v hv r' hr' => ?_⟩
    rw [← PageConventions.afterVerb_eq_some_iff, hfirst v hv] at hr'
    cases hr'
  · rintro ⟨before, verb, after, hverbs, hsplit, hfirst⟩
    refine ⟨before, verb, after, hverbs, hsplit, fun v hv => ?_⟩
    -- a verb before the first split finds no rest
    cases hafter : c.config.pages.afterVerb name v with
    | none => rfl
    | some r' => exact absurd ((PageConventions.afterVerb_eq_some_iff _).mp hafter) (hfirst v hv r')

/-- A handler's name is its rest without one trailing async suffix; there is none when nothing is
left or the method's name has no handler rest. -/
theorem pageHandlerName_eq_some_iff {meth : MethodDecl} {h : String} :
    c.pageHandlerName meth = some h ↔
      h ≠ "" ∧ ∃ r, c.handlerSuffix meth.name = some r ∧
        (r = h ++ c.config.pages.handlerAsyncSuffix ∨
          (¬ ∃ s, r = s ++ c.config.pages.handlerAsyncSuffix) ∧ h = r) := by
  -- a rest that is empty once stripped names the page's default handler
  have hnamed : ∀ x : String, (if x.isEmpty then none else some x) = some h ↔ x = h ∧ h ≠ "" := by
    intro x
    by_cases hx : x = ""
    · subst hx
      rw [if_pos (String.isEmpty_iff.mpr rfl)]
      simp only [reduceCtorEq, false_iff, not_and, not_not]
      exact Eq.symm
    · rw [if_neg (by rwa [String.isEmpty_iff]), Option.some.injEq]
      exact ⟨fun hxh => ⟨hxh, hxh ▸ hx⟩, And.left⟩
  simp only [pageHandlerName, Option.bind_eq_bind, Option.bind_eq_some_iff, hnamed,
    stripped_eq_iff]
  constructor
  · rintro ⟨r, hr, hstrip, hne⟩
    exact ⟨hne, r, hr, hstrip⟩
  · rintro ⟨hne, r, hr, hstrip⟩
    exact ⟨r, hr, hstrip, hne⟩

/-- The rest of a handler name is found by the first verb that splits the name after the prefix,
both matched without regard to ASCII case; the handler's name is that rest without one trailing
async suffix, none when nothing is left, and none when the name has no rest. A name with no rest
makes no page handler, whatever its override chain. With the default conventions `Oñget`,
`OnGé` and `Bücher` have no rest, so they are no handlers, and `OnPostÜbersicht` is the handler
`Übersicht`. -/
theorem handler_rest_first_split :
    (∀ (c : Classifier) (name r : String), c.handlerSuffix name = some r ↔
      ∃ before verb after, c.config.pages.handlerVerbs = before ++ verb :: after ∧
        c.config.pages.Splits verb name r ∧ ∀ v ∈ before, ∀ r', ¬ c.config.pages.Splits v name r') ∧
    (∀ (c : Classifier) (meth : MethodDecl) (h : String), c.pageHandlerName meth = some h ↔
      h ≠ "" ∧ ∃ r, c.handlerSuffix meth.name = some r ∧
        (r = h ++ c.config.pages.handlerAsyncSuffix ∨
          (¬ ∃ s, r = s ++ c.config.pages.handlerAsyncSuffix) ∧ h = r)) ∧
    (∀ (c : Classifier) (x : MethodAt),
      c.handlerSuffix x.method.name = none → c.isPageHandler x = .ok false) ∧
    (∀ (m : Program) (x : MethodAt), x.method.name ∈ ["Oñget", "OnGé", "Bücher"] →
      (⟨m, {}⟩ : Classifier).handlerSuffix x.method.name = none ∧
        (⟨m, {}⟩ : Classifier).isPageHandler x = .ok false) ∧
    (∀ (m : Program) (meth : MethodDecl), meth.name = "OnPostÜbersicht" →
      (⟨m, {}⟩ : Classifier).pageHandlerName meth = some "Übersicht") := by
  refine ⟨fun c _ _ => c.handlerSuffix_eq_some_iff, fun c _ _ => c.pageHandlerName_eq_some_iff,
    fun c _ => c.isPageHandler_of_handlerSuffix_eq_none, fun m x hname => ?_, fun m meth hname => ?_⟩
  · -- the default prefix `On` ends inside `ñ` and `ü`, and `Gé` is no verb
    have hnone : (⟨m, {}⟩ : Classifier).handlerSuffix x.method.name = none := by
      rw [handlerSuffix_eq]
      dsimp only
      simp only [List.mem_cons, List.not_mem_nil, or_false] at hname
      rcases hname with h | h | h <;> rw [h] <;> decide
    exact ⟨hnone, isPageHandler_of_handlerSuffix_eq_none _ hnone⟩
  · rw [pageHandlerName, hname, handlerSuffix_eq]
    dsimp only
    decide

/-- With the default conventions a page model's `Bücher` has no handler rest and is no handler,
and `OnPostÜbersicht` is the handler `Übersicht`. -/
theorem umlaut_handler_names :
    (⟨{}, {}⟩ : Classifier).handlerSuffix "Bücher" = none ∧
      (⟨{}, {}⟩ : Classifier).isPageHandler ⟨"App.IndexModel", 0, 0, { name := "Bücher" }⟩ =
        .ok false ∧
      (⟨{}, {}⟩ : Classifier).pageHandlerName { name := "OnPostÜbersicht" } = some "Übersicht" :=
  have hnone := (handler_rest_first_split.2.2.2.1 {} ⟨"App.IndexModel", 0, 0, { name := "Bücher" }⟩
    (by decide)).1
  ⟨hnone, handler_rest_first_split.2.2.1 ⟨{}, {}⟩ _ hnone,
    handler_rest_first_split.2.2.2.2 {} { name := "OnPostÜbersicht" } rfl⟩

end Classifier

end TypedUrls
