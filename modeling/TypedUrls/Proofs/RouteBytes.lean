import Mathlib
import TypedUrls.Proofs.TemplateScan

/-!
# Route templates scanned over their bytes

The generator reads a template over its UTF-8 bytes (`Route.parameterSegments`): it finds the
braces by their byte values, and cuts each parameter out of the text at the byte offsets it
found. This module proves that the cuts always fall where characters start, so the scan never
stops, and that it reads the same parameters as the scan over characters (`Route.segments`).

Both rest on one fact of UTF-8: a byte below `0x80` only ever stands for the ASCII character of
that code, alone (`utf8EncodeChar_of_mem_lt`). A character that is no delimiter thus gives bytes
that are no delimiter, and the byte scan passes over them one at a time; a delimiter gives the
one byte the scan looks for. So the byte scan, met at the first byte of a character, acts on
that character as the character scan does, and meets the next character at its first byte:
`segmentsAt_utf8Bytes` is proved by induction on the characters left, and the parameter's end is
found by `closingFrom_utf8Bytes`, the same induction for the scan inside a parameter.
-/

namespace TypedUrls

namespace Text

/-- The UTF-8 form of a text. -/
def utf8Bytes (cs : List Char) : List UInt8 := cs.flatMap String.utf8EncodeChar

@[simp] theorem utf8Bytes_nil : utf8Bytes [] = [] := rfl

@[simp] theorem utf8Bytes_cons (c : Char) (cs : List Char) :
    utf8Bytes (c :: cs) = String.utf8EncodeChar c ++ utf8Bytes cs := rfl

theorem utf8Bytes_append (a b : List Char) : utf8Bytes (a ++ b) = utf8Bytes a ++ utf8Bytes b :=
  List.flatMap_append

theorem length_utf8Bytes (cs : List Char) : (utf8Bytes cs).length = byteLength cs := by
  induction cs with
  | nil => rfl
  | cons c cs ih => simp [ih]

/-- The bytes of a text are its UTF-8 form. -/
theorem toUTF8_data_toList (s : String) : s.toUTF8.data.toList = utf8Bytes s.toList := by
  rw [String.toUTF8_eq_toByteArray, ← String.utf8Encode_toList, List.utf8Encode,
    List.toList_data_toByteArray]
  rfl

/-- A byte below `0x80` in the UTF-8 form of a character is the whole form, and the character's
code: every byte of a longer form has its high bit set. -/
theorem utf8EncodeChar_of_mem_lt {c : Char} {b : UInt8} (hb : b ∈ String.utf8EncodeChar c)
    (hlt : b.toNat < 128) : String.utf8EncodeChar c = [b] ∧ c.toNat = b.toNat := by
  have hhigh : ∀ x y : UInt8, 128 ≤ y.toNat → 128 ≤ (x ||| y).toNat := fun x y hy => by
    rw [UInt8.toNat_or]
    exact Nat.le_trans hy Nat.right_le_or
  obtain h | h | h | h :
      c.utf8Size = 1 ∨ c.utf8Size = 2 ∨ c.utf8Size = 3 ∨ c.utf8Size = 4 := by
    have := c.utf8Size_pos
    have := c.utf8Size_le_four
    omega
  · rw [String.utf8EncodeChar_eq_singleton h] at hb ⊢
    rw [List.mem_singleton.mp hb]
    refine ⟨rfl, ?_⟩
    have hc : c.val.toNat ≤ 127 := by
      simpa [Char.utf8Size_eq_one_iff, UInt32.le_iff_toNat_le] using h
    change c.val.toNat = c.val.toUInt8.toNat
    rw [UInt32.toNat_toUInt8]
    omega
  -- the longer forms: each byte is some bits or'ed with a lead or continuation mark
  all_goals exfalso
  · rw [String.utf8EncodeChar_eq_cons_cons h] at hb
    simp only [List.mem_cons, List.not_mem_nil, or_false] at hb
    rcases hb with rfl | rfl <;> exact absurd hlt (Nat.not_lt.mpr (hhigh _ _ (by decide)))
  · rw [String.utf8EncodeChar_eq_cons_cons_cons h] at hb
    simp only [List.mem_cons, List.not_mem_nil, or_false] at hb
    rcases hb with rfl | rfl | rfl <;> exact absurd hlt (Nat.not_lt.mpr (hhigh _ _ (by decide)))
  · rw [String.utf8EncodeChar_eq_cons_cons_cons_cons h] at hb
    simp only [List.mem_cons, List.not_mem_nil, or_false] at hb
    rcases hb with rfl | rfl | rfl | rfl <;>
      exact absurd hlt (Nat.not_lt.mpr (hhigh _ _ (by decide)))

/-- The byte of an ASCII character occurs in the UTF-8 form of that character only, as the whole
form. -/
theorem eq_of_mem_utf8EncodeChar {c a : Char} (ha : a.toNat < 128)
    (hb : a.toUInt8 ∈ String.utf8EncodeChar c) :
    c = a ∧ String.utf8EncodeChar c = [a.toUInt8] := by
  have hbyte : a.toUInt8.toNat = a.toNat := by
    change a.val.toUInt8.toNat = a.val.toNat
    rw [UInt32.toNat_toUInt8]
    exact Nat.mod_eq_of_lt (by change a.val.toNat < 128 at ha; omega)
  obtain ⟨hform, hcode⟩ := utf8EncodeChar_of_mem_lt hb (by omega)
  exact ⟨Char.ext (UInt32.toNat_inj.mp (hcode.trans hbyte)), hform⟩

/-- The first byte of the UTF-8 form of a text is the byte of an ASCII character exactly when the
text starts with that character. -/
theorem head?_utf8Bytes_eq {cs : List Char} {a : Char} (ha : a.toNat < 128) :
    (utf8Bytes cs).head? = some a.toUInt8 ↔ cs.head? = some a := by
  cases cs with
  | nil => simp
  | cons c cs =>
    obtain ⟨b, bs, hform⟩ : ∃ b bs, String.utf8EncodeChar c = b :: bs :=
      List.exists_cons_of_ne_nil String.utf8EncodeChar_ne_nil
    rw [utf8Bytes_cons, hform, List.cons_append, List.head?_cons, List.head?_cons,
      Option.some.injEq, Option.some.injEq]
    constructor
    · rintro rfl
      exact (eq_of_mem_utf8EncodeChar ha (by rw [hform]; exact List.mem_cons_self)).1
    · intro hca
      rw [hca] at hform
      have hone : a.utf8Size = 1 := by
        rw [Char.utf8Size_eq_one_iff, UInt32.le_iff_toNat_le]
        change a.val.toNat < 128 at ha
        change a.val.toNat ≤ 127
        omega
      rw [String.utf8EncodeChar_eq_singleton hone] at hform
      exact (List.cons.inj hform).1.symm

end Text

namespace Route

open Text

/-! ## The end of a parameter -/

/-- The text of a parameter up to the `}` that closes it, and what follows that brace, reading
with `depth` parentheses open; none when the text ends first. -/
def closeFrom : Nat → List Char → Option (List Char × List Char)
  | _, [] => none
  | depth, c :: rest =>
    if c = '(' then (closeFrom (depth + 1) rest).map fun r => (c :: r.1, r.2)
    else if c = ')' then (closeFrom (depth - 1) rest).map fun r => (c :: r.1, r.2)
    else if c = '}' ∧ depth = 0 then some ([], rest)
    else (closeFrom depth rest).map fun r => (c :: r.1, r.2)

/-- A parameter's text is followed by its closing brace. -/
theorem eq_of_closeFrom {depth : Nat} {cs mid after : List Char}
    (h : closeFrom depth cs = some (mid, after)) : cs = mid ++ '}' :: after := by
  induction cs generalizing depth mid with
  | nil => cases h
  | cons c rest ih =>
    -- every character but the closing brace is kept in front of the rest's text
    have hkeep : ∀ depth',
        (closeFrom depth' rest).map (fun r => (c :: r.1, r.2)) = some (mid, after) →
          c :: rest = mid ++ '}' :: after := by
      intro depth' h'
      obtain ⟨r, hr, hm⟩ := Option.map_eq_some_iff.mp h'
      cases hm
      rw [ih hr]
      rfl
    simp only [closeFrom] at h
    split at h
    · exact hkeep _ h
    · split at h
      · exact hkeep _ h
      · split at h
        · cases h
          simp_all
        · exact hkeep _ h

/-- Inside a parameter, the character scan reads the text up to its closing brace as the
parameter, and goes on between parameters after it. -/
theorem scanFrom_of_closeFrom {depth : Nat} {cs mid after : List Char} (acc : List Char)
    (h : closeFrom depth cs = some (mid, after)) :
    scanFrom (some (depth, acc)) cs =
      ((acc.reverse ++ mid) :: (scanFrom none after).1, (scanFrom none after).2) := by
  induction cs generalizing depth acc mid with
  | nil => cases h
  | cons c rest ih =>
    -- the two scans test the same conditions in the same order
    simp only [closeFrom] at h
    rw [scanFrom]
    by_cases h1 : c = '('
    · rw [if_pos h1] at h
      obtain ⟨r, hr, hm⟩ := Option.map_eq_some_iff.mp h
      cases hm
      rw [if_pos h1, ih _ hr]
      simp
    rw [if_neg h1] at h ⊢
    by_cases h2 : c = ')'
    · rw [if_pos h2] at h
      obtain ⟨r, hr, hm⟩ := Option.map_eq_some_iff.mp h
      cases hm
      rw [if_pos h2, ih _ hr]
      simp
    rw [if_neg h2] at h ⊢
    by_cases h3 : c = '}' ∧ depth = 0
    · rw [if_pos h3] at h
      cases h
      rw [if_pos h3]
      simp
    · rw [if_neg h3] at h
      obtain ⟨r, hr, hm⟩ := Option.map_eq_some_iff.mp h
      cases hm
      rw [if_neg h3, ih _ hr]
      simp

/-- A parameter left open runs to the end of the text. -/
theorem scanFrom_of_closeFrom_none {depth : Nat} {cs : List Char} (acc : List Char)
    (h : closeFrom depth cs = none) :
    (scanFrom (some (depth, acc)) cs).1 = [] ∧
      (scanFrom (some (depth, acc)) cs).2.map (·.2) = some (cs.reverse ++ acc) := by
  induction cs generalizing depth acc with
  | nil => exact ⟨rfl, rfl⟩
  | cons c rest ih =>
    simp only [closeFrom] at h
    rw [scanFrom]
    -- each character but a closing brace is kept, and the scan goes on
    have hkeep : ∀ depth', closeFrom depth' rest = none →
        (scanFrom (some (depth', c :: acc)) rest).1 = [] ∧
          (scanFrom (some (depth', c :: acc)) rest).2.map (·.2) =
            some ((c :: rest).reverse ++ acc) := by
      intro depth' h'
      rw [List.reverse_cons, List.append_assoc]
      exact ih (c :: acc) h'
    by_cases h1 : c = '('
    · rw [if_pos h1] at h ⊢
      exact hkeep _ (Option.map_eq_none_iff.mp h)
    rw [if_neg h1] at h ⊢
    by_cases h2 : c = ')'
    · rw [if_pos h2] at h ⊢
      exact hkeep _ (Option.map_eq_none_iff.mp h)
    rw [if_neg h2] at h ⊢
    by_cases h3 : c = '}' ∧ depth = 0
    · rw [if_pos h3] at h
      cases h
    · rw [if_neg h3] at h ⊢
      exact hkeep _ (Option.map_eq_none_iff.mp h)

/-- Bytes that are no parenthesis, and no closing brace when none is open, are passed over. -/
theorem closingFrom_append_of_forall {depth position : Nat} {bs : List UInt8}
    (h : ∀ b ∈ bs,
      b ≠ '('.toUInt8 ∧ b ≠ ')'.toUInt8 ∧ ¬(b = '}'.toUInt8 ∧ depth = 0))
    (tail : List UInt8) :
    closingFrom depth position (bs ++ tail) = closingFrom depth (position + bs.length) tail := by
  induction bs generalizing position with
  | nil => rfl
  | cons b bs ih =>
    obtain ⟨h1, h2, h3⟩ := h b List.mem_cons_self
    rw [List.cons_append, closingFrom, if_neg h1, if_neg h2, if_neg h3,
      ih fun x hx => h x (List.mem_cons_of_mem b hx)]
    simp only [List.length_cons]
    congr 1
    omega

/-- A character read into a parameter's text moves the end's byte offset by its own size. -/
theorem map_byteLength_cons (o : Option (List Char × List Char)) (c : Char) (position : Nat) :
    (o.map fun r => (c :: r.1, r.2)).map (fun r => position + byteLength r.1) =
      o.map fun r => position + c.utf8Size + byteLength r.1 := by
  cases o <;> simp [Nat.add_assoc]

/-- The byte scan for the end of a parameter finds, from the first byte of a character, the end
the character scan finds, at its byte offset. -/
theorem closingFrom_utf8Bytes (depth position : Nat) (cs : List Char) :
    closingFrom depth position (utf8Bytes cs) =
      (closeFrom depth cs).map fun r => position + byteLength r.1 := by
  induction cs generalizing depth position with
  | nil => rfl
  | cons c rest ih =>
    rw [utf8Bytes_cons, closeFrom]
    -- a delimiter is its one byte, which both scans handle alike
    by_cases h1 : c = '('
    · subst h1
      rw [show String.utf8EncodeChar '(' = ['('.toUInt8] from rfl, List.singleton_append,
        closingFrom, if_pos rfl, ih, if_pos rfl, map_byteLength_cons]
      rfl
    by_cases h2 : c = ')'
    · subst h2
      rw [show String.utf8EncodeChar ')' = [')'.toUInt8] from rfl, List.singleton_append,
        closingFrom, if_neg (by decide), if_pos rfl, ih, if_neg (by decide), if_pos rfl,
        map_byteLength_cons]
      rfl
    by_cases h3 : c = '}' ∧ depth = 0
    · obtain ⟨rfl, rfl⟩ := h3
      rw [show String.utf8EncodeChar '}' = ['}'.toUInt8] from rfl, List.singleton_append,
        closingFrom, if_neg (by decide), if_neg (by decide), if_pos ⟨rfl, rfl⟩,
        if_neg (by decide), if_neg (by decide), if_pos ⟨rfl, rfl⟩]
      simp
    -- any other character: none of its bytes is a delimiter the scan looks for
    · have hskip : ∀ b ∈ String.utf8EncodeChar c,
          b ≠ '('.toUInt8 ∧ b ≠ ')'.toUInt8 ∧ ¬(b = '}'.toUInt8 ∧ depth = 0) := by
        intro b hb
        refine ⟨?_, ?_, ?_⟩
        · rintro rfl
          exact h1 (eq_of_mem_utf8EncodeChar (by decide) hb).1
        · rintro rfl
          exact h2 (eq_of_mem_utf8EncodeChar (by decide) hb).1
        · rintro ⟨rfl, hd⟩
          exact h3 ⟨(eq_of_mem_utf8EncodeChar (by decide) hb).1, hd⟩
      rw [closingFrom_append_of_forall hskip, ih, if_neg h1, if_neg h2, if_neg h3,
        map_byteLength_cons, String.length_utf8EncodeChar]

/-! ## The scan between parameters -/

section Steps
variable (template : List Char) (bytes : List UInt8) (i : Nat)

theorem segmentsAt_of_le (h : bytes.length ≤ i) : segmentsAt template bytes i = .ok [] := by
  rw [segmentsAt, dif_neg (by omega)]
  rfl

/-- A doubled brace is a literal brace, passed over whole. -/
theorem segmentsAt_of_double {b : UInt8} (hb : b = '{'.toUInt8 ∨ b = '}'.toUInt8)
    (h0 : bytes[i]? = some b) (h1 : bytes[i + 1]? = some b) :
    segmentsAt template bytes i = segmentsAt template bytes (i + 2) := by
  obtain ⟨hi, hget⟩ := List.getElem?_eq_some_iff.mp h0
  rw [segmentsAt, dif_pos hi, hget, h1]
  rcases hb with rfl | rfl
  · rw [if_pos ⟨rfl, rfl⟩]
  · rw [if_neg (by decide), if_pos ⟨rfl, rfl⟩]

/-- A lone `{` opens a parameter: its text is cut out up to its closing brace, or to the end, and
the scan goes on after that brace. -/
theorem segmentsAt_of_open (h0 : bytes[i]? = some '{'.toUInt8)
    (h1 : bytes[i + 1]? ≠ some '{'.toUInt8) {close : Option Nat}
    (hc : closingBrace bytes (i + 1) = .ok close) :
    segmentsAt template bytes i = (do
      let segment ← Text.slice template (i + 1) (close.getD bytes.length)
      let rest ← segmentsAt template bytes (close.getD bytes.length + 1)
      pure (segment :: rest)) := by
  obtain ⟨hi, hget⟩ := List.getElem?_eq_some_iff.mp h0
  rw [segmentsAt, dif_pos hi, hget, if_neg (fun h => h1 h.2),
    if_neg (fun h => absurd h.1 (by decide)), if_pos rfl]
  split
  · next e he => rw [hc] at he; cases he
  · next close' he =>
    rw [hc] at he
    cases he
    rfl

/-- Any other byte is passed over: no brace, or a `}` not doubled. -/
theorem segmentsAt_of_plain {b : UInt8} (h0 : bytes[i]? = some b) (hopen : b ≠ '{'.toUInt8)
    (hclose : b = '}'.toUInt8 → bytes[i + 1]? ≠ some '}'.toUInt8) :
    segmentsAt template bytes i = segmentsAt template bytes (i + 1) := by
  obtain ⟨hi, hget⟩ := List.getElem?_eq_some_iff.mp h0
  rw [segmentsAt, dif_pos hi, hget, if_neg (fun h => hopen h.1),
    if_neg (fun h => hclose h.1 h.2), if_neg hopen]

end Steps

/-- Bytes that are no brace are passed over one by one. -/
theorem segmentsAt_append_of_forall (template : List Char) (pre : List UInt8) {bs : List UInt8}
    (h : ∀ b ∈ bs, b ≠ '{'.toUInt8 ∧ b ≠ '}'.toUInt8) (tail : List UInt8) :
    segmentsAt template (pre ++ bs ++ tail) pre.length =
      segmentsAt template (pre ++ bs ++ tail) (pre.length + bs.length) := by
  induction bs generalizing pre with
  | nil => rfl
  | cons b bs ih =>
    have hb := h b List.mem_cons_self
    have hget : (pre ++ b :: bs ++ tail)[pre.length]? = some b := by simp
    have hshift : pre ++ b :: bs ++ tail = pre ++ [b] ++ bs ++ tail := by simp
    calc segmentsAt template (pre ++ b :: bs ++ tail) pre.length
        = segmentsAt template (pre ++ [b] ++ bs ++ tail) (pre ++ [b]).length := by
          rw [segmentsAt_of_plain template _ _ hget hb.1 (fun h => absurd h hb.2), hshift]
          simp
      _ = segmentsAt template (pre ++ [b] ++ bs ++ tail) ((pre ++ [b]).length + bs.length) :=
          ih (pre ++ [b]) fun x hx => h x (List.mem_cons_of_mem b hx)
      _ = segmentsAt template (pre ++ b :: bs ++ tail) (pre.length + (b :: bs).length) := by
          rw [hshift]
          simp only [List.length_append, List.length_cons, List.length_nil]
          congr 1
          omega


/-! ## The whole scan -/

/-- The parameters the character scan reads from the state between parameters: those it closes,
then the one left open, if any. -/
def segmentsOf (cs : List Char) : List (List Char) :=
  (scanFrom none cs).1 ++ ((scanFrom none cs).2.map fun inside => inside.2.reverse).toList

theorem getElem?_utf8Bytes_append (pre rest : List Char) (k : Nat) :
    (utf8Bytes (pre ++ rest))[byteLength pre + k]? = (utf8Bytes rest)[k]? := by
  rw [utf8Bytes_append, List.getElem?_append_right (by rw [length_utf8Bytes]; omega),
    length_utf8Bytes, Nat.add_sub_cancel_left]

theorem drop_utf8Bytes_append (pre rest : List Char) :
    (utf8Bytes (pre ++ rest)).drop (byteLength pre) = utf8Bytes rest := by
  rw [utf8Bytes_append, ← length_utf8Bytes, List.drop_left]

/-- At a character of one byte, the byte scan reads that byte, and the byte after it is the first
byte of the characters that follow. -/
theorem getElem?_utf8Bytes_single {template pre r : List Char} {a : Char} {b : UInt8}
    (ha : String.utf8EncodeChar a = [b]) (h : template = pre ++ a :: r) :
    (utf8Bytes template)[byteLength pre]? = some b ∧
      (utf8Bytes template)[byteLength pre + 1]? = (utf8Bytes r).head? := by
  subst h
  refine ⟨?_, ?_⟩
  · rw [← Nat.add_zero (byteLength pre), getElem?_utf8Bytes_append, utf8Bytes_cons, ha]
    rfl
  · rw [getElem?_utf8Bytes_append, utf8Bytes_cons, ha, List.singleton_append,
      List.getElem?_cons_succ, List.head?_eq_getElem?]

/-- The invariant of the scan between parameters, for the characters of `template` that have
fewer than `n` characters after them: from the first byte of such a character, the byte scan reads
the parameters the character scan reads from it on. -/
def ScansBelow (template : List Char) (n : Nat) : Prop :=
  ∀ pre rest, template = pre ++ rest → rest.length < n →
    segmentsAt template (utf8Bytes template) (byteLength pre) = .ok (segmentsOf rest)

section Step
variable {template : List Char} {n : Nat} {pre r : List Char}

/-- A doubled brace is passed over whole by both scans. -/
theorem segmentsAt_double_utf8Bytes (hnext : ScansBelow template n) {a : Char}
    (ha : a = '{' ∨ a = '}') (h : template = pre ++ a :: a :: r) (hlt : r.length < n) :
    segmentsAt template (utf8Bytes template) (byteLength pre) = .ok (segmentsOf (a :: a :: r)) := by
  have hone : String.utf8EncodeChar a = [a.toUInt8] := by
    rcases ha with rfl | rfl <;> rfl
  obtain ⟨h0, h1⟩ := getElem?_utf8Bytes_single hone h
  have h1' : (utf8Bytes template)[byteLength pre + 1]? = some a.toUInt8 := by
    rw [h1, utf8Bytes_cons, hone]
    rfl
  have hpos : byteLength pre + 2 = byteLength (pre ++ [a, a]) := by
    rcases ha with rfl | rfl <;> (rw [byteLength_append]; rfl)
  rw [segmentsAt_of_double _ _ _ (ha.imp (congrArg _) (congrArg _)) h0 h1', hpos,
    hnext _ r (by simp [h]) hlt]
  rcases ha with rfl | rfl
  · simp only [segmentsOf, scanFrom]
  · simp only [segmentsOf, scanFrom_close]

/-- A lone `{` opens a parameter: both scans cut its text out up to its closing brace, or to the
end when it has none, and go on after that brace. -/
theorem segmentsAt_open_utf8Bytes (hnext : ScansBelow template n)
    (h : template = pre ++ '{' :: r) (hsingle : r.head? ≠ some '{') (hlt : r.length < n) :
    segmentsAt template (utf8Bytes template) (byteLength pre) = .ok (segmentsOf ('{' :: r)) := by
  obtain ⟨h0, h1⟩ := getElem?_utf8Bytes_single rfl h
  have hpre : template = pre ++ ['{'] ++ r := by simp [h]
  have h1' : (utf8Bytes template)[byteLength pre + 1]? ≠ some '{'.toUInt8 := by
    rw [h1]
    exact fun h' => hsingle ((head?_utf8Bytes_eq (by decide)).mp h')
  have hfrom : byteLength pre + 1 = byteLength (pre ++ ['{']) := by
    rw [byteLength_append]
    rfl
  have hlen : (utf8Bytes template).length = byteLength (pre ++ ['{']) + byteLength r := by
    rw [length_utf8Bytes, hpre, byteLength_append]
  -- the byte scan for the closing brace finds the end the character scan finds
  have hclose : closingBrace (utf8Bytes template) (byteLength pre + 1) =
      .ok ((closeFrom 0 r).map fun x => byteLength pre + 1 + byteLength x.1) := by
    have hstart : byteLength pre + 1 ≤ (utf8Bytes template).length := by
      rw [hlen, ← hfrom]
      omega
    rw [closingBrace, sliceFrom_of_le hstart, hfrom, hpre, drop_utf8Bytes_append]
    change Except.ok (closingFrom 0 _ (utf8Bytes r)) = _
    rw [closingFrom_utf8Bytes]
  have hscan : scanFrom none ('{' :: r) = scanFrom (some (0, [])) r := by
    cases r with
    | nil => rfl
    | cons d r' => exact scanFrom_open (fun h' => hsingle (by rw [h']; rfl)) r'
  rw [segmentsAt_of_open _ _ _ h0 h1' hclose, hfrom]
  cases hc : closeFrom 0 r with
  | none =>
    -- left open: the parameter runs to the end
    obtain ⟨hclosed, hopen⟩ := scanFrom_of_closeFrom_none [] hc
    have hlast :
        ((scanFrom (some (0, [])) r).2.map fun inside => inside.2.reverse) = some r := by
      have := congrArg (Option.map List.reverse) hopen
      simpa [Option.map_map, Function.comp_def] using this
    have hslice := Text.slice_append (pre ++ ['{']) r []
    rw [List.append_nil, ← hpre] at hslice
    rw [Option.map_none, Option.getD_none, hlen, hslice, segmentsAt_of_le _ _ _ (by omega),
      segmentsOf, hscan, hclosed, hlast]
    rfl
  | some x =>
    -- closed: the parameter's text is cut out, and the scan goes on after its brace
    obtain ⟨mid, after⟩ := x
    have hr := eq_of_closeFrom hc
    have hslice := Text.slice_append (pre ++ ['{']) mid ('}' :: after)
    rw [List.append_assoc (pre ++ ['{']) mid, ← hr, ← hpre] at hslice
    have hpos : byteLength (pre ++ ['{']) + byteLength mid + 1 =
        byteLength (pre ++ ['{'] ++ mid ++ ['}']) := by
      simp only [byteLength_append, byteLength_cons, byteLength_nil]
      rfl
    have hafter : after.length < n := by
      have := congrArg List.length hr
      simp only [List.length_append, List.length_cons] at this
      omega
    have hchars : segmentsOf ('{' :: r) = mid :: segmentsOf after := by
      rw [segmentsOf, hscan, scanFrom_of_closeFrom [] hc]
      rfl
    rw [Option.map_some, Option.getD_some, hslice, hpos,
      hnext (pre ++ ['{'] ++ mid ++ ['}']) after (by simp [hpre, hr]) hafter, hchars]
    rfl

/-- A lone `}` between parameters is passed over by both scans. -/
theorem segmentsAt_close_utf8Bytes (hnext : ScansBelow template n)
    (h : template = pre ++ '}' :: r) (hsingle : r.head? ≠ some '}') (hlt : r.length < n) :
    segmentsAt template (utf8Bytes template) (byteLength pre) = .ok (segmentsOf ('}' :: r)) := by
  obtain ⟨h0, h1⟩ := getElem?_utf8Bytes_single rfl h
  rw [segmentsAt_of_plain _ _ _ h0 (by decide)
    (fun _ h' => hsingle ((head?_utf8Bytes_eq (by decide)).mp (h1 ▸ h')))]
  have hpos : byteLength pre + 1 = byteLength (pre ++ ['}']) := by
    rw [byteLength_append]
    rfl
  rw [hpos, hnext _ r (by simp [h]) hlt]
  simp only [segmentsOf, scanFrom_close]

/-- Any other character is passed over by both scans: none of its bytes is a brace. -/
theorem segmentsAt_plain_utf8Bytes (hnext : ScansBelow template n) {c : Char}
    (h : template = pre ++ c :: r) (hopen : c ≠ '{') (hclose : c ≠ '}') (hlt : r.length < n) :
    segmentsAt template (utf8Bytes template) (byteLength pre) = .ok (segmentsOf (c :: r)) := by
  have hskip : ∀ b ∈ String.utf8EncodeChar c, b ≠ '{'.toUInt8 ∧ b ≠ '}'.toUInt8 := by
    intro b hb
    refine ⟨?_, ?_⟩
    · rintro rfl
      exact hopen (eq_of_mem_utf8EncodeChar (by decide) hb).1
    · rintro rfl
      exact hclose (eq_of_mem_utf8EncodeChar (by decide) hb).1
  have hbytes : utf8Bytes template = utf8Bytes pre ++ String.utf8EncodeChar c ++ utf8Bytes r := by
    rw [h, utf8Bytes_append, utf8Bytes_cons, List.append_assoc]
  have hpos : byteLength pre + (String.utf8EncodeChar c).length = byteLength (pre ++ [c]) := by
    rw [String.length_utf8EncodeChar, byteLength_append]
    simp
  have hstep := segmentsAt_append_of_forall template (utf8Bytes pre) hskip (utf8Bytes r)
  rw [← hbytes, length_utf8Bytes, hpos] at hstep
  rw [hstep, hnext _ r (by simp [h]) hlt]
  simp only [segmentsOf, scanFrom_plain hopen hclose]

end Step

/-- From the first byte of a character, the byte scan reads the parameters the character scan
reads from that character on. -/
theorem segmentsAt_utf8Bytes (template : List Char) (n : Nat) :
    ∀ pre rest, rest.length = n → template = pre ++ rest →
      segmentsAt template (utf8Bytes template) (byteLength pre) = .ok (segmentsOf rest) := by
  -- strong induction on the characters left: each step goes on from a later character
  induction n using Nat.strong_induction_on with
  | _ n ih =>
  intro pre rest hn htemplate
  have hnext : ScansBelow template n := fun pre' rest' h hlt => ih _ hlt pre' rest' rfl h
  match rest with
  | [] =>
    have hlen : (utf8Bytes template).length = byteLength pre := by
      rw [length_utf8Bytes, htemplate, List.append_nil]
    rw [segmentsAt_of_le _ _ _ (by omega)]
    rfl
  | c :: r =>
    have hlt : r.length < n := by
      simp only [List.length_cons] at hn
      omega
    -- the character and, for a brace, the one after it choose the step
    by_cases hopen : c = '{'
    · subst hopen
      by_cases hdouble : r.head? = some '{'
      · obtain ⟨r', rfl⟩ := List.head?_eq_some_iff.mp hdouble
        exact segmentsAt_double_utf8Bytes hnext (.inl rfl) htemplate (by simp at hlt; omega)
      · exact segmentsAt_open_utf8Bytes hnext htemplate hdouble hlt
    by_cases hclose : c = '}'
    · subst hclose
      by_cases hdouble : r.head? = some '}'
      · obtain ⟨r', rfl⟩ := List.head?_eq_some_iff.mp hdouble
        exact segmentsAt_double_utf8Bytes hnext (.inr rfl) htemplate (by simp at hlt; omega)
      · exact segmentsAt_close_utf8Bytes hnext htemplate hdouble hlt
    · exact segmentsAt_plain_utf8Bytes hnext htemplate hopen hclose hlt

/-- The byte scan of a template never stops, and reads the parameters the character scan
reads. -/
theorem parameterSegments_eq (template : String) :
    parameterSegments template = .ok (segments template) := by
  rw [parameterSegments, toUTF8_data_toList]
  exact segmentsAt_utf8Bytes template.toList _ [] template.toList rfl rfl

/-- Read over the bytes, a template gives the parameters it gives read over its characters. -/
theorem parameters?_eq (table : ConstraintTable) (template : String) :
    parameters? table template = .ok (parameters table template) := by
  rw [parameters?, parameterSegments_eq]
  rfl

end Route

end TypedUrls
