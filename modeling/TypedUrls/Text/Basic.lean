import TypedUrls.Text.CharClass

/-!
# Texts — byte positions, blanks, words and lines

Texts are UTF-8. Several rules of the generator measure a text in bytes, for instance "the last
`n` bytes" when a suffix is compared. A cut at a byte offset is only possible where a character
starts, so `splitAtByte?` answers `none` in the middle of a character.

Blanks are the White_Space characters of `isBlank`. `trim` removes them at both ends, `words`
splits at runs of them, and `lines` splits at line feeds, dropping a carriage return that comes
right before one.
-/

namespace TypedUrls.Text

/-! ## Bytes -/

/-- The number of bytes of the UTF-8 form of `cs`. -/
def byteLength (cs : List Char) : Nat :=
  cs.foldr (fun c n => c.utf8Size + n) 0

/-- The characters before and from byte offset `n`, when a character starts there (or `n` is
the end). -/
def splitAtByte? : List Char → Nat → Option (List Char × List Char)
  | cs, 0 => some ([], cs)
  | [], _ + 1 => none
  | c :: cs, n + 1 =>
    if c.utf8Size ≤ n + 1 then
      (splitAtByte? cs (n + 1 - c.utf8Size)).map fun (a, b) => (c :: a, b)
    else none

@[simp] theorem byteLength_nil : byteLength [] = 0 := rfl

@[simp] theorem byteLength_cons (c : Char) (cs : List Char) :
    byteLength (c :: cs) = c.utf8Size + byteLength cs := by
  simp [byteLength]

theorem byteLength_append (a b : List Char) :
    byteLength (a ++ b) = byteLength a + byteLength b := by
  induction a with
  | nil => simp
  | cons c a ih => simp [ih, Nat.add_assoc]

/-- A cut at a byte offset keeps every character, in order. -/
theorem splitAtByte?_append {cs : List Char} {n : Nat} {a b : List Char}
    (h : splitAtByte? cs n = some (a, b)) : a ++ b = cs ∧ byteLength a = n := by
  induction cs generalizing n a b with
  | nil =>
    cases n with
    | zero =>
      simp only [splitAtByte?, Option.some.injEq, Prod.mk.injEq] at h
      obtain ⟨rfl, rfl⟩ := h
      simp
    | succ n => simp [splitAtByte?] at h
  | cons c cs ih =>
    cases n with
    | zero =>
      simp only [splitAtByte?, Option.some.injEq, Prod.mk.injEq] at h
      obtain ⟨rfl, rfl⟩ := h
      simp
    | succ n =>
      simp only [splitAtByte?] at h
      split at h
      · obtain ⟨⟨a', b'⟩, h', e⟩ := Option.map_eq_some_iff.1 h
        simp only [Prod.mk.injEq] at e
        obtain ⟨rfl, rfl⟩ := e
        have := ih h'
        simp only [List.cons_append, this.1, byteLength_cons, this.2, true_and]
        omega
      · simp at h

/-- Cutting after the bytes of a first part gives that part and the rest. -/
theorem splitAtByte?_append_self (a b : List Char) :
    splitAtByte? (a ++ b) (byteLength a) = some (a, b) := by
  induction a with
  | nil => cases b <;> rfl
  | cons c a ih =>
    have hc := c.utf8Size_pos
    obtain ⟨n, hn⟩ : ∃ n, c.utf8Size + byteLength a = n + 1 := ⟨_, (Nat.succ_pred_eq_of_pos
      (Nat.add_pos_left hc _)).symm⟩
    rw [List.cons_append, byteLength_cons, hn, splitAtByte?, if_pos (by omega),
      show n + 1 - c.utf8Size = byteLength a by omega, ih]
    rfl

/-- A cut at byte offset `n` gives a first part of `n` bytes and the rest, and nothing else. -/
theorem splitAtByte?_eq_some_iff {cs a b : List Char} {n : Nat} :
    splitAtByte? cs n = some (a, b) ↔ a ++ b = cs ∧ byteLength a = n := by
  constructor
  · exact splitAtByte?_append
  · rintro ⟨rfl, rfl⟩
    exact splitAtByte?_append_self a b

/-! ## Lookups by text -/

/-- A lookup among pairs keyed by texts answers the first pair with the key. -/
theorem lookup_cons_pair {β : Type} (a k : String) (b : β) (es : List (String × β)) :
    ((k, b) :: es).lookup a = if a = k then some b else es.lookup a := by
  rw [List.lookup_cons]
  by_cases h : a = k
  · simp [h]
  · have hb : (a == k) = false := beq_false_of_ne h
    simp only [hb, if_neg h]

/-! ## Pieces -/

/-- The pieces of `cs` between the characters satisfying `p`, empty pieces included; `acc`
holds the current piece, last character first. -/
def piecesFrom (p : Char → Bool) : List Char → List Char → List (List Char)
  | [], acc => [acc.reverse]
  | c :: cs, acc => if p c then acc.reverse :: piecesFrom p cs [] else piecesFrom p cs (c :: acc)

/-- The pieces of a text between the characters satisfying `p`, empty pieces included. -/
def pieces (p : Char → Bool) (s : String) : List String :=
  (piecesFrom p s.toList []).map String.ofList

theorem piecesFrom_ne_nil (p : Char → Bool) (cs acc : List Char) : piecesFrom p cs acc ≠ [] := by
  induction cs generalizing acc with
  | nil => simp [piecesFrom]
  | cons c cs ih =>
    simp only [piecesFrom]
    split
    · simp
    · exact ih _

/-! ## Blanks -/

/-- Drops blanks at the start. -/
def trimStart (s : String) : String :=
  String.ofList (s.toList.dropWhile isBlank)

/-- Drops blanks at the end. -/
def trimEnd (s : String) : String :=
  String.ofList ((s.toList.reverse.dropWhile isBlank).reverse)

/-- Drops blanks at both ends. -/
def trim (s : String) : String :=
  trimEnd (trimStart s)

/-- The words of `cs`, where `acc` holds the current word, last character first. -/
def wordsFrom : List Char → List Char → List (List Char)
  | [], acc => if acc.isEmpty then [] else [acc.reverse]
  | c :: cs, acc =>
    if isBlank c then
      if acc.isEmpty then wordsFrom cs [] else acc.reverse :: wordsFrom cs []
    else wordsFrom cs (c :: acc)

/-- The words of a text: the pieces between runs of blanks. -/
def words (s : String) : List String :=
  (wordsFrom s.toList []).map String.ofList

/-! ## Lines -/

/-- The lines of `cs`, where `acc` holds the current line, last character first. A line feed
ends a line and takes a carriage return right before it along; at the end of the text a
pending line is kept as it is. -/
def linesFrom : List Char → List Char → List (List Char)
  | [], acc => if acc.isEmpty then [] else [acc.reverse]
  | c :: cs, acc =>
    if c = '\n' then
      (match acc with
        | '\r' :: r => r.reverse
        | _ => acc.reverse) :: linesFrom cs []
    else linesFrom cs (c :: acc)

/-- The lines of a text. A final line feed does not start another line. -/
def lines (s : String) : List String :=
  (linesFrom s.toList []).map String.ofList

end TypedUrls.Text
