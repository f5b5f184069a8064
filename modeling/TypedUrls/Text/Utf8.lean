/-!
# Reading UTF-8

Bytes read as text must be well-formed UTF-8 (RFC 3629 §4): a character is one byte below
`0x80`; or a lead byte `C2`–`DF` and one continuation byte; or a lead byte `E0`–`EF` and two
(after `E0` the first is at least `A0`, after `ED` at most `9F`); or a lead byte `F0`–`F4` and
three (after `F0` the first is at least `90`, after `F4` at most `8F`). Continuation bytes are
`80`–`BF`. Overlong forms, surrogates and values past `U+10FFFF` are thereby refused.
-/

namespace TypedUrls.Text

/-- Whether a byte is a continuation byte. -/
def isTail (b : Nat) : Bool := 0x80 ≤ b ∧ b ≤ 0xBF

/-- The least and greatest second byte after a lead byte of three or four bytes. -/
def secondRange (a : Nat) : Nat × Nat :=
  if a = 0xE0 then (0xA0, 0xBF)
  else if a = 0xED then (0x80, 0x9F)
  else if a = 0xF0 then (0x90, 0xBF)
  else if a = 0xF4 then (0x80, 0x8F)
  else (0x80, 0xBF)

/-- Whether `b` may follow the lead byte `a` of a character of three or four bytes. -/
def secondOk (a b : Nat) : Bool :=
  let (lo, hi) := secondRange a
  lo ≤ b ∧ b ≤ hi

/-- The characters of well-formed UTF-8 bytes, or none. -/
def decodeFrom : List Nat → Option (List Char)
  | [] => some []
  | a :: rest =>
    if a ≤ 0x7F then (decodeFrom rest).map (Char.ofNat a :: ·)
    else
      match rest with
      | b :: rest2 =>
        if 0xC2 ≤ a ∧ a ≤ 0xDF then
          if isTail b then (decodeFrom rest2).map (Char.ofNat ((a % 32) * 64 + b % 64) :: ·)
          else none
        else
          match rest2 with
          | c :: rest3 =>
            if 0xE0 ≤ a ∧ a ≤ 0xEF then
              if secondOk a b ∧ isTail c then
                (decodeFrom rest3).map (Char.ofNat ((a % 16) * 4096 + (b % 64) * 64 + c % 64) :: ·)
              else none
            else
              match rest3 with
              | d :: rest4 =>
                if 0xF0 ≤ a ∧ a ≤ 0xF4 ∧ secondOk a b ∧ isTail c ∧ isTail d then
                  (decodeFrom rest4).map
                    (Char.ofNat ((a % 8) * 262144 + (b % 64) * 4096 + (c % 64) * 64 + d % 64) :: ·)
                else none
              | [] => none
          | [] => none
      | [] => none

/-- The text of UTF-8 bytes, or none when they are not well-formed. -/
def decodeUtf8 (bytes : List Nat) : Option String :=
  (decodeFrom bytes).map String.ofList

/-- The UTF-8 bytes of a text. -/
def encodeUtf8 (s : String) : List Nat :=
  s.toUTF8.toList.map (·.toNat)

end TypedUrls.Text
