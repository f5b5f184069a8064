/-!
# Writing indented source

A `Writer` collects source text in nested blocks. Opening a block writes its header and an
opening brace and indents what follows by four spaces; closing writes the closing brace one
level out. `member` starts a sibling declaration: it puts a blank line before it unless it is
the first thing in its block, so that no blank line follows an opening brace or precedes a
closing one.
-/

namespace TypedUrls.CSharp

/-- One level of indentation. -/
def indent : String := "    "

/-- A writer starts with the outermost level only. -/
theorem outermost_ne_nil : [false] ≠ ([] : List Bool) := List.cons_ne_nil _ _

/-- Source text being written: the text so far, and for each open block, innermost first,
whether anything was written into it yet. The outermost level is always there, so the depth
never goes below zero. -/
structure Writer where
  out : String := ""
  blocks : List Bool := [false]
  nonempty : blocks ≠ [] := by exact TypedUrls.CSharp.outermost_ne_nil
deriving DecidableEq, Repr, Inhabited

namespace Writer

/-- The number of open blocks. -/
def depth (w : Writer) : Nat := w.blocks.length - 1

/-- Marks the innermost block as written into. -/
def markWritten (w : Writer) : Writer :=
  match w.blocks with
  | _ :: rest => { w with blocks := true :: rest, nonempty := List.cons_ne_nil _ _ }
  | [] => w

/-- Writes one line at the current depth; an empty line gets no indentation. -/
def line (w : Writer) (text : String) : Writer :=
  let lead := if text.isEmpty then "" else String.join (List.replicate w.depth indent)
  markWritten { w with out := w.out ++ lead ++ text ++ "\n" }

/-- Starts a sibling declaration: a blank line unless the block is still empty. -/
def member (w : Writer) : Writer :=
  match w.blocks with
  | true :: _ => { w with out := w.out ++ "\n" }
  | _ => w

/-- Writes `header` and an opening brace, and opens a block. -/
def «open» (w : Writer) (header : String) : Writer :=
  let w := (w.line header).line "\x7b"
  { w with blocks := false :: w.blocks, nonempty := List.cons_ne_nil _ _ }

/-- Closes the innermost block (the outermost level stays) and writes the closing brace with
`suffix` after it. -/
def closeWith (w : Writer) (suffix : String) : Writer :=
  let w := match w.blocks with
    | _ :: b :: rest => { w with blocks := b :: rest, nonempty := List.cons_ne_nil _ _ }
    | _ => w
  w.line ("\x7d" ++ suffix)

/-- Closes the innermost block. -/
def close (w : Writer) : Writer := w.closeWith ""

/-- The text written. -/
def finish (w : Writer) : String := w.out

/-- The depth counts the open blocks exactly: the outermost level is never closed. -/
theorem depth_add_one (w : Writer) : w.depth + 1 = w.blocks.length := by
  unfold depth
  cases hb : w.blocks with
  | nil => exact absurd hb w.nonempty
  | cons b rest => simp

theorem length_blocks_markWritten (w : Writer) :
    w.markWritten.blocks.length = w.blocks.length := by
  unfold markWritten
  split <;> simp_all

theorem length_blocks_line (w : Writer) (text : String) :
    (w.line text).blocks.length = w.blocks.length := by
  simp [line, length_blocks_markWritten]

/-- Opening a block adds one level. -/
theorem length_blocks_open (w : Writer) (header : String) :
    (w.open header).blocks.length = w.blocks.length + 1 := by
  simp [«open», length_blocks_line]

end Writer

end TypedUrls.CSharp
