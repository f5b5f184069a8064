import Mathlib
import TypedUrls.CSharp.Writer

/-!
# Laid-out source text

A text is *laid out* (`LaidOut`) when it is a sequence of lines, each ended by a line feed, that
`Layout.run` reads from the start to depth zero with a closing brace last. The reader keeps the
depth of open blocks and the kind of the last line, and takes each line off its indentation:

* a line that is only `{` opens a block; it stands four spaces deeper per enclosing block;
* a line that starts with `}` closes one, one level further out, and needs an open block;
* any other nonempty line stands four spaces deeper per enclosing block;
* an empty line may follow neither an opening brace nor another empty line, and no closing brace
  may follow it. A line of spaces only is no line of source.

So the braces nest and balance, every line is indented by its depth, and blank lines stand only
between members.

`Writer.Tracks w st` ties a writer to the reader: its text reads to `st`, at the writer's depth,
and its innermost block is marked written exactly when something other than an opening brace
came last. Each writing step keeps it (`Tracks.line`, `Tracks.open`, `Tracks.closeWith`,
`Tracks.member`). What the emitters need of a step is folded into two predicates:
`Settled w d` (the last line is no blank one) and `Pending w d` (a blank line may be pending,
so a declaration's line must come next).
-/

namespace TypedUrls.CSharp

/-! ## Texts within a line -/

/-- A text with no line feed: it stays within one line. -/
def NoLineFeed (s : String) : Prop := '\n' ∉ s.toList

instance (s : String) : Decidable (NoLineFeed s) :=
  inferInstanceAs (Decidable ('\n' ∉ s.toList))

@[simp] theorem noLineFeed_append {a b : String} :
    NoLineFeed (a ++ b) ↔ NoLineFeed a ∧ NoLineFeed b := by
  simp [NoLineFeed, not_or]

/-- Whether a text can start a line of source: it starts with neither a space nor a brace. -/
def startsLine (s : String) : Bool :=
  match s.toList with
  | c :: _ => c != ' ' && c != '{' && c != '}'
  | [] => false

/-- A text that makes a line of source of its own. -/
def Plain (s : String) : Prop := startsLine s = true ∧ NoLineFeed s

instance (s : String) : Decidable (Plain s) :=
  inferInstanceAs (Decidable (_ ∧ _))

theorem Plain.append {a b : String} (ha : Plain a) (hb : NoLineFeed b) : Plain (a ++ b) := by
  obtain ⟨hstart, hno⟩ := ha
  refine ⟨?_, noLineFeed_append.mpr ⟨hno, hb⟩⟩
  unfold startsLine at hstart ⊢
  rw [String.toList_append]
  split at hstart
  · next c rest hc => simpa [hc] using hstart
  · cases hstart

theorem Plain.toList_eq {s : String} (h : Plain s) :
    ∃ c rest, s.toList = c :: rest ∧ c ≠ ' ' ∧ c ≠ '{' ∧ c ≠ '}' := by
  obtain ⟨hstart, -⟩ := h
  unfold startsLine at hstart
  split at hstart
  · next c rest hc =>
    simp only [Bool.and_eq_true, bne_iff_ne, ne_eq] at hstart
    exact ⟨c, rest, hc, hstart.1.1, hstart.1.2, hstart.2⟩
  · cases hstart

theorem Plain.isEmpty {s : String} (h : Plain s) : s.isEmpty = false := by
  obtain ⟨c, rest, hs, -⟩ := h.toList_eq
  rw [Bool.eq_false_iff, ne_eq, String.isEmpty_iff, ← String.toList_inj, hs]
  simp

/-! ## Reading lines -/

/-- What a line of source is, by its text once its indentation is taken off. -/
inductive LineKind where
  | blank
  | opener
  | closer
  | other
deriving DecidableEq, Repr

/-- A reader of laid-out lines: the depth of the open blocks, and the kind of the last line
(none before the first). -/
structure Layout where
  depth : Nat
  last : Option LineKind
deriving DecidableEq, Repr

namespace Layout

/-- Before the first line. -/
def start : Layout := ⟨0, none⟩

/-- Whether the innermost block has something in it: the last line is no opening brace, and
there is one. -/
def written (st : Layout) : Bool :=
  match st.last with
  | none | some .opener => false
  | _ => true

/-- Reads one line, without its line feed; none when it breaks the layout. -/
def feed (st : Layout) (line : List Char) : Option Layout :=
  let width := (line.takeWhile (· = ' ')).length
  match line.dropWhile (· = ' ') with
  | [] =>
    if line = [] ∧ st.last ≠ some .opener ∧ st.last ≠ some .blank then
      some ⟨st.depth, some .blank⟩
    else none
  | ['{'] => if width = 4 * st.depth then some ⟨st.depth + 1, some .opener⟩ else none
  | '}' :: _ =>
    if 0 < st.depth ∧ width = 4 * (st.depth - 1) ∧ st.last ≠ some .blank then
      some ⟨st.depth - 1, some .closer⟩
    else none
  | _ => if width = 4 * st.depth then some ⟨st.depth, some .other⟩ else none

/-- Reads lines one after another. -/
def run : Layout → List (List Char) → Option Layout
  | st, [] => some st
  | st, l :: ls => (st.feed l).bind (run · ls)

theorem run_append (st : Layout) (ls ms : List (List Char)) :
    run st (ls ++ ms) = (run st ls).bind (run · ms) := by
  induction ls generalizing st with
  | nil => rfl
  | cons l ls ih =>
    simp only [List.cons_append, run, Option.bind_assoc]
    cases st.feed l <;> simp [ih]

theorem takeWhile_indent (n : Nat) {c : Char} (rest : List Char) (hc : c ≠ ' ') :
    (List.replicate n ' ' ++ c :: rest).takeWhile (· = ' ') = List.replicate n ' ' := by
  induction n with
  | zero => simp [hc]
  | succ n ih => simp [List.replicate_succ, ih]

theorem dropWhile_indent (n : Nat) {c : Char} (rest : List Char) (hc : c ≠ ' ') :
    (List.replicate n ' ' ++ c :: rest).dropWhile (· = ' ') = c :: rest := by
  induction n with
  | zero => simp [hc]
  | succ n ih => simp [List.replicate_succ, ih]

/-- A line that is no brace, at the depth of the open blocks. -/
theorem feed_other (st : Layout) {c : Char} (rest : List Char) (hc : c ≠ ' ') (ho : c ≠ '{')
    (hx : c ≠ '}') :
    st.feed (List.replicate (4 * st.depth) ' ' ++ c :: rest) = some ⟨st.depth, some .other⟩ := by
  unfold feed
  rw [dropWhile_indent _ _ hc, takeWhile_indent _ _ hc]
  split
  · next h => cases h
  · next h => cases h; exact absurd rfl ho
  · next h => cases h; exact absurd rfl hx
  · simp

/-- An opening brace at the depth of the open blocks opens one more. -/
theorem feed_opener (st : Layout) :
    st.feed (List.replicate (4 * st.depth) ' ' ++ ['{']) = some ⟨st.depth + 1, some .opener⟩ := by
  unfold feed
  rw [dropWhile_indent _ _ (by decide), takeWhile_indent _ _ (by decide)]
  simp

/-- A closing brace one level out closes a block, unless a blank line came last. -/
theorem feed_closer (st : Layout) (rest : List Char) (hd : 0 < st.depth)
    (hb : st.last ≠ some .blank) :
    st.feed (List.replicate (4 * (st.depth - 1)) ' ' ++ '}' :: rest) =
      some ⟨st.depth - 1, some .closer⟩ := by
  unfold feed
  rw [dropWhile_indent _ _ (by decide), takeWhile_indent _ _ (by decide)]
  simp [hd, hb]

/-- A blank line may follow a line of a block that has something in it, unless that line is
blank too. -/
theorem feed_blank (st : Layout) (hw : st.written = true) (hb : st.last ≠ some .blank) :
    st.feed [] = some ⟨st.depth, some .blank⟩ := by
  have ho : st.last ≠ some .opener := by
    intro h
    simp [written, h] at hw
  simp [feed, ho, hb]

end Layout

/-- `text` is a sequence of lines, each ended by a line feed, that the reader takes from the
start to `st`. -/
def Reads (text : List Char) (st : Layout) : Prop :=
  ∃ ls : List (List Char), (∀ l ∈ ls, '\n' ∉ l) ∧ text = ls.flatMap (· ++ ['\n']) ∧
    Layout.start.run ls = some st

/-- A laid-out text: lines whose braces nest and balance, each indented by its depth, with blank
lines only between members, and a closing brace last. -/
def LaidOut (s : String) : Prop := Reads s.toList ⟨0, some .closer⟩

theorem reads_nil : Reads [] Layout.start := ⟨[], by simp, rfl, rfl⟩

/-- One more line. -/
theorem Reads.snoc {text : List Char} {st st' : Layout} {l : List Char} (h : Reads text st)
    (hl : '\n' ∉ l) (hf : st.feed l = some st') : Reads (text ++ l ++ ['\n']) st' := by
  obtain ⟨ls, hflat, rfl, hrun⟩ := h
  refine ⟨ls ++ [l], ?_, by simp, ?_⟩
  · intro m hm
    rcases List.mem_append.mp hm with hm | hm
    · exact hflat m hm
    · rw [List.mem_singleton.mp hm]; exact hl
  · rw [Layout.run_append, hrun]
    simp [Layout.run, hf]

/-! ## The writer -/

namespace Writer

/-- The indentation of a line at depth `d`: four spaces per level. -/
theorem flatMap_indent (d : Nat) :
    (List.replicate d indent).flatMap String.toList = List.replicate (4 * d) ' ' := by
  induction d with
  | zero => rfl
  | succ d ih =>
    rw [List.replicate_succ, List.flatMap_cons, ih, Nat.mul_succ, Nat.add_comm,
      List.replicate_add]
    rfl

theorem line_out (w : Writer) {text : String} (ht : text.isEmpty = false) :
    (w.line text).out.toList =
      w.out.toList ++ (List.replicate (4 * w.depth) ' ' ++ text.toList) ++ ['\n'] := by
  have hmark : ∀ v : Writer, v.markWritten.out = v.out := by
    intro v
    unfold markWritten
    split <;> rfl
  simp [line, hmark, ht, flatMap_indent]

theorem head_markWritten (w : Writer) : w.markWritten.blocks.head? = some true := by
  unfold markWritten
  split
  · rfl
  · next h => exact absurd h w.nonempty

theorem depth_line (w : Writer) (text : String) : (w.line text).depth = w.depth := by
  simp [depth, length_blocks_line]

theorem depth_open (w : Writer) (header : String) : (w.open header).depth = w.depth + 1 := by
  have hlen := length_blocks_open w header
  have hw := depth_add_one w
  have hopen := depth_add_one (w.open header)
  omega

/-- The writer's text reads to `st`, its depth is `st`'s, and its innermost block is marked
written exactly when `st` says so. -/
structure Tracks (w : Writer) (st : Layout) : Prop where
  reads : Reads w.out.toList st
  depth : st.depth = w.depth
  written : w.blocks.head? = some st.written

theorem tracks_empty : ({} : Writer).Tracks Layout.start :=
  ⟨reads_nil, rfl, rfl⟩

section Steps

variable {w : Writer} {st : Layout}

/-- A line of its own after anything. -/
theorem Tracks.line (h : w.Tracks st) {text : String} (ht : Plain text) :
    (w.line text).Tracks ⟨st.depth, some .other⟩ := by
  obtain ⟨c, rest, hcs, hc, ho, hx⟩ := ht.toList_eq
  refine ⟨?_, by rw [depth_line, h.depth], head_markWritten _⟩
  rw [line_out w ht.isEmpty]
  refine h.reads.snoc ?_ ?_
  · have hno : '\n' ∉ text.toList := ht.2
    rw [hcs] at hno
    simpa [hcs] using hno
  · rw [hcs, ← h.depth]
    exact Layout.feed_other st rest hc ho hx

/-- A block opens after a header line of its own, after anything. -/
theorem Tracks.open (h : w.Tracks st) {header : String} (ht : Plain header) :
    (w.open header).Tracks ⟨st.depth + 1, some .opener⟩ := by
  have hheader := h.line ht
  have hbrace : Reads ((w.line header).line "\x7b").out.toList ⟨st.depth + 1, some .opener⟩ := by
    rw [line_out _ (by decide)]
    refine hheader.reads.snoc (by simp) ?_
    rw [← hheader.depth]
    exact Layout.feed_opener _
  exact ⟨hbrace, by rw [depth_open, h.depth], rfl⟩

/-- A block closes with a closing brace line one level out, unless a blank line came last. -/
theorem Tracks.closeWith (h : w.Tracks st) (hd : 0 < st.depth) (hb : st.last ≠ some .blank)
    {suffix : String} (hs : NoLineFeed suffix) :
    (w.closeWith suffix).Tracks ⟨st.depth - 1, some .closer⟩ := by
  -- the innermost block is popped first; the outermost level is never popped
  obtain ⟨b, c, rest, hblocks⟩ : ∃ b c rest, w.blocks = b :: c :: rest := by
    have hlen := depth_add_one w
    rw [← h.depth] at hlen
    rcases hw : w.blocks with _ | ⟨b, _ | ⟨c, rest⟩⟩
    · exact absurd hw w.nonempty
    · rw [hw] at hlen
      simp at hlen
      omega
    · exact ⟨b, c, rest, rfl⟩
  let v : Writer := { w with blocks := c :: rest, nonempty := List.cons_ne_nil _ _ }
  have hclose : w.closeWith suffix = v.line ("\x7d" ++ suffix) := by
    unfold Writer.closeWith
    split
    · next b' c' rest' hmatch =>
      rw [hblocks] at hmatch
      cases hmatch
      rfl
    · next hmatch => exact absurd hblocks (hmatch b c rest)
  have hvdepth : v.depth = st.depth - 1 := by
    have hw : st.depth = w.depth := h.depth
    have hv : v.blocks = c :: rest := rfl
    simp only [Writer.depth, hblocks, hv, List.length_cons] at hw ⊢
    omega
  rw [hclose]
  refine ⟨?_, by rw [depth_line, hvdepth], head_markWritten _⟩
  have hbrace : ("\x7d" ++ suffix).toList = '}' :: suffix.toList := by simp
  rw [line_out v (by simp), hvdepth, hbrace]
  refine h.reads.snoc ?_ ?_
  · simpa [NoLineFeed] using hs
  · exact Layout.feed_closer st suffix.toList hd hb

/-- A member starts with a blank line when its block has something in it. -/
theorem Tracks.member (h : w.Tracks st) (hb : st.last ≠ some .blank) :
    w.member.Tracks (if st.written then ⟨st.depth, some .blank⟩ else st) := by
  have hhead := h.written
  unfold Writer.member
  split
  · next rest hblocks =>
    rw [hblocks] at hhead
    have hw : st.written = true := by simpa using hhead.symm
    rw [if_pos hw]
    refine ⟨?_, h.depth, by simp [hblocks, Layout.written]⟩
    have hreads := h.reads.snoc (l := []) (by simp) (Layout.feed_blank st hw hb)
    simpa using hreads
  · next hnot =>
    have hw : st.written = false := by
      cases hblocks : w.blocks with
      | nil => exact absurd hblocks w.nonempty
      | cons b rest =>
        rw [hblocks] at hhead hnot
        cases b
        · simpa using hhead.symm
        · exact absurd rfl (hnot rest)
    rw [if_neg (by simp [hw])]
    exact h

end Steps

/-! ## Between declarations -/

/-- The writer stands between declarations at depth `d`: the last line is no blank one. -/
def Settled (w : Writer) (d : Nat) : Prop :=
  ∃ st, w.Tracks st ∧ st.depth = d ∧ st.last ≠ some .blank

/-- A declaration is about to start at depth `d`: a blank line may be pending. -/
def Pending (w : Writer) (d : Nat) : Prop :=
  ∃ st, w.Tracks st ∧ st.depth = d

section Declarations

variable {w : Writer} {d : Nat}

theorem settled_empty : ({} : Writer).Settled 0 :=
  ⟨_, tracks_empty, rfl, by simp [Layout.start]⟩

theorem Settled.pending (h : w.Settled d) : w.Pending d :=
  let ⟨st, ht, hd, _⟩ := h
  ⟨st, ht, hd⟩

theorem Settled.member (h : w.Settled d) : w.member.Pending d := by
  obtain ⟨st, ht, rfl, hb⟩ := h
  refine ⟨_, ht.member hb, ?_⟩
  split <;> rfl

theorem Pending.line (h : w.Pending d) {text : String} (ht : Plain text) :
    (w.line text).Settled d := by
  obtain ⟨st, hst, rfl⟩ := h
  exact ⟨_, hst.line ht, rfl, by simp⟩

theorem Pending.open (h : w.Pending d) {header : String} (ht : Plain header) :
    (w.open header).Settled (d + 1) := by
  obtain ⟨st, hst, rfl⟩ := h
  exact ⟨_, hst.open ht, rfl, by simp⟩

theorem Settled.line (h : w.Settled d) {text : String} (ht : Plain text) :
    (w.line text).Settled d :=
  h.pending.line ht

theorem Settled.tracks_closeWith (h : w.Settled (d + 1)) {suffix : String}
    (hs : NoLineFeed suffix) : (w.closeWith suffix).Tracks ⟨d, some .closer⟩ := by
  obtain ⟨st, hst, hd, hb⟩ := h
  have hclosed := hst.closeWith (by omega) hb hs
  rwa [hd, Nat.add_sub_cancel] at hclosed

theorem Settled.closeWith (h : w.Settled (d + 1)) {suffix : String} (hs : NoLineFeed suffix) :
    (w.closeWith suffix).Settled d :=
  ⟨_, h.tracks_closeWith hs, rfl, by simp⟩

theorem Settled.close (h : w.Settled (d + 1)) : w.close.Settled d :=
  h.closeWith (by decide)

/-- A writer that closes its last block holds a laid-out text. -/
theorem Settled.laidOut_close (h : w.Settled 1) : LaidOut w.close.finish :=
  (h.tracks_closeWith (by decide)).reads

end Declarations

end Writer

end TypedUrls.CSharp
