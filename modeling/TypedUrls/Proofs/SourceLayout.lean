import Mathlib
import TypedUrls.Proofs.WriterLayout
import TypedUrls.Proofs.LiteralDecoding
import TypedUrls.Proofs.MemberNames

/-!
# The layout of the emitted sources

Both emitters write their source through a `Writer`, one declaration after another: a member
starts with `member` and then a line or an opening header; a class or a method opens a block and
closes it again. So each routine of the emitters leaves the writer settled at the depth it found
it (`settled_openHelperClass`, `settled_writeUrlMethod`, …), the page emitter as deep as its
folders nest (`settled_writeFolders`, by induction over the folder tree).

That holds as long as every line the routines write is a line of its own: no text written into
the source as it is may hold a line feed. Names are sanitised and literals escaped, so the texts
that matter are the options (`EmitterOptions.Flat`) and, for each parameter, its type, its
description, and the text of a decimal default or the names of an enumeration default
(`Parameter.rawTexts`). Under that condition both sources are laid out (`sources_laidOut`): the
braces nest and balance, every line is indented by its depth, blank lines stand only between
members, and the text ends with a closing brace.
-/

namespace TypedUrls

/-! ## Texts that stay within a line -/

namespace CSharp

theorem noLineFeed_of_wellFormedName {s : String} (h : WellFormedName s) : NoLineFeed s := by
  obtain ⟨c, rest, hs, -, hchars⟩ := h
  intro hmem
  rw [hs] at hmem
  have hid := hchars _ hmem
  revert hid
  decide

theorem noLineFeed_sanitize (raw : String) : NoLineFeed (sanitize raw) :=
  noLineFeed_of_wellFormedName (wellFormedName_sanitize raw)

theorem noLineFeed_parameterIdentifier (name : String) : NoLineFeed (parameterIdentifier name) := by
  unfold parameterIdentifier
  dsimp only
  split
  · exact noLineFeed_append.mpr ⟨by decide, noLineFeed_sanitize name⟩
  · exact noLineFeed_sanitize name

theorem noLineFeed_join {l : List String} (h : ∀ s ∈ l, NoLineFeed s) : NoLineFeed (String.join l) := by
  simp only [NoLineFeed, String.toList_join, List.mem_flatMap, not_exists, not_and]
  exact h

theorem noLineFeed_ofList {cs : List Char} (h : '\n' ∉ cs) : NoLineFeed (String.ofList cs) := by
  simpa [NoLineFeed] using h

theorem not_mem_of_hexFrom {acc n : Nat} {ds : List Char} (h : hexFrom acc ds = some n) :
    '\n' ∉ ds := by
  induction ds generalizing acc with
  | nil => simp
  | cons d ds ih =>
    simp only [hexFrom] at h
    cases hd : hexDigitValue? d with
    | none => simp [hd] at h
    | some v =>
      rw [hd, Option.bind_some] at h
      have hne : d ≠ '\n' := by
        rintro rfl
        simp [hexDigitValue?] at hd
      simp only [List.mem_cons, not_or]
      exact ⟨Ne.symm hne, ih h⟩

/-- An escaped character stays within the line. -/
theorem noLineFeed_escapeChar {q : Char} (hq : q ≠ '\n') (c : Char) :
    NoLineFeed (escapeChar q c) := by
  unfold escapeChar
  split_ifs with h1 h2 h3 h4 h5 h6 h7
  · decide
  · decide
  · decide
  · decide
  · decide
  · subst h6
    simp [NoLineFeed, hq.symm]
  · have hlt : c.toNat < 0xA0 := by simp [Text.isControl] at h7; omega
    obtain ⟨a, b, d, e, hdigits, hvalue⟩ := hex4_spec (n := c.toNat) (by omega)
    refine noLineFeed_append.mpr ⟨by decide, ?_⟩
    rw [NoLineFeed, hdigits]
    exact not_mem_of_hexFrom hvalue
  · simpa [NoLineFeed] using Ne.symm h2

theorem noLineFeed_stringLiteral (s : String) : NoLineFeed (stringLiteral s) := by
  refine noLineFeed_append.mpr ⟨noLineFeed_append.mpr ⟨by decide, noLineFeed_join ?_⟩, by decide⟩
  intro e he
  obtain ⟨c, -, rfl⟩ := List.mem_map.mp he
  exact noLineFeed_escapeChar (by decide) c

theorem noLineFeed_charLiteral (c : Char) : NoLineFeed (charLiteral c) :=
  noLineFeed_append.mpr
    ⟨noLineFeed_append.mpr ⟨by decide, noLineFeed_escapeChar (by decide) c⟩, by decide⟩

/-- Decimal digits are no line feed. -/
theorem lineFeed_not_mem_toDigits (n : Nat) : '\n' ∉ Nat.toDigits 10 n := by
  intro h
  have hdigit := Nat.isDigit_of_mem_toDigits (by decide) (by decide) h
  revert hdigit
  decide

theorem noLineFeed_toString_nat (n : Nat) : NoLineFeed (toString n) := by
  rw [Nat.toString_eq_ofList_toDigits]
  exact noLineFeed_ofList (lineFeed_not_mem_toDigits n)

theorem noLineFeed_toString_int (i : Int) : NoLineFeed (toString i) := by
  cases i with
  | ofNat n => exact noLineFeed_toString_nat n
  | negSucc n =>
    exact noLineFeed_append.mpr ⟨by decide, noLineFeed_toString_nat (n + 1)⟩

theorem noLineFeed_trim {s : String} (h : NoLineFeed s) : NoLineFeed (Text.trim s) := by
  unfold Text.trim Text.trimEnd Text.trimStart
  refine noLineFeed_ofList fun hmem => h ?_
  rw [List.mem_reverse] at hmem
  have hrev := (List.dropWhile_sublist _).subset hmem
  rw [String.toList_ofList, List.mem_reverse] at hrev
  exact (List.dropWhile_sublist _).subset hrev

end CSharp

/-! ### Numbers -/

namespace Binary

open CSharp

theorem not_mem_dropTrailingZeros {ds : List Char} (h : '\n' ∉ ds) :
    '\n' ∉ dropTrailingZeros ds := by
  unfold dropTrailingZeros
  split
  · decide
  · intro hmem
    rw [List.mem_reverse] at hmem
    exact h (List.mem_reverse.mp ((List.dropWhile_sublist _).subset hmem))

theorem not_mem_natDigits (n : Nat) : '\n' ∉ natDigits n :=
  lineFeed_not_mem_toDigits n

theorem not_mem_shortestFrom (tie : Tie) (m : Nat) (e : Int) (lowerCloser : Bool) (n fuel : Nat) :
    '\n' ∉ (shortestFrom tie m e lowerCloser n fuel).digits := by
  induction fuel generalizing n with
  | zero => exact not_mem_natDigits m
  | succ fuel ih =>
    rw [shortestFrom]
    split
    · exact not_mem_dropTrailingZeros (not_mem_natDigits _)
    · exact ih (n + 1)

theorem not_mem_shortest (tie : Tie) (f : Format) (m : Nat) (e : Int) :
    '\n' ∉ (shortest tie f m e).digits := by
  unfold shortest
  split
  · decide
  · exact not_mem_shortestFrom tie m e _ 1 _

theorem noLineFeed_layout (d : Digits) (hd : '\n' ∉ d.digits) (l : Binary.Layout) :
    NoLineFeed (d.layout l) := by
  have hzeros : ∀ k, '\n' ∉ Digits.zeros k := fun k h => by
    simp [Digits.zeros, List.mem_replicate] at h
  unfold Digits.layout
  split
  · unfold Digits.positional
    split
    · refine noLineFeed_ofList ?_
      simp only [List.mem_append, List.mem_cons, not_or]
      refine ⟨⟨fun h => hd (List.mem_of_mem_take h), hzeros _⟩, by decide, ?_⟩
      split
      · decide
      · exact fun h => hd (List.mem_of_mem_drop h)
    · refine noLineFeed_ofList ?_
      simp only [List.mem_append, not_or]
      exact ⟨⟨by decide, hzeros _⟩, hd⟩
  · unfold Digits.exponential
    refine noLineFeed_append.mpr ⟨noLineFeed_append.mpr ⟨noLineFeed_append.mpr
      ⟨noLineFeed_ofList ?_, by decide⟩, by split <;> decide⟩, noLineFeed_toString_int _⟩
    split
    · next c hdigits => rwa [hdigits] at hd
    · next c rest _ hdigits =>
      rw [hdigits] at hd
      simp only [List.mem_cons, not_or] at hd ⊢
      exact ⟨hd.1, by decide, hd.2⟩
    · decide

theorem noLineFeed_text (f : Format) (bits : Nat) : NoLineFeed (f.text .plain bits) := by
  unfold Format.text
  split
  · decide
  · exact noLineFeed_append.mpr ⟨by split <;> decide, by decide⟩
  · exact noLineFeed_append.mpr ⟨by split <;> decide, noLineFeed_layout _ (not_mem_shortest _ _ _ _) _⟩

end Binary

/-- The texts of a constant that its literal holds as they are: the text of a decimal, and the
type and member names of an enumeration member. -/
def Constant.rawTexts : Constant → List String
  | .decimal text => [text]
  | .enumMember t m _ => t :: m.toList
  | _ => []

open CSharp in
/-- A literal stays within the line when the texts it holds as they are do. -/
theorem CSharp.noLineFeed_constantLiteral (v : Constant) (hv : ∀ s ∈ v.rawTexts, NoLineFeed s) :
    NoLineFeed (constantLiteral v) := by
  cases v with
  | null => decide
  | bool b => cases b <;> decide
  | integer i => exact noLineFeed_toString_int i
  | unsigned u =>
    simp only [constantLiteral]
    split
    · exact noLineFeed_toString_nat u
    · exact noLineFeed_append.mpr ⟨noLineFeed_toString_nat u, by decide⟩
  | float x =>
    simp only [constantLiteral]
    split
    · exact noLineFeed_append.mpr ⟨Binary.noLineFeed_text _ _, by decide⟩
    · unfold nonFinite; split <;> decide
  | double x =>
    simp only [constantLiteral]
    split
    · exact Binary.noLineFeed_text _ _
    · unfold nonFinite; split <;> decide
  | decimal text =>
    exact noLineFeed_append.mpr ⟨noLineFeed_trim (hv text (by simp [Constant.rawTexts])), by decide⟩
  | char c => exact noLineFeed_charLiteral c
  | string s => exact noLineFeed_stringLiteral s
  | enumMember t m v =>
    have ht : NoLineFeed t := hv t (by simp [Constant.rawTexts])
    cases m with
    | some m =>
      have hm : NoLineFeed m := hv m (by simp [Constant.rawTexts])
      simp [constantLiteral, ht, hm]
      decide
    | none =>
      have hv : NoLineFeed (toString v) := noLineFeed_toString_int v
      simp only [constantLiteral]
      split <;> simp only [noLineFeed_append, ht, hv] <;> decide

/-! ## What the emitters write as it is -/

open CSharp Descriptor

/-- The texts of a parameter that its URL method holds as they are: its type, its description,
and those of its default. -/
def Descriptor.Parameter.rawTexts (p : Parameter) : List String :=
  p.type :: p.description.toList ++ (p.default.map Constant.rawTexts).getD []

/-- None of the texts that the URL method of these parameters holds as they are has a line
feed. -/
def Descriptor.FlatParameters (ps : List Parameter) : Prop :=
  ∀ p ∈ ps, ∀ s ∈ p.rawTexts, NoLineFeed s

/-- Every page in the folder or below it satisfies `P`. -/
inductive Descriptor.Folder.AllPages (P : Page → Prop) : Folder → Prop
  | mk {name path : String} {folders : List Folder} {pages : List Page} :
      (∀ f ∈ folders, AllPages P f) → (∀ page ∈ pages, P page) →
      AllPages P (.mk name path folders pages)

/-- Every endpoint of the area has flat parameters. -/
def Descriptor.Area.Flat (a : Area) : Prop :=
  ∀ c ∈ a.containers, ∀ e ∈ c.endpoints, FlatParameters e.parameters

/-- Every page of the area, in a folder or not, has flat parameters. -/
def Descriptor.PageArea.Flat (a : PageArea) : Prop :=
  (∀ page ∈ a.pages, FlatParameters page.parameters) ∧
    ∀ f ∈ a.folders, f.AllPages fun page => FlatParameters page.parameters

/-- No option text that the emitted source holds as it is has a line feed. -/
structure EmitterOptions.Flat (o : EmitterOptions) : Prop where
  «namespace» : NoLineFeed o.«namespace»
  usings : ∀ u ∈ o.usings, NoLineFeed u
  urlHelperType : NoLineFeed o.urlHelperType
  routeValuesType : NoLineFeed o.routeValuesType
  actionMethod : NoLineFeed o.actionMethod
  pageMethod : NoLineFeed o.pageMethod
  controllerExtensionsClass : NoLineFeed o.controllerExtensionsClass
  pageExtensionsClass : NoLineFeed o.pageExtensionsClass
  rootControllersAccessor : NoLineFeed o.rootControllersAccessor
  rootPagesAccessor : NoLineFeed o.rootPagesAccessor

/-- The default options hold no line feed. -/
theorem EmitterOptions.flat_default : ({} : EmitterOptions).Flat where
  «namespace» := by decide
  usings := by decide
  urlHelperType := by decide
  routeValuesType := by decide
  actionMethod := by decide
  pageMethod := by decide
  controllerExtensionsClass := by decide
  pageExtensionsClass := by decide
  rootControllersAccessor := by decide
  rootPagesAccessor := by decide

namespace UrlHelpers

theorem noLineFeed_xmlEscape {d : String} (h : NoLineFeed d) : NoLineFeed (xmlEscape d) := by
  refine noLineFeed_join fun s hs => ?_
  obtain ⟨c, hc, rfl⟩ := List.mem_map.mp hs
  split_ifs
  · decide
  · decide
  · decide
  · simpa [NoLineFeed] using fun h' : '\n' = c => h (h' ▸ hc)

theorem not_mem_intercalate {sep : List Char} (hsep : '\n' ∉ sep) :
    ∀ {xs : List (List Char)}, (∀ x ∈ xs, '\n' ∉ x) → '\n' ∉ sep.intercalate xs
  | [], _ => by simp
  | [x], h => by simpa using h x (by simp)
  | x :: y :: rest, h => by
    rw [List.intercalate_cons_cons]
    simp only [List.mem_append, not_or]
    exact ⟨⟨h x (by simp), hsep⟩,
      not_mem_intercalate hsep fun z hz => h z (List.mem_cons_of_mem _ hz)⟩

theorem noLineFeed_default {p : Parameter} (hp : ∀ s ∈ p.rawTexts, NoLineFeed s) :
    NoLineFeed ((p.default.map constantLiteral).getD "default") := by
  cases hd : p.default with
  | none => decide
  | some v =>
    refine noLineFeed_constantLiteral v fun s hs => hp s ?_
    simp [Parameter.rawTexts, hd, hs]

theorem noLineFeed_parameterList {ps : List Parameter} (hps : FlatParameters ps) :
    NoLineFeed (parameterList ps) := by
  unfold parameterList
  rw [NoLineFeed, String.toList_intercalate]
  refine not_mem_intercalate (by decide) fun x hx => ?_
  obtain ⟨s, hs, rfl⟩ := List.mem_map.mp hx
  obtain ⟨⟨p, i⟩, hpi, rfl⟩ := List.mem_map.mp hs
  have hp := hps p (List.fst_mem_of_mem_zipIdx hpi)
  have htype : NoLineFeed p.type := hp p.type (by simp [Parameter.rawTexts])
  have hdecl : NoLineFeed (p.type ++ " " ++ parameterIdentifier p.name) := by
    simp [htype, noLineFeed_parameterIdentifier]
    decide
  dsimp only
  split
  · exact hdecl
  · exact noLineFeed_append.mpr ⟨noLineFeed_append.mpr ⟨hdecl, by decide⟩, noLineFeed_default hp⟩

theorem noLineFeed_handler (handler : Option String) :
    NoLineFeed ((handler.map stringLiteral).getD "null") := by
  cases handler with
  | none => decide
  | some h => exact noLineFeed_stringLiteral h

theorem noLineFeed_pageAreaClass (a : PageArea) : NoLineFeed (pageAreaClass a) :=
  noLineFeed_of_wellFormedName (wellFormedName_areaClass (by simp) _ a.name)

theorem noLineFeed_endpointAreaClass (a : Area) : NoLineFeed (endpointAreaClass a) :=
  noLineFeed_of_wellFormedName (wellFormedName_areaClass (by simp) _ a.name)

/-! ## Each routine keeps the writer settled -/

section Routines

variable {o : EmitterOptions} (ho : o.Flat) {w : Writer} {d : Nat}

theorem settled_foldl {α : Type} {xs : List α} {f : Writer → α → Writer}
    (hf : ∀ v, ∀ x ∈ xs, v.Settled d → (f v x).Settled d) (h : w.Settled d) :
    (xs.foldl f w).Settled d :=
  List.foldlRecOn (motive := fun (v : Writer) => v.Settled d) xs f h fun v hv x hx => hf v x hx hv

/-- The class of one folder, with its members, as `writeFolders` writes it. -/
def writeFolderClass (area : String) (options : EmitterOptions) (w : Writer) (f : Folder) :
    Writer :=
  (writeMembers area options (openHelperClass w (sanitize f.name ++ "FolderUrls") options)
    f.folders f.pages).close

theorem writeFolders_cons (area : String) (w : Writer) (f : Folder) (rest : List Folder) :
    writeFolders area o w (f :: rest) = writeFolders area o (writeFolderClass area o w f) rest := by
  cases f
  rw [writeFolders]
  rfl

theorem settled_writeFolders {area : String} {folders : List Folder}
    (hfolders : ∀ f ∈ folders, ∀ {v : Writer} {e : Nat}, v.Settled e →
      (writeFolderClass area o v f).Settled e)
    (h : w.Settled d) : (writeFolders area o w folders).Settled d := by
  induction folders generalizing w with
  | nil =>
    rw [writeFolders]
    exact h
  | cons f rest ih =>
    rw [writeFolders_cons]
    exact ih (fun g hg => hfolders g (List.mem_cons_of_mem f hg)) (hfolders f List.mem_cons_self h)

include ho

theorem settled_openFile : (openFile {} o).Settled 1 := by
  unfold openFile
  dsimp only
  have hhead := (Writer.settled_empty.line (by decide : Plain "// <auto-generated/>")).line
    (by decide : Plain "#nullable enable")
  refine Writer.Pending.open (Writer.Settled.member ?_) (Plain.append (by decide) ho.namespace)
  split
  · exact hhead
  · next hne =>
    -- the first using line follows the blank line, the others follow it
    obtain ⟨u, us, hus⟩ := List.exists_cons_of_ne_nil (by simpa using hne)
    have hu : ∀ x ∈ o.usings, Plain ("using " ++ x ++ ";") := fun x hx =>
      (Plain.append (by decide) (ho.usings x hx)).append (by decide)
    rw [hus, List.foldl_cons]
    refine settled_foldl (fun v x hx hv => hv.line (hu x (by simp [hus, hx]))) ?_
    exact hhead.member.line (hu u (by simp [hus]))

theorem settled_writeExtensions {className : String} {accessors : List (String × String)}
    (hc : NoLineFeed className)
    (ha : ∀ x ∈ accessors, NoLineFeed x.1 ∧ NoLineFeed x.2) (h : w.Settled d) :
    (writeExtensions w className accessors o).Settled d := by
  unfold writeExtensions
  dsimp only
  refine Writer.Settled.close (settled_foldl (fun v x hx hv => hv.member.line ?_)
    (h.member.open (Plain.append (by decide) hc)))
  obtain ⟨h1, h2⟩ := ha x hx
  simp only [String.append_assoc]
  exact Plain.append (by decide) (by simp [h1, h2, ho.urlHelperType]; decide)

theorem settled_openHelperClass {className : String} (hc : NoLineFeed className)
    (h : w.Settled d) : (openHelperClass w className o).Settled (d + 1) := by
  unfold openHelperClass
  dsimp only
  -- from the last line back: the constructor, the field, the class header
  refine Writer.Settled.close (Writer.Settled.line ?_ (by decide))
  refine Writer.Pending.open (Writer.Settled.member ?_) ?_
  · refine Writer.Pending.line (Writer.Settled.member ?_) ?_
    · exact Writer.Pending.open h.member (Plain.append (by decide) hc)
    · simp only [String.append_assoc]
      exact Plain.append (by decide) (by simp [ho.urlHelperType, urlHelperField]; decide)
  · simp only [String.append_assoc]
    exact Plain.append (by decide) (by simp [hc, ho.urlHelperType]; decide)

omit ho in
theorem settled_writeChildProperty {property className : String} (hp : NoLineFeed property)
    (hc : NoLineFeed className) (h : w.Settled d) :
    (writeChildProperty w property className).Settled d := by
  unfold writeChildProperty
  refine h.member.line ?_
  simp only [String.append_assoc]
  exact Plain.append (by decide) (by simp [hp, hc, urlHelperField]; decide)

theorem settled_writeUrlMethod {methodName callHead area : String} {ps : List Parameter}
    (hm : NoLineFeed methodName) (hh : NoLineFeed callHead) (hps : FlatParameters ps)
    (h : w.Settled d) : (writeUrlMethod w methodName callHead area ps o).Settled d := by
  unfold writeUrlMethod
  dsimp only
  -- the documentation lines come right after the member's blank line, before the header
  have hdocs : (writeParameterDocs w.member ps).Pending d := by
    unfold writeParameterDocs
    refine List.foldlRecOn (motive := fun (v : Writer) => v.Pending d) ps _ h.member
      fun v hv p hp => ?_
    split
    · next desc hdesc =>
      refine (hv.line ?_).pending
      have hdoc : NoLineFeed desc := hps p hp desc (by simp [Parameter.rawTexts, hdesc])
      simp only [String.append_assoc]
      refine Plain.append (by decide) ?_
      simp [noLineFeed_sanitize, noLineFeed_xmlEscape hdoc]
      decide
    · exact hv
  refine Writer.Settled.close (Writer.Settled.closeWith ?_ (by decide))
  -- the route values: a line for the area, then one for each parameter
  refine settled_foldl (fun v p _ hv => hv.line ?_) ?_
  · simp only [String.append_assoc]
    exact Plain.append (by decide)
      (by simp [noLineFeed_stringLiteral, noLineFeed_parameterIdentifier]; decide)
  refine Writer.Settled.line (Writer.Pending.open (Writer.Pending.open hdocs ?_).pending ?_) ?_
  · simp only [String.append_assoc]
    exact Plain.append (by decide) (by simp [hm, noLineFeed_parameterList hps]; decide)
  · simp only [String.append_assoc]
    exact Plain.append (by decide) (by simp [hh, ho.routeValuesType, urlHelperField]; decide)
  · simp only [String.append_assoc]
    exact Plain.append (by decide) (by simp [noLineFeed_stringLiteral]; decide)

theorem settled_writeContainer {c : Container} (hc : ∀ e ∈ c.endpoints, FlatParameters e.parameters)
    (h : w.Settled d) : (writeContainer w c o).Settled d := by
  unfold writeContainer
  dsimp only
  refine Writer.Settled.close (settled_foldl (fun v e he hv => ?_)
    (settled_openHelperClass ho (by simp [noLineFeed_sanitize]; decide) h))
  refine settled_writeUrlMethod ho (noLineFeed_sanitize _) ?_ (hc e he) hv
  simp [ho.actionMethod, noLineFeed_stringLiteral]
  decide

/-! ### The page classes, along the folder tree -/

/-- Every member the class of a page area or folder writes keeps the writer settled, once the
class of each folder below does. -/
theorem settled_writeMembers {area : String} {folders : List Folder} {pages : List Page}
    (hfolders : ∀ f ∈ folders, ∀ {v : Writer} {e : Nat}, v.Settled e →
      (writeFolderClass area o v f).Settled e)
    (hpages : ∀ page ∈ pages, FlatParameters page.parameters) (h : w.Settled d) :
    (writeMembers area o w folders pages).Settled d := by
  have hnames := memberNames_wellFormed folders pages
  rw [writeMembers_eq]
  refine settled_writeFolders hfolders
    (settled_foldl (fun v x hx hv => ?_) (settled_foldl (fun v x hx hv => ?_) h))
  · -- a page's URL method
    obtain ⟨hpage, hname⟩ := List.of_mem_zip hx
    refine settled_writeUrlMethod ho
      (noLineFeed_of_wellFormedName (hnames _ (by simp [hname]))) ?_ (hpages _ hpage) hv
    simp only [noLineFeed_append, ho.pageMethod, noLineFeed_stringLiteral, noLineFeed_handler]
    decide
  · -- a folder's property
    obtain ⟨hproperty, hclass⟩ := List.of_mem_zip hx
    exact settled_writeChildProperty (noLineFeed_of_wellFormedName (hnames _ (by simp [hproperty])))
      (noLineFeed_of_wellFormedName (hnames _ (by simp [hclass]))) hv

/-- The class of a folder keeps the writer settled, by induction over the folders below it. -/
theorem settled_writeFolderClass {area : String} {f : Folder}
    (hf : f.AllPages fun page => FlatParameters page.parameters) :
    ∀ {v : Writer} {e : Nat}, v.Settled e → (writeFolderClass area o v f).Settled e := by
  induction hf with
  | mk hfolders hpages ih =>
    intro v e hv
    refine Writer.Settled.close
      (settled_writeMembers ho (fun g hg => ih g hg) hpages (settled_openHelperClass ho ?_ hv))
    exact noLineFeed_of_wellFormedName (wellFormedName_sanitize_append (by simp) _)

theorem noLineFeed_pageAreaAccessor (a : PageArea) : NoLineFeed (pageAreaAccessor a o) := by
  unfold pageAreaAccessor
  split
  · exact ho.rootPagesAccessor
  · exact noLineFeed_append.mpr ⟨noLineFeed_sanitize a.name, ho.rootPagesAccessor⟩

/-- The class of a page area keeps the writer settled. -/
theorem settled_pageArea {a : PageArea} (ha : a.Flat) (h : w.Settled d) :
    (writeMembers a.name o (openHelperClass w (pageAreaClass a) o) a.folders a.pages).close.Settled
      d := by
  obtain ⟨hpages, hfolders⟩ := ha
  have hclass := settled_openHelperClass ho (noLineFeed_pageAreaClass a) h
  exact (settled_writeMembers ho (fun f hf => settled_writeFolderClass ho (hfolders f hf)) hpages
    hclass).close

/-! ### The endpoint classes -/

theorem noLineFeed_endpointAreaAccessor (a : Area) : NoLineFeed (endpointAreaAccessor a o) := by
  unfold endpointAreaAccessor
  split
  · exact ho.rootControllersAccessor
  · exact noLineFeed_append.mpr ⟨noLineFeed_sanitize a.name, ho.rootControllersAccessor⟩

/-- The class of an endpoint area keeps the writer settled: its container properties, then its
container classes. -/
theorem settled_endpointArea {a : Area} (ha : a.Flat) (h : w.Settled d) :
    ((a.containers.foldl (fun w c => writeContainer w c o)
      (a.containers.foldl (fun w c => writeChildProperty w (sanitize c.name) (sanitize c.name ++ "Urls"))
        (openHelperClass w (endpointAreaClass a) o))).close).Settled d := by
  have hclass := settled_openHelperClass ho (noLineFeed_endpointAreaClass a) h
  refine Writer.Settled.close (settled_foldl (fun v c hc hv => settled_writeContainer ho (ha c hc) hv)
    (settled_foldl (fun v c _ hv => settled_writeChildProperty (noLineFeed_sanitize _) ?_ hv) hclass))
  exact noLineFeed_of_wellFormedName (wellFormedName_sanitize_append (by simp) _)

end Routines

/-! ## The emitted sources -/

section Sources

variable {o : EmitterOptions} (ho : o.Flat)
include ho

theorem endpointSource_laidOut {areas : List Area} (hareas : ∀ a ∈ areas, a.Flat) :
    LaidOut (endpointSource areas o) := by
  unfold endpointSource
  dsimp only
  refine Writer.Settled.laidOut_close
    (settled_foldl (fun v a ha hv => settled_endpointArea ho (hareas a ha) hv) ?_)
  refine settled_writeExtensions ho ho.controllerExtensionsClass (fun x hx => ?_)
    (settled_openFile ho)
  obtain ⟨a, -, rfl⟩ := List.mem_map.mp hx
  exact ⟨noLineFeed_endpointAreaAccessor ho a, noLineFeed_endpointAreaClass a⟩

theorem pageSource_laidOut {areas : List PageArea} (hareas : ∀ a ∈ areas, a.Flat) :
    LaidOut (pageSource areas o) := by
  unfold pageSource
  dsimp only
  refine Writer.Settled.laidOut_close
    (settled_foldl (fun v a ha hv => settled_pageArea ho (hareas a ha) hv) ?_)
  refine settled_writeExtensions ho ho.pageExtensionsClass (fun x hx => ?_) (settled_openFile ho)
  obtain ⟨a, -, rfl⟩ := List.mem_map.mp hx
  exact ⟨noLineFeed_pageAreaAccessor ho a, noLineFeed_pageAreaClass a⟩

end Sources

/-- Both emitted sources are laid out, whatever the descriptor trees, as long as no text that
they hold as it is has a line feed. -/
theorem emittedSources_laidOut (o : EmitterOptions) (areas : List Area) (pageAreas : List PageArea)
    (ho : o.Flat) (hareas : ∀ a ∈ areas, a.Flat) (hpageAreas : ∀ a ∈ pageAreas, a.Flat) :
    LaidOut (endpointSource areas o) ∧ LaidOut (pageSource pageAreas o) :=
  ⟨endpointSource_laidOut ho hareas, pageSource_laidOut ho hpageAreas⟩

/-- A home controller with a documented parameter and a page in a folder, under the default
options. -/
theorem homeSources_laidOut :
    LaidOut (endpointSource [⟨"", [⟨"Home", "", [⟨"Index", "Home",
      [⟨"id", "int", true, some (.integer 1), some "The id."⟩]⟩]⟩]⟩] {}) ∧
    LaidOut (pageSource [⟨"", "/", [.mk "docs" "/docs" [] [⟨"/docs/intro", "intro", none, []⟩]],
      []⟩] {}) :=
  emittedSources_laidOut {} _ _ EmitterOptions.flat_default
    (by simp only [Area.Flat, FlatParameters]; decide)
    (by
      simp only [List.mem_singleton, forall_eq, PageArea.Flat]
      exact ⟨by simp, .mk (by simp) (by simp [FlatParameters])⟩)

end UrlHelpers

end TypedUrls
