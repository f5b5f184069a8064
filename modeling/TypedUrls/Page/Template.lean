import TypedUrls.Config.Basic
import TypedUrls.Text.Basic
import TypedUrls.Text.Lower
import TypedUrls.Json.Decode
import TypedUrls.Panic

/-!
# Page templates and where their pages live

A page template is a file handed over with its path and text. Its path, split on both
separator styles, places the page: below the pages root (`Pages`), in the root area, or in the
area named before it when that is below the areas root (`Areas/Shop/Pages/…`). The page path is
the folders after the pages root and the file name without the template extension, each after a
`/`. Names of roots and the extension are compared without regard to ASCII case.
-/

namespace TypedUrls

/-- A template file: its path and its text. -/
structure Template where
  path : String
  text : String
deriving DecidableEq, Repr, Inhabited

namespace Template

/-- The segments of a path, split on `/` and `\`, empty ones dropped. -/
def pathSegments (path : String) : List String :=
  (Text.pieces (fun c => c = '/' ∨ c = '\\') path).filter (!·.isEmpty)

/-- The segments of the template's path. -/
def segments (t : Template) : List String := pathSegments t.path

/-- Reads a template. -/
def decode : Json.Decoder Template :=
  Json.Decode.record "struct TemplateFile"
    [.needed "path" Json.Decode.string fun p t => { t with path := p },
     .needed "text" Json.Decode.string fun x t => { t with text := x }]
    ⟨"", ""⟩

/-- A template as JSON. -/
def toJson (t : Template) : Json := .obj [("path", .str t.path), ("text", .str t.text)]

end Template

namespace Page

open Text

/-- The segments after the project root, when the path lies below it. -/
def belowRoot (segments : List String) : Option String → List String
  | none => segments
  | some root =>
    let r := Template.pathSegments root
    if segments.length > r.length ∧ (segments.zip r).all fun (a, b) => eqIgnoreAsciiCase a b then
      segments.drop r.length
    else segments

/-- The file name without `extension` (compared without regard to ASCII case), unless nothing
would be left or the cut falls inside a character. -/
def stem? (fileName extension : String) : Option String :=
  let n := byteLength fileName.toList
  let k := byteLength extension.toList
  if n < k then none
  else
    match splitAtByte? fileName.toList (n - k) with
    | some (stem, tail) =>
      if eqIgnoreAsciiCase (String.ofList tail) extension ∧ !stem.isEmpty then
        some (String.ofList stem)
      else none
    | none => none

/-- The area of a pages root at `pagesAt`: the segment before it when the one before that is the
areas root, else none (the root area). Both segments read lie before `pagesAt`. -/
def areaBefore (segments : List String) (pagesAt : Fin segments.length) (areasRoot : String) :
    String :=
  if h : 2 ≤ pagesAt.val then
    if eqIgnoreAsciiCase (segments.get ⟨pagesAt.val - 2, by have := pagesAt.isLt; omega⟩)
        areasRoot then
      segments.get ⟨pagesAt.val - 1, by have := pagesAt.isLt; omega⟩
    else ""
  else ""

/-- The area and the page path of a template path, or none when it lies below no pages root. -/
def location (path : String) (conventions : PageConventions) : Option (String × String) := do
  let segments := belowRoot (Template.pathSegments path) conventions.projectRoot
  let pagesAt ← segments.findFinIdx? (eqIgnoreAsciiCase · conventions.pagesRoot)
  let area := areaBefore segments pagesAt conventions.areasRoot
  let after := segments.drop (pagesAt.val + 1)
  let fileName ← after.getLast?
  let stem ← stem? fileName conventions.templateExtension
  pure (area, String.join ((after.dropLast ++ [stem]).map ("/" ++ ·)))

/-- The area of a pages root at position `pagesAt`, with the segments read by their positions:
the segment before the root when the one before that is the areas root, else none (the root
area). -/
def areaAt? (segments : List String) (pagesAt : Nat) (areasRoot : String) : Except Panic String :=
  if 2 ≤ pagesAt then do
    let areas ← readAt segments (pagesAt - 2)
    if eqIgnoreAsciiCase areas areasRoot then readAt segments (pagesAt - 1) else pure ""
  else pure ""

/-- The area and the page path of a template path, with the segments read as the generator reads
them: the two before the pages root by their positions, and those after it as a slice. A read out
of range would stop the pass. -/
def location? (path : String) (conventions : PageConventions) :
    Except Panic (Option (String × String)) := do
  let segments := belowRoot (Template.pathSegments path) conventions.projectRoot
  match segments.findIdx? (eqIgnoreAsciiCase · conventions.pagesRoot) with
  | none => pure none
  | some pagesAt =>
    let area ← areaAt? segments pagesAt conventions.areasRoot
    let after ← sliceFrom segments (pagesAt + 1)
    match after.getLast? with
    | none => pure none
    | some fileName =>
      match stem? fileName conventions.templateExtension with
      | none => pure none
      | some stem => pure (some (area, String.join ((after.dropLast ++ [stem]).map ("/" ++ ·))))

end Page

end TypedUrls
