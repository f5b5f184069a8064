import TypedUrls.Model.Basic
import TypedUrls.Text.Basic
import TypedUrls.Text.CharClass

/-!
# Parameter descriptions from documentation comments

A method's documentation holds XML tags `<param name="id">The identifier.</param>`. The
`///` block is read first and the `/** */` block after it, so that where both describe a
parameter the second description wins. A description has its blanks collapsed to single spaces;
an empty one describes nothing.

A tag is matched as the pattern `<param` blanks `name` blanks? `=` blanks? `"name"` blanks? `>`
text `</param` blanks? `>`, where the text is the shortest that lets the closing tag follow;
matches do not overlap and are taken from left to right.
-/

namespace TypedUrls.Documentation

open Text

/-- What follows a run of blanks (maybe empty). -/
def skipBlanks (cs : List Char) : List Char := cs.dropWhile isBlank

/-- What follows `word` at the start of `cs`. -/
def afterWord (word : List Char) (cs : List Char) : Option (List Char) :=
  if word.isPrefixOf cs then some (cs.drop word.length) else none

/-- What follows a closing tag `</param` blanks? `>` at the start of `cs`. -/
def afterClose (cs : List Char) : Option (List Char) := do
  let r ← afterWord "</param".toList cs
  match skipBlanks r with
  | '>' :: rest => some rest
  | _ => none

/-- The text up to the first closing tag (last character first in `acc`) and what follows the
tag. -/
def untilClose (acc : List Char) : List Char → Option (List Char × List Char)
  | [] => none
  | c :: rest =>
    match afterClose (c :: rest) with
    | some after => some (acc.reverse, after)
    | none => untilClose (c :: acc) rest

/-- A tag matched at the start of `cs`: its name, its text, and what follows it. -/
def tagAt (cs : List Char) : Option (List Char × List Char × List Char) := do
  let r ← afterWord "<param".toList cs
  let r' := skipBlanks r
  if r'.length = r.length then none
  else
    let r ← afterWord "name".toList r'
    let r ← match skipBlanks r with
      | '=' :: rest => some rest
      | _ => none
    let r ← match skipBlanks r with
      | '"' :: rest => some rest
      | _ => none
    let name := r.takeWhile (· ≠ '"')
    let r ← match r.dropWhile (· ≠ '"') with
      | '"' :: rest => some rest
      | _ => none
    let r ← match skipBlanks r with
      | '>' :: rest => some rest
      | _ => none
    let (text, rest) ← untilClose [] r
    pure (name, text, rest)

/-- The tags of a text, from left to right. -/
def tagsFrom : List Char → List (List Char × List Char)
  | [] => []
  | c :: rest =>
    match tagAt (c :: rest) with
    | some (name, text, after) =>
      -- a tag is longer than one character, so `after` is shorter than `rest`
      if after.length < rest.length + 1 then (name, text) :: tagsFrom after
      else (name, text) :: tagsFrom rest
    | none => tagsFrom rest
termination_by cs => cs.length

/-- Inserts into a map sorted by key, replacing an equal key. -/
def insertSorted (k v : String) : List (String × String) → List (String × String)
  | [] => [(k, v)]
  | (k', v') :: rest =>
    if k < k' then (k, v) :: (k', v') :: rest
    else if k = k' then (k, v) :: rest
    else (k', v') :: insertSorted k v rest

/-- The descriptions of a text added to `into`. -/
def collect (text : String) (into : List (String × String)) : List (String × String) :=
  (tagsFrom text.toList).foldl (fun acc (name, body) =>
    let description := " ".intercalate (words (String.ofList body))
    if description.isEmpty then acc
    else insertSorted (trim (String.ofList name)) description acc) into

/-- The `///` block without its line marks. -/
def stripLines (block : String) : String :=
  "\n".intercalate ((lines block).map fun line =>
    let l := trimStart line
    if l.startsWith "///" then String.ofList (l.toList.drop 3) else l)

/-- The `/** */` block without its frame and its line stars. -/
def stripBlock (block : String) : String :=
  let b := trim block
  let b := if b.startsWith "/**" then String.ofList (b.toList.drop 3) else b
  let b := if b.endsWith "*/" then String.ofList (b.toList.take (b.length - 2)) else b
  "\n".intercalate ((lines b).map fun line =>
    let l := trimStart line
    if l.startsWith "*" then String.ofList (l.toList.drop 1) else l)

/-- The description of each documented parameter, sorted by name. -/
def descriptions (doc : DocComment) : List (String × String) :=
  let fromLines := match doc.singleLine with
    | some block => collect (stripLines block) []
    | none => []
  match doc.structured with
  | some block => collect (stripBlock block) fromLines
  | none => fromLines

end TypedUrls.Documentation
