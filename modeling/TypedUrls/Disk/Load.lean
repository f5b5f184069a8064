import TypedUrls.Disk.Basic
import TypedUrls.Model.Json
import TypedUrls.Config.Json
import TypedUrls.Page.Template
import TypedUrls.Error
import TypedUrls.Text.Lower

/-!
# Loading inputs from a disk

The generator's inputs can come from files: a program model and a configuration as JSON texts,
and the page templates as every file of some extension below a folder.

A `Location` is a path text below a folder, together with the text that names the folder in
messages. A failure is a
`LoadError`: what was being done, on which location, and the chain of causes below it; its
message joins them with ": ".

`collectFiles` lists the files below a folder, nested folders included, in path order (names
compared one by one). `collectTemplates` keeps those whose extension is the wanted one and reads
them; the first one that cannot be read stops the walk.
-/

namespace TypedUrls.Disk

/-- A place on a disk: the text naming the folder in messages, and the path text below the
folder (empty for the folder itself). -/
structure Location where
  folder : String
  rel : String := ""
deriving DecidableEq, Repr

namespace Location

/-- The folder named by a text. -/
def base (folder : String) : Location := ⟨folder, ""⟩

/-- The text naming the place in messages. -/
def display (l : Location) : String :=
  if l.rel.isEmpty then l.folder else l.folder ++ "/" ++ l.rel

/-- The path the place stands for. -/
def path (l : Location) : Path := names l.rel

/-- A relative path text below a location. A separator is put between the two texts unless
the location's text already ends in one. -/
def join (l : Location) (rel : String) : Location :=
  { l with rel := if l.rel.isEmpty then rel
      else if l.rel.endsWith "/" then l.rel ++ rel else l.rel ++ "/" ++ rel }

/-- A location below this one, given by its names. -/
def below (l : Location) (rel : Path) : Location :=
  rel.foldl (fun l n => l.join n) l

end Location

/-- A failed load: what was being done on which location, and the causes below it. -/
structure LoadError where
  context : String
  causes : List String
deriving DecidableEq, Repr

/-- The message of a failed load: the context and every cause, joined by ": ". -/
def LoadError.message (e : LoadError) : String :=
  ": ".intercalate (e.context :: e.causes)

/-- The extension of a file name: what follows its last dot, when something precedes that dot.
A name without a dot, a name whose last dot is its first character, and `..` have none; `x.`
has the empty extension. -/
def extension? (name : String) : Option String :=
  if name = ".." then none
  else
    match (Text.pieces (· = '.') name).reverse with
    | after :: before@(_ :: _) =>
      if (".".intercalate before.reverse).isEmpty then none else some after
    | _ => none

/-- Whether a file name has the wanted extension, compared ASCII-case-insensitively. -/
def hasExtension (wanted name : String) : Bool :=
  match extension? name with
  | some e => Text.eqIgnoreAsciiCase e wanted
  | none => false

/-- An extension with its leading dots dropped. -/
def bareExtension (extension : String) : String :=
  String.ofList (extension.toList.dropWhile (· = '.'))

/-- Reads a file as text. -/
def readFile (d : Disk) (l : Location) : Except LoadError String :=
  match d.readText l.rel with
  | .ok s => .ok s
  | .error e => .error ⟨"Failed to read file: " ++ l.display, [e.message]⟩

/-- Every file below a folder, in path order. A file (or a folder on the way to it) whose full
path is too long for a system call cannot be told to be a file, and is passed over. -/
def collectFiles (d : Disk) (folder : Location) : Except LoadError (List Location) :=
  match d.openDir folder.rel with
  | .ok () => .ok (((d.filesBelow folder.path).map folder.below).filter fun f => fits f.rel)
  | .error e => .error ⟨"Failed to read directory: " ++ folder.display, [e.message]⟩

/-- Reads the templates below a folder: the files with the extension (leading dots aside), in
path order, each with its path relative to the folder. -/
def collectTemplates (d : Disk) (folder : Location) (extension : String) :
    Except LoadError (List Template) := do
  let wanted := bareExtension extension
  let files ← collectFiles d folder
  let matching := files.filter fun f => hasExtension wanted (f.path.getLast?.getD "")
  matching.mapM fun f => do
    let text ← readFile d f
    pure { path := "/".intercalate (f.path.drop folder.path.length), text }

/-- Reads a program model from a JSON file. -/
def loadProgram (d : Disk) (l : Location) : Except LoadError Program := do
  let text ← readFile d l
  match Json.decodeText Program.decode text with
  | .ok m => .ok m
  | .error e => .error ⟨"Failed to parse program model: " ++ l.display, [e.text]⟩

/-- Reads a configuration from a JSON file. The configuration error is reported with the
reader's error as its cause. -/
def loadConfig (d : Disk) (l : Location) : Except LoadError Config := do
  let text ← readFile d l
  match Json.decodeText Config.decode text with
  | .ok c => .ok c
  | .error e =>
    .error ⟨"Failed to parse configuration: " ++ l.display,
      [(GenerationError.config e).message, e.text]⟩

end TypedUrls.Disk
