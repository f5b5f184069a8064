import TypedUrls.Text.Basic
import TypedUrls.Text.Utf8

/-!
# A disk — files and directories under one folder

Inputs can be read from a folder: the program model, the configuration and the page templates.
A `Disk` is that folder as data: a table from paths (lists of names, relative to the folder) to
what they hold, a file's bytes or a directory. Every ancestor of a recorded path is a directory
whether or not it is recorded itself, so a table made by `writeFile` and `createDirAll` always
describes a tree.

The operations take a path as the text a system call gets, relative to the folder. Before any
lookup, a text holding a NUL character is refused, and so is a full path (the folder's own path
included) of `pathMax` bytes or more. Looking the names up (`walk`) follows the rules of path
resolution, name by name from the folder: the walk stops at the first name longer than 255 bytes,
at a file with names still to go, or at a missing name. How the text ends matters too (`Tail`): a
final separator or `.` asks for a directory, and a final `.` names a directory that must already
be there. What an operation gives in each case is an `OsError`, numbered and worded as on Linux.
-/

namespace TypedUrls.Disk

/-! ## Errors -/

/-- An error of the operating system. -/
inductive OsError where
  /-- A name that does not exist. -/
  | notFound
  /-- A directory to be made where a file is. -/
  | fileExists
  /-- A file used as a directory. -/
  | notADirectory
  /-- A directory used as a file. -/
  | isADirectory
  /-- A name longer than a directory entry may be. -/
  | nameTooLong
  /-- A path holding a NUL character, which no system call takes; refused before any call. -/
  | nulInName
deriving DecidableEq, Repr

namespace OsError

/-- The message: the description and the error number; a path refused before any system call
has no number. -/
def message : OsError → String
  | .notFound => "No such file or directory (os error 2)"
  | .fileExists => "File exists (os error 17)"
  | .notADirectory => "Not a directory (os error 20)"
  | .isADirectory => "Is a directory (os error 21)"
  | .nameTooLong => "File name too long (os error 36)"
  | .nulInName => "file name contained an unexpected NUL byte"

end OsError

/-- Why a file could not be read as text. -/
inductive ReadError where
  | os (e : OsError)
  /-- The bytes are not well-formed UTF-8. -/
  | invalidUtf8
deriving DecidableEq, Repr

/-- The message of a read error. -/
def ReadError.message : ReadError → String
  | .os e => e.message
  | .invalidUtf8 => "stream did not contain valid UTF-8"

/-! ## Paths and entries -/

/-- A path below the folder: its names, outermost first. The empty path is the folder. -/
abbrev Path := List String

/-- Whether `p` comes before `q`: names compared one by one, a path before its extensions. -/
def Path.before : Path → Path → Bool
  | [], [] => false
  | [], _ :: _ => true
  | _ :: _, [] => false
  | a :: p, b :: q => if a = b then Path.before p q else decide (a < b)

/-- What a path holds. -/
inductive Entry where
  | file (bytes : List Nat)
  | directory
deriving DecidableEq, Repr

/-- What looking a path up finds. -/
inductive Found where
  | file (bytes : List Nat)
  | directory
  /-- The lookup fails with an error of the system. -/
  | failed (e : OsError)
deriving DecidableEq, Repr

/-- The longest name a directory entry may have, in bytes. -/
def nameMax : Nat := 255

/-- Whether a name fits in a directory entry. -/
def nameFits (n : String) : Bool := n.utf8ByteSize ≤ nameMax

/-! ## Path texts -/

/-- The pieces of a path text between its separators, empty pieces included. -/
def pieces (rel : String) : List String := Text.pieces (· = '/') rel

/-- Whether a piece of a path text names nothing: it is empty (two separators in a row, or a
final one) or `.`. -/
def isBlankPiece (n : String) : Bool := n == "" || n == "."

/-- The names of a relative path text: its pieces without empty pieces and `.`. -/
def names (rel : String) : Path := (pieces rel).filter fun n => !isBlankPiece n

/-- How a path text ends, which decides what a system call makes of its last name. -/
inductive Tail where
  /-- In a name, or the text is empty. -/
  | name
  /-- In a separator after a name: the last name must be a directory. -/
  | separator
  /-- In a `.` piece, maybe followed by separators: the path names the directory itself, never a
  new entry in it. -/
  | dot
deriving DecidableEq, Repr

/-- How a path text ends: its last piece that is not empty decides. -/
def tail (rel : String) : Tail :=
  match (pieces rel).reverse.dropWhile (· == "") with
  | [] => .name
  | last :: _ => if last = "." then .dot else if rel.endsWith "/" then .separator else .name

/-- Whether a path text must name a directory: it ends in a separator or in `.`. -/
def asDir (rel : String) : Bool := tail rel != .name

/-- Whether a path text stays below the folder it is read from: it is relative (does not start
with a separator) and has no `..` piece. -/
def staysBelow (rel : String) : Bool :=
  !rel.startsWith "/" && !(pieces rel).contains ".."

/-- The text of the directory holding the last name of a path text: the pieces before that name,
without the empty and `.` pieces that end them. The empty text (the folder itself) when the name
is the first one; a text without names has no such directory below the folder. -/
def parentText (rel : String) : String :=
  match (pieces rel).reverse.dropWhile isBlankPiece with
  | [] => ""
  | _ :: before => "/".intercalate (before.dropWhile isBlankPiece).reverse

/-- Whether a path text holds a NUL character, which no system call takes. -/
def hasNul (rel : String) : Bool := rel.contains (Char.ofNat 0)

/-- The size of the buffer a system call copies a path into, its terminating NUL included: a
path of this many bytes or more is refused as too long. -/
def pathMax : Nat := 4096

/-- The length in bytes of the folder's own path: a fresh temporary directory, `/tmp/.tmp`
followed by six random characters. -/
def folderBytes : Nat := 15

/-- The length in bytes of the full path of a text below the folder: the folder's path, a
separator and the text, or the folder's path alone for the empty text. -/
def fullBytes (rel : String) : Nat :=
  if rel.isEmpty then folderBytes else folderBytes + 1 + rel.utf8ByteSize

/-- Whether a system call takes the full path of a text: it is shorter than `pathMax`. -/
def fits (rel : String) : Bool := fullBytes rel < pathMax

end TypedUrls.Disk

namespace TypedUrls

open Disk

/-- A folder's contents: what each recorded path holds. -/
structure Disk where
  entries : List (Path × Entry) := []
deriving Repr, Inhabited

namespace Disk

/-- The recorded entry of a path. -/
def entry? (d : Disk) (p : Path) : Option Entry := d.entries.lookup p

/-- Whether a file is recorded at `p`. -/
def isFile (d : Disk) (p : Path) : Bool :=
  match d.entry? p with
  | some (.file _) => true
  | _ => false

/-- Whether some recorded path lies strictly below `p`. -/
def hasBelow (d : Disk) (p : Path) : Bool :=
  d.entries.any fun (q, _) => p.isPrefixOf q && p.length < q.length

/-- Whether a directory stands at `p`: recorded, or above a recorded path. -/
def isDir (d : Disk) (p : Path) : Bool :=
  d.entry? p = some .directory || d.hasBelow p

/-- Walks the names `rest` from the directory `done`, name by name. `asDir` says that the path
was written with a final separator, so that its last name must be a directory. -/
def walk (d : Disk) (asDir : Bool) (done : Path) : Path → Found
  | [] => .directory
  | n :: rest =>
    if !nameFits n then .failed .nameTooLong
    else
      let q := done ++ [n]
      match d.entry? q with
      | some (.file bytes) =>
        if rest.isEmpty && !asDir then .file bytes else .failed .notADirectory
      | _ => if d.isDir q then walk d asDir q rest else .failed .notFound

/-- Looks a path text up: refused if it holds a NUL character or is too long, else walked from
the folder. -/
def find (d : Disk) (rel : String) : Found :=
  if hasNul rel then .failed .nulInName
  else if !fits rel then .failed .nameTooLong
  else walk d (asDir rel) [] (names rel)

/-- Reads a file as text. A directory opens, but reading it fails. -/
def readText (d : Disk) (rel : String) : Except ReadError String :=
  match d.find rel with
  | .file bytes =>
    match Text.decodeUtf8 bytes with
    | some s => .ok s
    | none => .error .invalidUtf8
  | .directory => .error (.os .isADirectory)
  | .failed e => .error (.os e)

/-- Checks that a path text can be listed as a directory. -/
def openDir (d : Disk) (rel : String) : Except OsError Unit :=
  match d.find rel with
  | .directory => .ok ()
  | .file _ => .error .notADirectory
  | .failed e => .error e

/-- The files strictly below `p`, as paths relative to `p`, in `Path.before` order. -/
def filesBelow (d : Disk) (p : Path) : List Path :=
  let found := d.entries.filterMap fun (q, e) =>
    match e with
    | .file _ => if p.isPrefixOf q && p.length < q.length then some (q.drop p.length) else none
    | .directory => none
  found.mergeSort fun a b => !Path.before b a

/-- Records an entry, replacing the one recorded at the same path. -/
def record (d : Disk) (p : Path) (e : Entry) : Disk :=
  ⟨(p, e) :: d.entries.filter (·.1 != p)⟩

/-- Makes the directories of `rest` below the directory `done`, name by name: a name too long
fails, and so does a file on the way (or in the place of the last directory). -/
def makeDirs (d : Disk) (done : Path) : Path → Except OsError Disk
  | [] => .ok (if done.isEmpty then d else d.record done .directory)
  | n :: rest =>
    if !nameFits n then .error .nameTooLong
    else
      let q := done ++ [n]
      if d.isFile q then .error (if rest.isEmpty then .fileExists else .notADirectory)
      else makeDirs d q rest

/-- Makes a directory and its missing ancestors. A path text ending in `.` makes no directory
of its last name: it must name a directory already. Only the directories above that name are
made, and then the path is still missing (or its last name too long). -/
def createDirAll (d : Disk) (rel : String) : Except OsError Disk :=
  if hasNul rel then .error .nulInName
  else if !fits rel then .error .nameTooLong
  else
    match tail rel with
    | .dot =>
      match d.walk true [] (names rel) with
      | .directory => .ok d
      | .failed .notFound => do
        let _ ← d.makeDirs [] (names rel).dropLast
        .error (if nameFits ((names rel).getLast?.getD "") then .notFound else .nameTooLong)
      | .failed e => .error e
      | .file _ => .error .notADirectory
    | _ => d.makeDirs [] (names rel)

/-- Writes a file: makes the directory that holds it, then opens the path to be written, made if
missing. A path text ending in a separator or `.`, or naming a directory, cannot be a file. -/
def writeFile (d : Disk) (rel : String) (bytes : List Nat) : Except OsError Disk := do
  let d ← if (names rel).isEmpty then pure d else d.createDirAll (parentText rel)
  if hasNul rel then .error .nulInName
  else if !fits rel then .error .nameTooLong
  else
    match tail rel with
    | .separator => .error .isADirectory
    | .dot =>
      match d.walk true [] (names rel) with
      | .failed e => .error e
      | _ => .error .isADirectory
    | .name =>
      if (names rel).isEmpty then .error .isADirectory
      else
        match d.walk false [] (names rel) with
        | .directory => .error .isADirectory
        | .failed .notFound | .file _ => .ok (d.record (names rel) (.file bytes))
        | .failed e => .error e

end Disk

end TypedUrls
