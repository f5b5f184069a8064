import TypedUrls.Model.Basic

/-!
# Type names in C# syntax

`display` writes a type reference as C# writes it: the keyword alias of a well-known system
type (`int` for `System.Int32`), the full name otherwise, `T[]` and `T[,]` for arrays, `T?`
both for the optional-value wrapper `System.Nullable<T>` and for a nullable annotation, and
`Root<A, B>` for a generic type. A trailing arity mark of a generic name (the back quote and
digits of ``List`1``) is dropped.

`mentions` says whether a type is, wraps, or is built over one of some named types.
-/

namespace TypedUrls.CSharp

/-- The generic type written `T?`. -/
def nullableWrapper : String := "System.Nullable"

/-- The keyword aliases of the well-known system types. -/
def primitiveAliases : List (String × String) :=
  [("System.Boolean", "bool"), ("System.Byte", "byte"), ("System.SByte", "sbyte"),
   ("System.Char", "char"), ("System.Decimal", "decimal"), ("System.Double", "double"),
   ("System.Single", "float"), ("System.Int16", "short"), ("System.UInt16", "ushort"),
   ("System.Int32", "int"), ("System.UInt32", "uint"), ("System.Int64", "long"),
   ("System.UInt64", "ulong"), ("System.IntPtr", "nint"), ("System.UIntPtr", "nuint"),
   ("System.Object", "object"), ("System.String", "string")]

/-- The keyword alias of a full type name, if it has one. -/
def primitiveAlias (fullName : String) : Option String :=
  primitiveAliases.lookup fullName

/-- Whether a character is the back quote that starts an arity mark. -/
def isArityMark (c : Char) : Bool := c.toNat = 0x60

/-- A name without its arity mark: the part before the last back quote, when what follows it is
one or more ASCII digits. -/
def stripArity (name : String) : String :=
  let rev := name.toList.reverse
  let arity := rev.takeWhile (!isArityMark ·)
  match rev.dropWhile (!isArityMark ·) with
  | _ :: rootRev =>
    if !arity.isEmpty ∧ arity.all Char.isDigit then String.ofList rootRev.reverse else name
  | [] => name

/-- The text with a `?` after it, unless it already ends in one. -/
def withNullableMark (s : String) : String :=
  if s.endsWith "?" then s else s ++ "?"

mutual

/-- A type reference in C# syntax. -/
def display : TypeRef → String
  | .array element rank => display element ++ "[" ++ String.ofList (List.replicate (rank - 1) ',') ++ "]"
  | .typeParameter name => name
  | .named name arguments nullable =>
    let root := stripArity name
    match arguments with
    | [single] =>
      if root = nullableWrapper then withNullableMark (display single)
      else mark nullable (aliased root ++ "<" ++ display single ++ ">")
    | [] => mark nullable (aliased root)
    | a :: rest => mark nullable (aliased root ++ "<" ++ displayList (a :: rest) ++ ">")
where
  aliased (root : String) : String := (primitiveAlias root).getD root
  mark (nullable : Bool) (s : String) : String := if nullable then withNullableMark s else s

/-- Type references in C# syntax, joined by `, `. -/
def displayList : List TypeRef → String
  | [] => ""
  | [t] => display t
  | t :: rest => display t ++ ", " ++ displayList rest

end

mutual

/-- Whether a type is, wraps, or is built over one of `names`. -/
def mentions (names : List String) : TypeRef → Bool
  | .array element _ => mentions names element
  | .typeParameter _ => false
  | .named name arguments _ => names.contains (stripArity name) || mentionsList names arguments

/-- Whether one of the types mentions one of `names`. -/
def mentionsList (names : List String) : List TypeRef → Bool
  | [] => false
  | t :: rest => mentions names t || mentionsList names rest

end

end TypedUrls.CSharp
