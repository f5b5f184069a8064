import TypedUrls.Binary.Basic
import TypedUrls.Text.Basic

/-!
# Program models — the declarations discovery walks

A program model lists the declared types of a C# program: classes, structs, interfaces, enums
and records, with their methods, properties and attributes. One type may be declared in several
places (partial declarations); each place is a `TypeDecl` of its own with the same full name, a
*fragment* of the type.

Constants (`Constant`) are the compile-time values of default arguments and attribute
arguments. Type references (`TypeRef`) are the types of parameters and properties as written
in signatures.

The builders at the end (`TypeRef.generic`, `MethodDecl.overriding`, `TypeDecl.class`, …) make
declarations with the defaults of the model: public, ordinary, not static, nothing inherited.
-/

namespace TypedUrls

/-- Declared accessibility of a type or member. -/
inductive Accessibility where
  | «public»
  | internal
  | «protected»
  | protectedInternal
  | privateProtected
  | «private»
deriving DecidableEq, Repr, Inhabited

/-- What kind of type a declaration is. -/
inductive TypeKind where
  | «class»
  | «struct»
  | interface
  | «enum»
  | record
deriving DecidableEq, Repr, Inhabited

/-- What kind of method a declaration is. -/
inductive MethodKind where
  | ordinary
  | constructor
  | operator
  | conversion
  | accessor
  | destructor
deriving DecidableEq, Repr, Inhabited

/-- A type as it appears in a signature: a named type with type arguments and a nullable
mark, an array of some rank, or a type parameter. -/
inductive TypeRef where
  | named (name : String) (arguments : List TypeRef) (nullable : Bool)
  | array (element : TypeRef) (rank : Nat)
  | typeParameter (name : String)
deriving Repr, Inhabited

/-- A compile-time constant. A decimal keeps its source text; an enumeration constant names
its type, possibly its member, and its underlying value. -/
inductive Constant where
  | null
  | bool (b : Bool)
  | integer (i : Int)
  | unsigned (n : Nat)
  | float (x : Binary32)
  | double (x : Binary64)
  | decimal (text : String)
  | char (c : Char)
  | string (s : String)
  | enumMember (typeName : String) (member : Option String) (value : Int)
deriving Repr, Inhabited

/-- An attribute applied to a declaration: the attribute class, its positional arguments, and
its named arguments sorted by name. -/
structure Attribute where
  className : String
  arguments : List Constant := []
  named : List (String × Constant) := []
deriving Repr, Inhabited

/-- A method of some type, possibly outside the model: the type, the method name and the
display names of its parameter types. -/
structure MethodRef where
  containingType : String
  name : String
  parameterTypes : List String := []
deriving DecidableEq, Repr, Inhabited

/-- The documentation before a method, as a block of `///` lines and as a `/** */` block. -/
structure DocComment where
  singleLine : Option String := none
  structured : Option String := none
deriving DecidableEq, Repr, Inhabited

/-- A parameter of a method. -/
structure ParameterDecl where
  name : String
  type : TypeRef
  hasDefault : Bool := false
  default : Option Constant := none
  attributes : List Attribute := []
deriving Repr, Inhabited

/-- A property of a type. -/
structure PropertyDecl where
  name : String
  type : TypeRef
  accessibility : Accessibility := .public
  isStatic : Bool := false
  attributes : List Attribute := []
deriving Repr, Inhabited

/-- A method of a type. `overrides` names the method an `override` replaces. -/
structure MethodDecl where
  name : String
  kind : MethodKind := .ordinary
  accessibility : Accessibility := .public
  isStatic : Bool := false
  isAbstract : Bool := false
  isOverride : Bool := false
  isNew : Bool := false
  typeParameters : List String := []
  parameters : List ParameterDecl := []
  attributes : List Attribute := []
  overrides : Option MethodRef := none
  explicitImplementations : List MethodRef := []
  doc : Option DocComment := none
deriving Repr, Inhabited

/-- One declaration (fragment) of a type. -/
structure TypeDecl where
  fullName : String
  kind : TypeKind := .class
  accessibility : Accessibility := .public
  isAbstract : Bool := false
  isStatic : Bool := false
  typeParameters : List String := []
  containingType : Option String := none
  baseType : Option String := none
  interfaces : List String := []
  attributes : List Attribute := []
  methods : List MethodDecl := []
  properties : List PropertyDecl := []
deriving Repr, Inhabited

/-! ## The index of full names -/

/-- Records `position` under `name` after the positions already there; a name not there yet gets
an entry of its own at the end. -/
def pushPosition (name : String) (position : Nat) :
    List (String × List Nat) → List (String × List Nat)
  | [] => [(name, [position])]
  | entry :: rest =>
    if entry.1 = name then (entry.1, entry.2 ++ [position]) :: rest
    else entry :: pushPosition name position rest

/-- The positions of each full name among `types`, in declaration order, recorded one
declaration after the other. -/
def indexTypes (types : List TypeDecl) : List (String × List Nat) :=
  types.zipIdx.foldl (fun index entry => pushPosition entry.1.fullName entry.2 index) []

/-- A program: every declaration, fragments included, in declaration order, and the index of
the positions of each full name, built from the declarations. -/
structure Program where
  types : List TypeDecl
  index : List (String × List Nat)
  index_eq : index = indexTypes types
deriving Repr

/-- The program of a list of declarations, with its index. -/
def Program.new (types : List TypeDecl) : Program := ⟨types, indexTypes types, rfl⟩

instance : EmptyCollection Program := ⟨Program.new []⟩

instance : Inhabited Program := ⟨{}⟩

/-- A program is determined by its declarations. -/
theorem Program.ext_types {m m' : Program} (h : m.types = m'.types) : m = m' := by
  cases m with
  | mk types index hindex =>
    cases m' with
    | mk types' index' hindex' =>
      simp only at h
      subst h hindex hindex'
      rfl

@[simp] theorem Program.types_new (types : List TypeDecl) : (Program.new types).types = types :=
  rfl

/-! ## Names -/

/-- The simple name of a type: the last segment of its full name after `.` or `+`. -/
def TypeDecl.simpleName (t : TypeDecl) : String :=
  (Text.pieces (fun c => c = '.' ∨ c = '+') t.fullName).getLast?.getD t.fullName

/-- The simple name is read off the full name alone. -/
theorem TypeDecl.simpleName_eq {t t' : TypeDecl} (h : t'.fullName = t.fullName) :
    t'.simpleName = t.simpleName := by
  unfold TypeDecl.simpleName
  rw [h]

/-! ## Builders -/

/-- A named type without arguments. -/
def TypeRef.plain (name : String) : TypeRef := .named name [] false

/-- A named type with type arguments. -/
def TypeRef.generic (name : String) (arguments : List TypeRef) : TypeRef := .named name arguments false

/-- An array of rank one. -/
def TypeRef.arrayOf (element : TypeRef) : TypeRef := .array element 1

/-- The nullable form of a named type; arrays and type parameters are unchanged. -/
def TypeRef.nullable : TypeRef → TypeRef
  | .named name arguments _ => .named name arguments true
  | t => t

/-- A positional argument added. -/
def Attribute.withArgument (a : Attribute) (c : Constant) : Attribute :=
  { a with arguments := a.arguments ++ [c] }

/-- Inserts a named argument, keeping the names sorted; a name given again is replaced. -/
def insertNamed (k : String) (v : Constant) : List (String × Constant) → List (String × Constant)
  | [] => [(k, v)]
  | (k', v') :: rest =>
    if k < k' then (k, v) :: (k', v') :: rest
    else if k = k' then (k, v) :: rest
    else (k', v') :: insertNamed k v rest

/-- A named argument added (replacing one of the same name). -/
def Attribute.withNamed (a : Attribute) (k : String) (c : Constant) : Attribute :=
  { a with named := insertNamed k c a.named }

/-- The first positional argument, when it is a string. -/
def Attribute.firstString? (a : Attribute) : Option String :=
  match a.arguments.head? with
  | some (.string s) => some s
  | _ => none

/-- The named argument `k`, when it is a string. -/
def Attribute.namedString? (a : Attribute) (k : String) : Option String :=
  match a.named.lookup k with
  | some (.string s) => some s
  | _ => none

/-- The named argument `k`, when it is a boolean. -/
def Attribute.namedBool? (a : Attribute) (k : String) : Option Bool :=
  match a.named.lookup k with
  | some (.bool b) => some b
  | _ => none

/-- A parameter given a default value. -/
def ParameterDecl.withDefault (p : ParameterDecl) (c : Constant) : ParameterDecl :=
  { p with hasDefault := true, default := some c }

/-- An attribute added to a parameter. -/
def ParameterDecl.withAttribute (p : ParameterDecl) (a : Attribute) : ParameterDecl :=
  { p with attributes := p.attributes ++ [a] }

/-- An attribute added to a property. -/
def PropertyDecl.withAttribute (p : PropertyDecl) (a : Attribute) : PropertyDecl :=
  { p with attributes := p.attributes ++ [a] }

/-- A parameter added to a method. -/
def MethodDecl.withParameter (m : MethodDecl) (p : ParameterDecl) : MethodDecl :=
  { m with parameters := m.parameters ++ [p] }

/-- An attribute added to a method. -/
def MethodDecl.withAttribute (m : MethodDecl) (a : Attribute) : MethodDecl :=
  { m with attributes := m.attributes ++ [a] }

/-- The method marked as overriding `r`. -/
def MethodDecl.overriding (m : MethodDecl) (r : MethodRef) : MethodDecl :=
  { m with isOverride := true, overrides := some r }

/-- A base type set. -/
def TypeDecl.withBase (t : TypeDecl) (b : String) : TypeDecl :=
  { t with baseType := some b }

/-- An interface added. -/
def TypeDecl.withInterface (t : TypeDecl) (i : String) : TypeDecl :=
  { t with interfaces := t.interfaces ++ [i] }

/-- An attribute added to a type. -/
def TypeDecl.withAttribute (t : TypeDecl) (a : Attribute) : TypeDecl :=
  { t with attributes := t.attributes ++ [a] }

/-- A method added. -/
def TypeDecl.withMethod (t : TypeDecl) (m : MethodDecl) : TypeDecl :=
  { t with methods := t.methods ++ [m] }

/-- A property added. -/
def TypeDecl.withProperty (t : TypeDecl) (p : PropertyDecl) : TypeDecl :=
  { t with properties := t.properties ++ [p] }

end TypedUrls
