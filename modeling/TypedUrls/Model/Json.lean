import TypedUrls.Model.Basic
import TypedUrls.Json.Decode

/-!
# Program models as JSON

A program model is written as JSON with camelCase member names. The reader here follows the
rules of `Json.Decode`: members are read in document order, unknown members are skipped, a member
with a default may be left out, and a record may also be written as the array of its members.

* Enumerations (`Accessibility`, `TypeKind`, `MethodKind`) are written as their case names.
* A type reference names its case in a member `kind` beside its own members
  (`{"kind": "named", "name": "System.Int32"}`); its other members are collected whole before
  they are read.
* A constant names its case in `kind` and holds its value in `value`
  (`{"kind": "integer", "value": 3}`), the two in either order; a null constant has no value.
  The case may also be written as an object with the name as its one key and a null value
  (`{"kind": {"integer": null}, "value": 3}`). The value of an enumeration constant is an object
  only, never the array of its members.

The writer (`toJson`) gives every member, defaults included, in the same names, so that reading
what was written gives back the model. A float or double that is not finite is written as null.
-/

namespace TypedUrls

open Json

/-! ## Enumerations -/

/-- The name of an accessibility in JSON. -/
def Accessibility.name : Accessibility → String
  | .«public» => "public"
  | .internal => "internal"
  | .«protected» => "protected"
  | .protectedInternal => "protectedInternal"
  | .privateProtected => "privateProtected"
  | .«private» => "private"

/-- Every accessibility, in declaration order. -/
def Accessibility.all : List Accessibility :=
  [.«public», .internal, .«protected», .protectedInternal, .privateProtected, .«private»]

/-- The name of a type kind in JSON. -/
def TypeKind.name : TypeKind → String
  | .«class» => "class"
  | .«struct» => "struct"
  | .interface => "interface"
  | .«enum» => "enum"
  | .record => "record"

/-- Every type kind, in declaration order. -/
def TypeKind.all : List TypeKind := [.«class», .«struct», .interface, .«enum», .record]

/-- The name of a method kind in JSON. -/
def MethodKind.name : MethodKind → String
  | .ordinary => "ordinary"
  | .constructor => "constructor"
  | .operator => "operator"
  | .conversion => "conversion"
  | .accessor => "accessor"
  | .destructor => "destructor"

/-- Every method kind, in declaration order. -/
def MethodKind.all : List MethodKind :=
  [.ordinary, .constructor, .operator, .conversion, .accessor, .destructor]

/-- Reads an accessibility. -/
def Accessibility.decode : Decoder Accessibility :=
  Decode.variant (Accessibility.all.map fun a => (a.name, a))

/-- Reads a type kind. -/
def TypeKind.decode : Decoder TypeKind :=
  Decode.variant (TypeKind.all.map fun k => (k.name, k))

/-- Reads a method kind. -/
def MethodKind.decode : Decoder MethodKind :=
  Decode.variant (MethodKind.all.map fun k => (k.name, k))

/-! ## Type references -/

/-- The cases of a type reference, as its `kind` member names them. -/
inductive TypeRef.Tag where
  | named
  | array
  | typeParameter
deriving DecidableEq, Repr

/-- The tag names, in declaration order. -/
def TypeRef.tags : List (String × TypeRef.Tag) :=
  [("named", .named), ("array", .array), ("typeParameter", .typeParameter)]

/-- Reads a type reference nested at most `fuel` deep; `buffered` when the document was collected
whole first (as the members of an enclosing type reference are). -/
def TypeRef.decodeUpTo : Nat → Bool → Decoder TypeRef
  | 0, _ => fun _ => .error ⟨"recursion limit exceeded", none⟩
  | fuel + 1, buffered =>
    Decode.tagged "internally tagged enum TypeRef" "kind" buffered TypeRef.tags fun tag d =>
      match tag with
      | .named =>
        (Decode.recordIn true "struct variant TypeRef::Named"
          [.needed "name" Decode.string fun n (_, a, b) => (n, a, b),
           .optional "arguments" (Decode.list (TypeRef.decodeUpTo fuel true))
             fun a (n, _, b) => (n, a, b),
           .optional "nullable" Decode.bool fun b (n, a, _) => (n, a, b)]
          ("", [], false) d).map fun (n, a, b) => .named n a b
      | .array =>
        (Decode.recordIn true "struct variant TypeRef::Array"
          [.needed "element" (TypeRef.decodeUpTo fuel true) fun e (_, r) => (e, r),
           .optional "rank" Decode.u32 fun r (e, _) => (e, r)]
          (TypeRef.plain "", 1) d).map fun (e, r) => .array e r
      | .typeParameter =>
        (Decode.recordIn true "struct variant TypeRef::TypeParameter"
          [.needed "name" Decode.string fun n _ => n] "" d).map .typeParameter

/-- Reads a type reference. -/
def TypeRef.decode : Decoder TypeRef := fun d => TypeRef.decodeUpTo d.height false d

mutual

/-- A type reference as JSON. -/
def TypeRef.toJson : TypeRef → Json
  | .named n args nullable =>
    .obj [("kind", .str "named"), ("name", .str n), ("arguments", .arr (TypeRef.listToJson args)),
      ("nullable", .bool nullable)]
  | .array e rank => .obj [("kind", .str "array"), ("element", e.toJson), ("rank", .nat rank)]
  | .typeParameter n => .obj [("kind", .str "typeParameter"), ("name", .str n)]

/-- Type references as JSON. -/
def TypeRef.listToJson : List TypeRef → List Json
  | [] => []
  | t :: ts => t.toJson :: TypeRef.listToJson ts

end

/-! ## Constants -/

/-- The cases of a constant, as its `kind` member names them. -/
inductive Constant.Tag where
  | null
  | bool
  | integer
  | unsigned
  | float
  | double
  | decimal
  | char
  | string
  | enumMember
deriving DecidableEq, Repr

/-- The tag names, in declaration order. -/
def Constant.tags : List (String × Constant.Tag) :=
  [("null", .null), ("bool", .bool), ("integer", .integer), ("unsigned", .unsigned),
   ("float", .float), ("double", .double), ("decimal", .decimal), ("char", .char),
   ("string", .string), ("enum", .enumMember)]

/-- Reads the value of an enumeration constant: its type, maybe its member, and its value. -/
def Constant.enumValue (buffered : Bool) : Decoder Constant := fun d =>
  (Decode.recordObject buffered "struct variant ConstantValue::Enum"
    [.needed "type" Decode.string fun t (_, m, v) => (t, m, v),
     .optional "member" (Decode.option Decode.string) fun m (t, _, v) => (t, m, v),
     .needed "value" Decode.i64 fun v (t, m, _) => (t, m, v)]
    ("", none, 0) d).map fun (t, m, v) => .enumMember t m v

/-- Reads the value of a constant of the case `tag`. -/
def Constant.value (tag : Constant.Tag) (buffered : Bool) : Decoder Constant := fun d =>
  match tag with
  | .null =>
    match d with
    | .null _ => .ok .null
    | _ => .error (d.mismatch "unit variant ConstantValue::Null")
  | .bool => (Decode.bool d).map .bool
  | .integer => (Decode.i64 d).map .integer
  | .unsigned => (Decode.u64 d).map .unsigned
  | .float => (Decode.f32 d).map .float
  | .double => (Decode.f64 d).map .double
  | .decimal => (Decode.string d).map .decimal
  | .char => (Decode.char d).map .char
  | .string => (Decode.string d).map .string
  | .enumMember => Constant.enumValue buffered d

/-- Reads a constant. -/
def Constant.decode : Decoder Constant :=
  Decode.adjacent "adjacently tagged enum ConstantValue" "kind" "value" Constant.tags
    Constant.value fun tag => if tag = .null then some .null else none

/-- A single as a JSON number, or null when it is not finite. -/
def Binary32.toJson (x : Binary32) : Json :=
  match x.value with
  | .finite .. => .num (.single x)
  | _ => .null

/-- A double as a JSON number, or null when it is not finite. -/
def Binary64.toJson (x : Binary64) : Json :=
  match x.value with
  | .finite .. => .num (.double x)
  | _ => .null

/-- A constant as JSON. -/
def Constant.toJson : Constant → Json
  | .null => .obj [("kind", .str "null")]
  | .bool b => .obj [("kind", .str "bool"), ("value", .bool b)]
  | .integer i => .obj [("kind", .str "integer"), ("value", .int i)]
  | .unsigned n => .obj [("kind", .str "unsigned"), ("value", .nat n)]
  | .float x => .obj [("kind", .str "float"), ("value", x.toJson)]
  | .double x => .obj [("kind", .str "double"), ("value", x.toJson)]
  | .decimal s => .obj [("kind", .str "decimal"), ("value", .str s)]
  | .char c => .obj [("kind", .str "char"), ("value", .str (String.singleton c))]
  | .string s => .obj [("kind", .str "string"), ("value", .str s)]
  | .enumMember t m v =>
    .obj [("kind", .str "enum"),
      ("value", .obj [("type", .str t), ("member", .opt .str m), ("value", .int v)])]

/-! ## Declarations -/

/-- Reads an attribute. -/
def Attribute.decode : Decoder Attribute :=
  Decode.record "struct AttributeData"
    [.needed "className" Decode.string fun n a => { a with className := n },
     .optional "arguments" (Decode.list Constant.decode) fun cs a => { a with arguments := cs },
     .optional "namedArguments" (Decode.map Constant.decode) fun m a => { a with named := m }]
    { className := "" }

/-- An attribute as JSON. -/
def Attribute.toJson (a : Attribute) : Json :=
  .obj [("className", .str a.className), ("arguments", .arr (a.arguments.map Constant.toJson)),
    ("namedArguments", .obj (a.named.map fun (k, c) => (k, c.toJson)))]

/-- Reads a method reference. -/
def MethodRef.decode : Decoder MethodRef :=
  Decode.record "struct MethodRef"
    [.needed "containingType" Decode.string fun t r => { r with containingType := t },
     .needed "name" Decode.string fun n r => { r with name := n },
     .optional "parameterTypes" (Decode.list Decode.string) fun ps r => { r with parameterTypes := ps }]
    { containingType := "", name := "" }

/-- A method reference as JSON. -/
def MethodRef.toJson (r : MethodRef) : Json :=
  .obj [("containingType", .str r.containingType), ("name", .str r.name),
    ("parameterTypes", .strs r.parameterTypes)]

/-- Reads the documentation of a method. -/
def DocComment.decode : Decoder DocComment :=
  Decode.record "struct DocComment"
    [.optional "singleLine" (Decode.option Decode.string) fun s c => { c with singleLine := s },
     .optional "structured" (Decode.option Decode.string) fun s c => { c with structured := s }]
    {}

/-- The documentation of a method as JSON. -/
def DocComment.toJson (c : DocComment) : Json :=
  .obj [("singleLine", .opt .str c.singleLine), ("structured", .opt .str c.structured)]

/-- Reads a parameter. -/
def ParameterDecl.decode : Decoder ParameterDecl :=
  Decode.record "struct ParameterDecl"
    [.needed "name" Decode.string fun n p => { p with name := n },
     .needed "type" TypeRef.decode fun t p => { p with type := t },
     .optional "hasDefaultValue" Decode.bool fun b p => { p with hasDefault := b },
     .optional "defaultValue" (Decode.option Constant.decode) fun c p => { p with default := c },
     .optional "attributes" (Decode.list Attribute.decode) fun a p => { p with attributes := a }]
    { name := "", type := .plain "" }

/-- A parameter as JSON. -/
def ParameterDecl.toJson (p : ParameterDecl) : Json :=
  .obj [("name", .str p.name), ("type", p.type.toJson), ("hasDefaultValue", .bool p.hasDefault),
    ("defaultValue", .opt Constant.toJson p.default),
    ("attributes", .arr (p.attributes.map Attribute.toJson))]

/-- Reads a property. -/
def PropertyDecl.decode : Decoder PropertyDecl :=
  Decode.record "struct PropertyDecl"
    [.needed "name" Decode.string fun n p => { p with name := n },
     .needed "type" TypeRef.decode fun t p => { p with type := t },
     .optional "accessibility" Accessibility.decode fun a p => { p with accessibility := a },
     .optional "isStatic" Decode.bool fun b p => { p with isStatic := b },
     .optional "attributes" (Decode.list Attribute.decode) fun a p => { p with attributes := a }]
    { name := "", type := .plain "" }

/-- A property as JSON. -/
def PropertyDecl.toJson (p : PropertyDecl) : Json :=
  .obj [("name", .str p.name), ("type", p.type.toJson),
    ("accessibility", .str p.accessibility.name), ("isStatic", .bool p.isStatic),
    ("attributes", .arr (p.attributes.map Attribute.toJson))]

/-- Reads a method. -/
def MethodDecl.decode : Decoder MethodDecl :=
  Decode.record "struct MethodDecl"
    [.needed "name" Decode.string fun n m => { m with name := n },
     .optional "kind" MethodKind.decode fun k m => { m with kind := k },
     .optional "accessibility" Accessibility.decode fun a m => { m with accessibility := a },
     .optional "isStatic" Decode.bool fun b m => { m with isStatic := b },
     .optional "isAbstract" Decode.bool fun b m => { m with isAbstract := b },
     .optional "isOverride" Decode.bool fun b m => { m with isOverride := b },
     .optional "isNew" Decode.bool fun b m => { m with isNew := b },
     .optional "typeParameters" (Decode.list Decode.string) fun ts m => { m with typeParameters := ts },
     .optional "parameters" (Decode.list ParameterDecl.decode) fun ps m => { m with parameters := ps },
     .optional "attributes" (Decode.list Attribute.decode) fun a m => { m with attributes := a },
     .optional "overriddenMethod" (Decode.option MethodRef.decode) fun r m => { m with overrides := r },
     .optional "explicitImplementations" (Decode.list MethodRef.decode)
       fun rs m => { m with explicitImplementations := rs },
     .optional "docComment" (Decode.option DocComment.decode) fun c m => { m with doc := c }]
    { name := "" }

/-- A method as JSON. -/
def MethodDecl.toJson (m : MethodDecl) : Json :=
  .obj [("name", .str m.name), ("kind", .str m.kind.name),
    ("accessibility", .str m.accessibility.name), ("isStatic", .bool m.isStatic),
    ("isAbstract", .bool m.isAbstract), ("isOverride", .bool m.isOverride), ("isNew", .bool m.isNew),
    ("typeParameters", .strs m.typeParameters),
    ("parameters", .arr (m.parameters.map ParameterDecl.toJson)),
    ("attributes", .arr (m.attributes.map Attribute.toJson)),
    ("overriddenMethod", .opt MethodRef.toJson m.overrides),
    ("explicitImplementations", .arr (m.explicitImplementations.map MethodRef.toJson)),
    ("docComment", .opt DocComment.toJson m.doc)]

/-- Reads a type declaration. -/
def TypeDecl.decode : Decoder TypeDecl :=
  Decode.record "struct TypeDecl"
    [.needed "fullName" Decode.string fun n t => { t with fullName := n },
     .optional "kind" TypeKind.decode fun k t => { t with kind := k },
     .optional "accessibility" Accessibility.decode fun a t => { t with accessibility := a },
     .optional "isAbstract" Decode.bool fun b t => { t with isAbstract := b },
     .optional "isStatic" Decode.bool fun b t => { t with isStatic := b },
     .optional "typeParameters" (Decode.list Decode.string) fun ps t => { t with typeParameters := ps },
     .optional "containingType" (Decode.option Decode.string) fun c t => { t with containingType := c },
     .optional "baseType" (Decode.option Decode.string) fun b t => { t with baseType := b },
     .optional "interfaces" (Decode.list Decode.string) fun is t => { t with interfaces := is },
     .optional "attributes" (Decode.list Attribute.decode) fun a t => { t with attributes := a },
     .optional "methods" (Decode.list MethodDecl.decode) fun ms t => { t with methods := ms },
     .optional "properties" (Decode.list PropertyDecl.decode) fun ps t => { t with properties := ps }]
    { fullName := "" }

/-- A type declaration as JSON. -/
def TypeDecl.toJson (t : TypeDecl) : Json :=
  .obj [("fullName", .str t.fullName), ("kind", .str t.kind.name),
    ("accessibility", .str t.accessibility.name), ("isAbstract", .bool t.isAbstract),
    ("isStatic", .bool t.isStatic), ("typeParameters", .strs t.typeParameters),
    ("containingType", .opt .str t.containingType), ("baseType", .opt .str t.baseType),
    ("interfaces", .strs t.interfaces), ("attributes", .arr (t.attributes.map Attribute.toJson)),
    ("methods", .arr (t.methods.map MethodDecl.toJson)),
    ("properties", .arr (t.properties.map PropertyDecl.toJson))]

/-- Reads a program model. -/
def Program.decode : Decoder Program :=
  Decode.record "struct ProgramModelData"
    [.optional "types" (Decode.list TypeDecl.decode) fun ts _ => Program.new ts]
    (Program.new [])

/-- A program model as JSON. -/
def Program.toJson (m : Program) : Json :=
  .obj [("types", .arr (m.types.map TypeDecl.toJson))]

end TypedUrls
