import TypedUrls.Classify.Attributes
import TypedUrls.CSharp.Identifier
import TypedUrls.CSharp.TypeName
import TypedUrls.Error

/-!
# Classifying declarations

Which types are controllers (endpoint containers), which of their methods are actions, and
which methods of a page model are page handlers.

* A **container** is a public, concrete (no fragment abstract or static), non-generic,
  top-level class that no attribute up its base chain excludes, and that either has the
  container suffix (`Controller`, in any ASCII case) or an inclusion attribute up its base chain.
* An **action** is a public, ordinary, non-static, non-abstract, non-generic method that does
  not override a method of the root object named in the conventions (`ToString`, …), does not
  implement the disposal contract, and carries no exclusion attribute anywhere on its override
  chain.
* A **page handler** is such a method whose name starts with the handler prefix and a handler
  verb (`OnGet`, `OnPostAsync`, …), and that no handler exclusion attribute marks.

## Override chains

The chain of a method is the method followed by the method it overrides, and so on, each found
in the model by its type, name and parameter types. It ends at a method that overrides nothing,
or at an overridden method outside the model. A method marked `override` that names no
overridden method breaks the chain; meeting a method of the chain again makes it cyclic. Both
are errors, which skip the method.
-/

namespace TypedUrls

/-- A method of the model with the place it is declared at: its type's full name, the index of
the fragment among all declarations, and its index among that fragment's methods. The two
indices tell methods apart. -/
structure MethodAt where
  owner : String
  fragment : Nat
  index : Nat
  method : MethodDecl
deriving Repr, Inhabited

namespace MethodAt

/-- What tells this method apart from every other. -/
def id (m : MethodAt) : Nat × Nat := (m.fragment, m.index)

end MethodAt

namespace Program

/-- The methods of the declaration at `fragment`, with their places. -/
def methodsOfFragment (t : TypeDecl) (fragment : Nat) : List MethodAt :=
  t.methods.zipIdx.map fun (meth, i) => ⟨t.fullName, fragment, i, meth⟩

/-- The methods of a type over all its fragments, with their places. -/
def methodsAt (m : Program) (fullName : String) : List MethodAt :=
  (m.types.zipIdx.filter (·.1.fullName == fullName)).flatMap fun (t, k) => methodsOfFragment t k

/-- The number of methods in the model. -/
def methodCount (m : Program) : Nat := m.types.foldr (fun t n => t.methods.length + n) 0

/-- The method a reference names: one of its type with that name and those parameter types. -/
def findMethod (m : Program) (r : MethodRef) : Option MethodAt :=
  (m.methodsAt r.containingType).find? fun x =>
    x.method.name == r.name && x.method.parameters.length == r.parameterTypes.length &&
      (x.method.parameters.zip r.parameterTypes).all fun (p, t) => CSharp.display p.type == t

end Program

/-- The override chain of a method: the method and every overridden method found in the model,
each with its type, and the overridden method outside the model where the walk stopped. -/
structure OverrideChain where
  methods : List (String × MethodDecl)
  externalRoot : Option MethodRef
deriving Repr, Inhabited

/-- The type and name of the least derived method of the chain. -/
def OverrideChain.root (c : OverrideChain) : String × String :=
  match c.externalRoot with
  | some r => (r.containingType, r.name)
  | none =>
    match c.methods.getLast? with
    | some (t, meth) => (t, meth.name)
    | none => ("", "")

/-- Walks a chain from `current`, at most `fuel` steps; `acc` holds the methods so far, last
first, `seen` what tells them apart, and `start` the method the walk began at. -/
def Program.chainFrom (m : Program) (start : MethodAt) :
    Nat → List (Nat × Nat) → List (String × MethodDecl) → MethodAt →
      Except GenerationError OverrideChain
  | 0, _, acc, _ => .ok ⟨acc.reverse, none⟩
  | fuel + 1, seen, acc, current =>
    if !current.method.isOverride then .ok ⟨acc.reverse, none⟩
    else
      match current.method.overrides with
      | none => .error (.brokenOverride current.owner current.method.name)
      | some r =>
        match m.findMethod r with
        | none => .ok ⟨acc.reverse, some r⟩
        | some next =>
          if seen.contains next.id then .error (.cyclicOverride start.owner start.method.name)
          else m.chainFrom start fuel (next.id :: seen) ((next.owner, next.method) :: acc) next

/-- The override chain of a method of the model. -/
def Program.overrideChain (m : Program) (x : MethodAt) : Except GenerationError OverrideChain :=
  m.chainFrom x (m.methodCount + 1) [x.id] [(x.owner, x.method)] x

/-- The model and the configuration that classification reads. -/
structure Classifier where
  model : Program
  config : Config

namespace Classifier

/-- What an attribute means. -/
def kind (c : Classifier) (a : Attribute) : AttributeKind :=
  c.model.attributeKind c.config.attributes a

/-- The meanings of a type's attributes and its bases', most derived first. -/
def inherited (c : Classifier) (fullName : String) : List AttributeKind :=
  c.model.inheritedKinds c.config.attributes fullName

/-- Whether the name ends with the suffix, compared without regard to ASCII case. -/
def hasSuffixIgnoreCase (name suffix : String) : Bool :=
  let n := Text.byteLength name.toList
  let k := Text.byteLength suffix.toList
  if n < k then false
  else
    match Text.splitAtByte? name.toList (n - k) with
    | some (_, tail) => Text.eqIgnoreAsciiCase (String.ofList tail) suffix
    | none => false

/-- Whether a declaration is an endpoint container. -/
def isContainer (c : Classifier) (decl : TypeDecl) : Bool :=
  let concrete := (c.model.fragments decl.fullName).all fun f => !f.isAbstract && !f.isStatic
  if decl.kind != .class || !concrete || decl.accessibility != .public ||
      !decl.typeParameters.isEmpty || decl.containingType.isSome then false
  else
    let inherited := c.inherited decl.fullName
    if inherited.contains .nonController then false
    else hasSuffixIgnoreCase decl.simpleName c.config.controllers.containerSuffix ||
      inherited.contains .controller

/-- The area of a container: the value of the nearest area attribute on it or its bases;
the root area (empty) when there is none or it has no value. -/
def areaName (c : Classifier) (fullName : String) : String :=
  ((c.inherited fullName).findSome? fun
    | .area v => some (v.getD "")
    | _ => none).getD ""

/-- The name of a container: its simple name without the container suffix. -/
def containerName (c : Classifier) (decl : TypeDecl) : String :=
  CSharp.stripSuffixIgnoreCase decl.simpleName c.config.controllers.containerSuffix

/-- Whether callers can reach a method: public, not abstract, not generic. -/
def isCallable (meth : MethodDecl) : Bool :=
  !meth.isAbstract && meth.typeParameters.isEmpty && meth.accessibility == .public

/-- Whether a method overrides one of the root object's methods named in the conventions. -/
def isRootObjectOverride (c : Classifier) (meth : MethodDecl) (chain : OverrideChain) : Bool :=
  meth.isOverride &&
    let (rootType, rootName) := chain.root
    rootType == c.config.controllers.rootObjectType &&
      c.config.controllers.rootObjectOverrides.contains rootName

/-- Whether a method implements the disposal contract, explicitly or by its name, with no
parameters, on a type whose base chain implements the contract. -/
def isDisposal (c : Classifier) (owner : String) (meth : MethodDecl) : Bool :=
  let conv := c.config.controllers
  meth.explicitImplementations.any (fun r =>
      r.containingType == conv.disposalInterface && r.name == conv.disposalMethod) ||
    (meth.name == conv.disposalMethod && meth.parameters.isEmpty &&
      (c.model.baseChain owner).any fun n => (c.model.interfacesOf n).contains conv.disposalInterface)

/-- Whether some method of the chain carries an attribute meaning `k`. -/
def chainHas (c : Classifier) (chain : OverrideChain) (k : AttributeKind) : Bool :=
  chain.methods.any fun (_, meth) => meth.attributes.any fun a => c.kind a == k

/-- Whether a method of the model is an endpoint action. -/
def isAction (c : Classifier) (x : MethodAt) : Except GenerationError Bool :=
  let meth := x.method
  if meth.kind != .ordinary || meth.isStatic || !isCallable meth then .ok false
  else do
    let chain ← c.model.overrideChain x
    if c.isRootObjectOverride meth chain || c.isDisposal x.owner meth then pure false
    else pure !(c.chainHas chain .nonAction)

/-- The name of an action: an explicit name attribute's value, else the method name without the
async suffix. -/
def actionName (c : Classifier) (meth : MethodDecl) : String :=
  ((meth.attributes.map c.kind).findSome? fun
    | .actionName (some n) => some n
    | _ => none).getD (CSharp.stripSuffixExact meth.name c.config.controllers.actionAsyncSuffix)

/-- The rest of a method name after the handler prefix and the first handler verb it starts
with, both compared without regard to ASCII case. -/
def handlerSuffix (c : Classifier) (name : String) : Option String :=
  let pages := c.config.pages
  pages.handlerVerbs.findSome? fun verb => do
    let (pre, rest) ← Text.splitAtByte? name.toList (Text.byteLength pages.handlerPrefix.toList)
    let (verbPart, after) ← Text.splitAtByte? rest (Text.byteLength verb.toList)
    if Text.eqIgnoreAsciiCase (String.ofList pre) pages.handlerPrefix &&
        Text.eqIgnoreAsciiCase (String.ofList verbPart) verb then
      some (String.ofList after)
    else none

/-- Whether a method of a page model is a page handler. -/
def isPageHandler (c : Classifier) (x : MethodAt) : Except GenerationError Bool :=
  let meth := x.method
  if (c.handlerSuffix meth.name).isNone || meth.kind != .ordinary || meth.isStatic ||
      !isCallable meth then .ok false
  else do
    let chain ← c.model.overrideChain x
    if c.isRootObjectOverride meth chain then pure false
    else pure !(c.chainHas chain .nonHandler)

/-- The name that tells a page's handlers apart: the rest of the method name after the verb,
without the async suffix; none for the page's default handler. -/
def pageHandlerName (c : Classifier) (meth : MethodDecl) : Option String := do
  let rest ← c.handlerSuffix meth.name
  let suffix := c.config.pages.handlerAsyncSuffix
  let rest :=
    if suffix.toList.isSuffixOf rest.toList then String.ofList (rest.toList.take (rest.length - suffix.length))
    else rest
  if rest.isEmpty then none else some rest

end Classifier

end TypedUrls
