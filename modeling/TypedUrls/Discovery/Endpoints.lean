import TypedUrls.Discovery.Parameters
import TypedUrls.Descriptor.Tree
import TypedUrls.Descriptor.Builder

/-!
# Discovering endpoints

Containers are visited in declaration order, a type with several fragments once, at its first
fragment. A container's own actions come first, then the actions of its base classes in the
model, most derived first; a method whose name and parameter types a more derived class already
declared is passed over. A method that cannot be classified is skipped with a warning.
-/

namespace TypedUrls.Discovery

open Descriptor

/-- The endpoints of a discovery pass and the warnings it gave. -/
structure Report (α : Type) where
  areas : List α
  warnings : List GenerationError

/-- What an endpoint walk has gathered: the tree, the warnings (last first), and the signatures
declared so far in the current container. -/
structure EndpointWalk where
  tree : EndpointTree := {}
  warnings : List GenerationError := []
  declared : List (String × List String) := []

/-- Adds the actions among `methods` to the container `container` of `area`. -/
def addActions (c : Classifier) (area container : String) (w : EndpointWalk) (methods : List MethodAt) :
    EndpointWalk :=
  methods.foldl (fun w x =>
    let signature := (x.method.name, x.method.parameters.map (CSharp.display ·.type))
    if w.declared.contains signature then w
    else
      let w := { w with declared := signature :: w.declared }
      match c.isAction x with
      | .ok true =>
        let (tree, _) := w.tree.addEndpoint area container (c.actionName x.method)
          (methodParameters c x.method)
        { w with tree }
      | .ok false => w
      | .error e => { w with warnings := e :: w.warnings }) w

/-- Adds a type, if it is a container, with its actions and those of its bases. -/
def addContainer (c : Classifier) (w : EndpointWalk) (decl : TypeDecl) : EndpointWalk :=
  if !c.isContainer decl then w
  else
    let area := c.areaName decl.fullName
    let container := c.containerName decl
    let w := { w with tree := w.tree.withContainer area container, declared := [] }
    (c.model.baseChain decl.fullName).foldl
      (fun w owner => addActions c area container w (c.model.methodsAt owner)) w

/-- The first fragment of each type, in declaration order. -/
def firstFragments (types : List TypeDecl) : List TypeDecl :=
  (types.foldl (fun (seen, acc) t =>
    if seen.contains t.fullName then (seen, acc) else (t.fullName :: seen, t :: acc))
    (([] : List String), ([] : List TypeDecl))).2.reverse

/-- The endpoint family of a model. -/
def endpoints (c : Classifier) : Report Area :=
  let w := (firstFragments c.model.types).foldl (addContainer c) {}
  ⟨w.tree.build, w.warnings.reverse⟩

/-! ## The pass through the builder's indexes -/

/-- What the walk of one container's methods gathers: its actions, each a name and its
parameters, the warnings (both last first), and the signatures declared so far. -/
structure ActionWalk where
  actions : List (String × List Parameter) := []
  warnings : List GenerationError := []
  declared : List (String × List String) := []

/-- Walks methods of a container: a method whose signature is declared already is passed over,
any other is classified, and an action is gathered. -/
def walkActions (c : Classifier) (w : ActionWalk) (methods : List MethodAt) : ActionWalk :=
  methods.foldl (fun w x =>
    let signature := (x.method.name, x.method.parameters.map (CSharp.display ·.type))
    if w.declared.contains signature then w
    else
      let w := { w with declared := signature :: w.declared }
      match c.isAction x with
      | .ok true =>
        { w with actions := (c.actionName x.method, methodParameters c x.method) :: w.actions }
      | .ok false => w
      | .error e => { w with warnings := e :: w.warnings }) w

/-- Adds a type, if it is a container, through the builder's indexes: the container is found
once, created if missing, and the actions walked up its base chain are added to it. -/
def addContainer? (c : Classifier) (acc : ControllerTreeBuilder × List GenerationError)
    (decl : TypeDecl) : Except Panic (ControllerTreeBuilder × List GenerationError) :=
  if !c.isContainer decl then pure acc
  else
    let w := (c.model.baseChain decl.fullName).foldl
      (fun w owner => walkActions c w (c.model.methodsAt owner)) { warnings := acc.2 }
    do
      let tree ← acc.1.addEndpoints (c.areaName decl.fullName) (c.containerName decl)
        w.actions.reverse
      pure (tree, w.warnings)

/-- The endpoint family of a model, built through the builder's indexes; a failed read stops
the pass. -/
def endpoints? (c : Classifier) : Except Panic (Report Area) := do
  let (tree, warnings) ← (firstFragments c.model.types).foldlM (addContainer? c) ({}, [])
  pure ⟨tree.build, warnings.reverse⟩

end TypedUrls.Discovery
