import Mathlib
import TypedUrls.Generate
import TypedUrls.Proofs.Generate
import TypedUrls.Proofs.SameTypes
import TypedUrls.Proofs.MethodPlaces
import TypedUrls.Proofs.EndpointDiscovery

/-!
# Generation sees types, not fragments

A run reads the program model through the queries of `Program.SameTypes` and the places of
methods. So two programs that declare the same types give the same run (`generate_eq`), however
their fragments are split.

The proof follows the layers of the run. The classifier gives the same answers for the same
header and for methods at the same place (`isContainer_eq`, `isAction_eq`, `isPageHandler_eq`);
each discovery step then does the same (`addActions_eq`, `addContainer_eq`, `pageHandlers_eq`,
`addTemplate_eq`), and the passes over the types and the templates fold the same steps.
-/

namespace TypedUrls

open Program Descriptor

/-- Folds over two lists, element by element related, with steps that agree on related
elements. -/
theorem foldl_eq_of_forall₂ {α β γ : Type} {R : α → β → Prop} {f : γ → α → γ} {g : γ → β → γ}
    (hfg : ∀ acc a b, R a b → g acc b = f acc a) {l : List α} {l' : List β}
    (hl : List.Forall₂ R l l') (acc : γ) : l'.foldl g acc = l.foldl f acc := by
  induction hl generalizing acc with
  | nil => rfl
  | cons hab _ ih => rw [List.foldl_cons, List.foldl_cons, hfg acc _ _ hab, ih]

theorem forall₂_of_map_eq {α β : Type} {f : α → β} {l l' : List α} (h : l'.map f = l.map f) :
    List.Forall₂ (fun a a' => f a' = f a) l l' := by
  induction l generalizing l' with
  | nil =>
    rw [List.map_nil, List.map_eq_nil_iff] at h
    subst h
    exact .nil
  | cons a as ih =>
    obtain ⟨a', as', rfl, hhead, htail⟩ := List.map_eq_cons_iff.mp h
    exact .cons hhead (ih htail)

/-- A type is concrete, abstract in no fragment and static in none, by the flags over its
fragments. -/
theorem all_concrete (fragments : List TypeDecl) :
    fragments.all (fun f => !f.isAbstract && !f.isStatic) =
      (!fragments.any (·.isAbstract) && !fragments.any (·.isStatic)) := by
  induction fragments with
  | nil => rfl
  | cons f fs ih =>
    simp only [List.all_cons, List.any_cons, ih]
    cases f.isAbstract <;> cases f.isStatic <;> simp

/-! ## The classifier -/

namespace Classifier

variable {m m' : Program} (h : m.SameTypes m') (config : Config)
include h

theorem kind_eq : (⟨m', config⟩ : Classifier).kind = (⟨m, config⟩ : Classifier).kind := by
  funext a
  exact congrFun (h.attributeKind_eq config.attributes) a

theorem inherited_eq (n : String) :
    (⟨m', config⟩ : Classifier).inherited n = (⟨m, config⟩ : Classifier).inherited n :=
  h.inheritedKinds_eq config.attributes n

theorem areaName_eq (n : String) :
    (⟨m', config⟩ : Classifier).areaName n = (⟨m, config⟩ : Classifier).areaName n := by
  unfold areaName
  rw [inherited_eq h]

/-- A declaration is a container by its header and by what its type inherits. -/
theorem isContainer_eq {d d' : TypeDecl} (hd : d'.header = d.header) :
    (⟨m', config⟩ : Classifier).isContainer d' = (⟨m, config⟩ : Classifier).isContainer d := by
  have hname : d'.fullName = d.fullName := congrArg TypeDecl.Header.fullName hd
  have hkind : d'.kind = d.kind := congrArg TypeDecl.Header.kind hd
  have haccess : d'.accessibility = d.accessibility := congrArg TypeDecl.Header.accessibility hd
  have hparams : d'.typeParameters = d.typeParameters :=
    congrArg TypeDecl.Header.typeParameters hd
  have hcontaining : d'.containingType = d.containingType :=
    congrArg TypeDecl.Header.containingType hd
  unfold isContainer
  dsimp only
  rw [all_concrete, all_concrete, hname, h.isAbstract, h.isStatic, hkind, haccess, hparams,
    hcontaining, inherited_eq h, TypeDecl.simpleName_eq hname]

omit h in
theorem containerName_eq {d d' : TypeDecl} (hd : d'.fullName = d.fullName) :
    (⟨m', config⟩ : Classifier).containerName d' = (⟨m, config⟩ : Classifier).containerName d := by
  unfold containerName
  rw [TypeDecl.simpleName_eq hd]

theorem isDisposal_eq (owner : String) (meth : MethodDecl) :
    (⟨m', config⟩ : Classifier).isDisposal owner meth =
      (⟨m, config⟩ : Classifier).isDisposal owner meth := by
  unfold isDisposal
  simp only [h.baseChain_eq, h.interfacesOf]

theorem chainHas_eq (chain : OverrideChain) (k : AttributeKind) :
    (⟨m', config⟩ : Classifier).chainHas chain k = (⟨m, config⟩ : Classifier).chainHas chain k := by
  unfold chainHas
  rw [kind_eq h]

theorem actionName_eq :
    (⟨m', config⟩ : Classifier).actionName = (⟨m, config⟩ : Classifier).actionName := by
  funext meth
  unfold actionName
  rw [kind_eq h]

/-- Methods at the same place are actions alike. -/
theorem isAction_eq {x x' : MethodAt} (hx : SamePlace m m' x x') :
    (⟨m', config⟩ : Classifier).isAction x' = (⟨m, config⟩ : Classifier).isAction x := by
  obtain ⟨hown, hmeth⟩ := hx.owner_method h.methodsOf
  unfold isAction
  dsimp only
  rw [overrideChain_eq h.methodsOf h.methodCount_eq hx, hown, hmeth, isDisposal_eq h]
  simp only [chainHas_eq h]
  rfl

/-- Methods at the same place are page handlers alike. -/
theorem isPageHandler_eq {x x' : MethodAt} (hx : SamePlace m m' x x') :
    (⟨m', config⟩ : Classifier).isPageHandler x' = (⟨m, config⟩ : Classifier).isPageHandler x := by
  obtain ⟨-, hmeth⟩ := hx.owner_method h.methodsOf
  unfold isPageHandler
  dsimp only
  rw [overrideChain_eq h.methodsOf h.methodCount_eq hx, hmeth]
  simp only [chainHas_eq h]
  rfl

end Classifier

/-! ## Discovery -/

namespace Discovery

variable {m m' : Program} (h : m.SameTypes m') (config : Config)
include h

theorem methodParameters_eq :
    methodParameters ⟨m', config⟩ = methodParameters ⟨m, config⟩ := by
  funext meth
  unfold methodParameters
  rw [Classifier.kind_eq h]

theorem modelParameter_eq : modelParameter ⟨m', config⟩ = modelParameter ⟨m, config⟩ := by
  funext p
  unfold modelParameter
  rw [Classifier.kind_eq h]

/-- The actions a walk adds from the methods of one type. -/
theorem addActions_eq (area container : String) (w : EndpointWalk) (owner : String) :
    addActions ⟨m', config⟩ area container w (m'.methodsAt owner) =
      addActions ⟨m, config⟩ area container w (m.methodsAt owner) := by
  unfold addActions
  refine foldl_eq_of_forall₂ (fun acc x x' hx => ?_) (forall₂_samePlace h.methodsOf owner) w
  obtain ⟨-, hmeth⟩ := hx.owner_method h.methodsOf
  dsimp only
  rw [hmeth, Classifier.isAction_eq h config hx, Classifier.actionName_eq h,
    methodParameters_eq h]

/-- A declaration with the same header adds the same container with the same actions. -/
theorem addContainer_eq (w : EndpointWalk) {d d' : TypeDecl} (hd : d'.header = d.header) :
    addContainer ⟨m', config⟩ w d' = addContainer ⟨m, config⟩ w d := by
  have hname : d'.fullName = d.fullName := congrArg TypeDecl.Header.fullName hd
  unfold addContainer
  rw [Classifier.isContainer_eq h config hd, Classifier.areaName_eq h, hname,
    Classifier.containerName_eq (m := m) config hname]
  dsimp only
  rw [h.baseChain_eq]
  simp only [addActions_eq h config]

theorem endpoints_eq : endpoints ⟨m', config⟩ = endpoints ⟨m, config⟩ := by
  unfold endpoints
  dsimp only
  have hfold := foldl_eq_of_forall₂ (f := addContainer ⟨m, config⟩) (g := addContainer ⟨m', config⟩)
    (fun w d d' hd => addContainer_eq h config w hd) (forall₂_of_map_eq h.headers)
  rw [firstFragments_eq, firstFragments_eq, hfold]

/-- A page model's handlers. -/
theorem pageHandlers_eq (owner : String) :
    pageHandlers ⟨m', config⟩ owner = pageHandlers ⟨m, config⟩ owner := by
  unfold pageHandlers
  rw [foldl_eq_of_forall₂ (fun acc x x' hx => ?_) (forall₂_samePlace h.methodsOf owner)]
  obtain ⟨-, hmeth⟩ := hx.owner_method h.methodsOf
  dsimp only
  rw [hmeth, Classifier.isPageHandler_eq h config hx, methodParameters_eq h]
  rfl

/-- The page a template adds: the page model is found by its full name in both programs. -/
theorem addTemplate_eq (acc : PageTree × List GenerationError) (file : Template) :
    addTemplate ⟨m', config⟩ acc file = addTemplate ⟨m, config⟩ acc file := by
  unfold addTemplate
  dsimp only
  split
  · next route area page _ _ =>
    -- the page model resolves in both programs or in neither, to the same full name
    have hmodel : ∀ name, ((m'.resolveByName name).map (·.fullName)) =
        (m.resolveByName name).map (·.fullName) := resolveByName_eq h.contains
    cases hname : modelName config.pages file.text with
    | none => rfl
    | some name =>
      simp only [Option.bind_some]
      have hn := hmodel name
      cases hpm : m.resolveByName name with
      | none =>
        rw [hpm, Option.map_none, Option.map_eq_none_iff] at hn
        rw [hn]
      | some pm =>
        rw [hpm, Option.map_some, Option.map_eq_some_iff] at hn
        obtain ⟨pm', hpm', hfull⟩ := hn
        rw [hpm']
        dsimp only
        rw [hfull, h.propertiesOf, modelParameter_eq h, pageHandlers_eq h]
  · rfl

theorem pages_eq (templates : List Template) :
    pages ⟨m', config⟩ templates = pages ⟨m, config⟩ templates := by
  unfold pages
  have hstep : addTemplate ⟨m', config⟩ = addTemplate ⟨m, config⟩ := by
    funext acc file
    exact addTemplate_eq h config acc file
  rw [hstep]

end Discovery

/-- Two programs that declare the same types give the same run. -/
theorem generate_eq {m m' : Program} (h : m.SameTypes m') (templates : List Template)
    (config : Config) (cancel : Bool) :
    generate m' templates config cancel = generate m templates config cancel := by
  rw [generate_eq_families, generate_eq_families, Discovery.endpoints_eq h, Discovery.pages_eq h]

end TypedUrls
