import Mathlib
import TypedUrls.Proofs.SameTypesGeneration

/-!
# Partial declarations

A type may be declared in parts, each a fragment of the program model under the type's full
name. `Program.merge` replaces the fragments of every type by one declaration at the place of
the first (`TypeDecl.fuse`): it has the first fragment's header, it is abstract (static) when
some fragment is, its base type is the first one any fragment names, and its attributes,
interfaces, methods and properties are those of all fragments in declaration order.

A merged program declares the same types as the original (`sameTypes_merge`), so a run cannot
tell partial declarations from one declaration (`generate_merge`).
-/

namespace TypedUrls

open Descriptor (firstBy firstBy_cons pairwise_firstBy)

/-- One declaration for the fragments of a type whose first fragment is `t`. -/
def TypeDecl.fuse (t : TypeDecl) (fragments : List TypeDecl) : TypeDecl :=
  { t with
    isAbstract := fragments.any (·.isAbstract)
    isStatic := fragments.any (·.isStatic)
    baseType := fragments.findSome? (·.baseType)
    interfaces := fragments.flatMap (·.interfaces)
    attributes := fragments.flatMap (·.attributes)
    methods := fragments.flatMap (·.methods)
    properties := fragments.flatMap (·.properties) }

/-- The program with the fragments of every type replaced by one declaration at the place of the
first. -/
def Program.merge (m : Program) : Program :=
  Program.new ((firstBy (·.fullName) m.types).map fun t => t.fuse (m.fragments t.fullName))

namespace Program

variable (m : Program)

/-- A merged program has one declaration for each type: its fragments fused. -/
theorem fragments_merge (n : String) :
    m.merge.fragments n = ((m.fragments n).head?.map fun t => t.fuse (m.fragments n)).toList := by
  have hkey : ∀ t : TypeDecl, (t.fuse (m.fragments t.fullName)).fullName = t.fullName :=
    fun _ => rfl
  unfold merge
  rw [fragments_eq_filter, types_new, List.filter_map]
  simp only [Function.comp_def, hkey, beq_eq_decide]
  rw [Descriptor.filter_firstBy_eq_find?, ← resolve_eq_head?_fragments, resolve_eq_find?]
  simp only [beq_eq_decide]
  cases hfind : m.types.find? (fun x => decide (x.fullName = n)) with
  | none => rfl
  | some t =>
    have hname : t.fullName = n := by simpa using List.find?_some hfind
    simp [hname]

theorem flatMap_fragments_merge {α : Type} (g : TypeDecl → List α)
    (hg : ∀ (t : TypeDecl) (fs : List TypeDecl), g (t.fuse fs) = fs.flatMap g) (n : String) :
    (m.merge.fragments n).flatMap g = (m.fragments n).flatMap g := by
  rw [fragments_merge]
  cases hfs : m.fragments n with
  | nil => rfl
  | cons t rest => simp [hg]

theorem any_fragments_merge (p : TypeDecl → Bool)
    (hp : ∀ (t : TypeDecl) (fs : List TypeDecl), p (t.fuse fs) = fs.any p)
    (n : String) : (m.merge.fragments n).any p = (m.fragments n).any p := by
  rw [fragments_merge]
  cases hfs : m.fragments n with
  | nil => rfl
  | cons t rest => simp [hp]

theorem contains_merge (n : String) : m.merge.contains n = m.contains n := by
  refine Bool.eq_iff_iff.mpr ?_
  rw [← fragments_ne_nil_iff, ← fragments_ne_nil_iff, fragments_merge]
  cases m.fragments n <;> simp

theorem baseTypeOf_merge (n : String) : m.merge.baseTypeOf n = m.baseTypeOf n := by
  unfold baseTypeOf
  rw [fragments_merge]
  cases m.fragments n <;> simp [TypeDecl.fuse]

/-- The declarations of a merged program have distinct names, so they are all first fragments. -/
theorem firstBy_merge : firstBy (·.fullName) m.merge.types = m.merge.types := by
  have hdistinct : m.merge.types.Pairwise fun a b => a.fullName ≠ b.fullName := by
    unfold merge
    exact List.pairwise_map.mpr (pairwise_firstBy _ m.types)
  generalize m.merge.types = ts at hdistinct ⊢
  induction ts with
  | nil => rfl
  | cons t ts ih =>
    obtain ⟨hne, hrest⟩ := List.pairwise_cons.mp hdistinct
    rw [firstBy_cons, List.filter_eq_self.mpr fun u hu => by simpa using Ne.symm (hne u hu),
      ih hrest]

/-- A merged program declares the same types as the original. -/
theorem sameTypes_merge : m.SameTypes m.merge where
  contains := m.contains_merge
  baseTypeOf := m.baseTypeOf_merge
  methodsOf := m.flatMap_fragments_merge (·.methods) fun _ _ => rfl
  propertiesOf := m.flatMap_fragments_merge (·.properties) fun _ _ => rfl
  attributesOf := m.flatMap_fragments_merge (·.attributes) fun _ _ => rfl
  interfacesOf := m.flatMap_fragments_merge (·.interfaces) fun _ _ => rfl
  isAbstract := m.any_fragments_merge (·.isAbstract) fun _ _ => rfl
  isStatic := m.any_fragments_merge (·.isStatic) fun _ _ => rfl
  headers := by
    rw [firstBy_merge, merge, types_new, List.map_map]
    rfl

end Program

/-- A run cannot tell partial declarations from one declaration: the merged program gives the
same sources and the same diagnostics. -/
theorem generate_merge (model : Program) (templates : List Template) (config : Config)
    (cancel : Bool) :
    generate model.merge templates config cancel = generate model templates config cancel :=
  generate_eq model.sameTypes_merge templates config cancel

end TypedUrls
