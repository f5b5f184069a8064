import Mathlib
import TypedUrls.Discovery.Parameters

/-!
# Nullable type names

A parameter is nullable when its type, written in C# syntax, ends with `?`
(`Descriptor.Parameter.isNullable`). `CSharp.display` writes the mark in two places: after the
one argument of the optional-value wrapper `System.Nullable` (whatever its nullable flag says),
and after a named type marked nullable. Before each it looks at the text so far and does not write
a second mark after one already there; arrays and argument lists close with a bracket.

So as long as the names in a type carry no `?` of their own, the text has no `??`, and it ends
with `?` exactly when the type has one of the two nullable shapes (`TypeRef.NullableShape`). A
parameter built from a method parameter or from a bound page-model property is therefore nullable
exactly when its declared type has that shape. `display_nullable` states the three facts.

The text is read as a list of characters: "no `??`" is `NoDoubleMark`, a chain condition between
neighbours, so that the text of a composite type is judged piece by piece and at the seams.
-/

namespace TypedUrls

mutual

/-- The names a type reference writes: of its named types and type parameters, at every depth. -/
def TypeRef.names : TypeRef → List String
  | .named name arguments _ => name :: TypeRef.listNames arguments
  | .array element _ => element.names
  | .typeParameter name => [name]

/-- The names the type references of a list write. -/
def TypeRef.listNames : List TypeRef → List String
  | [] => []
  | t :: ts => t.names ++ TypeRef.listNames ts

end

/-- The types C# writes with a trailing `?`: a named type marked nullable, and the optional-value
wrapper (arity mark aside) with exactly one argument. -/
def TypeRef.NullableShape : TypeRef → Prop
  | .named name arguments nullable =>
    nullable = true ∨ (CSharp.stripArity name = CSharp.nullableWrapper ∧ arguments.length = 1)
  | .array _ _ => False
  | .typeParameter _ => False

/-- No two question marks stand next to each other. -/
def NoDoubleMark (l : List Char) : Prop :=
  l.IsChain fun a b => a ≠ '?' ∨ b ≠ '?'

namespace NoDoubleMark

theorem iff_not_infix {l : List Char} : NoDoubleMark l ↔ ¬ ['?', '?'] <:+: l := by
  rw [NoDoubleMark, List.isChain_iff_forall_rel_of_append_cons_cons]
  constructor
  · rintro h ⟨s, u, hsu⟩
    have := h (show l = s ++ '?' :: '?' :: u by simp [← hsu])
    simp at this
  · intro h a b s u hl
    refine not_and_or.mp ?_
    rintro ⟨rfl, rfl⟩
    exact h ⟨s, u, by simp [hl]⟩

theorem of_forall_ne {l : List Char} (h : ∀ c ∈ l, c ≠ '?') : NoDoubleMark l :=
  List.isChain_iff_forall_rel_of_append_cons_cons.mpr fun a _ _ _ hl =>
    .inl (h a (by simp [hl]))

/-- Two texts without a double mark make none when the seam is not two marks. -/
theorem append {l₁ l₂ : List Char} (h₁ : NoDoubleMark l₁) (h₂ : NoDoubleMark l₂)
    (hseam : l₁.getLast? ≠ some '?' ∨ l₂.head? ≠ some '?') : NoDoubleMark (l₁ ++ l₂) := by
  refine List.isChain_append.mpr ⟨h₁, h₂, fun a ha b hb => ?_⟩
  rcases hseam with hseam | hseam
  · exact .inl fun h => hseam (by rw [← h]; exact ha)
  · exact .inr fun h => hseam (by rw [← h]; exact hb)

end NoDoubleMark

namespace CSharp

open NoDoubleMark

/-- A mark is added exactly when the text does not end with one. -/
theorem toList_withNullableMark (s : String) :
    (withNullableMark s).toList =
      if s.toList.getLast? = some '?' then s.toList else s.toList ++ ['?'] := by
  have hends : s.endsWith "?" = true ↔ s.toList.getLast? = some '?' := by
    rw [String.endsWith, String.Slice.endsWith_string_iff, String.copy_toSlice]
    exact List.singleton_suffix_iff_getLast?_eq_some
  unfold withNullableMark
  by_cases h : s.toList.getLast? = some '?'
  · rw [if_pos (hends.mpr h), if_pos h]
  · rw [if_neg (mt hends.mp h), if_neg h, String.toList_append]
    rfl

theorem withNullableMark_marks {s : String} (h : NoDoubleMark s.toList) :
    NoDoubleMark (withNullableMark s).toList ∧ (withNullableMark s).toList.getLast? = some '?' := by
  rw [toList_withNullableMark]
  split
  · exact ⟨h, ‹_›⟩
  · exact ⟨h.append (.singleton '?') (.inl ‹_›), by simp⟩

/-- The nullable mark of a named type is written exactly when its flag is set. -/
theorem mark_marks {s : String} (nullable : Bool) (h : NoDoubleMark s.toList)
    (hlast : s.toList.getLast? ≠ some '?') :
    NoDoubleMark (display.mark nullable s).toList ∧
      ((display.mark nullable s).toList.getLast? = some '?' ↔ nullable = true) := by
  cases nullable with
  | false => exact ⟨h, by simpa [display.mark] using hlast⟩
  | true => simpa [display.mark] using withNullableMark_marks h

theorem not_mem_stripArity {name : String} (h : '?' ∉ name.toList) : '?' ∉ (stripArity name).toList := by
  unfold stripArity
  dsimp only
  split
  · next rootRev hdrop =>
    split
    · -- the root is what comes before the arity mark, read back
      intro hmem
      rw [String.toList_ofList, List.mem_reverse] at hmem
      have hsuffix := List.dropWhile_suffix (fun c => !isArityMark c) (l := name.toList.reverse)
      rw [hdrop] at hsuffix
      exact h (List.mem_reverse.mp (hsuffix.subset (List.mem_cons_of_mem _ hmem)))
    · exact h
  · exact h

theorem not_mem_aliased {root : String} (h : '?' ∉ root.toList) :
    '?' ∉ (display.aliased root).toList := by
  unfold display.aliased
  cases halias : primitiveAlias root with
  | none => exact h
  | some a =>
    obtain ⟨l₁, l₂, hl, -⟩ := List.lookup_eq_some_iff.mp halias
    have hmem : a ∈ primitiveAliases.map Prod.snd :=
      List.mem_map.mpr ⟨(root, a), by rw [hl]; simp, rfl⟩
    have haliases : ∀ b ∈ primitiveAliases.map Prod.snd, '?' ∉ b.toList := by decide
    exact haliases a hmem

/-- A name without a mark, followed by a bracketed text without a double mark, has none, and
ends with the closing bracket. -/
theorem bracketed_marks {root inner : String} (h : '?' ∉ root.toList)
    (hinner : NoDoubleMark inner.toList) :
    NoDoubleMark (root ++ "<" ++ inner ++ ">").toList ∧
      (root ++ "<" ++ inner ++ ">").toList.getLast? ≠ some '?' := by
  have hroot : NoDoubleMark (root.toList ++ ['<']) :=
    of_forall_ne fun c hc => by
      rcases List.mem_append.mp hc with hc | hc
      · exact fun h' => h (h' ▸ hc)
      · simp_all
  have htext : (root ++ "<" ++ inner ++ ">").toList = root.toList ++ ['<'] ++ inner.toList ++ ['>'] := by
    simp
  have hopen : NoDoubleMark (root.toList ++ ['<'] ++ inner.toList) :=
    hroot.append hinner (.inl (by simp))
  rw [htext, List.getLast?_concat]
  exact ⟨hopen.append (.singleton '>') (.inr (by simp)), by decide⟩

/-- The root of a named type, aliased or not, has no mark when the type's name has none. -/
theorem not_mem_root {name : String} {arguments : List TypeRef} {nullable : Bool}
    (hnames : ∀ s ∈ (TypeRef.named name arguments nullable).names, '?' ∉ s.toList) :
    '?' ∉ (display.aliased (stripArity name)).toList :=
  not_mem_aliased (not_mem_stripArity (hnames name (by simp [TypeRef.names])))

/-- A named type other than the wrapper over one argument ends with a mark exactly when it is
marked nullable. -/
theorem named_marks {name : String} {arguments : List TypeRef} {nullable : Bool} {s : String}
    (hplain : ¬(stripArity name = nullableWrapper ∧ arguments.length = 1))
    (h : NoDoubleMark s.toList) (hlast : s.toList.getLast? ≠ some '?') :
    NoDoubleMark (display.mark nullable s).toList ∧
      ((display.mark nullable s).toList.getLast? = some '?' ↔
        (TypeRef.named name arguments nullable).NullableShape) :=
  ⟨(mark_marks nullable h hlast).1, (mark_marks nullable h hlast).2.trans (or_iff_left hplain).symm⟩

/-- The two laws of the nullable mark, by induction along `display`: the text has no double
mark, and a type's text ends with a mark exactly when the type has a nullable shape. -/
theorem display_marks :
    (∀ t : TypeRef, (∀ s ∈ t.names, '?' ∉ s.toList) →
      NoDoubleMark (display t).toList ∧ ((display t).toList.getLast? = some '?' ↔ t.NullableShape)) ∧
    ∀ ts : List TypeRef, (∀ s ∈ TypeRef.listNames ts, '?' ∉ s.toList) →
      NoDoubleMark (displayList ts).toList := by
  refine display.mutual_induct _ _ ?array ?parameter ?wrapper ?single ?plain ?generic ?nil
    ?one ?cons
  case array =>
    intro element rank ih hnames
    have helement := (ih (by simpa [TypeRef.names] using hnames)).1
    have hclose : NoDoubleMark ('[' :: List.replicate (rank - 1) ',' ++ [']']) :=
      of_forall_ne fun c hc => by
        simp only [List.cons_append, List.mem_cons, List.mem_append, List.mem_replicate,
          List.not_mem_nil, or_false] at hc
        rcases hc with rfl | ⟨-, rfl⟩ | rfl <;> decide
    -- the element, then a bracketed run of commas
    have htext : (display (.array element rank)).toList =
        (display element).toList ++ ('[' :: List.replicate (rank - 1) ',' ++ [']']) := by
      simp [display]
    rw [htext]
    refine ⟨helement.append hclose (.inr (by simp)), ?_⟩
    rw [← List.append_assoc, List.getLast?_concat]
    simp [TypeRef.NullableShape]
  case parameter =>
    intro name hnames
    have hname : '?' ∉ name.toList := hnames name (by simp [TypeRef.names])
    refine ⟨of_forall_ne fun c hc h => hname (h ▸ hc), ?_⟩
    simp only [display, TypeRef.NullableShape, iff_false]
    exact fun hlast => hname (List.mem_of_getLast? hlast)
  case wrapper =>
    intro name nullable root single hroot ih hnames
    have hsingle := (ih fun s hs => hnames s (by simp [TypeRef.names, TypeRef.listNames, hs])).1
    rw [display.eq_3, if_pos hroot]
    exact ⟨(withNullableMark_marks hsingle).1, iff_of_true (withNullableMark_marks hsingle).2
      (.inr ⟨hroot, rfl⟩)⟩
  case single =>
    intro name nullable root single hroot ih hnames
    have hsingle := (ih fun s hs => hnames s (by simp [TypeRef.names, TypeRef.listNames, hs])).1
    obtain ⟨hbody, hlast⟩ := bracketed_marks (not_mem_root hnames) hsingle
    have hgeneric : stripArity name ≠ nullableWrapper := hroot
    rw [display.eq_3, if_neg hgeneric]
    exact named_marks (fun h => hgeneric h.1) hbody hlast
  case plain =>
    intro name nullable hnames
    have hroot := not_mem_root hnames
    rw [display.eq_4]
    exact named_marks (by simp) (of_forall_ne fun c hc h => hroot (h ▸ hc))
      fun h => hroot (List.mem_of_getLast? h)
  case generic =>
    intro name nullable a rest hrest ih hnames
    have hlist := ih fun s hs => hnames s (by simp [TypeRef.names, hs])
    obtain ⟨hbody, hlast⟩ := bracketed_marks (not_mem_root hnames) hlist
    rw [display.eq_5 _ _ _ _ hrest]
    -- two or more arguments: never the wrapper's shape
    exact named_marks (fun h => hrest (by simpa using h.2)) hbody hlast
  case nil =>
    intro _
    simp [displayList, NoDoubleMark]
  case one =>
    intro t ih hnames
    rw [displayList]
    exact (ih (by simpa [TypeRef.listNames] using hnames)).1
  case cons =>
    intro t rest hrest iht ihrest hnames
    have ht := (iht fun s hs => hnames s (by simp [TypeRef.listNames, hs])).1
    have hrest' := ihrest fun s hs => hnames s (by simp [TypeRef.listNames, hs])
    rw [displayList.eq_3 _ _ hrest]
    have htext : (display t ++ ", " ++ displayList rest).toList =
        (display t).toList ++ [',', ' '] ++ (displayList rest).toList := by
      simp
    have hcomma : NoDoubleMark ((display t).toList ++ [',', ' ']) :=
      ht.append (of_forall_ne (by simp)) (.inr (by simp))
    rw [htext]
    exact hcomma.append hrest' (.inl (by simp))

end CSharp

namespace Discovery

/-- A parameter of a method's URL writes the type of one of the method's parameters. -/
theorem exists_type_of_mem_methodParameters {c : Classifier} {meth : MethodDecl}
    {q : Descriptor.Parameter} (h : q ∈ methodParameters c meth) :
    ∃ p ∈ meth.parameters, q.type = CSharp.display p.type := by
  unfold methodParameters at h
  obtain ⟨p, hp, hq⟩ := List.mem_filterMap.mp h
  refine ⟨p, hp, ?_⟩
  dsimp only at hq
  by_cases hupload : CSharp.mentions c.config.controllers.fileUploadTypes p.type = true
  · rw [if_pos hupload] at hq
    cases hq
  · rw [if_neg hupload] at hq
    by_cases hbound : ((p.attributes.map c.kind).any (·.isServerBound)) = true
    · rw [if_pos hbound] at hq
      cases hq
    · rw [if_neg hbound, Option.some.injEq] at hq
      rw [← hq]

/-- A parameter of a bound page-model property writes the property's type. -/
theorem type_of_modelParameter {c : Classifier} {p : PropertyDecl} {q : Descriptor.Parameter}
    (h : modelParameter c p = some q) : q.type = CSharp.display p.type := by
  unfold modelParameter at h
  split at h
  · cases h
  · cases hfind : (p.attributes.map c.kind).find? bindsForGet with
    | none => simp [hfind] at h
    | some binding =>
      simp only [hfind, Option.bind_eq_bind, Option.bind_some, Option.pure_def,
        Option.some.injEq] at h
      rw [← h]

end Discovery

/-- As long as the names in a type reference carry no `?`, its C# text has no `??`, and it ends
with `?` exactly when the type is a named type marked nullable or the optional-value wrapper with
one argument. So a parameter built from a method parameter or from a bound page-model property
is nullable exactly when its declared type has that shape. -/
theorem display_nullable (t : TypeRef) (ht : ∀ s ∈ t.names, '?' ∉ s.toList) :
    ¬ ['?', '?'] <:+: (CSharp.display t).toList ∧
    ((CSharp.display t).endsWith "?" = true ↔ t.NullableShape) ∧
    (∀ (c : Classifier) (meth : MethodDecl) (q : Descriptor.Parameter),
      q ∈ Discovery.methodParameters c meth → ∃ p ∈ meth.parameters, q.type = CSharp.display p.type ∧
        ((∀ s ∈ p.type.names, '?' ∉ s.toList) → (q.isNullable = true ↔ p.type.NullableShape))) ∧
    ∀ (c : Classifier) (p : PropertyDecl) (q : Descriptor.Parameter),
      Discovery.modelParameter c p = some q → q.type = CSharp.display p.type ∧
        ((∀ s ∈ p.type.names, '?' ∉ s.toList) → (q.isNullable = true ↔ p.type.NullableShape)) := by
  -- the parameter's nullability is the end of its type's text
  have hends : ∀ u : TypeRef, (∀ s ∈ u.names, '?' ∉ s.toList) →
      ((CSharp.display u).endsWith "?" = true ↔ u.NullableShape) := by
    intro u hu
    rw [String.endsWith, String.Slice.endsWith_string_iff, String.copy_toSlice]
    exact List.singleton_suffix_iff_getLast?_eq_some.trans (CSharp.display_marks.1 u hu).2
  refine ⟨NoDoubleMark.iff_not_infix.mp (CSharp.display_marks.1 t ht).1, hends t ht, ?_, ?_⟩
  · intro c meth q hq
    obtain ⟨p, hp, htype⟩ := Discovery.exists_type_of_mem_methodParameters hq
    refine ⟨p, hp, htype, fun hpn => ?_⟩
    rw [Descriptor.Parameter.isNullable, htype]
    exact hends p.type hpn
  · intro c p q hq
    have htype := Discovery.type_of_modelParameter hq
    refine ⟨htype, fun hpn => ?_⟩
    rw [Descriptor.Parameter.isNullable, htype]
    exact hends p.type hpn

/-- The wrapper written with its arity mark, over `int`, is written `int?`: it ends with a mark. -/
theorem nullable_int_marked :
    (∀ s ∈ (TypeRef.generic "System.Nullable`1" [.plain "System.Int32"]).names, '?' ∉ s.toList) ∧
      ¬ ['?', '?'] <:+: (CSharp.display (TypeRef.generic "System.Nullable`1" [.plain "System.Int32"])).toList ∧
      (CSharp.display (TypeRef.generic "System.Nullable`1" [.plain "System.Int32"])).endsWith "?" = true :=
  have hnames : ∀ s ∈ (TypeRef.generic "System.Nullable`1" [.plain "System.Int32"]).names,
      '?' ∉ s.toList := by decide
  ⟨hnames, (display_nullable _ hnames).1, (display_nullable _ hnames).2.1.mpr (.inr ⟨by decide, rfl⟩)⟩

end TypedUrls
