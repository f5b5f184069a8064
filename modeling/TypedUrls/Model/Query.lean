import TypedUrls.Model.Basic

/-!
# Queries over a program model

A type may be declared in several fragments. The queries here see a type through all its
fragments in declaration order: its members are the members of every fragment, one after the
other; its base type is the first one any fragment names.

`Program.resolveByName` resolves a name as written in source: an exact full name first, else the
one type whose simple name it is; a simple name shared by two types resolves to nothing.
`Program.baseChain` walks base types from a type upwards while they stay inside the model.
-/

namespace TypedUrls

namespace Program

/-- Whether some fragment declares `fullName`: whether the index has an entry for it. -/
def contains (m : Program) (fullName : String) : Bool :=
  (m.index.lookup fullName).isSome

/-- The fragments of the type named `fullName`: the declarations at the positions the index
holds for it. -/
def fragments (m : Program) (fullName : String) : List TypeDecl :=
  ((m.index.lookup fullName).getD []).map (m.types[·]!)

/-- The first fragment of a type. -/
def resolve (m : Program) (fullName : String) : Option TypeDecl :=
  (m.fragments fullName).head?

/-- Inserts into a sorted list of names, dropping a name already there. -/
def insertName (n : String) : List String → List String
  | [] => [n]
  | x :: rest => if n < x then n :: x :: rest else if n = x then x :: rest else x :: insertName n rest

/-- A type named as in source: its full name, else the only type with that simple name. -/
def resolveByName (m : Program) (name : String) : Option TypeDecl :=
  match m.resolve name with
  | some t => some t
  | none =>
    let candidates := (m.types.filter (·.simpleName == name)).foldl
      (fun acc t => insertName t.fullName acc) []
    match candidates with
    | [single] => m.resolve single
    | _ => none

/-- The methods of a type over all its fragments. -/
def methodsOf (m : Program) (fullName : String) : List MethodDecl :=
  (m.fragments fullName).flatMap (·.methods)

/-- The properties of a type over all its fragments. -/
def propertiesOf (m : Program) (fullName : String) : List PropertyDecl :=
  (m.fragments fullName).flatMap (·.properties)

/-- The attributes of a type over all its fragments. -/
def attributesOf (m : Program) (fullName : String) : List Attribute :=
  (m.fragments fullName).flatMap (·.attributes)

/-- The interfaces of a type over all its fragments. -/
def interfacesOf (m : Program) (fullName : String) : List String :=
  (m.fragments fullName).flatMap (·.interfaces)

/-- The base type that the first fragment naming one names. -/
def baseTypeOf (m : Program) (fullName : String) : Option String :=
  (m.fragments fullName).findSome? (·.baseType)

/-- The chain from `name` upwards, at most `fuel` more types, none of them in `seen`. -/
def baseChainFrom (m : Program) : Nat → List String → String → List String
  | 0, _, _ => []
  | fuel + 1, seen, name =>
    if !m.contains name || seen.contains name then []
    else name :: match m.baseTypeOf name with
      | some base => baseChainFrom m fuel (name :: seen) base
      | none => []

/-- A type followed by each base type, most derived first. The chain stops at the first base
outside the model and before a type already in it. -/
def baseChain (m : Program) (fullName : String) : List String :=
  m.baseChainFrom (m.types.length + 1) [] fullName

/-! ## The index against a scan -/

theorem lookup_pushPosition (name k : String) (position : Nat) (index : List (String × List Nat)) :
    (pushPosition name position index).lookup k =
      if k = name then some ((index.lookup k).getD [] ++ [position]) else index.lookup k := by
  induction index with
  | nil => by_cases h : k = name <;> simp [pushPosition, Text.lookup_cons_pair, h]
  | cons entry rest ih =>
    obtain ⟨key, ps⟩ := entry
    rw [pushPosition]
    by_cases he : key = name
    · subst he
      by_cases h : k = key <;> simp [Text.lookup_cons_pair, h]
    · by_cases hk : k = key
      · simp [he, hk]
      · simp [Text.lookup_cons_pair, he, hk, ih]

/-- Recording the declarations from position `start` on, after an index `index`: a name keeps
the positions it had, followed by the positions of the declarations with that name. -/
theorem lookup_foldl_pushPosition (k : String) (types : List TypeDecl) (start : Nat)
    (index : List (String × List Nat)) :
    ((types.zipIdx start).foldl (fun index entry => pushPosition entry.1.fullName entry.2 index)
        index).lookup k =
      if (index.lookup k).isSome || types.any (·.fullName == k) then
        some ((index.lookup k).getD [] ++
          ((types.zipIdx start).filter (·.1.fullName == k)).map (·.2))
      else none := by
  induction types generalizing start index with
  | nil => cases h : index.lookup k <;> simp [h]
  | cons t ts ih =>
    rw [List.zipIdx_cons, List.foldl_cons, ih, lookup_pushPosition]
    by_cases h : k = t.fullName
    · subst h
      simp
    · have h' : (t.fullName == k) = false := beq_false_of_ne (Ne.symm h)
      rw [if_neg h, List.any_cons, List.filter_cons, h', Bool.false_or]
      rfl

/-- The index holds a name exactly when some declaration has it, and then the positions of the
declarations with that name, in order. -/
theorem lookup_indexTypes (types : List TypeDecl) (k : String) :
    (indexTypes types).lookup k =
      if types.any (·.fullName == k) then
        some ((types.zipIdx.filter (·.1.fullName == k)).map (·.2))
      else none := by
  rw [indexTypes, lookup_foldl_pushPosition]
  simp

/-- The declaration at a position of the declarations is the one paired with it. -/
theorem getElem!_of_mem_zipIdx {types : List TypeDecl} {entry : TypeDecl × Nat}
    (h : entry ∈ types.zipIdx) : types[entry.2]! = entry.1 := by
  obtain ⟨hlt, heq⟩ := List.mem_zipIdx' h
  rw [getElem!_pos types entry.2 hlt, heq]

/-- The declarations paired with the positions of a name are the declarations with the name. -/
theorem map_fst_filter_zipIdx (types : List TypeDecl) (n : String) :
    (types.zipIdx.filter (·.1.fullName == n)).map (·.1) = types.filter (·.fullName == n) := by
  have hcomp : (fun x : TypeDecl × Nat => x.1.fullName == n) = (·.fullName == n) ∘ Prod.fst := rfl
  rw [hcomp, ← List.filter_map, List.zipIdx_map_fst]

theorem contains_eq_any (m : Program) (n : String) :
    m.contains n = m.types.any (·.fullName == n) := by
  rw [contains, m.index_eq, lookup_indexTypes]
  split <;> simp_all

theorem contains_iff_exists {m : Program} {n : String} :
    m.contains n = true ↔ ∃ t ∈ m.types, t.fullName = n := by
  simp [contains_eq_any]

/-- The fragments read through the index are the declarations with the name, in order. -/
theorem fragments_eq_filter (m : Program) (n : String) :
    m.fragments n = m.types.filter (·.fullName == n) := by
  rw [fragments, m.index_eq, lookup_indexTypes]
  split
  · rw [Option.getD_some, List.map_map]
    -- every position read is the position of a declaration with the name
    calc (m.types.zipIdx.filter (·.1.fullName == n)).map ((m.types[·]!) ∘ (·.2))
        = (m.types.zipIdx.filter (·.1.fullName == n)).map (·.1) :=
          List.map_congr_left fun entry hentry =>
            getElem!_of_mem_zipIdx (List.mem_filter.mp hentry).1
      _ = m.types.filter (·.fullName == n) := map_fst_filter_zipIdx m.types n
  · next hnone =>
    rw [Option.getD_none, List.map_nil, eq_comm, List.filter_eq_nil_iff]
    simpa using hnone

theorem resolve_eq_find? (m : Program) (n : String) :
    m.resolve n = m.types.find? (·.fullName == n) := by
  rw [resolve, fragments_eq_filter, List.head?_filter]

theorem fullName_of_resolve {m : Program} {n : String} {t : TypeDecl} (h : m.resolve n = some t) :
    t.fullName = n := by
  rw [resolve_eq_find?] at h
  simpa using List.find?_some h

theorem mem_of_resolve {m : Program} {n : String} {t : TypeDecl} (h : m.resolve n = some t) :
    t ∈ m.types := by
  rw [resolve_eq_find?] at h
  exact List.mem_of_find?_eq_some h

theorem resolve_isSome (m : Program) (n : String) : (m.resolve n).isSome = m.contains n := by
  rw [resolve_eq_find?, contains_eq_any]
  induction m.types with
  | nil => rfl
  | cons t ts ih => by_cases h : t.fullName == n <;> simp_all

theorem fragments_ne_nil_iff (m : Program) (n : String) :
    m.fragments n ≠ [] ↔ m.contains n = true := by
  simp [fragments_eq_filter, contains_eq_any, List.filter_eq_nil_iff]

/-- The first fragment of a type is the first of its fragments. -/
theorem resolve_eq_head?_fragments (m : Program) (n : String) :
    m.resolve n = (m.fragments n).head? := rfl

end Program

end TypedUrls
