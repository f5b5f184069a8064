import Mathlib
import TypedUrls.Descriptor.Tree

/-!
# Grouping by key — first elements and get-or-create

The builders of descriptor trees group names by their lowercase form and keep, in each group,
the first one met. Two list operations carry this:

* `firstBy key xs` keeps, in order, the first element of each key; it is the standard
  library's `eraseDupsBy` for equal keys;
* `upsert` is a builder's get-or-create followed by a change (`Descriptor/Tree`).

The lemmas here say what both do when the list grows by one element at the end, and what
`upsert` does to a list whose keys are distinct: it changes exactly the element grouped under
the key, or adds the fresh one at the end, and that every element after it is an untouched one
of another key or the changed one (`mem_upsert_fst`). A fold that notes the keys it has seen
keeps what `firstBy` keeps (`foldl_eq_firstBy`). The tree modules build their run lemmas on
these.
-/

namespace TypedUrls.Descriptor

variable {α β : Type}

/-! ## First elements of each key -/

/-- The first element of each key, in the order of the list. -/
def firstBy [DecidableEq β] (key : α → β) (xs : List α) : List α :=
  xs.eraseDupsBy fun a b => decide (key a = key b)

section FirstBy
variable [DecidableEq β] (key : α → β)

@[simp] theorem firstBy_nil : firstBy key ([] : List α) = [] := rfl

theorem firstBy_cons (a : α) (as : List α) :
    firstBy key (a :: as) = a :: firstBy key (as.filter fun b => key b ≠ key a) := by
  simp [firstBy, List.eraseDupsBy_cons]

/-- Filtering by a property of keys commutes with keeping first elements. -/
theorem firstBy_filter (p : β → Bool) (xs : List α) :
    firstBy key (xs.filter fun x => p (key x)) = (firstBy key xs).filter fun x => p (key x) := by
  induction xs generalizing p with
  | nil => rfl
  | cons a as ih =>
    -- the filters met below are all of the form `fun x => q (key x)`
    have hne : firstBy key (as.filter fun b => key b ≠ key a) =
        (firstBy key as).filter fun b => key b ≠ key a := ih fun k => k ≠ key a
    by_cases hp : p (key a)
    · have hboth := ih fun k => k ≠ key a && p k
      simp only [List.filter_cons, hp, ↓reduceIte, firstBy_cons, List.filter_filter] at hboth ⊢
      rw [hboth, hne, List.filter_filter]
      congr 2
      funext x
      exact Bool.and_comm _ _
    · simp only [List.filter_cons, hp, Bool.false_eq_true, ↓reduceIte, firstBy_cons]
      rw [ih, hne, List.filter_filter]
      apply List.filter_congr
      intro x _
      by_cases hx : p (key x)
      · have hxa : key x ≠ key a := fun h => hp (h ▸ hx)
        simp [hx, hxa]
      · simp [hx]


/-- Of the elements of one key, `firstBy` keeps exactly the first. -/
theorem filter_firstBy_eq_find? (xs : List α) (k : β) :
    (firstBy key xs).filter (fun x => key x = k) = (xs.find? fun x => key x = k).toList := by
  rw [← firstBy_filter key (fun b => decide (b = k))]
  induction xs with
  | nil => rfl
  | cons a as ih =>
    by_cases ha : key a = k
    · -- `a` comes first, and every later element of its key is dropped
      have hrest : ((as.filter fun x => decide (key x = k)).filter fun b => key b ≠ k) = [] := by
        rw [List.filter_filter, List.filter_eq_nil_iff]
        intro b _
        simp
      simp only [List.filter_cons, ha, decide_true, ↓reduceIte, firstBy_cons, hrest,
        List.find?_cons_of_pos, firstBy_nil, Option.toList_some]
    · simp only [List.filter_cons, ha, decide_false, Bool.false_eq_true, ↓reduceIte, ih]
      rw [List.find?_cons_of_neg (by simpa using ha)]

/-- An element is kept by `firstBy` exactly when no element before it has its key. -/
theorem firstBy_append_singleton (xs : List α) (x : α) :
    firstBy key (xs ++ [x]) =
      if ∃ y ∈ xs, key y = key x then firstBy key xs else firstBy key xs ++ [x] := by
  induction xs with
  | nil => simp [firstBy_cons]
  | cons a as ih =>
    have hq := firstBy_filter key (fun k => k ≠ key a) (as ++ [x])
    rw [List.cons_append, firstBy_cons, hq, ih, firstBy_cons,
      firstBy_filter key (fun k => k ≠ key a) as]
    by_cases hxa : key x = key a
    · have hex : ∃ y ∈ a :: as, key y = key x := ⟨a, List.mem_cons_self, hxa.symm⟩
      simp only [hex, ↓reduceIte]
      split <;> simp [List.filter_append, hxa]
    · by_cases hin : ∃ y ∈ as, key y = key x
      · have hex : ∃ y ∈ a :: as, key y = key x := by
          obtain ⟨y, hy, hyx⟩ := hin
          exact ⟨y, List.mem_cons_of_mem a hy, hyx⟩
        simp [hin]
      · have hex : ¬ ∃ y ∈ a :: as, key y = key x := by
          rintro ⟨y, hy, hyx⟩
          rcases List.mem_cons.mp hy with rfl | hy
          · exact hxa hyx.symm
          · exact hin ⟨y, hy, hyx⟩
        simp [hin, List.filter_append, hxa, Ne.symm hxa]

/-- Every key of the list is the key of some element `firstBy` keeps. -/
theorem exists_mem_firstBy (xs : List α) (k : β) :
    (∃ y ∈ firstBy key xs, key y = k) ↔ ∃ y ∈ xs, key y = k := by
  induction xs with
  | nil => simp
  | cons a as ih =>
    have hq := firstBy_filter key (fun k' => k' ≠ key a) as
    rw [firstBy_cons, hq]
    by_cases hk : key a = k
    · -- `a` itself has the key, on both sides
      exact ⟨fun _ => ⟨a, List.mem_cons_self, hk⟩, fun _ => ⟨a, List.mem_cons_self, hk⟩⟩
    · constructor
      · rintro ⟨y, hy, hyk⟩
        rcases List.mem_cons.mp hy with rfl | hy
        · exact absurd hyk hk
        · obtain ⟨z, hz, hzk⟩ := ih.mp ⟨y, (List.mem_filter.mp hy).1, hyk⟩
          exact ⟨z, List.mem_cons_of_mem a hz, hzk⟩
      · rintro ⟨y, hy, hyk⟩
        rcases List.mem_cons.mp hy with rfl | hy
        · exact absurd hyk hk
        · obtain ⟨z, hz, hzk⟩ := ih.mpr ⟨y, hy, hyk⟩
          refine ⟨z, List.mem_cons_of_mem a (List.mem_filter.mpr ⟨hz, ?_⟩), hzk⟩
          simpa [hzk] using Ne.symm hk

/-- `firstBy` keeps at most one element of each key. -/
theorem pairwise_firstBy (xs : List α) : (firstBy key xs).Pairwise fun a b => key a ≠ key b := by
  induction xs with
  | nil => exact List.Pairwise.nil
  | cons a as ih =>
    have hq := firstBy_filter key (fun k => k ≠ key a) as
    rw [firstBy_cons, hq, List.pairwise_cons]
    refine ⟨fun b hb => ?_, ih.filter _⟩
    have hba : key b ≠ key a := of_decide_eq_true (List.mem_filter.mp hb).2
    exact hba.symm

/-- `firstBy` keeps elements of the list only. -/
theorem firstBy_sublist (xs : List α) : (firstBy key xs).Sublist xs := by
  induction xs with
  | nil => exact List.Sublist.slnil
  | cons a as ih =>
    have hq := firstBy_filter key (fun k => k ≠ key a) as
    rw [firstBy_cons, hq]
    exact (List.filter_sublist.trans ih).cons_cons a

/-- The keys of the elements `firstBy` keeps, last first, are the keys met so far. -/
theorem mem_reverse_map_firstBy (xs : List α) (k : β) :
    k ∈ ((firstBy key xs).map key).reverse ↔ ∃ y ∈ xs, key y = k := by
  rw [List.mem_reverse, List.mem_map, ← exists_mem_firstBy key xs k]

/-- A fold that keeps an element when its key is not among the keys seen so far, and then notes
its key, keeps what `firstBy` keeps: both lists come out last first. -/
theorem foldl_eq_firstBy [BEq β] [LawfulBEq β]
    {F : List β × List α → α → List β × List α}
    (hF : ∀ seen acc x,
      F (seen, acc) x = if seen.contains (key x) then (seen, acc) else (key x :: seen, x :: acc))
    (xs : List α) :
    xs.foldl F ([], []) = (((firstBy key xs).map key).reverse, (firstBy key xs).reverse) := by
  induction xs using List.reverseRecOn with
  | nil => rfl
  | append_singleton xs x ih =>
    rw [List.foldl_append, ih, List.foldl_cons, List.foldl_nil, hF, firstBy_append_singleton]
    by_cases hx : ∃ y ∈ xs, key y = key x
    · have hseen : (((firstBy key xs).map key).reverse).contains (key x) = true :=
        List.contains_iff_mem.mpr ((mem_reverse_map_firstBy key xs (key x)).mpr hx)
      rw [if_pos hseen, if_pos hx]
    · have hseen : ¬ (((firstBy key xs).map key).reverse).contains (key x) = true :=
        fun h => hx ((mem_reverse_map_firstBy key xs (key x)).mp (List.contains_iff_mem.mp h))
      rw [if_neg hseen, if_neg hx]
      simp

end FirstBy


/-! ## Get-or-create

`upsert` changes the first element grouped under `k`. Where the keys of the list are distinct,
as they are in every tree the builders make, that element is the only one with its key. -/

section Upsert
variable {γ : Type} (key : α → String) (k : String) (fresh : α) (f : α → α × β)

@[simp] theorem upsert_nil : upsert key k fresh f [] = ([(f fresh).1], (f fresh).2) := rfl

theorem upsert_cons (a : α) (as : List α) :
    upsert key k fresh f (a :: as) =
      if key a = k then ((f a).1 :: as, (f a).2)
      else (a :: (upsert key k fresh f as).1, (upsert key k fresh f as).2) := rfl

/-- With nothing grouped under `k`, the fresh element is changed and added at the end. -/
theorem upsert_of_forall_ne {xs : List α} (h : ∀ x ∈ xs, key x ≠ k) :
    upsert key k fresh f xs = (xs ++ [(f fresh).1], (f fresh).2) := by
  induction xs with
  | nil => rfl
  | cons a as ih =>
    have hrest : ∀ x ∈ as, key x ≠ k := fun x hx => h x (List.mem_cons_of_mem a hx)
    rw [upsert_cons, if_neg (h a List.mem_cons_self), ih hrest]
    rfl

/-- When the keys are distinct, the element grouped under `k` is the only one that changes. -/
theorem upsert_of_mem {xs : List α} (hd : xs.Pairwise fun a b => key a ≠ key b) {x : α}
    (hx : x ∈ xs) (hk : key x = k) :
    upsert key k fresh f xs = (xs.map fun y => if key y = k then (f y).1 else y, (f x).2) := by
  induction xs with
  | nil => cases hx
  | cons a as ih =>
    rw [List.pairwise_cons] at hd
    rw [upsert_cons]
    by_cases ha : key a = k
    · -- every later element has another key, so `a` is `x` and the rest stays
      have hrest : ∀ y ∈ as, key y ≠ k := fun y hy hyk => hd.1 y hy (ha.trans hyk.symm)
      have hxa : x = a := by
        rcases List.mem_cons.mp hx with rfl | hxs
        · rfl
        · exact absurd hk (hrest x hxs)
      subst hxa
      have hmap : (as.map fun y => if key y = k then (f y).1 else y) = as := by
        conv_rhs => rw [← List.map_id as]
        apply List.map_congr_left
        intro y hy
        simp [hrest y hy]
      rw [if_pos ha, List.map_cons, if_pos ha, hmap]
    · have hxs : x ∈ as := by
        rcases List.mem_cons.mp hx with rfl | hxs
        · exact absurd hk ha
        · exact hxs
      rw [if_neg ha, ih hd.2 hxs, List.map_cons, if_neg ha]

/-- `upsert` gives what `f` gives for the first element grouped under `k`, or for the fresh one. -/
theorem upsert_snd (xs : List α) :
    (upsert key k fresh f xs).2 = (f ((xs.find? fun x => key x = k).getD fresh)).2 := by
  induction xs with
  | nil => rfl
  | cons a as ih =>
    rw [upsert_cons, List.find?_cons]
    by_cases ha : key a = k
    · simp [ha]
    · simp [ha, ih]

/-- When `f` leaves the first element grouped under `k` as it is, so does `upsert`. -/
theorem upsert_fst_of_find? {xs : List α} {x : α} (hx : xs.find? (fun y => key y = k) = some x)
    (hf : (f x).1 = x) : (upsert key k fresh f xs).1 = xs := by
  induction xs with
  | nil => cases hx
  | cons a as ih =>
    rw [upsert_cons]
    rw [List.find?_cons] at hx
    by_cases ha : key a = k
    · simp only [ha, decide_true, Option.some.injEq] at hx
      subst hx
      simp [ha, hf]
    · simp only [ha, decide_false] at hx
      simp [ha, ih hx]

/-- When `f` keeps what `g` sees of an element, `upsert` keeps it of the list, adding the fresh
element's when nothing was grouped under `k`. -/
theorem map_upsert_fst (g : α → γ) (hf : ∀ a, g (f a).1 = g a) (xs : List α) :
    (upsert key k fresh f xs).1.map g =
      if ∃ x ∈ xs, key x = k then xs.map g else xs.map g ++ [g fresh] := by
  induction xs with
  | nil => simp [hf]
  | cons a as ih =>
    rw [upsert_cons]
    by_cases ha : key a = k
    · have hex : ∃ x ∈ a :: as, key x = k := ⟨a, List.mem_cons_self, ha⟩
      simp [ha, hf]
    · have hiff : (∃ x ∈ a :: as, key x = k) ↔ ∃ x ∈ as, key x = k := by
        simp [ha]
      simp only [ha, ↓reduceIte, List.map_cons, ih, hiff]
      split <;> rfl

/-- After `upsert`, the first element grouped under `k` is the changed one. -/
theorem find?_upsert_fst (hkey : ∀ a, key (f a).1 = key a) (hfresh : key fresh = k)
    (xs : List α) :
    (upsert key k fresh f xs).1.find? (fun y => key y = k) =
      some (f ((xs.find? fun y => key y = k).getD fresh)).1 := by
  induction xs with
  | nil => simp [hkey, hfresh]
  | cons a as ih =>
    rw [upsert_cons]
    by_cases ha : key a = k
    · simp [ha, hkey]
    · simp [ha, ih]

/-- Under distinct keys, an element after `upsert` is an untouched element of another key, or
the changed one: the element grouped under `k`, or the fresh one when there was none. -/
theorem mem_upsert_fst {xs : List α} (hd : xs.Pairwise fun a b => key a ≠ key b) {y : α}
    (hy : y ∈ (upsert key k fresh f xs).1) :
    (y ∈ xs ∧ key y ≠ k) ∨
      ∃ x, ((x ∈ xs ∧ key x = k) ∨ (x = fresh ∧ ∀ z ∈ xs, key z ≠ k)) ∧
        y = (f x).1 ∧ (upsert key k fresh f xs).2 = (f x).2 := by
  induction xs with
  | nil => exact .inr ⟨fresh, .inr ⟨rfl, by simp⟩, List.mem_singleton.mp hy, rfl⟩
  | cons a as ih =>
    rw [List.pairwise_cons] at hd
    rw [upsert_cons] at hy ⊢
    by_cases ha : key a = k
    · rw [if_pos ha] at hy ⊢
      rcases List.mem_cons.mp hy with rfl | hy
      · exact .inr ⟨a, .inl ⟨List.mem_cons_self, ha⟩, rfl, rfl⟩
      · -- the rest has other keys than `a`
        exact .inl ⟨List.mem_cons_of_mem a hy, fun hk => hd.1 y hy (ha.trans hk.symm)⟩
    · rw [if_neg ha] at hy ⊢
      rcases List.mem_cons.mp hy with rfl | hy
      · exact .inl ⟨List.mem_cons_self, ha⟩
      · rcases ih hd.2 hy with ⟨hmem, hk⟩ | ⟨x, hx, rfl, hsnd⟩
        · exact .inl ⟨List.mem_cons_of_mem a hmem, hk⟩
        · refine .inr ⟨x, ?_, rfl, hsnd⟩
          rcases hx with ⟨hx, hk⟩ | ⟨rfl, hnone⟩
          · exact .inl ⟨List.mem_cons_of_mem a hx, hk⟩
          · refine .inr ⟨rfl, fun z hz => ?_⟩
            rcases List.mem_cons.mp hz with rfl | hz
            · exact ha
            · exact hnone z hz

/-- When `f` keeps keys, `upsert` keeps them distinct. -/
theorem pairwise_upsert_fst (hkey : ∀ a, key (f a).1 = key a) (hfresh : key fresh = k)
    {xs : List α} (hd : xs.Pairwise fun a b => key a ≠ key b) :
    (upsert key k fresh f xs).1.Pairwise fun a b => key a ≠ key b := by
  induction xs with
  | nil => exact List.pairwise_singleton _ _
  | cons a as ih =>
    rw [List.pairwise_cons] at hd
    rw [upsert_cons]
    by_cases ha : key a = k
    · rw [if_pos ha, List.pairwise_cons, hkey]
      exact ⟨hd.1, hd.2⟩
    · rw [if_neg ha, List.pairwise_cons]
      refine ⟨fun y hy => ?_, ih hd.2⟩
      rcases mem_upsert_fst key k fresh f hd.2 hy with ⟨hy, _⟩ | ⟨x, hx, rfl, _⟩
      · exact hd.1 y hy
      · rw [hkey]
        rcases hx with ⟨_, hk⟩ | ⟨rfl, _⟩
        · rw [hk]; exact ha
        · rw [hfresh]; exact ha

/-- `upsert` changes only the element it hits: two changes that agree there agree on the list. -/
theorem upsert_fst_congr (g : α → α × γ) (xs : List α)
    (h : (f ((xs.find? fun y => key y = k).getD fresh)).1 =
      (g ((xs.find? fun y => key y = k).getD fresh)).1) :
    (upsert key k fresh f xs).1 = (upsert key k fresh g xs).1 := by
  induction xs with
  | nil => simpa using h
  | cons a as ih =>
    rw [upsert_cons, upsert_cons]
    by_cases ha : key a = k
    · simp only [List.find?_cons, ha, decide_true, Option.getD_some] at h
      simp [ha, h]
    · simp only [List.find?_cons, ha, decide_false] at h
      simp [ha, ih h]

end Upsert

/-! ## Views of first spellings

A builder's list is the list of views of the first spelling of each group: the view of a
spelling is the node the builder keeps for it. When a call names one more spelling, the builder
gets or creates the node of its group and changes it; the lemma below says this gives the views,
after the call, of the first spellings once the call is counted. -/

section GroupedViews
variable {α β : Type} (key : α → String) (v v' : String → α)
  (hv : ∀ s, key (v s) = groupKey s)
  (xs : List String) (new : String) (fresh : α) (f : α → α × β)
include hv

/-- The views of first spellings have distinct keys. -/
theorem pairwise_map_firstBy :
    ((firstBy groupKey xs).map v).Pairwise fun a b => key a ≠ key b := by
  rw [List.pairwise_map]
  refine (pairwise_firstBy groupKey xs).imp ?_
  intro a b hab
  rw [hv, hv]
  exact hab

/-- Get-or-create on the views of first spellings, when naming `new` changes the view of its
group by `f` and no other: the result is the new views of the first spellings once `new` is
named. What `f` gives is what it gives for some spelling of that group. -/
theorem upsert_map_firstBy (hframe : ∀ s, groupKey s ≠ groupKey new → v' s = v s)
    (hhit : ∀ s, groupKey s = groupKey new → (f (v s)).1 = v' s)
    (hfresh : (∀ s ∈ xs, groupKey s ≠ groupKey new) → fresh = v new) :
    ∃ s, groupKey s = groupKey new ∧
      upsert key (groupKey new) fresh f ((firstBy groupKey xs).map v) =
        ((firstBy groupKey (xs ++ [new])).map v', (f (v s)).2) := by
  rw [firstBy_append_singleton]
  by_cases hin : ∃ s ∈ xs, groupKey s = groupKey new
  · obtain ⟨s, hs, hsk⟩ := (exists_mem_firstBy groupKey xs _).mpr hin
    refine ⟨s, hsk, ?_⟩
    have hmem : v s ∈ (firstBy groupKey xs).map v := List.mem_map_of_mem hs
    have hkey : key (v s) = groupKey new := by rw [hv, hsk]
    rw [upsert_of_mem key (groupKey new) fresh f (pairwise_map_firstBy key v hv xs) hmem hkey,
      if_pos hin, List.map_map]
    congr 1
    apply List.map_congr_left
    intro t _
    by_cases ht : groupKey t = groupKey new
    · simp [hv, ht, hhit t ht]
    · simp [hv, ht, hframe t ht]
  · have hnone : ∀ s ∈ xs, groupKey s ≠ groupKey new := fun s hs hsk => hin ⟨s, hs, hsk⟩
    refine ⟨new, rfl, ?_⟩
    have hout : ∀ y ∈ (firstBy groupKey xs).map v, key y ≠ groupKey new := by
      intro y hy
      obtain ⟨t, ht, rfl⟩ := List.mem_map.mp hy
      rw [hv]
      exact hnone t ((firstBy_sublist groupKey xs).subset ht)
    have hsame : (firstBy groupKey xs).map v' = (firstBy groupKey xs).map v := by
      apply List.map_congr_left
      intro t ht
      exact hframe t (hnone t ((firstBy_sublist groupKey xs).subset ht))
    rw [upsert_of_forall_ne key (groupKey new) fresh f hout, if_neg hin, List.map_append, hsame,
      hfresh hnone, hhit new rfl]
    rfl

end GroupedViews

end TypedUrls.Descriptor
