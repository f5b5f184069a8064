import Mathlib
import TypedUrls.UrlHelpers.Pages
import TypedUrls.UrlHelpers.Endpoints
import TypedUrls.Proofs.PageTree
import TypedUrls.Discovery.Pages

/-!
# Member names of the emitted helpers

Every name the emitters declare is made from a descriptor's name by `sanitize`, maybe followed by
a fixed suffix (`Urls`, `FolderUrls`, `PageUrls`, `Folder`) or a number (`_1`, `_2`, …). So
each is nonempty, starts with no ASCII digit and holds identifier characters only
(`emittedNames_wellFormed`). `sanitize` does not escape reserved words; only parameter names go
through `parameterIdentifier`, which does. A page file `new.cshtml` thus gives a URL method named
`new` (`keyword_page_method`). Nor does it prefix a leading decimal digit of another script: only
an ASCII digit gets the `_`, so a page file `٣.cshtml` (U+0663) gives a method named `٣`.

Within the class of a page area or folder, the URL methods and the folder properties are told
apart: a name already taken gets the first free number (`uniqueNames`). Since different numbers
give different names and at most as many numbers are taken as names, the search always finds a
free one, so these members are pairwise distinct (`pageMemberNames_nodup`). The nested folder
classes are not numbered: sibling folders whose names differ only in characters that `sanitize`
replaces get two classes of one name (`sibling_folder_classes_clash`).
-/
namespace TypedUrls.CSharp

/-- A name of the emitted source that is well formed by its characters: nonempty, not starting
with an ASCII digit, and made of identifier characters. -/
def WellFormedName (s : String) : Prop :=
  ∃ c rest, s.toList = c :: rest ∧ c.isDigit = false ∧ ∀ d ∈ c :: rest, isIdentifierChar d = true

theorem wellFormedName_sanitize (raw : String) : WellFormedName (sanitize raw) :=
  sanitize_valid raw

/-- Identifier characters after a well-formed name keep it well formed. -/
theorem WellFormedName.append {s t : String} (hs : WellFormedName s)
    (ht : ∀ d ∈ t.toList, isIdentifierChar d = true) : WellFormedName (s ++ t) := by
  obtain ⟨c, rest, hcs, hc, hchars⟩ := hs
  refine ⟨c, rest ++ t.toList, by simp [hcs], hc, fun d hd => ?_⟩
  rw [← List.cons_append] at hd
  rcases List.mem_append.mp hd with hd | hd
  · exact hchars d hd
  · exact ht d hd

theorem isIdentifierChar_of_isDigit {c : Char} (h : c.isDigit = true) : isIdentifierChar c = true := by
  have halnum : c.isAlphanum = true := by simp [Char.isAlphanum, h]
  simp [isIdentifierChar, Text.isAlphanumeric_of_isAlphanum halnum]

/-- The suffix of a numbered name, `_` and the number, is made of identifier characters. -/
theorem isIdentifierChar_numberSuffix (n : Nat) :
    ∀ d ∈ ("_" ++ toString n).toList, isIdentifierChar d = true := by
  intro d hd
  have hd' : d = '_' ∨ d ∈ Nat.toDigits 10 n := by
    simpa [Nat.toString_eq_ofList_toDigits] using hd
  rcases hd' with rfl | hd'
  · exact isIdentifierChar_underscore
  · exact isIdentifierChar_of_isDigit (Nat.isDigit_of_mem_toDigits (by decide) (by decide) hd')

/-- The characters of a sanitised name, or of none. -/
theorem isIdentifierChar_sanitize_getD (raw : Option String) :
    ∀ d ∈ ((raw.map sanitize).getD "").toList, isIdentifierChar d = true := by
  cases raw with
  | none => simp
  | some raw =>
    obtain ⟨c, rest, hcs, -, hchars⟩ := sanitize_valid raw
    simpa [hcs] using hchars

/-- The fixed suffixes of emitted names are made of identifier characters. -/
theorem isIdentifierChar_suffix :
    ∀ suffix ∈ ["Urls", "FolderUrls", "PageUrls", "ControllerUrls", "Folder"],
      ∀ d ∈ suffix.toList, isIdentifierChar d = true := by
  simp [isIdentifierChar, Text.isAlphanumeric]

/-- A sanitised name with a fixed suffix is well formed. -/
theorem wellFormedName_sanitize_append {suffix : String}
    (h : suffix ∈ ["Urls", "FolderUrls", "PageUrls", "ControllerUrls", "Folder"]) (raw : String) :
    WellFormedName (sanitize raw ++ suffix) :=
  (wellFormedName_sanitize raw).append (isIdentifierChar_suffix suffix h)

/-- A fixed class name (`PageUrls`, `ControllerUrls`) is well formed. -/
theorem wellFormedName_of_suffix {suffix : String}
    (h : suffix ∈ ["PageUrls", "ControllerUrls"]) : WellFormedName suffix := by
  simp only [List.mem_cons, List.not_mem_nil, or_false] at h
  rcases h with rfl | rfl
  · exact ⟨'P', "ageUrls".toList, by simp, by decide,
      isIdentifierChar_suffix "PageUrls" (by simp)⟩
  · exact ⟨'C', "ontrollerUrls".toList, by simp, by decide,
      isIdentifierChar_suffix "ControllerUrls" (by simp)⟩

/-- An area class is named by its suffix alone for the root area, and by the sanitised area name
with the suffix otherwise; either way it is well formed. -/
theorem wellFormedName_areaClass {suffix : String}
    (h : suffix ∈ ["PageUrls", "ControllerUrls"]) (root : Prop) [Decidable root] (name : String) :
    WellFormedName (if root then suffix else sanitize name ++ suffix) := by
  split
  · exact wellFormedName_of_suffix h
  · have hsuffix : suffix ∈ ["Urls", "FolderUrls", "PageUrls", "ControllerUrls", "Folder"] := by
      simp only [List.mem_cons, List.not_mem_nil, or_false] at h ⊢
      tauto
    exact wellFormedName_sanitize_append hsuffix name

/-- The characters of a well-formed name are identifier characters. -/
theorem WellFormedName.chars {s : String} (hs : WellFormedName s) :
    ∀ d ∈ s.toList, isIdentifierChar d = true := by
  obtain ⟨c, rest, hcs, -, hchars⟩ := hs
  rw [hcs]
  exact hchars

/-- An area accessor is the configured accessor for the root area, and the sanitised area name
before it otherwise; either way it is well formed when the configured accessor is. -/
theorem wellFormedName_areaAccessor {accessor : String} (h : WellFormedName accessor)
    (root : Prop) [Decidable root] (name : String) :
    WellFormedName (if root then accessor else sanitize name ++ accessor) := by
  split
  · exact h
  · exact (wellFormedName_sanitize name).append h.chars

end TypedUrls.CSharp

namespace TypedUrls.UrlHelpers

open CSharp Descriptor

/-! ## Numbered names -/

section Numbered
variable (taken : List String) (name : String)

/-- Different numbers give different numbered names. -/
theorem numbered_injective : Function.Injective fun n : Nat => name ++ "_" ++ toString n := by
  intro a b h
  have hdigits : Nat.toDigits 10 a = Nat.toDigits 10 b := by
    have h' := congrArg String.toList h
    simpa [String.toList_append, Nat.toString_eq_ofList_toDigits] using h'
  rw [← Nat.ofDigitChars_ten_toDigits (n := a), hdigits, Nat.ofDigitChars_ten_toDigits]

/-- The search for a free number finds one when one of the numbers it tries is free. -/
theorem freeNumbered_not_mem {fuel n : Nat}
    (h : ∃ i < fuel, name ++ "_" ++ toString (n + i) ∉ taken) :
    freeNumbered taken name fuel n ∉ taken := by
  induction fuel generalizing n with
  | zero =>
    obtain ⟨i, hi, -⟩ := h
    exact absurd hi (Nat.not_lt_zero i)
  | succ fuel ih =>
    rw [freeNumbered]
    split
    · next htaken =>
      -- `n` itself is taken, so the free number lies further on
      refine ih ?_
      obtain ⟨i, hi, hfree⟩ := h
      cases i with
      | zero => exact absurd (List.contains_iff_mem.mp htaken) (by simpa using hfree)
      | succ i => exact ⟨i, by omega, by rwa [Nat.add_right_comm, Nat.add_assoc]⟩
    · next hfree => simpa using hfree

/-- Of `name_1`, …, `name_k` with `k` one more than the number of names taken, one is free. -/
theorem exists_free_number :
    ∃ i < taken.length + 1, name ++ "_" ++ toString (1 + i) ∉ taken := by
  by_contra hall
  push Not at hall
  have hnodup : ((List.range (taken.length + 1)).map fun i => name ++ "_" ++ toString (1 + i)).Nodup :=
    (List.nodup_range).map fun a b hab => by
      have := numbered_injective name hab
      omega
  have hsub : ((List.range (taken.length + 1)).map fun i => name ++ "_" ++ toString (1 + i)) ⊆
      taken := by
    intro x hx
    obtain ⟨i, hi, rfl⟩ := List.mem_map.mp hx
    exact hall i (List.mem_range.mp hi)
  have hlen := hnodup.length_le_of_subset hsub
  simp at hlen

/-- A name made unique is not taken yet. -/
theorem uniqueName_fst_not_mem : (uniqueName taken name).1 ∉ taken := by
  unfold uniqueName
  split
  · exact freeNumbered_not_mem taken name (exists_free_number taken name)
  · next hfree => simpa using hfree

/-- The names made unique are pairwise distinct and none of them was taken before; the names
taken afterwards are these, last first, then those taken before. -/
theorem uniqueNames_spec (names : List String) :
    (uniqueNames taken names).1.Nodup ∧ (∀ x ∈ (uniqueNames taken names).1, x ∉ taken) ∧
      (uniqueNames taken names).2 = (uniqueNames taken names).1.reverse ++ taken := by
  induction names generalizing taken with
  | nil => simp [uniqueNames]
  | cons n rest ih =>
    obtain ⟨hnodup, hfresh, htaken⟩ := ih (uniqueName taken n).2
    have hchosen := uniqueName_fst_not_mem taken n
    have hsnd : (uniqueName taken n).2 = (uniqueName taken n).1 :: taken := rfl
    simp only [uniqueNames]
    refine ⟨List.nodup_cons.mpr ⟨fun hmem => ?_, hnodup⟩, fun x hx => ?_, ?_⟩
    · exact hfresh _ hmem (by rw [hsnd]; exact List.mem_cons_self)
    · rcases List.mem_cons.mp hx with rfl | hx
      · exact hchosen
      · exact fun hxt => hfresh x hx (by rw [hsnd]; exact List.mem_cons_of_mem _ hxt)
    · rw [htaken, hsnd]
      simp

/-- The search for a free number answers a numbered form of the name. -/
theorem freeNumbered_eq (fuel n : Nat) :
    ∃ k : Nat, freeNumbered taken name fuel n = name ++ "_" ++ toString k := by
  induction fuel generalizing n with
  | zero => exact ⟨n, rfl⟩
  | succ fuel ih =>
    rw [freeNumbered]
    split
    · exact ih (n + 1)
    · exact ⟨n, rfl⟩

/-- Every name made unique is one of the names asked for, or a numbered form of it. -/
theorem mem_uniqueNames {names : List String} {x : String} (hx : x ∈ (uniqueNames taken names).1) :
    ∃ n ∈ names, x = n ∨ ∃ k : Nat, x = n ++ "_" ++ toString k := by
  induction names generalizing taken with
  | nil => simp [uniqueNames] at hx
  | cons n rest ih =>
    simp only [uniqueNames] at hx
    rcases List.mem_cons.mp hx with rfl | hx
    · refine ⟨n, List.mem_cons_self, ?_⟩
      unfold uniqueName
      split
      · exact .inr (freeNumbered_eq taken n _ _)
      · exact .inl rfl
    · obtain ⟨m, hm, hxm⟩ := ih (uniqueName taken n).2 hx
      exact ⟨m, List.mem_cons_of_mem n hm, hxm⟩

/-- Names made unique from well-formed names are well formed. -/
theorem wellFormedName_of_mem_uniqueNames {names : List String}
    (h : ∀ n ∈ names, WellFormedName n) :
    ∀ x ∈ (uniqueNames taken names).1, WellFormedName x := by
  intro x hx
  obtain ⟨n, hn, hxn | ⟨k, hxk⟩⟩ := mem_uniqueNames taken hx
  · rw [hxn]
    exact h n hn
  · rw [hxk, String.append_assoc]
    exact (h n hn).append (isIdentifierChar_numberSuffix k)

/-- Names made unique from names that a naming function gives, each well formed, are well
formed. -/
theorem wellFormedName_of_mem_uniqueNames_map {α : Type} {xs : List α} {f : α → String}
    (hf : ∀ a, WellFormedName (f a)) : ∀ x ∈ (uniqueNames taken (xs.map f)).1, WellFormedName x := by
  refine wellFormedName_of_mem_uniqueNames taken fun m hm => ?_
  obtain ⟨a, -, rfl⟩ := List.mem_map.mp hm
  exact hf a

end Numbered

/-! ## The members of a page class -/

/-- The names of the URL methods of a page class, one per page, in order. -/
def pageMethodNames (pages : List Page) : List String :=
  (uniqueNames [] (pages.map pageMethodName)).1

/-- The name a folder's property asks for: the folder's name, with `Folder` after it when a URL
method has that name. -/
def folderProperty (methods : List String) (f : Folder) : String :=
  let property := sanitize f.name
  if methods.contains property then property ++ "Folder" else property

/-- The names of the folder properties of a page class, one per folder, in order. -/
def folderPropertyNames (folders : List Folder) (pages : List Page) : List String :=
  (uniqueNames (uniqueNames [] (pages.map pageMethodName)).2
    (folders.map (folderProperty (pageMethodNames pages)))).1

/-- The names of the nested folder classes, one per folder, in order. -/
def folderClassNames (folders : List Folder) : List String :=
  folders.map fun f => sanitize f.name ++ "FolderUrls"

/-- The members a page class writes: a property per folder, of the folder's class, then a URL
method per page, then the nested folder classes. -/
theorem writeMembers_eq (area : String) (options : EmitterOptions) (w : Writer)
    (folders : List Folder) (pages : List Page) :
    writeMembers area options w folders pages =
      writeFolders area options
        ((pages.zip (pageMethodNames pages)).foldl (fun w x =>
            writeUrlMethod w x.2 (options.pageMethod ++ "(" ++ stringLiteral x.1.name ++ ", " ++
              (x.1.handler.map stringLiteral).getD "null") area x.1.parameters options)
          (((folderPropertyNames folders pages).zip (folderClassNames folders)).foldl
            (fun w x => writeChildProperty w x.1 x.2) w))
        folders := by
  rw [writeMembers.eq_1]
  rfl

theorem wellFormedName_pageMethodName (p : Page) : WellFormedName (pageMethodName p) :=
  (wellFormedName_sanitize p.segment).append (isIdentifierChar_sanitize_getD p.handler)

theorem wellFormedName_folderProperty (methods : List String) (f : Folder) :
    WellFormedName (folderProperty methods f) := by
  by_cases h : methods.contains (sanitize f.name) = true
  · rw [folderProperty, if_pos h]
    exact wellFormedName_sanitize_append (by simp) f.name
  · rw [folderProperty, if_neg h]
    exact wellFormedName_sanitize f.name

/-- Every member name of a page class is well formed: the URL methods, the folder properties and
the nested folder classes. -/
theorem memberNames_wellFormed (folders : List Folder) (pages : List Page) :
    ∀ n ∈ pageMethodNames pages ++ folderPropertyNames folders pages ++ folderClassNames folders,
      WellFormedName n := by
  intro n hn
  simp only [List.mem_append] at hn
  rcases hn with (hn | hn) | hn
  · exact wellFormedName_of_mem_uniqueNames_map [] wellFormedName_pageMethodName n hn
  · exact wellFormedName_of_mem_uniqueNames_map _ (wellFormedName_folderProperty _) n hn
  · obtain ⟨f, -, rfl⟩ := List.mem_map.mp hn
    exact wellFormedName_sanitize_append (by simp) f.name

/-- Every name the emitters declare is well formed by its characters: the members of the class
of a page area or folder, the classes of areas, the accessors of areas when the configured root
accessors are well formed, the classes and properties of containers, and the URL methods of
endpoints. A parameter name is well formed as well, or it is a reserved word escaped with `@`;
the other names are not escaped. -/
theorem emittedNames_wellFormed (folders : List Folder) (pages : List Page) (pageArea : PageArea)
    (area : Area) (k : Container) (e : Endpoint) (name : String) (options : EmitterOptions) :
    (∀ n ∈ pageMethodNames pages ++ folderPropertyNames folders pages ++ folderClassNames folders,
      WellFormedName n) ∧
    WellFormedName (pageAreaClass pageArea) ∧
    WellFormedName (endpointAreaClass area) ∧
    (WellFormedName options.rootPagesAccessor →
      WellFormedName (pageAreaAccessor pageArea options)) ∧
    (WellFormedName options.rootControllersAccessor →
      WellFormedName (endpointAreaAccessor area options)) ∧
    WellFormedName (sanitize k.name) ∧ WellFormedName (sanitize k.name ++ "Urls") ∧
    WellFormedName (sanitize e.name) ∧
    ((isKeyword (parameterIdentifier name) = false ∧ WellFormedName (parameterIdentifier name)) ∨
      ∃ s, parameterIdentifier name = "@" ++ s ∧ isKeyword s = true ∧ WellFormedName s) := by
  refine ⟨memberNames_wellFormed folders pages, wellFormedName_areaClass (by simp) _ pageArea.name,
    wellFormedName_areaClass (by simp) _ area.name,
    fun h => wellFormedName_areaAccessor h _ pageArea.name,
    fun h => wellFormedName_areaAccessor h _ area.name, wellFormedName_sanitize _,
    wellFormedName_sanitize_append (by simp) _, wellFormedName_sanitize _, ?_⟩
  -- only a reserved word is escaped
  by_cases hkey : isKeyword (sanitize name) = true
  · exact .inr ⟨sanitize name, by simp [parameterIdentifier, hkey], hkey, wellFormedName_sanitize _⟩
  · have hid : parameterIdentifier name = sanitize name := by simp [parameterIdentifier, hkey]
    exact .inl ⟨by rw [hid]; simpa using hkey, by rw [hid]; exact wellFormedName_sanitize _⟩

/-- The template `Pages/new.cshtml` is the page `/new`, whose URL method is named `new`: a
reserved word, which the method's declaration writes as it is. -/
theorem keyword_page_method :
    ((Discovery.pages ⟨{}, {}⟩ [⟨"Pages/new.cshtml", "@page"⟩]).areas.map fun A =>
        (A.name, A.folders.length, A.pages.map (fun p => (p.name, p.segment)),
          pageMethodNames A.pages)) =
      [("", 0, [("/new", "new")], ["new"])] ∧
    isKeyword "new" = true ∧
    "public string? new()" ∈
      Text.lines (writeUrlMethod {} "new" ("Page(" ++ stringLiteral "/new" ++ ", null") "" [] {}).out := by
  refine ⟨?_, ?_, ?_⟩ <;> decide +kernel

/-- The URL methods and the folder properties of a page class have pairwise distinct names. -/
theorem pageMemberNames_nodup (folders : List Folder) (pages : List Page) :
    (pageMethodNames pages ++ folderPropertyNames folders pages).Nodup := by
  obtain ⟨hmethods, -, htaken⟩ := uniqueNames_spec [] (pages.map pageMethodName)
  obtain ⟨hproperties, hfresh, -⟩ :=
    uniqueNames_spec (uniqueNames [] (pages.map pageMethodName)).2
      (folders.map (folderProperty (pageMethodNames pages)))
  refine List.nodup_append.mpr ⟨hmethods, hproperties, fun x hx y hy hxy => ?_⟩
  subst hxy
  apply hfresh x hy
  rw [htaken, List.append_nil, List.mem_reverse]
  exact hx

/-- The sibling folders `a-b` and `a_b`, which the builder keeps apart, get folder classes of one
name. -/
theorem sibling_folder_classes_clash :
    (PageTree.replay [.add "" "/a-b/x" none [], .add "" "/a_b/y" none []]).build.map (fun A =>
        (A.folders.map (·.name), folderClassNames A.folders)) =
      [(["a-b", "a_b"], ["a_bFolderUrls", "a_bFolderUrls"])] := by
  decide +kernel

end TypedUrls.UrlHelpers
