import NativeBindings.Proofs.DerivedName
import NativeBindings.Proofs.NativeDeclaration
import NativeBindings.Proofs.SpellingGrammar

namespace NativeBindings

def Identifier.IsUsable (name : String) : Prop :=
  name ≠ "" ∧ (∀ c ∈ name.toList, c.isAlphanum = true) ∧
    (∀ c ∈ name.toList.head?, c.isDigit = false) ∧ name ∉ keywords

instance : DecidablePred Identifier.IsUsable := fun _ =>
  inferInstanceAs (Decidable (_ ∧ _ ∧ _ ∧ _))

open NativeType.Spelling

theorem Identifier.IsNative.isWordPart {native : String} (h : Identifier.IsNative native) :
    ∀ c ∈ native.toList, isWordPart c = true := by
  obtain ⟨first, tail, hname, hstart, htail⟩ := h
  rw [hname, List.forall_mem_cons]
  refine ⟨?_, List.all_eq_true.mp htail⟩
  rw [isWordPart_iff]
  exact .inl (isWordStart_iff.mp hstart)

namespace MethodName

open Unicode

section Stem

/-- What is left of a native name, if anything, when the receiver and an underscore are taken away, or
else, where this leaves nothing, everything up to the first underscore. -/
def Leaves (native : String) (receiver : Option String) (rest : String) : Prop :=
  rest ≠ "" ∧ ((∃ r ∈ receiver, native = r ++ "_" ++ rest) ∨
    (∀ r ∈ receiver, ∀ t, native = r ++ "_" ++ t → t = "") ∧
      ∃ front : String, '_' ∉ front.toList ∧ native = front ++ "_" ++ rest)

variable {native receiver rest : List Char}

theorem afterReceiver?_eq_some :
    afterReceiver? native receiver = some rest ↔ native = receiver ++ '_' :: rest ∧ rest ≠ [] := by
  rw [afterReceiver?]
  split
  case h_1 c tail hafter =>
    obtain rfl := List.isPrefixOf?_eq_some_iff_append_eq.mp hafter
    rw [List.append_cancel_left_eq, List.cons.injEq, Option.some.injEq]
    exact ⟨fun h => ⟨⟨rfl, h⟩, h ▸ List.cons_ne_nil c tail⟩, fun h => h.1.2⟩
  case h_2 hafter =>
    refine ⟨nofun, fun ⟨hnative, hne⟩ => ?_⟩
    obtain ⟨c, tail, rfl⟩ := List.exists_cons_of_ne_nil hne
    exact absurd (List.isPrefixOf?_eq_some_iff_append_eq.mpr hnative.symm) (hafter c tail)

theorem afterUnderscore?_eq_some :
    afterUnderscore? native = some rest ↔
      (∃ front, '_' ∉ front ∧ native = front ++ '_' :: rest) ∧ rest ≠ [] := by
  rw [afterUnderscore?]
  constructor
  · intro h
    split at h
    case h_1 d c tail hdrop =>
      have hd := List.head?_dropWhile_not (· ≠ '_') native
      rw [hdrop] at hd
      obtain rfl : d = '_' := by simpa using hd
      cases h
      refine ⟨⟨native.takeWhile (· ≠ '_'), fun hmem => ?_, ?_⟩, List.cons_ne_nil c tail⟩
      · simpa using List.mem_takeWhile_imp hmem
      · rw [← hdrop, List.takeWhile_append_dropWhile]
    case h_2 => cases h
  · rintro ⟨⟨front, hfront, rfl⟩, hne⟩
    have hkept : ∀ c ∈ front, decide (c ≠ '_') = true := by
      intro c hc
      exact decide_eq_true fun h => hfront (h ▸ hc)
    have hdrop : (front ++ '_' :: rest).dropWhile (· ≠ '_') = '_' :: rest := by
      rw [List.dropWhile_append_of_pos hkept]
      rfl
    obtain ⟨c, tail, rfl⟩ := List.exists_cons_of_ne_nil hne
    rw [hdrop]

end Stem

section Leaves

variable {native rest : String} {receiver : Option String}

theorem toList_join_underscore (a b : String) :
    (a ++ "_" ++ b).toList = a.toList ++ '_' :: b.toList := by
  simp

theorem eq_join_iff {a b : String} :
    native = a ++ "_" ++ b ↔ native.toList = a.toList ++ '_' :: b.toList := by
  rw [← String.toList_inj, toList_join_underscore]

theorem bind_afterReceiver?_eq_none (h : ∀ r ∈ receiver, ∀ t, native = r ++ "_" ++ t → t = "") :
    (receiver.map String.toList).bind (afterReceiver? native.toList) = none := by
  cases receiver with
  | none => rfl
  | some r =>
    rw [Option.map_some, Option.bind_some, Option.eq_none_iff_forall_not_mem]
    intro t ht
    obtain ⟨hnative, hne⟩ := afterReceiver?_eq_some.mp ht
    have hempty := h r rfl (String.ofList t) (eq_join_iff.mpr (by simpa using hnative))
    exact hne (by simpa using hempty)

theorem stem_of_leaves (h : Leaves native receiver rest) :
    stem native.toList (receiver.map String.toList) = rest.toList := by
  obtain ⟨hne, h⟩ := h
  have hne : rest.toList ≠ [] := by simpa using hne
  rw [stem]
  rcases h with ⟨r, hr, hnative⟩ | ⟨hnone, front, hfront, hnative⟩
  · obtain rfl : receiver = some r := hr
    rw [Option.map_some, Option.bind_some,
      afterReceiver?_eq_some.mpr ⟨eq_join_iff.mp hnative, hne⟩]
  · rw [bind_afterReceiver?_eq_none hnone,
      afterUnderscore?_eq_some.mpr ⟨⟨front.toList, hfront, eq_join_iff.mp hnative⟩, hne⟩]
    rfl

theorem stem_of_not_leaves (h : ∀ rest, ¬ Leaves native receiver rest) :
    stem native.toList (receiver.map String.toList) = native.toList ∧
      afterUnderscore? native.toList = none := by
  have hnone : ∀ r ∈ receiver, ∀ t, native = r ++ "_" ++ t → t = "" := by
    intro r hr t hnative
    by_contra hne
    exact h t ⟨hne, .inl ⟨r, hr, hnative⟩⟩
  have hunderscore : afterUnderscore? native.toList = none := by
    rw [Option.eq_none_iff_forall_not_mem]
    intro t ht
    obtain ⟨⟨front, hfront, hnative⟩, hne⟩ := afterUnderscore?_eq_some.mp ht
    refine h (String.ofList t) ⟨by simpa using hne, .inr ⟨hnone, String.ofList front, ?_, ?_⟩⟩
    · rwa [String.toList_ofList]
    · exact eq_join_iff.mpr (by simpa using hnative)
  refine ⟨?_, hunderscore⟩
  rw [stem, bind_afterReceiver?_eq_none hnone, hunderscore]
  rfl

end Leaves

section SevenBit

variable {s word : List Char} {c : Char}

def capital : List Char → List Char
  | [] => []
  | c :: s => c.toUpper :: s.map Char.toLower

theorem lowerTail_sevenBit (h : ∀ c ∈ s, c.toNat < 0x80) : lowerTail s = s.map Char.toLower := by
  induction s using lowerTail.induct with
  | case1 => rfl
  | case2 => exact absurd (h 'Σ' List.mem_cons_self) (by decide)
  | case3 c hc =>
    rw [lowerTail, if_neg hc, lowercase_of_lt (h c List.mem_cons_self)]
    rfl
  | case4 c d s ih =>
    obtain ⟨hc, hs⟩ := List.forall_mem_cons.mp h
    rw [lowerTail, lowercase_of_lt hc, ih hs]
    rfl

theorem capitalize_sevenBit (h : ∀ c ∈ word, c.toNat < 0x80) : capitalize word = capital word := by
  cases word with
  | nil => rfl
  | cons c word =>
    obtain ⟨hc, hword⟩ := List.forall_mem_cons.mp h
    rw [capitalize, uppercase_of_lt hc, lowerTail_sevenBit hword]
    rfl

theorem pascalCase_sevenBit (h : ∀ c ∈ s, c.toNat < 0x80) :
    pascalCase s = (words s).flatMap capital := by
  rw [pascalCase, List.flatMap_congr]
  intro word hword
  exact capitalize_sevenBit fun c hc => h c (mem_of_mem_words hword hc).1

theorem head?_flatMap_capital (ws : List (List Char)) :
    (ws.flatMap capital).head? = ws.flatten.head?.map Char.toUpper := by
  induction ws with
  | nil => rfl
  | cons word ws ih =>
    cases word with
    | nil => exact ih
    | cons c word => rfl

theorem mem_capital (h : c ∈ capital word) : ∃ d ∈ word, c = d.toUpper ∨ c = d.toLower := by
  cases word with
  | nil => cases h
  | cons d word =>
    rcases List.mem_cons.mp h with rfl | h
    · exact ⟨d, List.mem_cons_self, .inl rfl⟩
    · obtain ⟨e, he, rfl⟩ := List.mem_map.mp h
      exact ⟨e, List.mem_cons_of_mem d he, .inr rfl⟩

end SevenBit

section Identifier

variable {s : List Char} {c : Char}

theorem toNat_lt_of_isAlphanum (h : c.isAlphanum = true) : c.toNat < 0x80 := by
  delta Char.isAlphanum Char.isAlpha Char.isUpper Char.isLower Char.isDigit at h
  simp only [Bool.or_eq_true, Bool.and_eq_true, decide_eq_true_eq, ge_iff_le,
    UInt32.le_iff_toNat_le] at h
  have hz : 'z'.val.toNat = 122 := rfl
  have hZ : 'Z'.val.toNat = 90 := rfl
  have h9 : '9'.val.toNat = 57 := rfl
  change c.val.toNat < 128
  omega

theorem isWordPart_cases (h : isWordPart c = true) : c = '_' ∨ c ≠ '_' ∧ c.isAlphanum = true := by
  rw [isWordPart, Bool.or_eq_true, beq_iff_eq] at h
  by_cases hc : c = '_'
  · exact .inl hc
  · exact .inr ⟨hc, h.resolve_right hc⟩

theorem toNat_lt_of_isWordPart (h : isWordPart c = true) : c.toNat < 0x80 := by
  rcases isWordPart_cases h with rfl | ⟨-, h⟩
  · decide
  · exact toNat_lt_of_isAlphanum h

theorem isAlphanumeric_of_isWordPart (h : isWordPart c = true) :
    isAlphanumeric c = decide (c ≠ '_') := by
  rcases isWordPart_cases h with rfl | ⟨hne, h⟩
  · decide +kernel
  · rw [isAlphanumeric_of_isAlphanum h, decide_eq_true hne]

theorem flatten_words_of_isWordPart (h : ∀ c ∈ s, isWordPart c = true) :
    (words s).flatten = s.filter (· ≠ '_') := by
  rw [flatten_words]
  exact List.filter_congr fun c hc => isAlphanumeric_of_isWordPart (h c hc)

theorem isAlphanum_toUpper (h : c.isAlphanum = true) : c.toUpper.isAlphanum = true :=
  forall_sevenBit (P := fun c => c.isAlphanum = true → c.toUpper.isAlphanum = true)
    (by decide +kernel) (toNat_lt_of_isAlphanum h) h

theorem isAlphanum_toLower (h : c.isAlphanum = true) : c.toLower.isAlphanum = true :=
  forall_sevenBit (P := fun c => c.isAlphanum = true → c.toLower.isAlphanum = true)
    (by decide +kernel) (toNat_lt_of_isAlphanum h) h

theorem isAlphanum_of_mem_pascalCase (h : ∀ c ∈ s, isWordPart c = true) (hc : c ∈ pascalCase s) :
    c.isAlphanum = true := by
  rw [pascalCase_sevenBit fun d hd => toNat_lt_of_isWordPart (h d hd)] at hc
  obtain ⟨word, hword, hc⟩ := List.mem_flatMap.mp hc
  obtain ⟨d, hd, hcase⟩ := mem_capital hc
  obtain ⟨hmem, hkept⟩ := mem_of_mem_words hword hd
  have hd : d.isAlphanum = true := by
    rcases isWordPart_cases (h d hmem) with rfl | ⟨-, hd⟩
    · exact absurd hkept (by decide +kernel)
    · exact hd
  rcases hcase with rfl | rfl
  · exact isAlphanum_toUpper hd
  · exact isAlphanum_toLower hd

theorem head?_pascalCase (h : ∀ c ∈ s, isWordPart c = true) :
    (pascalCase s).head? = (s.find? (· ≠ '_')).map Char.toUpper := by
  rw [pascalCase_sevenBit fun c hc => toNat_lt_of_isWordPart (h c hc), head?_flatMap_capital,
    flatten_words_of_isWordPart h, List.head?_filter]

theorem isDigit_toUpper_iff (h : c.isAlphanum = true) :
    c.toUpper.isDigit = false ↔ c.isAlpha = true :=
  forall_sevenBit
    (P := fun c => c.isAlphanum = true → (c.toUpper.isDigit = false ↔ c.isAlpha = true))
    (by decide +kernel) (toNat_lt_of_isAlphanum h) h

theorem pascalCase_not_keyword (h : ∀ c ∈ s, isWordPart c = true) :
    String.ofList (pascalCase s) ∉ Identifier.keywords := by
  -- Keywords begin with a small letter, and the first letter is made a capital.
  have hsmall : ∀ keyword ∈ Identifier.keywords, keyword.toList.head?.any Char.isLower = true := by
    decide +kernel
  intro hmem
  have hlower := hsmall _ hmem
  rw [String.toList_ofList, head?_pascalCase h] at hlower
  cases hfind : s.find? (· ≠ '_') with
  | none =>
    rw [hfind] at hlower
    cases hlower
  | some d =>
    have hlt := toNat_lt_of_isWordPart (h d (List.mem_of_find?_eq_some hfind))
    have hcapital : d.toUpper.isLower = false :=
      forall_sevenBit (P := fun c => c.toUpper.isLower = false) (by decide +kernel) hlt
    rw [hfind, Option.map_some, Option.any_some, hcapital] at hlower
    cases hlower

theorem pascalCase_usable_iff (h : ∀ c ∈ s, isWordPart c = true) :
    Identifier.IsUsable (String.ofList (pascalCase s)) ↔
      ∃ c, s.find? (· ≠ '_') = some c ∧ c.isAlpha = true := by
  have hhead := head?_pascalCase h
  rw [Identifier.IsUsable, String.toList_ofList, hhead]
  cases hfind : s.find? (· ≠ '_') with
  | none =>
    rw [hfind, Option.map_none, List.head?_eq_none_iff] at hhead
    simp [hhead]
  | some d =>
    have hd : d.isAlphanum = true := by
      rcases isWordPart_cases (h d (List.mem_of_find?_eq_some hfind)) with rfl | ⟨-, hd⟩
      · exact absurd (List.find?_some hfind) (by decide)
      · exact hd
    have hne : String.ofList (pascalCase s) ≠ "" := by
      intro hempty
      rw [hfind, String.ofList_eq_empty_iff.mp hempty] at hhead
      cases hhead
    constructor
    · rintro ⟨-, -, hfirst, -⟩
      exact ⟨d, rfl, (isDigit_toUpper_iff hd).mp (hfirst _ rfl)⟩
    · rintro ⟨c, hc, hletter⟩
      cases hc
      refine ⟨hne, fun c => isAlphanum_of_mem_pascalCase h, fun c hc => ?_, pascalCase_not_keyword h⟩
      obtain rfl : d.toUpper = c := Option.some.inj hc
      exact (isDigit_toUpper_iff hd).mpr hletter

end Identifier

section Names

variable {native rest : String} {receiver : Option String}

theorem Leaves.mem (h : Leaves native receiver rest) {c : Char} (hc : c ∈ rest.toList) :
    c ∈ native.toList := by
  obtain ⟨-, ⟨r, -, hnative⟩ | ⟨-, front, -, hnative⟩⟩ := h
  · rw [eq_join_iff.mp hnative]
    exact List.mem_append_right _ (List.mem_cons_of_mem _ hc)
  · rw [eq_join_iff.mp hnative]
    exact List.mem_append_right _ (List.mem_cons_of_mem _ hc)

theorem find?_of_afterUnderscore?_eq_none (h : Identifier.IsNative native)
    (hletter : ∃ c ∈ native.toList, c.isAlpha = true) (hnone : afterUnderscore? native.toList = none) :
    ∃ c, native.toList.find? (· ≠ '_') = some c ∧ c.isAlpha = true := by
  obtain ⟨first, tail, hname, hstart, -⟩ := h
  rw [hname] at hletter hnone ⊢
  rw [isWordStart, Bool.or_eq_true, beq_iff_eq] at hstart
  rcases hstart with hstart | rfl
  · have hne : first ≠ '_' := by
      rintro rfl
      cases hstart
    exact ⟨first, List.find?_cons_of_pos (by simpa using hne), hstart⟩
  · exfalso
    have htail : tail = [] := by
      by_contra htail
      have hsome := afterUnderscore?_eq_some.mpr ⟨⟨[], List.not_mem_nil, rfl⟩, htail⟩
      rw [List.nil_append, hnone] at hsome
      cases hsome
    obtain ⟨c, hc, halpha⟩ := hletter
    rw [htail, List.mem_singleton] at hc
    subst hc
    cases halpha

theorem isWordPart_of_mem_stem (h : Identifier.IsNative native) :
    ∀ c ∈ stem native.toList (receiver.map String.toList), isWordPart c = true := by
  intro c hc
  by_cases hleaves : ∃ rest, Leaves native receiver rest
  · obtain ⟨rest, hrest⟩ := hleaves
    rw [stem_of_leaves hrest] at hc
    exact h.isWordPart c (hrest.mem hc)
  · rw [(stem_of_not_leaves (not_exists.mp hleaves)).1] at hc
    exact h.isWordPart c hc

theorem stem_letter_iff (h : Identifier.IsNative native)
    (hletter : ∃ c ∈ native.toList, c.isAlpha = true) :
    (∃ c, (stem native.toList (receiver.map String.toList)).find? (· ≠ '_') = some c ∧
        c.isAlpha = true) ↔
      ∀ rest, Leaves native receiver rest →
        ∃ c, rest.toList.find? (· ≠ '_') = some c ∧ c.isAlpha = true := by
  constructor
  · intro hfirst rest hrest
    rwa [stem_of_leaves hrest] at hfirst
  · intro hall
    by_cases hleaves : ∃ rest, Leaves native receiver rest
    · obtain ⟨rest, hrest⟩ := hleaves
      rw [stem_of_leaves hrest]
      exact hall rest hrest
    · obtain ⟨hstem, hnone⟩ := stem_of_not_leaves (not_exists.mp hleaves)
      rw [hstem]
      exact find?_of_afterUnderscore?_eq_none h hletter hnone

end Names

/-- The name derived from a native identifier with a letter is made of letters and digits and is no
keyword. It can be used unless what is left of the native name, without underscores at its start,
begins with a digit or is nothing. -/
theorem derive_usable_iff {native : String} (h : Identifier.IsNative native)
    (hletter : ∃ c ∈ native.toList, c.isAlpha = true) (receiver : Option String) :
    (∀ c ∈ (derive native receiver).toList, c.isAlphanum = true) ∧
    derive native receiver ∉ Identifier.keywords ∧
    (Identifier.IsUsable (derive native receiver) ↔
      ∀ rest, Leaves native receiver rest →
        ∃ c, rest.toList.find? (· ≠ '_') = some c ∧ c.isAlpha = true) := by
  have hstem : ∀ c ∈ stem native.toList (receiver.map String.toList), isWordPart c = true :=
    isWordPart_of_mem_stem h
  refine ⟨fun c hc => ?_, pascalCase_not_keyword hstem,
    (pascalCase_usable_iff hstem).trans (stem_letter_iff h hletter)⟩
  rw [derive, String.toList_ofList] at hc
  exact isAlphanum_of_mem_pascalCase hstem hc

theorem derive_usable_iff_track :
    Identifier.IsNative "sp__track2_is_3d" ∧ (∃ c ∈ "sp__track2_is_3d".toList, c.isAlpha = true) ∧
      derive "sp__track2_is_3d" (some "sp") = "Track2Is3d" ∧
      Identifier.IsUsable (derive "sp__track2_is_3d" (some "sp")) := by
  have hnative : Identifier.IsNative "sp__track2_is_3d" :=
    ⟨'s', "p__track2_is_3d".toList, by decide, by decide, by decide⟩
  have hletter : ∃ c ∈ "sp__track2_is_3d".toList, c.isAlpha = true := ⟨'s', by decide, by decide⟩
  refine ⟨hnative, hletter, by decide +kernel,
    (derive_usable_iff hnative hletter (some "sp")).2.2.mpr fun rest hrest => ⟨'t', ?_, by decide⟩⟩
  rw [← stem_of_leaves hrest]
  decide

theorem derive_unusable_bare :
    Identifier.IsNative "sp__" ∧ (∃ c ∈ "sp__".toList, c.isAlpha = true) ∧ derive "sp__" none = "" ∧
    ¬ Identifier.IsUsable (derive "sp__" none) ∧
    Identifier.IsNative "sp_2d" ∧ (∃ c ∈ "sp_2d".toList, c.isAlpha = true) ∧
    derive "sp_2d" none = "2d" ∧ ¬ Identifier.IsUsable (derive "sp_2d" none) := by
  have hbare : derive "sp__" none = "" := by decide +kernel
  have hdigit : derive "sp_2d" none = "2d" := by decide +kernel
  refine ⟨⟨'s', "p__".toList, by decide, by decide, by decide⟩, ⟨'s', by decide, by decide⟩, hbare, ?_,
    ⟨'s', "p_2d".toList, by decide, by decide, by decide⟩, ⟨'s', by decide, by decide⟩, hdigit, ?_⟩
  · rw [hbare]
    exact fun h => h.1 rfl
  · rw [hdigit]
    exact fun h => absurd (h.2.2.1 '2' rfl) (by decide)

end MethodName

end NativeBindings
