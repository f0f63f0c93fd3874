import NativeBindings.MethodName
import NativeBindings.Proofs.TextBlocks

namespace NativeBindings

namespace Unicode

theorem ofNat_ne_lineBreak {n : Nat} (h : 10 < n) : Char.ofNat n ≠ '\n' := by
  intro heq
  by_cases hvalid : n.isValidChar
  · have hchar : Char.ofNat n = Char.ofNatAux n hvalid := dif_pos hvalid
    have hval : n = 10 := congrArg Char.toNat (hchar.symm.trans heq)
    omega
  · have hzero : Char.ofNat n = _ := dif_neg hvalid
    cases hzero.symm.trans heq

theorem forall_sevenBit {P : Char → Prop} (h : ∀ n < 0x80, P (Char.ofNat n)) {c : Char}
    (hc : c.toNat < 0x80) : P c := by
  rw [← Char.ofNat_toNat c]
  exact h c.toNat hc

theorem mapCase_ne_lineBreak {long : List (Nat × List Nat)} {runs : List CaseRun} {c : Char}
    (hlong : ∀ e ∈ long, ∀ n ∈ e.2, 10 < n) (hruns : ∀ run ∈ runs, 10 < run.image) (hc : c ≠ '\n') :
    '\n' ∉ mapCase long runs c := by
  rw [mapCase]
  split
  case h_1 image himage =>
    obtain ⟨before, after, rfl, -⟩ := List.lookup_eq_some_iff.mp himage
    intro hmem
    obtain ⟨n, hn, heq⟩ := List.mem_map.mp hmem
    exact ofNat_ne_lineBreak (hlong (c.toNat, image) (by simp) n hn) heq
  case h_2 =>
  split
  case h_1 n hn =>
    obtain ⟨run, hrun, rfl⟩ := Option.map_eq_some_iff.mp hn
    have himage := hruns run (List.mem_of_find?_eq_some hrun)
    intro hmem
    exact ofNat_ne_lineBreak (by omega) (List.mem_singleton.mp hmem).symm
  case h_2 => simpa using hc.symm

theorem uppercase_ne_lineBreak {c : Char} (hc : c ≠ '\n') : '\n' ∉ uppercase c := by
  rw [uppercase]
  split
  case isTrue h =>
    have hne := forall_sevenBit (P := fun c => c ≠ '\n' → c.toUpper ≠ '\n') (by decide) h hc
    simpa using hne.symm
  case isFalse => exact mapCase_ne_lineBreak (by decide +kernel) (by decide +kernel) hc

theorem lowercase_ne_lineBreak {c : Char} (hc : c ≠ '\n') : '\n' ∉ lowercase c := by
  rw [lowercase]
  split
  case isTrue h =>
    have hne := forall_sevenBit (P := fun c => c ≠ '\n' → c.toLower ≠ '\n') (by decide) h hc
    simpa using hne.symm
  case isFalse => exact mapCase_ne_lineBreak (by decide +kernel) (by decide +kernel) hc

end Unicode

namespace MethodName

open Unicode

variable {s word : List Char} {c : Char}

theorem flatten_pieces (s : List Char) : (pieces s).flatten = s.filter isAlphanumeric := by
  induction s with
  | nil => rfl
  | cons c s ih =>
    rw [pieces]
    split
    case h_1 p rest hc hpieces =>
      rw [List.filter_cons_of_pos hc, ← ih, hpieces]
      rfl
    case h_2 hc hpieces =>
      rw [List.filter_cons_of_pos hc, ← ih, hpieces]
      rfl
    case h_3 hc =>
      rw [List.filter_cons_of_neg (by simpa using hc), ← ih]
      rfl

theorem flatten_cut (mode : Mode) (front : List Char) (hs : s ≠ []) :
    (cut mode front s).flatten = front ++ s := by
  induction mode, front, s using cut.induct with
  | case1 => exact absurd rfl hs
  | case2 mode front c => rw [cut, List.flatten_singleton]
  | case3 mode front c next s hend ih =>
    rw [cut, if_pos hend, List.flatten_cons, ih (List.cons_ne_nil _ _), List.append_assoc]
    rfl
  | case4 mode front c next s hend hrun ih =>
    rw [cut, if_neg hend, if_pos hrun, List.flatten_cons, ih (List.cons_ne_nil _ _)]
    rfl
  | case5 mode front c next s hend hrun ih =>
    rw [cut, if_neg hend, if_neg hrun, ih (List.cons_ne_nil _ _), List.append_assoc]
    rfl

theorem flatten_words (s : List Char) : (words s).flatten = s.filter isAlphanumeric := by
  have hcut : ∀ p, (cut .start [] p).flatten = p := by
    intro p
    cases p with
    | nil => rfl
    | cons c p => exact flatten_cut .start [] (List.cons_ne_nil c p)
  rw [words, ← flatten_pieces]
  induction pieces s with
  | nil => rfl
  | cons p rest ih => rw [List.flatMap_cons, List.flatten_append, hcut, ih, List.flatten_cons]

theorem mem_of_mem_words (hword : word ∈ words s) (hc : c ∈ word) :
    c ∈ s ∧ isAlphanumeric c = true := by
  have hflat : c ∈ (words s).flatten := List.mem_flatten.mpr ⟨word, hword, hc⟩
  rw [flatten_words] at hflat
  exact List.mem_filter.mp hflat

theorem mem_lowerTail (h : c ∈ lowerTail s) : c = 'ς' ∨ ∃ d ∈ s, c ∈ lowercase d := by
  induction s using lowerTail.induct with
  | case1 => cases h
  | case2 => exact .inl (List.mem_singleton.mp h)
  | case3 d hd =>
    rw [lowerTail, if_neg hd] at h
    exact .inr ⟨d, List.mem_singleton_self d, h⟩
  | case4 d next s ih =>
    rw [lowerTail] at h
    rcases List.mem_append.mp h with h | h
    · exact .inr ⟨d, List.mem_cons_self, h⟩
    · rcases ih h with h | ⟨e, he, h⟩
      · exact .inl h
      · exact .inr ⟨e, List.mem_cons_of_mem d he, h⟩

theorem mem_pascalCase (h : c ∈ pascalCase s) :
    c = 'ς' ∨ ∃ d, isAlphanumeric d = true ∧ (c ∈ uppercase d ∨ c ∈ lowercase d) := by
  obtain ⟨word, hword, h⟩ := List.mem_flatMap.mp h
  cases word with
  | nil => cases h
  | cons first rest =>
    rcases List.mem_append.mp h with h | h
    · exact .inr ⟨first, (mem_of_mem_words hword List.mem_cons_self).2, .inl h⟩
    · rcases mem_lowerTail h with h | ⟨d, hd, h⟩
      · exact .inl h
      · exact .inr ⟨d, (mem_of_mem_words hword (List.mem_cons_of_mem first hd)).2, .inr h⟩

theorem oneLine_derive (native : String) (receiver : Option String) :
    OneLine (derive native receiver) := by
  intro hmem
  rw [derive, String.toList_ofList] at hmem
  rcases mem_pascalCase hmem with h | ⟨d, hd, h⟩
  · cases h
  · have hd : d ≠ '\n' := by
      rintro rfl
      exact absurd hd (by decide +kernel)
    rcases h with h | h
    · exact uppercase_ne_lineBreak hd h
    · exact lowercase_ne_lineBreak hd h

end MethodName

end NativeBindings
