import NativeBindings.Proofs.SpellingGrammar

namespace NativeBindings.NativeType

namespace Spelling

structure Opening (s : List Char) where
  layout : Layout
  words : List Word
  rest : List Char
  text : s = layout.text ++ rest
  tokens : layout.tokens = words.map .word
  ends : Ends layout.pieces rest

variable {s rest : List Char}

theorem exists_opening (s : List Char) : Nonempty (Opening s) := by
  obtain ⟨lead, hlead, hs⟩ := exists_blanks s
  obtain ⟨run, pieces, htokens, -, hrun, hchain, hends⟩ := exists_run (skipBlanks s)
  refine ⟨⟨lead, pieces, hlead, hchain⟩, run, (words (skipBlanks s)).2, ?_, htokens,
    hends (stops_dropWhile _ _)⟩
  rw [Layout.text, List.append_assoc, ← hrun, ← hs]

theorem Opening.words_eq (o : Opening s) :
    Spelling.words (skipBlanks s) = (o.words.map Word.letters, o.rest) := by
  have hskip := o.layout.skipBlanks_text_append o.ends.stops_isBlank
  rw [← o.text] at hskip
  rw [hskip]
  exact words_append o.layout.separated o.tokens o.ends

theorem Opening.text_of_no_words (o : Opening s) (h : o.words = []) :
    o.layout.text = s.takeWhile isBlank := by
  have htokens := o.tokens
  rw [h] at htokens
  have hpieces : o.layout.pieces = [] := List.map_eq_nil_iff.mp htokens
  have htext : o.layout.text = o.layout.lead := by simp [Layout.text, hpieces, joined]
  have hblanks : ∀ c ∈ o.layout.lead, isBlank c = true := fun c hc =>
    isBlank_iff.mpr (o.layout.blank c hc)
  have htake := takeWhile_append_stops hblanks o.ends.stops_isBlank
  rw [← htext, ← o.text] at htake
  exact htake.symm

theorem skipQualifiers_stops (hs : Stops isBlank s) :
    Stops isBlank (skipQualifiers s) ∧
      ∀ l rest, word? (skipQualifiers s) = some (l, rest) → l ≠ qualifier := by
  fun_induction skipQualifiers s with
  | case1 s h =>
    refine ⟨hs, fun l rest hword => ?_⟩
    rw [h] at hword
    cases hword
  | case2 s rest h ih => exact ih (stops_dropWhile _ _)
  | case3 s l rest h hl =>
    refine ⟨hs, fun l' rest' hword => ?_⟩
    rw [h] at hword
    cases hword
    exact hl

theorem width_blanks {l : List Char} (hl : ∀ c ∈ l, IsBlank c) : Text.width l = l.length := by
  have hsize : ∀ c ∈ [' ', '\t', '\n', '\x0c', '\r'], c.utf8Size = 1 := by
    simp [Char.utf8Size]
  induction l with
  | nil => rfl
  | cons c l ih =>
    obtain ⟨hc, hl⟩ := List.forall_mem_cons.mp hl
    rw [Text.width, hsize c hc, ih hl, List.length_cons, Nat.add_comm]

theorem stars_stops (hs : Stops isBlank s) :
    Stops isBlank (stars s).2 ∧ Stops (· == '*') (stars s).2 ∧
      ((stars s).1 = 0 → (stars s).2 = s) ∧
      ((stars s).1 ≠ 0 → ∀ l rest, word? (stars s).2 = some (l, rest) → l ≠ qualifier) := by
  fun_induction stars s with
  | case1 s tail ih =>
    obtain ⟨hblank, hword⟩ := skipQualifiers_stops (stops_dropWhile isBlank s)
    obtain ⟨hblank', hstar, hzero, hmore⟩ := ih hblank
    refine ⟨hblank', hstar, fun h => (Nat.succ_ne_zero _ h).elim, fun _ => ?_⟩
    by_cases hcount : tail.1 = 0
    · have htail : tail.2 = skipQualifiers (skipBlanks s) := hzero hcount
      rw [htail]
      exact hword
    · exact hmore hcount
  | case2 s hstar =>
    refine ⟨hs, fun c hc => ?_, fun _ => rfl, fun h => (h rfl).elim⟩
    obtain ⟨s, rfl⟩ := List.head?_eq_some_iff.mp hc
    exact beq_false_of_ne fun hc => hstar s (hc ▸ rfl)

theorem star_mem_joined {counts : List Nat} {pieces : List Piece}
    (h : pieces.map Piece.token = Phrase.starTokens counts) (hne : counts ≠ []) :
    '*' ∈ joined pieces := by
  cases counts with
  | nil => exact absurd rfl hne
  | cons n counts =>
    obtain ⟨p, pieces, rfl, hp, -⟩ := List.map_eq_cons_iff.mp h
    rw [joined_token, hp]
    exact List.mem_cons_self

theorem read_error (o : Opening s) (h : read s = .error rest) :
    (∀ w ∈ o.words, w = .const) ∧ rest = o.rest ∨
      (∃ w ∈ o.words, w ≠ .const) ∧ rest = (stars o.rest).2 ∧ rest ≠ [] := by
  -- The words at the start decide whether a bad spelling stops behind them or where its stars end.
  simp only [read, o.words_eq, filter_letters] at h
  split at h
  case h_1 hbase =>
    refine .inl ⟨fun w hw => ?_, (Except.error.inj h).symm⟩
    have hfilter := List.map_eq_nil_iff.mp hbase
    simpa using List.filter_eq_nil_iff.mp hfilter w hw
  case h_2 hbase =>
    split at h
    case isTrue => cases h
    case isFalse hend =>
    cases h
    refine .inr ⟨?_, rfl, hend⟩
    by_contra hconst
    refine hbase ?_
    rw [List.map_eq_nil_iff, List.filter_eq_nil_iff]
    simpa using hconst

theorem Opening.read_before (o : Opening s) (hnamed : ∃ w ∈ o.words, w ≠ .const) :
    ∃ before t, s = before ++ (stars o.rest).2 ∧ read before = .ok t ∧
      ((stars o.rest).1 ≠ 0 → '*' ∈ before) := by
  obtain ⟨counts, pieces, htokens, hlength, hrest, hchain⟩ := exists_stars o.rest
  have hseparated : (o.layout.pieces ++ pieces).IsChain Separate := by
    refine List.isChain_append.mpr ⟨o.layout.separated, hchain, fun q _ r hr _ hword => ?_⟩
    exact absurd (starNext_of_tokens htokens r hr) hword
  let layout : Layout := ⟨o.layout.lead, o.layout.pieces ++ pieces, o.layout.blank, hseparated⟩
  let phrase : Phrase := ⟨o.words, counts, hnamed⟩
  have hlayout : layout.tokens = phrase.tokens := by
    rw [Layout.tokens, List.map_append, htokens, Phrase.tokens, ← o.tokens]
    rfl
  have htext : layout.text = o.layout.text ++ joined pieces := by
    rw [Layout.text, Layout.text, joined_append, List.append_assoc]
  refine ⟨layout.text, phrase.type, ?_, read_layout layout phrase hlayout, fun hcount => ?_⟩
  · rw [htext, List.append_assoc, ← hrest]
    exact o.text
  · rw [htext]
    refine List.mem_append_right _ (star_mem_joined htokens fun hnil => hcount ?_)
    rw [← hlength, hnil, List.length_nil]

theorem Opening.stops_after_stars (o : Opening s) {c : Char} (h : (stars o.rest).2 = c :: rest) :
    ¬ IsBlank c ∧ c ≠ '*' ∧ (IsLetter c → (stars o.rest).1 ≠ 0 ∧ ∃ (w : Word) (more : List Char),
      c :: rest = w.letters ++ more ∧ Stops isWordPart more ∧ w ≠ .const) := by
  obtain ⟨hblank, hstar, hzero, hword⟩ := stars_stops o.ends.stops_isBlank
  rw [h] at hblank hstar hzero hword
  refine ⟨?_, by simpa using hstar c rfl, fun hletter => ?_⟩
  · rw [← isBlank_iff, hblank c rfl]
    exact Bool.false_ne_true
  have hcount : (stars o.rest).1 ≠ 0 := by
    intro hcount
    obtain ⟨-, hnone, -⟩ := o.ends c (hzero hcount ▸ rfl)
    exact hnone hletter
  have hfirst : word? (c :: rest) = some (c :: rest.takeWhile isWordPart, rest.dropWhile isWordPart) :=
    if_pos (isWordStart_iff.mpr hletter)
  obtain ⟨w, hw, heq, hstops⟩ := exists_word hfirst
  refine ⟨hcount, w, _, hw ▸ heq, hstops, fun hconst => ?_⟩
  exact hword hcount _ _ hfirst (hw ▸ Word.letters_eq_qualifier.mpr hconst)

/-- No word reaches over the place between two texts. -/
def Divides (before rest : List Char) : Prop :=
  ∀ c ∈ before.getLast?, isWordPart c = true → Stops isWordPart rest

def Resumes (s rest : List Char) : Prop := ∃ before, s = before ++ rest ∧ Divides before rest

theorem resumes_refl (s : List Char) : Resumes s s := ⟨[], rfl, fun _ h => by cases h⟩

theorem Resumes.trans {middle : List Char} (h : Resumes s middle) (h' : Resumes middle rest) :
    Resumes s rest := by
  obtain ⟨front, rfl, hfront⟩ := h
  obtain ⟨back, rfl, hback⟩ := h'
  refine ⟨front ++ back, (List.append_assoc _ _ _).symm, fun c hc => ?_⟩
  cases back with
  | nil =>
    rw [List.append_nil] at hc
    exact hfront c hc
  | cons d back =>
    rw [List.getLast?_append_of_ne_nil _ (List.cons_ne_nil d back)] at hc
    exact hback c hc

theorem resumes_append (before : List Char) (h : ∀ c ∈ before, isWordPart c = false) :
    Resumes (before ++ rest) rest := by
  refine ⟨before, rfl, fun c hc hpart => ?_⟩
  rw [h c (List.mem_of_getLast? hc)] at hpart
  cases hpart

theorem resumes_skipBlanks (s : List Char) : Resumes s (skipBlanks s) := by
  obtain ⟨blanks, hblanks, hs⟩ := exists_blanks s
  have hparts : ∀ c ∈ blanks, isWordPart c = false := by
    intro c hc
    by_contra hpart
    exact not_isBlank_of_isWordPart (by simpa using hpart) (hblanks c hc)
  have h : Resumes (blanks ++ skipBlanks s) (skipBlanks s) := resumes_append blanks hparts
  rwa [← hs] at h

theorem resumes_of_word? {l : List Char} (h : word? s = some (l, rest)) :
    Resumes s (skipBlanks rest) := by
  obtain ⟨w, -, hs, hstops⟩ := exists_word h
  have hword : Resumes s rest := ⟨l, hs, fun _ _ _ => hstops⟩
  exact hword.trans (resumes_skipBlanks rest)

theorem resumes_words (s : List Char) : Resumes s (words s).2 := by
  fun_induction words s with
  | case1 s h => exact resumes_refl s
  | case2 s l rest h tail ih => exact (resumes_of_word? h).trans ih

theorem resumes_skipQualifiers (s : List Char) : Resumes s (skipQualifiers s) := by
  fun_induction skipQualifiers s with
  | case1 s h => exact resumes_refl s
  | case2 s rest h ih => exact (resumes_of_word? h).trans ih
  | case3 s l rest h hl => exact resumes_refl s

theorem resumes_stars (s : List Char) : Resumes s (stars s).2 := by
  fun_induction stars s with
  | case1 s tail ih =>
    have hstar : Resumes ('*' :: s) s := resumes_append ['*'] (List.forall_mem_singleton.mpr rfl)
    exact ((hstar.trans (resumes_skipBlanks s)).trans (resumes_skipQualifiers _)).trans ih
  | case2 s hstar => exact resumes_refl s

theorem resumes_of_read (h : read s = .error rest) : Resumes s rest := by
  have hwords := (resumes_skipBlanks s).trans (resumes_words _)
  simp only [read] at h
  split at h
  case h_1 =>
    cases h
    exact hwords
  case h_2 =>
    split at h
    case isTrue => cases h
    case isFalse =>
      cases h
      exact hwords.trans (resumes_stars _)

end Spelling

open Spelling

theorem ofSpelling_error {text : String} {e : SpellingError} (h : ofSpelling text = .error e) :
    ∃ rest, read text.toList = .error rest ∧ e.text = text ∧
      e.offset = Text.width text.toList - Text.width rest := by
  rw [ofSpelling] at h
  split at h
  case h_1 => cases h
  case h_2 rest hread =>
    cases h
    exact ⟨rest, hread, rfl, rfl⟩

/-- The offset of an error is that of a character or of the end of the text, and never inside of a
word. If a word at the start names a type, then the text before it is a spelling, and what follows is
no blank, no star, and a word only after a star, a whole word that is not `const`. Without words the
offset is that of the first character that is not blank, and after nothing but `const` that of what
follows the words. -/
theorem spelling_offset {text : String} {e : SpellingError} (h : ofSpelling text = .error e) :
    Nonempty (Opening text.toList) ∧
    ∃ before after : String, text = before ++ after ∧ e.offset = before.utf8ByteSize ∧
      Divides before.toList after.toList ∧
      ∀ o : Opening text.toList,
        ((∃ w ∈ o.words, w ≠ .const) →
          (∃ t, ofSpelling before = .ok t) ∧ e.offset < text.utf8ByteSize ∧
          ∃ c rest, after.toList = c :: rest ∧ ¬ IsBlank c ∧ c ≠ '*' ∧
            (IsLetter c → '*' ∈ before.toList ∧ ∃ (w : Word) (more : List Char),
              after.toList = w.letters ++ more ∧ Stops isWordPart more ∧ w ≠ .const)) ∧
        (o.words = [] → e.offset = (text.toList.takeWhile isBlank).length) ∧
        (o.words ≠ [] → (∀ w ∈ o.words, w = .const) → before.toList = o.layout.text) := by
  obtain ⟨rest, hread, -, hoffset⟩ := ofSpelling_error h
  obtain ⟨before, htext, hdivides⟩ := resumes_of_read hread
  have hwidth : e.offset = Text.width before := by
    rw [hoffset, htext, Text.width_append, Nat.add_sub_cancel]
  refine ⟨exists_opening _, String.ofList before, String.ofList rest, ?_, ?_, ?_, fun o => ?_⟩
  · rw [← String.ofList_append, ← htext, String.ofList_toList]
  · rw [hwidth, Text.width_eq_utf8ByteSize]
  · rwa [String.toList_ofList, String.toList_ofList]
  rw [String.toList_ofList, String.toList_ofList]
  rcases read_error o hread with ⟨hconst, hrest⟩ | ⟨hnamed, hrest, hne⟩
  · have hbefore : before = o.layout.text := by
      refine List.append_cancel_right (htext.symm.trans ?_)
      rw [hrest]
      exact o.text
    refine ⟨fun ⟨w, hw, hne⟩ => absurd (hconst w hw) hne, fun hnil => ?_, fun _ _ => hbefore⟩
    rw [hwidth, hbefore, o.text_of_no_words hnil]
    exact width_blanks fun c hc => isBlank_iff.mp (List.mem_takeWhile_imp hc)
  · obtain ⟨w, hw, hw'⟩ := hnamed
    obtain ⟨before', t, hs, hread', hstar⟩ := o.read_before ⟨w, hw, hw'⟩
    obtain rfl : before = before' := by
      refine List.append_cancel_right (htext.symm.trans ?_)
      rw [hrest]
      exact hs
    obtain ⟨c, after, rfl⟩ := List.exists_cons_of_ne_nil hne
    obtain ⟨hblank, hc, hletter⟩ := o.stops_after_stars hrest.symm
    refine ⟨fun _ => ⟨⟨t, ?_⟩, ?_, c, after, rfl, hblank, hc, fun h => ?_⟩, fun hnil => ?_,
      fun _ hconst => absurd (hconst w hw) hw'⟩
    · rw [ofSpelling_ok, String.toList_ofList]
      exact hread'
    · have htotal : text.utf8ByteSize = Text.width before + (c.utf8Size + Text.width after) := by
        rw [← Text.width, ← Text.width_append, ← htext, Text.width_eq_utf8ByteSize,
          String.ofList_toList]
      have hpos := c.utf8Size_pos
      omega
    · obtain ⟨hcount, hword⟩ := hletter h
      exact ⟨hstar hcount, hword⟩
    · rw [hnil] at hw
      cases hw

def lateWord : String := "const char *const const_é"

def lateOpening : Opening lateWord.toList where
  layout :=
    { textLayout with
      pieces := textLayout.pieces.take 2
      separated := textLayout.separated.take 2 }
  words := [.const, charWord]
  rest := "*const const_é".toList
  text := by decide
  tokens := by decide
  ends := by simp [Ends, textLayout, IsBlank, IsLetter, IsDigit]

theorem spelling_offset_lateWord :
    ofSpelling lateWord = .error ⟨lateWord, 18⟩ ∧ ∃ before after : String,
      lateWord = before ++ after ∧ 18 = before.utf8ByteSize ∧
        Divides before.toList after.toList ∧ (∃ t, ofSpelling before = .ok t) ∧
        18 < lateWord.utf8ByteSize := by
  have h : ofSpelling lateWord = .error ⟨lateWord, 18⟩ := by decide +kernel
  obtain ⟨-, before, after, htext, hoffset, hdivides, hstop⟩ := spelling_offset h
  obtain ⟨ht, hlt, -⟩ := (hstop lateOpening).1 ⟨charWord, by simp [lateOpening], by decide⟩
  exact ⟨h, before, after, htext, hoffset, hdivides, ht, hlt⟩

end NativeBindings.NativeType
