import Mathlib.Data.List.Chain
import Mathlib.Data.List.TakeWhile
import NativeBindings.NativeType.Spelling

namespace NativeBindings.NativeType

namespace Spelling

def IsLetter (c : Char) : Prop := 'a' ≤ c ∧ c ≤ 'z' ∨ 'A' ≤ c ∧ c ≤ 'Z' ∨ c = '_'

def IsDigit (c : Char) : Prop := '0' ≤ c ∧ c ≤ '9'

def IsBlank (c : Char) : Prop := c ∈ [' ', '\t', '\n', '\x0c', '\r']

structure Word where
  first : Char
  rest : List Char
  first_letter : IsLetter first
  rest_letters : ∀ c ∈ rest, IsLetter c ∨ IsDigit c
  deriving DecidableEq

def Word.letters (w : Word) : List Char := w.first :: w.rest

def spaced (ws : List Word) : String := " ".intercalate (ws.map fun w => String.ofList w.letters)

def Word.const : Word where
  first := 'c'
  rest := ['o', 'n', 's', 't']
  first_letter := by simp [IsLetter]
  rest_letters := by simp [IsLetter]

inductive Token where
  | word (w : Word)
  | star
  deriving DecidableEq

def Token.text : Token → List Char
  | word w => w.letters
  | star => ['*']

structure Piece where
  token : Token
  blanks : List Char := []
  blank : ∀ c ∈ blanks, IsBlank c := by simp

def Piece.text (p : Piece) : List Char := p.token.text ++ p.blanks

def joined (pieces : List Piece) : List Char := pieces.flatMap Piece.text

def Separate (p q : Piece) : Prop :=
  p.token ≠ .star → q.token ≠ .star → p.blanks ≠ []

structure Layout where
  lead : List Char
  pieces : List Piece
  blank : ∀ c ∈ lead, IsBlank c
  separated : pieces.IsChain Separate

def Layout.text (l : Layout) : List Char := l.lead ++ joined l.pieces

def Layout.tokens (l : Layout) : List Token := l.pieces.map Piece.token

def Layout.unqualified (l : Layout) : List Token := l.tokens.filter (· ≠ .word .const)

structure Phrase where
  words : List Word
  stars : List Nat
  named : ∃ w ∈ words, w ≠ .const

namespace Phrase

def starTokens (stars : List Nat) : List Token :=
  stars.flatMap fun n => .star :: List.replicate n (.word .const)

def tokens (p : Phrase) : List Token := p.words.map .word ++ starTokens p.stars

def base (p : Phrase) : List Word := p.words.filter (· ≠ .const)

def type (p : Phrase) : NativeType := pointers p.stars.length (.named (spaced p.base))

end Phrase

def Stops (p : Char → Bool) (s : List Char) : Prop := ∀ c ∈ s.head?, p c = false

variable {s rest l : List Char} {w : Word}

theorem isWordStart_iff {c : Char} : isWordStart c = true ↔ IsLetter c := by
  have hlower : c.isLower = true ↔ 'a' ≤ c ∧ c ≤ 'z' :=
    Bool.and_eq_true_iff.trans (and_congr decide_eq_true_iff decide_eq_true_iff)
  have hupper : c.isUpper = true ↔ 'A' ≤ c ∧ c ≤ 'Z' := decide_eq_true_iff
  have halpha : c.isAlpha = (c.isUpper || c.isLower) := rfl
  rw [isWordStart, halpha, Bool.or_eq_true, Bool.or_eq_true, hlower, hupper, beq_iff_eq,
    or_comm (a := 'A' ≤ c ∧ c ≤ 'Z'), or_assoc, IsLetter]

theorem isWordPart_iff {c : Char} : isWordPart c = true ↔ IsLetter c ∨ IsDigit c := by
  have hdigit : c.isDigit = true ↔ IsDigit c := by simp [Char.isDigit, Char.le_def, IsDigit]
  rw [← isWordStart_iff, ← hdigit, isWordPart, isWordStart, Char.isAlphanum, Bool.or_right_comm,
    Bool.or_eq_true]

theorem isBlank_iff {c : Char} : isBlank c = true ↔ IsBlank c := by
  grind [isBlank, IsBlank]

theorem takeWhile_append_stops {p : Char → Bool} (hl : ∀ c ∈ l, p c = true) (hrest : Stops p rest) :
    (l ++ rest).takeWhile p = l := by
  rw [List.takeWhile_append_of_pos hl]
  cases rest with
  | nil => simp
  | cons c rest => simp [hrest c rfl]

theorem dropWhile_append_stops {p : Char → Bool} (hl : ∀ c ∈ l, p c = true) (hrest : Stops p rest) :
    (l ++ rest).dropWhile p = rest := by
  rw [List.dropWhile_append_of_pos hl]
  cases rest with
  | nil => rfl
  | cons c rest => simp [hrest c rfl]

theorem stops_nil (p : Char → Bool) : Stops p [] := by
  intro c hc
  cases hc

theorem stops_dropWhile (p : Char → Bool) (s : List Char) : Stops p (s.dropWhile p) := by
  intro c hc
  have h := List.head?_dropWhile_not p s
  rw [hc] at h
  exact h

theorem skipBlanks_append (hl : ∀ c ∈ l, IsBlank c) (hrest : Stops isBlank rest) :
    skipBlanks (l ++ rest) = rest :=
  dropWhile_append_stops (fun c hc => isBlank_iff.mpr (hl c hc)) hrest

theorem exists_blanks (s : List Char) : ∃ l, (∀ c ∈ l, IsBlank c) ∧ s = l ++ skipBlanks s :=
  ⟨s.takeWhile isBlank, fun _ hc => isBlank_iff.mp (List.mem_takeWhile_imp hc),
    List.takeWhile_append_dropWhile.symm⟩

theorem word?_append (w : Word) (hrest : Stops isWordPart rest) :
    word? (w.letters ++ rest) = some (w.letters, rest) := by
  have hfirst := isWordStart_iff.mpr w.first_letter
  have hletters : ∀ c ∈ w.rest, isWordPart c = true := fun c hc =>
    isWordPart_iff.mpr (w.rest_letters c hc)
  rw [Word.letters, List.cons_append, word?, if_pos hfirst,
    takeWhile_append_stops hletters hrest, dropWhile_append_stops hletters hrest]

theorem exists_word (h : word? s = some (l, rest)) :
    ∃ w : Word, w.letters = l ∧ s = l ++ rest ∧ Stops isWordPart rest := by
  cases s with
  | nil => cases h
  | cons c s =>
    rw [word?] at h
    split at h
    case isFalse => cases h
    case isTrue hfirst =>
    cases h
    refine ⟨⟨c, s.takeWhile isWordPart, isWordStart_iff.mp hfirst, fun d hd => ?_⟩, rfl, ?_,
      stops_dropWhile _ _⟩
    · exact isWordPart_iff.mp (List.mem_takeWhile_imp hd)
    · rw [List.cons_append, List.takeWhile_append_dropWhile]

theorem word?_eq_none (h : Stops isWordStart s) : word? s = none := by
  cases s with
  | nil => rfl
  | cons c s => simp [word?, h c rfl]

theorem stops_of_word?_eq_none (h : word? s = none) : Stops isWordStart s := by
  intro c hc
  obtain ⟨s, rfl⟩ := List.head?_eq_some_iff.mp hc
  simpa [word?] using h

theorem Word.letters_eq_qualifier : w.letters = qualifier ↔ w = .const := by
  constructor
  · intro h
    cases w with
    | mk first rest hfirst hrest =>
      obtain ⟨rfl, rfl⟩ : first = 'c' ∧ rest = ['o', 'n', 's', 't'] := List.cons.inj h
      rfl
  · rintro rfl
    rfl

section Pieces

variable {p : Piece} {pieces more : List Piece}

theorem joined_cons : joined (p :: pieces) = p.text ++ joined pieces :=
  List.flatMap_cons

theorem joined_token : joined (p :: pieces) = p.token.text ++ (p.blanks ++ joined pieces) := by
  rw [joined_cons, Piece.text, List.append_assoc]

theorem joined_append : joined (pieces ++ more) = joined pieces ++ joined more :=
  List.flatMap_append

theorem not_isBlank_of_isWordPart {c : Char} (h : isWordPart c = true) : ¬ IsBlank c := by
  intro hblank
  rcases List.mem_cons.mp hblank with rfl | hblank
  · cases h
  · simp at hblank
    rcases hblank with rfl | rfl | rfl | rfl <;> cases h

theorem stops_token {q : Char → Bool} (token : Token) (hstar : q '*' = false)
    (hletter : ∀ c, isWordPart c = true → q c = false) : Stops q (token.text ++ s) := by
  intro c hc
  cases token with
  | star =>
    obtain rfl : '*' = c := by simpa [Token.text] using hc
    exact hstar
  | word w =>
    obtain rfl : w.first = c := by simpa [Token.text, Word.letters] using hc
    exact hletter _ (isWordPart_iff.mpr (.inl w.first_letter))

/-- What follows some pieces goes on with none of them: it begins with neither a blank nor a letter,
and with a digit only where no word stands right before it. -/
def Ends (pieces : List Piece) (rest : List Char) : Prop :=
  ∀ c ∈ rest.head?, ¬ IsBlank c ∧ ¬ IsLetter c ∧
    (IsDigit c → ∀ p ∈ pieces.getLast?, p.token = .star ∨ p.blanks ≠ [])

theorem ends_nil : Ends pieces [] := by
  intro c hc
  cases hc

theorem Ends.tail (h : Ends (p :: pieces) rest) : Ends pieces rest := by
  intro c hc
  obtain ⟨hblank, hletter, hdigit⟩ := h c hc
  refine ⟨hblank, hletter, fun hc q hq => hdigit hc q ?_⟩
  cases pieces with
  | nil => cases hq
  | cons q' pieces => rwa [List.getLast?_cons_cons]

theorem Ends.stops_isBlank (h : Ends pieces rest) : Stops isBlank rest := by
  intro c hc
  have hblank := (h c hc).1
  rw [← isBlank_iff] at hblank
  simpa using hblank

theorem Ends.stops_isWordStart (h : Ends pieces rest) : Stops isWordStart rest := by
  intro c hc
  have hletter := (h c hc).2.1
  rw [← isWordStart_iff] at hletter
  simpa using hletter

theorem stops_isBlank_joined (pieces : List Piece) (hrest : Stops isBlank rest) :
    Stops isBlank (joined pieces ++ rest) := by
  cases pieces with
  | nil => exact hrest
  | cons p pieces =>
    rw [joined_token, List.append_assoc]
    apply stops_token _ rfl
    intro c hc
    have h := not_isBlank_of_isWordPart hc
    rw [← isBlank_iff] at h
    simpa using h

theorem Layout.skipBlanks_text_append (l : Layout) (hrest : Stops isBlank rest) :
    skipBlanks (l.text ++ rest) = joined l.pieces ++ rest := by
  rw [Layout.text, List.append_assoc]
  exact skipBlanks_append l.blank (stops_isBlank_joined l.pieces hrest)

theorem Layout.skipBlanks_text (l : Layout) : skipBlanks l.text = joined l.pieces := by
  simpa using l.skipBlanks_text_append (stops_nil isBlank)

theorem skipBlanks_piece_append (p : Piece) (pieces : List Piece) (hrest : Stops isBlank rest) :
    skipBlanks (p.blanks ++ (joined pieces ++ rest)) = joined pieces ++ rest :=
  skipBlanks_append p.blank (stops_isBlank_joined pieces hrest)

theorem skipBlanks_piece (p : Piece) (pieces : List Piece) :
    skipBlanks (p.blanks ++ joined pieces) = joined pieces := by
  simpa using skipBlanks_piece_append p pieces (stops_nil isBlank)

theorem stops_after_word (hp : p.token = .word w) (h : (p :: pieces).IsChain Separate)
    (hends : Ends (p :: pieces) rest) : Stops isWordPart (p.blanks ++ (joined pieces ++ rest)) := by
  cases hblanks : p.blanks with
  | cons c blanks =>
    intro d hd
    obtain rfl : c = d := by simpa using hd
    have hc : IsBlank c := p.blank c (by simp [hblanks])
    by_contra hpart
    exact not_isBlank_of_isWordPart (by simpa using hpart) hc
  | nil =>
    cases pieces with
    | nil =>
      intro c hc
      obtain ⟨-, hletter, hdigit⟩ := hends c hc
      by_contra hpart
      rcases isWordPart_iff.mp (by simpa using hpart) with hc | hc
      · exact hletter hc
      · rcases hdigit hc p rfl with hstar | hne
        · simp [hp] at hstar
        · exact hne hblanks
    | cons q pieces =>
      have hseparate := (List.isChain_cons_cons.mp h).1
      have hq : q.token = .star := by
        by_contra hq
        exact hseparate (by simp [hp]) hq hblanks
      intro c hc
      obtain rfl : '*' = c := by simpa [joined_token, hq, Token.text] using hc
      rfl

theorem word?_piece_append (hp : p.token = .word w) (h : (p :: pieces).IsChain Separate)
    (hends : Ends (p :: pieces) rest) :
    word? (joined (p :: pieces) ++ rest) = some (w.letters, p.blanks ++ (joined pieces ++ rest)) := by
  rw [joined_token, hp, Token.text, List.append_assoc, List.append_assoc]
  exact word?_append w (stops_after_word hp h hends)

theorem word?_piece (hp : p.token = .word w) (h : (p :: pieces).IsChain Separate) :
    word? (joined (p :: pieces)) = some (w.letters, p.blanks ++ joined pieces) := by
  simpa using word?_piece_append hp h ends_nil

def StarNext (pieces : List Piece) : Prop := ∀ p ∈ pieces.head?, p.token = .star

theorem word?_star (h : StarNext pieces) : word? (joined pieces) = none := by
  apply word?_eq_none
  cases pieces with
  | nil => simp [joined, Stops]
  | cons p pieces =>
    intro c hc
    obtain rfl : '*' = c := by simpa [joined_token, h p rfl, Token.text] using hc
    rfl

theorem ends_joined (h : StarNext more) : Ends pieces (joined more) := by
  intro c hc
  cases more with
  | nil => cases hc
  | cons q more =>
    obtain rfl : '*' = c := by simpa [joined_token, h q rfl, Token.text] using hc
    refine ⟨by simp [IsBlank], by simp [IsLetter], fun hdigit => ?_⟩
    simp [IsDigit] at hdigit

theorem words_append {run : List Word} (h : pieces.IsChain Separate)
    (hrun : pieces.map Piece.token = run.map .word) (hends : Ends pieces rest) :
    words (joined pieces ++ rest) = (run.map Word.letters, rest) := by
  induction pieces generalizing run with
  | nil =>
    obtain rfl : run = [] := by simpa using hrun.symm
    rw [joined, List.flatMap_nil, List.nil_append, words, word?_eq_none hends.stops_isWordStart]
    rfl
  | cons p pieces ih =>
    obtain ⟨w, run, rfl, hw, hrun⟩ := List.map_eq_cons_iff.mp hrun.symm
    rw [words, word?_piece_append hw.symm h hends]
    simp only [skipBlanks_piece_append p pieces hends.stops_isBlank, ih h.tail hrun.symm hends.tail,
      List.map_cons]

theorem words_joined {run : List Word} (h : (pieces ++ more).IsChain Separate)
    (hrun : pieces.map Piece.token = run.map .word) (hmore : StarNext more) :
    words (joined (pieces ++ more)) = (run.map Word.letters, joined more) := by
  rw [joined_append]
  exact words_append (List.isChain_append.mp h).1 hrun (ends_joined hmore)

theorem skipQualifiers_joined {n : Nat} (h : (pieces ++ more).IsChain Separate)
    (hn : pieces.map Piece.token = List.replicate n (.word .const)) (hmore : StarNext more) :
    skipQualifiers (joined (pieces ++ more)) = joined more := by
  induction pieces generalizing n with
  | nil => rw [List.nil_append, skipQualifiers, word?_star hmore]
  | cons p pieces ih =>
    obtain ⟨n, rfl⟩ : ∃ m, n = m + 1 := Nat.exists_eq_add_one.mpr (by cases n <;> simp_all)
    rw [List.replicate_succ, List.map_cons, List.cons.injEq] at hn
    rw [List.cons_append] at h ⊢
    rw [skipQualifiers, word?_piece hn.1 h]
    simp only [Word.letters_eq_qualifier, if_true, skipBlanks_piece, ih h.tail hn.2]

theorem starNext_of_tokens {stars : List Nat}
    (h : pieces.map Piece.token = Phrase.starTokens stars) : StarNext pieces := by
  intro p hp
  cases stars with
  | nil =>
    obtain rfl : pieces = [] := by simpa [Phrase.starTokens] using h
    cases hp
  | cons n stars =>
    rw [Phrase.starTokens, List.flatMap_cons] at h
    obtain ⟨q, pieces, rfl, hq, -⟩ := List.map_eq_cons_iff.mp h
    obtain rfl : q = p := by simpa using hp
    exact hq

theorem stars_joined {stars : List Nat} (h : pieces.IsChain Separate)
    (hstars : pieces.map Piece.token = Phrase.starTokens stars) :
    Spelling.stars (joined pieces) = (stars.length, []) := by
  induction stars generalizing pieces with
  | nil =>
    obtain rfl : pieces = [] := by simpa [Phrase.starTokens] using hstars
    simp [joined, Spelling.stars]
  | cons n stars ih =>
    rw [Phrase.starTokens, List.flatMap_cons] at hstars
    obtain ⟨p, pieces, rfl, hp, hrest⟩ := List.map_eq_cons_iff.mp hstars
    obtain ⟨qualifiers, more, rfl, hqualifiers, hmore⟩ := List.map_eq_append_iff.mp hrest
    have hnext : StarNext more := starNext_of_tokens hmore
    have hchain := h.tail
    rw [joined_token, hp, Token.text, List.singleton_append, Spelling.stars, skipBlanks_piece,
      skipQualifiers_joined hchain hqualifiers hnext, ih (List.isChain_append.mp hchain).2.1 hmore]
    rfl

end Pieces

theorem spaced_toList (ws : List Word) :
    (spaced ws).toList = [' '].intercalate (ws.map Word.letters) := by
  rw [spaced, String.toList_intercalate, List.map_map]
  simp [Function.comp_def]

theorem ofList_intercalate (ws : List Word) :
    String.ofList ([' '].intercalate (ws.map Word.letters)) = spaced ws := by
  rw [← spaced_toList, String.ofList_toList]

theorem filter_letters (ws : List Word) :
    (ws.map Word.letters).filter (· ≠ qualifier) =
      (ws.filter (· ≠ .const)).map Word.letters := by
  rw [List.filter_map]
  congr 2
  funext w
  simp [Word.letters_eq_qualifier]

theorem Phrase.base_ne_nil (p : Phrase) : p.base ≠ [] := by
  obtain ⟨w, hw, hne⟩ := p.named
  exact List.ne_nil_of_mem (List.mem_filter.mpr ⟨hw, by simpa using hne⟩)

theorem read_layout (layout : Layout) (phrase : Phrase) (h : layout.tokens = phrase.tokens) :
    read layout.text = .ok phrase.type := by
  obtain ⟨run, rest, hpieces, hrun, hrest⟩ := List.map_eq_append_iff.mp h
  have hchain := layout.separated
  rw [hpieces] at hchain
  have hskip : skipBlanks layout.text = joined (run ++ rest) := by
    rw [layout.skipBlanks_text, hpieces]
  have hstars := stars_joined (List.isChain_append.mp hchain).2.1 hrest
  rw [read, hskip, words_joined hchain hrun (starNext_of_tokens hrest)]
  simp only [filter_letters, hstars, if_true]
  split
  case h_1 hnil => exact absurd (List.map_eq_nil_iff.mp hnil) phrase.base_ne_nil
  case h_2 => rw [ofList_intercalate, Phrase.type, Phrase.base]

theorem exists_piece (h : word? s = some (l, rest)) :
    ∃ (w : Word) (p : Piece), p.token = .word w ∧ w.letters = l ∧ s = p.text ++ skipBlanks rest ∧
      (p.blanks = [] → Stops isWordPart (skipBlanks rest)) := by
  obtain ⟨w, hw, hs, hstops⟩ := exists_word h
  obtain ⟨blanks, hblanks, hrest⟩ := exists_blanks rest
  refine ⟨w, ⟨.word w, blanks, hblanks⟩, rfl, hw, ?_, fun hnil => ?_⟩
  · rw [Piece.text, Token.text, hw, List.append_assoc, ← hrest, hs]
  · have hnil : blanks = [] := hnil
    rw [hnil, List.nil_append] at hrest
    rwa [← hrest]

theorem isChain_cons_of_stops {p : Piece} {pieces : List Piece} (h : pieces.IsChain Separate)
    (hstops : p.blanks = [] → Stops isWordPart (joined pieces ++ rest)) :
    (p :: pieces).IsChain Separate := by
  refine List.isChain_cons.mpr ⟨fun q hq _ hword hnil => ?_, h⟩
  obtain ⟨pieces, rfl⟩ : ∃ pieces', pieces = q :: pieces' := List.head?_eq_some_iff.mp hq
  cases htoken : q.token with
  | star => exact hword htoken
  | word v =>
    have hfirst : (joined (q :: pieces) ++ rest).head? = some v.first := by
      simp [joined_token, htoken, Token.text, Word.letters]
    have hpart := isWordPart_iff.mpr (.inl v.first_letter)
    rw [hstops hnil v.first hfirst] at hpart
    cases hpart

theorem Ends.cons {p : Piece} {pieces : List Piece} (h : Ends pieces rest)
    (hstops : p.blanks = [] → Stops isWordPart (joined pieces ++ rest)) :
    Ends (p :: pieces) rest := by
  intro c hc
  obtain ⟨hblank, hletter, hdigit⟩ := h c hc
  refine ⟨hblank, hletter, fun hd q hq => ?_⟩
  cases pieces with
  | cons q' pieces =>
    rw [List.getLast?_cons_cons] at hq
    exact hdigit hd q hq
  | nil =>
    obtain rfl : p = q := by simpa using hq
    refine .inr fun hnil => ?_
    have hpart := isWordPart_iff.mpr (.inr hd)
    rw [hstops hnil c hc] at hpart
    cases hpart

theorem exists_run (s : List Char) :
    ∃ (run : List Word) (pieces : List Piece), pieces.map Piece.token = run.map .word ∧
      run.map Word.letters = (words s).1 ∧ s = joined pieces ++ (words s).2 ∧
      pieces.IsChain Separate ∧ (Stops isBlank s → Ends pieces (words s).2) := by
  fun_induction words s with
  | case1 s h =>
    refine ⟨[], [], rfl, rfl, rfl, .nil, fun hs c hc => ⟨?_, ?_, fun _ p hp => ?_⟩⟩
    · have hblank := hs c hc
      rwa [← isBlank_iff, Bool.not_eq_true]
    · have hletter := stops_of_word?_eq_none h c hc
      rwa [← isWordStart_iff, Bool.not_eq_true]
    · cases hp
  | case2 s l rest h tail ih =>
    obtain ⟨w, p, hp, hw, hs, hstops⟩ := exists_piece h
    obtain ⟨run, pieces, htokens, hletters, hrest, hchain, hends⟩ := ih
    change skipBlanks rest = joined pieces ++ tail.2 at hrest
    rw [hrest] at hstops
    refine ⟨w :: run, p :: pieces, ?_, ?_, ?_, isChain_cons_of_stops hchain hstops, fun _ => ?_⟩
    · rw [List.map_cons, List.map_cons, hp, htokens]
    · rw [List.map_cons, hw, hletters]
    · rw [joined_cons, List.append_assoc, ← hrest, hs]
    · exact (hends (stops_dropWhile _ _)).cons hstops

theorem exists_qualifiers (s : List Char) :
    ∃ (n : Nat) (pieces : List Piece),
      pieces.map Piece.token = List.replicate n (.word .const) ∧
      s = joined pieces ++ skipQualifiers s ∧ pieces.IsChain Separate := by
  fun_induction skipQualifiers s with
  | case1 s h => exact ⟨0, [], rfl, rfl, .nil⟩
  | case2 s rest h ih =>
    obtain ⟨w, p, hp, hw, hs, hstops⟩ := exists_piece h
    obtain ⟨n, pieces, htokens, hrest, hchain⟩ := ih
    refine ⟨n + 1, p :: pieces, ?_, ?_, isChain_cons_of_stops hchain (hrest ▸ hstops)⟩
    · rw [List.map_cons, hp, htokens, Word.letters_eq_qualifier.mp hw, List.replicate_succ]
    · rw [joined_cons, List.append_assoc, ← hrest, hs]
  | case3 s l rest h hl => exact ⟨0, [], rfl, rfl, .nil⟩

theorem exists_stars (s : List Char) :
    ∃ (counts : List Nat) (pieces : List Piece),
      pieces.map Piece.token = Phrase.starTokens counts ∧ counts.length = (stars s).1 ∧
      s = joined pieces ++ (stars s).2 ∧ pieces.IsChain Separate := by
  fun_induction stars s with
  | case1 s tail ih =>
    obtain ⟨blanks, hblanks, hs⟩ := exists_blanks s
    obtain ⟨n, qualifiers, hqualifiers, hskip, hchain⟩ := exists_qualifiers (skipBlanks s)
    obtain ⟨counts, pieces, htokens, hlength, hrest, hchain'⟩ := ih
    refine ⟨n :: counts, ⟨.star, blanks, hblanks⟩ :: (qualifiers ++ pieces), ?_, ?_, ?_, ?_⟩
    · rw [List.map_cons, List.map_append, hqualifiers, htokens, Phrase.starTokens,
        Phrase.starTokens, List.flatMap_cons, List.cons_append]
    · rw [List.length_cons, hlength]
    · change '*' :: s = joined (⟨.star, blanks, hblanks⟩ :: (qualifiers ++ pieces)) ++ tail.2
      rw [joined_token, joined_append, List.append_assoc, List.append_assoc, List.append_assoc,
        ← hrest, ← hskip, ← hs]
      rfl
    · rw [List.isChain_cons, List.isChain_append]
      refine ⟨fun q _ hstar => absurd rfl hstar, hchain, hchain', fun q _ r hr _ hword => ?_⟩
      exact absurd (starNext_of_tokens htokens r hr) hword
  | case2 s hstar => exact ⟨[], [], rfl, rfl, rfl, .nil⟩

theorem exists_layout {t : NativeType} (h : read s = .ok t) :
    ∃ (layout : Layout) (phrase : Phrase), s = layout.text ∧ layout.tokens = phrase.tokens ∧
      t = phrase.type := by
  obtain ⟨lead, hlead, hs⟩ := exists_blanks s
  obtain ⟨run, pieces, htokens, hletters, hrun, hchain, -⟩ := exists_run (skipBlanks s)
  simp only [read, ← hletters, filter_letters] at h
  split at h
  case h_1 => cases h
  case h_2 hbase =>
  split at h
  case isFalse => cases h
  case isTrue hend =>
  obtain ⟨counts, rest, htokens', hlength, hrest, hchain'⟩ := exists_stars (words (skipBlanks s)).2
  rw [hend, List.append_nil] at hrest
  have hnamed : ∃ w ∈ run, w ≠ .const := by
    obtain ⟨w, hw⟩ := List.exists_mem_of_ne_nil (run.filter (· ≠ .const))
      (fun hnil => hbase (by rw [hnil]; rfl))
    obtain ⟨hmem, hne⟩ := List.mem_filter.mp hw
    exact ⟨w, hmem, by simpa using hne⟩
  have hseparated : (pieces ++ rest).IsChain Separate := by
    refine List.isChain_append.mpr ⟨hchain, hchain', fun q _ r hr _ hword => ?_⟩
    exact absurd (starNext_of_tokens htokens' r hr) hword
  refine ⟨⟨lead, pieces ++ rest, hlead, hseparated⟩, ⟨run, counts, hnamed⟩, ?_, ?_, ?_⟩
  · rw [Layout.text, joined_append, ← hrest, ← hrun, ← hs]
  · rw [Layout.tokens, List.map_append, htokens, htokens', Phrase.tokens]
  · cases h
    rw [ofList_intercalate, ← hlength]
    rfl

theorem read_ok_iff {t : NativeType} :
    read s = .ok t ↔ ∃ (layout : Layout) (phrase : Phrase), s = layout.text ∧
      layout.tokens = phrase.tokens ∧ t = phrase.type := by
  constructor
  · exact exists_layout
  · rintro ⟨layout, phrase, rfl, h, rfl⟩
    exact read_layout layout phrase h

theorem Word.letters_inj {v w : Word} (h : v.letters = w.letters) : v = w := by
  cases v
  cases w
  obtain ⟨rfl, rfl⟩ := List.cons.inj h
  rfl

theorem Token.eq_of_joined_eq {p q : Piece} {pieces more : List Piece}
    (h : (p :: pieces).IsChain Separate) (h' : (q :: more).IsChain Separate)
    (heq : joined (p :: pieces) = joined (q :: more)) :
    p.token = q.token ∧ p.blanks ++ joined pieces = q.blanks ++ joined more := by
  have hstar (w : Word) : w.first ≠ '*' := fun hw => by
    have hfirst := w.first_letter
    rw [hw] at hfirst
    simp [IsLetter] at hfirst
  cases hp : p.token with
  | star =>
    rw [joined_token, joined_token, hp] at heq
    cases hq : q.token with
    | star =>
      rw [hq] at heq
      exact ⟨rfl, List.cons.inj heq |>.2⟩
    | word w =>
      rw [hq] at heq
      exact absurd (List.cons.inj heq).1.symm (hstar w)
  | word w =>
    cases hq : q.token with
    | star =>
      rw [joined_token, joined_token, hp, hq] at heq
      exact absurd (List.cons.inj heq).1 (hstar w)
    | word v =>
      have hword := word?_piece hp h
      rw [heq, word?_piece hq h'] at hword
      obtain ⟨hletters, hrest⟩ := Prod.mk.inj (Option.some.inj hword)
      exact ⟨congrArg Token.word (Word.letters_inj hletters.symm), hrest.symm⟩

theorem tokens_eq_of_joined_eq {pieces more : List Piece} (h : pieces.IsChain Separate)
    (h' : more.IsChain Separate) (heq : joined pieces = joined more) :
    pieces.map Piece.token = more.map Piece.token := by
  have hne (p : Piece) (rest : List Piece) : joined (p :: rest) ≠ [] := by
    rw [joined_token]
    cases p.token <;> exact List.cons_ne_nil _ _
  induction pieces generalizing more with
  | nil =>
    cases more with
    | nil => rfl
    | cons q more => exact absurd heq.symm (hne q more)
  | cons p pieces ih =>
    cases more with
    | nil => exact absurd heq (hne p pieces)
    | cons q more =>
      obtain ⟨htoken, hrest⟩ := Token.eq_of_joined_eq h h' heq
      have htail : joined pieces = joined more := by
        rw [← skipBlanks_piece p pieces, hrest, skipBlanks_piece]
      have htokens : pieces.map Piece.token = more.map Piece.token := ih h.tail h'.tail htail
      rw [List.map_cons, List.map_cons, htoken, htokens]

theorem Layout.tokens_eq {layout layout' : Layout} (h : layout.text = layout'.text) :
    layout.tokens = layout'.tokens := by
  apply tokens_eq_of_joined_eq layout.separated layout'.separated
  rw [← layout.skipBlanks_text, ← layout'.skipBlanks_text, h]

theorem Phrase.filter_tokens (p : Phrase) :
    p.tokens.filter (· ≠ .word .const) =
      p.base.map .word ++ List.replicate p.stars.length .star := by
  have hstars (stars : List Nat) : (starTokens stars).filter (· ≠ .word .const) =
      List.replicate stars.length .star := by
    induction stars with
    | nil => rfl
    | cons n stars ih =>
      rw [starTokens, List.flatMap_cons, ← starTokens, List.filter_append, ih]
      simp [List.replicate_succ]
  have hwords : (p.words.map Token.word).filter (· ≠ .word .const) = p.base.map .word := by
    rw [List.filter_map, base]
    congr 2
    funext w
    simp
  rw [tokens, List.filter_append, hwords, hstars]

theorem exists_phrase {tokens : List Token} {ws : List Word} {n : Nat}
    (h : tokens.filter (· ≠ .word .const) = ws.map .word ++ List.replicate n .star) :
    ∃ (run : List Word) (stars : List Nat), tokens = run.map .word ++ Phrase.starTokens stars ∧
      run.filter (· ≠ .const) = ws ∧ stars.length = n := by
  induction tokens generalizing ws n with
  | nil =>
    obtain ⟨hws, hn⟩ := List.append_eq_nil_iff.mp h.symm
    obtain rfl : ws = [] := List.map_eq_nil_iff.mp hws
    obtain rfl : n = 0 := by simpa using hn
    exact ⟨[], [], rfl, rfl, rfl⟩
  | cons token tokens ih =>
    by_cases hconst : token = .word .const
    · rw [List.filter_cons_of_neg (by simp [hconst])] at h
      obtain ⟨run, stars, rfl, hrun, hstars⟩ := ih h
      exact ⟨.const :: run, stars, by rw [hconst]; rfl, by simpa using hrun, hstars⟩
    · rw [List.filter_cons_of_pos (by simp [hconst])] at h
      cases token with
      | word w =>
        cases ws with
        | nil =>
          cases n with
          | zero => cases h
          | succ n => cases h
        | cons v ws =>
          obtain ⟨hw, h⟩ := List.cons.inj h
          obtain ⟨run, stars, rfl, hrun, hstars⟩ := ih h
          cases hw
          refine ⟨w :: run, stars, rfl, ?_, hstars⟩
          rw [List.filter_cons_of_pos (by simpa using hconst), hrun]
      | star =>
        cases ws with
        | cons v ws => cases h
        | nil =>
          cases n with
          | zero => cases h
          | succ n =>
            have hrest : tokens.filter (· ≠ .word .const) =
                ([] : List Word).map .word ++ List.replicate n .star := (List.cons.inj h).2
            obtain ⟨run, stars, rfl, hrun, hstars⟩ := ih hrest
            have hconst : run = List.replicate run.length .const := by
              rw [List.filter_eq_nil_iff] at hrun
              exact List.eq_replicate_length.mpr fun w hw => by simpa using hrun w hw
            refine ⟨[], run.length :: stars, ?_, rfl, by rw [List.length_cons, hstars]⟩
            rw [hconst, List.map_replicate, List.length_replicate, Phrase.starTokens,
              Phrase.starTokens, List.flatMap_cons]
            rfl

theorem read_of_unqualified {layout layout' : Layout} {t : NativeType}
    (h : layout'.unqualified = layout.unqualified) (hread : read layout.text = .ok t) :
    read layout'.text = .ok t := by
  obtain ⟨found, phrase, htext, htokens, rfl⟩ := exists_layout hread
  have hphrase : layout'.tokens.filter (· ≠ .word .const) =
      phrase.base.map .word ++ List.replicate phrase.stars.length .star := by
    rw [← phrase.filter_tokens, ← htokens, ← Layout.tokens_eq htext]
    exact h
  obtain ⟨run, stars, htokens', hrun, hstars⟩ := exists_phrase hphrase
  have hnamed : ∃ w ∈ run, w ≠ .const := by
    obtain ⟨w, hw⟩ := List.exists_mem_of_ne_nil _ phrase.base_ne_nil
    rw [← hrun] at hw
    obtain ⟨hmem, hne⟩ := List.mem_filter.mp hw
    exact ⟨w, hmem, by simpa using hne⟩
  have htype : (⟨run, stars, hnamed⟩ : Phrase).type = phrase.type := by
    have hbase : (⟨run, stars, hnamed⟩ : Phrase).base = phrase.base := hrun
    rw [Phrase.type, Phrase.type, hbase, hstars]
  rw [← htype]
  exact read_layout layout' ⟨run, stars, hnamed⟩ htokens'

end Spelling

open Spelling

theorem toOption_eq_some {ε α : Type} {result : Except ε α} {a : α} :
    result.toOption = some a ↔ result = .ok a := by
  cases result <;> simp [Except.toOption]

theorem ofSpelling_ok {text : String} {t : NativeType} :
    ofSpelling text = .ok t ↔ read text.toList = .ok t := by
  rw [ofSpelling]
  cases read text.toList <;> simp

/-- A text is a spelling of a type exactly when it is a layout of the tokens of a phrase for that
type: words of which one at least is not `const`, then stars with any number of `const` after each,
blanks after every token, and nothing else. So neither blanks nor qualifiers change the result. -/
theorem ofSpelling_grammar (text : String) :
    (∀ t, ofSpelling text = .ok t ↔ ∃ (layout : Layout) (phrase : Phrase),
      text.toList = layout.text ∧ layout.tokens = phrase.tokens ∧ t = phrase.type) ∧
    ∀ layout layout' : Layout, text.toList = layout.text →
      layout'.unqualified = layout.unqualified →
        (ofSpelling (String.ofList layout'.text)).toOption = (ofSpelling text).toOption := by
  refine ⟨fun t => ofSpelling_ok.trans read_ok_iff, fun layout layout' htext hsame => ?_⟩
  have hread : read (String.ofList layout'.text).toList = read layout'.text := by
    rw [String.toList_ofList]
  apply Option.ext
  intro t
  rw [toOption_eq_some, toOption_eq_some, ofSpelling_ok, ofSpelling_ok, hread, htext]
  exact ⟨read_of_unqualified hsame.symm, read_of_unqualified hsame⟩

def charWord : Word where
  first := 'c'
  rest := ['h', 'a', 'r']
  first_letter := by simp [IsLetter]
  rest_letters := by simp [IsLetter]

def textLayout : Layout where
  lead := []
  pieces := [{ token := .word .const, blanks := [' '], blank := by simp [IsBlank] },
    { token := .word charWord, blanks := [' '], blank := by simp [IsBlank] }, { token := .star }]
  blank := by simp
  separated := by simp [Separate]

def lateLayout : Layout where
  lead := ['\t']
  pieces := [{ token := .word charWord, blanks := [' '], blank := by simp [IsBlank] },
    { token := .word .const }, { token := .star },
    { token := .word .const, blanks := ['\n'], blank := by simp [IsBlank] }]
  blank := by simp [IsBlank]
  separated := by simp [Separate]

def textPhrase : Phrase where
  words := [.const, charWord]
  stars := [0]
  named := ⟨charWord, by simp, by decide⟩

theorem ofSpelling_grammar_text :
    ofSpelling "const char *" = .ok (.pointer (.named "char")) ∧
      (ofSpelling "\tchar const*const\n").toOption = (ofSpelling "const char *").toOption := by
  obtain ⟨hgrammar, hsame⟩ := ofSpelling_grammar "const char *"
  exact ⟨(hgrammar _).mpr ⟨textLayout, textPhrase, by decide, by decide, by decide⟩,
    hsame textLayout lateLayout (by decide) (by decide)⟩

end NativeBindings.NativeType
