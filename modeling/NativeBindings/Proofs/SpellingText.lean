import NativeBindings.Outcome
import NativeBindings.Proofs.SpellingGrammar

namespace NativeBindings

theorem eq_of_around {before after s t : String}
    (h : before ++ s ++ after = before ++ t ++ after) : s = t :=
  (String.append_right_inj before).mp ((String.append_left_inj after).mp h)

namespace BindError

def IsAboutType (error : NativeType → BindError) : Prop :=
  (∃ f, error = .noReturnRule f) ∨ ∃ f i n, error = .noParameterRule f i n

variable {error : NativeType → BindError}

theorem IsAboutType.reason (h : IsAboutType error) :
    ∃ before after, ∀ t, (error t).reason = before ++ t.text ++ after := by
  rcases h with ⟨f, rfl⟩ | ⟨f, i, n, rfl⟩
  · exact ⟨"no rule for return type ", "", fun t => String.append_empty.symm⟩
  · exact ⟨"no rule for parameter `" ++ n ++ "` of type ", "", fun t => String.append_empty.symm⟩

theorem IsAboutType.message (h : IsAboutType error) :
    ∃ before after, ∀ t, (error t).message = before ++ t.text ++ after := by
  rcases h with ⟨f, rfl⟩ | ⟨f, i, n, rfl⟩
  · refine ⟨"no rule for return type ", " of `" ++ (f ++ "`"), fun t => ?_⟩
    rw [← String.append_assoc, ← String.append_assoc]
    rfl
  · refine ⟨"no rule for parameter `" ++ n ++ "` (",
      ") at index " ++ (toString i ++ (" of `" ++ (f ++ "`"))), fun t => ?_⟩
    rw [← String.append_assoc, ← String.append_assoc, ← String.append_assoc, ← String.append_assoc]
    rfl

end BindError

namespace NativeType

open Spelling

def HasSpelling (t : NativeType) : Prop :=
  ∃ (depth : Nat) (ws : List Word), ws ≠ [] ∧ (∀ w ∈ ws, w ≠ .const) ∧
    t = pointers depth (.named (spaced ws))

theorem text_pointers (depth : Nat) (t : NativeType) :
    (pointers depth t).text.toList = t.text.toList ++ List.replicate depth '*' := by
  induction depth with
  | zero => simp [pointers]
  | succ depth ih =>
    rw [pointers, text, String.toList_append, ih, List.replicate_succ', List.append_assoc]
    rfl

namespace Spelling

theorem isBlank_of_mem_nil : ∀ c ∈ ([] : List Char), IsBlank c := List.forall_mem_nil _

theorem isBlank_of_mem_singleton : ∀ c ∈ [' '], IsBlank c := by simp [IsBlank]

def spacedPieces : List Word → List Piece
  | [] => []
  | [w] => [{ token := .word w, blank := isBlank_of_mem_nil }]
  | w :: v :: ws =>
    { token := .word w, blanks := [' '], blank := isBlank_of_mem_singleton } ::
      spacedPieces (v :: ws)

theorem spacedPieces_tokens (ws : List Word) :
    (spacedPieces ws).map Piece.token = ws.map .word := by
  fun_induction spacedPieces ws with
  | case1 => rfl
  | case2 w => rfl
  | case3 w v ws ih =>
    rw [List.map_cons, ih]
    rfl

theorem joined_spacedPieces (ws : List Word) : joined (spacedPieces ws) = (spaced ws).toList := by
  rw [spaced_toList]
  fun_induction spacedPieces ws with
  | case1 => rfl
  | case2 w => simp [joined, Piece.text, Token.text]
  | case3 w v ws ih =>
    rw [joined_cons, ih]
    exact List.intercalate_cons_cons.symm

theorem spacedPieces_separate (ws : List Word) {stars : List Piece} (hstars : StarNext stars)
    (h : stars.IsChain Separate) : (spacedPieces ws ++ stars).IsChain Separate := by
  fun_induction spacedPieces ws with
  | case1 => exact h
  | case2 w => exact List.isChain_cons.mpr ⟨fun q hq _ hword => absurd (hstars q hq) hword, h⟩
  | case3 w v ws ih =>
    exact List.isChain_cons.mpr ⟨fun q _ _ _ => List.cons_ne_nil _ _, ih⟩

def starPieces (depth : Nat) : List Piece :=
  List.replicate depth { token := .star, blank := isBlank_of_mem_nil }

theorem starPieces_tokens (depth : Nat) :
    (starPieces depth).map Piece.token = Phrase.starTokens (List.replicate depth 0) := by
  induction depth with
  | zero => rfl
  | succ depth ih =>
    rw [starPieces, List.replicate_succ, ← starPieces, List.map_cons, ih, List.replicate_succ]
    rfl

theorem joined_starPieces (depth : Nat) : joined (starPieces depth) = List.replicate depth '*' := by
  induction depth with
  | zero => rfl
  | succ depth ih =>
    rw [starPieces, List.replicate_succ, ← starPieces, joined_cons, ih, List.replicate_succ]
    rfl

theorem starPieces_separate (depth : Nat) : (starPieces depth).IsChain Separate := by
  induction depth with
  | zero => exact .nil
  | succ depth ih => exact List.isChain_cons.mpr ⟨fun q _ hstar => absurd rfl hstar, ih⟩

def printed (depth : Nat) (ws : List Word) : Layout where
  lead := []
  pieces := spacedPieces ws ++ starPieces depth
  blank := isBlank_of_mem_nil
  separated := spacedPieces_separate ws (starNext_of_tokens (starPieces_tokens depth))
    (starPieces_separate depth)

theorem printed_text (depth : Nat) (ws : List Word) :
    (printed depth ws).text = (pointers depth (.named (spaced ws))).text.toList := by
  rw [text_pointers, text, ← joined_spacedPieces, ← joined_starPieces, ← joined_append]
  rfl

end Spelling

namespace HasSpelling

variable {t t' : NativeType}

theorem ofSpelling_text (h : t.HasSpelling) : ofSpelling t.text = .ok t := by
  obtain ⟨depth, ws, hne, hwords, rfl⟩ := h
  obtain ⟨w, hw⟩ := List.exists_mem_of_ne_nil ws hne
  let phrase : Phrase := ⟨ws, List.replicate depth 0, w, hw, hwords w hw⟩
  have hbase : phrase.base = ws := List.filter_eq_self.mpr fun w hw => by simpa using hwords w hw
  have htokens : (printed depth ws).tokens = phrase.tokens := by
    rw [Layout.tokens, Phrase.tokens, ← spacedPieces_tokens, ← starPieces_tokens, ← List.map_append]
    rfl
  rw [ofSpelling_ok, ← printed_text, read_layout _ phrase htokens, Phrase.type, hbase,
    List.length_replicate]

theorem of_ofSpelling {text : String} (h : ofSpelling text = .ok t) : t.HasSpelling := by
  obtain ⟨layout, phrase, -, -, rfl⟩ := exists_layout (ofSpelling_ok.mp h)
  refine ⟨phrase.stars.length, phrase.base, phrase.base_ne_nil, fun w hw => ?_, rfl⟩
  simpa using (List.mem_filter.mp hw).2

theorem eq_of_text_eq (h : t.HasSpelling) (h' : t'.HasSpelling) (heq : t.text = t'.text) :
    t = t' := by
  have hok := h.ofSpelling_text
  rw [heq, h'.ofSpelling_text] at hok
  exact (Except.ok.inj hok).symm

end HasSpelling

/-- What a spelling can be read as is a stack of pointers over plain words, and its text is read as
the same type again; so the text of a type, also in the reason or the message of an error, tells
which type it is. -/
theorem spelling_text :
    (∀ text t, ofSpelling text = .ok t → t.HasSpelling ∧ ofSpelling t.text = .ok t) ∧
    (∀ t : NativeType, t.HasSpelling → ofSpelling t.text = .ok t) ∧
    (∀ t t' : NativeType, t.HasSpelling → t'.HasSpelling → t.text = t'.text → t = t') ∧
    ∀ t t' : NativeType, t.HasSpelling → t'.HasSpelling →
      ∀ error, BindError.IsAboutType error →
        (error t).reason = (error t').reason ∨ (error t).message = (error t').message → t = t' := by
  refine ⟨fun text t h => ?_, fun t h => h.ofSpelling_text, fun t t' h h' => h.eq_of_text_eq h',
    fun t t' h h' error herror heq => ?_⟩
  · have hspelling := HasSpelling.of_ofSpelling h
    exact ⟨hspelling, hspelling.ofSpelling_text⟩
  · apply h.eq_of_text_eq h'
    rcases heq with hreason | hmessage
    · obtain ⟨before, after, haround⟩ := herror.reason
      rw [haround, haround] at hreason
      exact eq_of_around hreason
    · obtain ⟨before, after, haround⟩ := herror.message
      rw [haround, haround] at hmessage
      exact eq_of_around hmessage

theorem spelling_text_unsigned :
    ofSpelling "const unsigned\tint * *const" = .ok (.pointer (.pointer (.named "unsigned int"))) ∧
      ofSpelling "unsigned int**" = .ok (.pointer (.pointer (.named "unsigned int"))) := by
  have h : ofSpelling "const unsigned\tint * *const" =
      .ok (.pointer (.pointer (.named "unsigned int"))) := by
    decide +kernel
  exact ⟨h, (spelling_text.1 _ _ h).2⟩

end NativeType

end NativeBindings
