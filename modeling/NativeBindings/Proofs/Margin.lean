import NativeBindings.Proofs.EditHistory
import NativeBindings.Proofs.FragmentLines

namespace NativeBindings

/-- Puts a margin before every line of a text, given whether a line starts here. -/
def indentFrom (margin : List Char) : Bool → List Char → List Char
  | _, [] => []
  | starts, c :: s => (if starts then margin else []) ++ c :: indentFrom margin (c == '\n') s

def indent (margin text : String) : String :=
  String.ofList (indentFrom margin.toList true text.toList)

def lineCount (text : String) : Nat := text.toList.count '\n'

section Lines

variable {margin line s : List Char} {lines : List (List Char)}

theorem indentFrom_line (h : '\n' ∉ line) :
    indentFrom margin false (line ++ '\n' :: s) = line ++ '\n' :: indentFrom margin true s := by
  induction line with
  | nil => rfl
  | cons c line ih =>
    obtain ⟨hc, hline⟩ := List.ne_and_not_mem_of_not_mem_cons h
    have hbreak : (c == '\n') = false := beq_false_of_ne (Ne.symm hc)
    rw [List.cons_append, indentFrom, hbreak, ih hline]
    rfl

theorem indentFrom_start (h : '\n' ∉ line) :
    indentFrom margin true (line ++ '\n' :: s) =
      margin ++ line ++ '\n' :: indentFrom margin true s := by
  cases line with
  | nil => simp [indentFrom]
  | cons c line =>
    obtain ⟨hc, hline⟩ := List.ne_and_not_mem_of_not_mem_cons h
    have hbreak : (c == '\n') = false := beq_false_of_ne (Ne.symm hc)
    rw [List.cons_append, indentFrom, hbreak, indentFrom_line hline, if_pos rfl, List.append_assoc]
    rfl

theorem indent_unlines (margin : String) (h : ∀ line ∈ lines, '\n' ∉ line) :
    indent margin (unlines lines) = unlines (lines.map fun line => margin.toList ++ line) := by
  rw [indent, unlines, unlines, String.toList_ofList]
  congr 1
  induction lines with
  | nil => rfl
  | cons line lines ih =>
    obtain ⟨hline, hlines⟩ := List.forall_mem_cons.mp h
    rw [List.flatMap_cons, List.append_assoc, List.singleton_append, indentFrom_start hline,
      ih hlines, List.map_cons, List.flatMap_cons, List.append_assoc, List.append_assoc,
      List.append_assoc]
    rfl

theorem lineCount_unlines (h : ∀ line ∈ lines, '\n' ∉ line) :
    lineCount (unlines lines) = lines.length := by
  rw [lineCount, unlines, String.toList_ofList]
  induction lines with
  | nil => rfl
  | cons line lines ih =>
    obtain ⟨hline, hlines⟩ := List.forall_mem_cons.mp h
    rw [List.flatMap_cons, List.count_append, List.count_append, ih hlines,
      List.count_eq_zero.mpr hline, List.count_singleton_self, List.length_cons]
    omega

end Lines

section Fragment

variable {margin inner : String} {lines : List String}

theorem not_mem_of_oneLine (hmargin : OneLine margin) (h : ∀ line ∈ lines, OneLine line) :
    ∀ l ∈ lines.map fun line => (margin ++ line).toList, '\n' ∉ l := by
  intro l hl
  obtain ⟨line, hline, rfl⟩ := List.mem_map.mp hl
  exact hmargin.append (h line hline)

theorem indent_fragment (margin : String) (hinner : OneLine inner)
    (h : ∀ line ∈ lines, OneLine line) :
    fragment (margin ++ inner) lines = indent margin (fragment inner lines) := by
  rw [fragment_eq_unlines, fragment_eq_unlines, indent_unlines margin (not_mem_of_oneLine hinner h),
    List.map_map]
  congr 2
  funext line
  simp

theorem lineCount_fragment (hmargin : OneLine margin) (h : ∀ line ∈ lines, OneLine line) :
    lineCount (fragment margin lines) = lines.length := by
  rw [fragment_eq_unlines, lineCount_unlines (not_mem_of_oneLine hmargin h), List.length_map]

theorem getLast?_fragment (margin : String) (hne : lines ≠ []) :
    (fragment margin lines).toList.getLast? = some '\n' := by
  obtain ⟨front, last, rfl⟩ := (List.eq_nil_or_concat lines).resolve_left hne
  rw [fragment_eq_unlines, unlines, String.toList_ofList]
  simp

end Fragment

theorem ManagedType.noBreaks_void : ManagedType.void.NoBreaks := by decide

namespace Edit

def statement? : Edit → Option Statement
  | .top st | .beforeCall st | .afterCall st _ | .bottom st => some st
  | _ => none

def NoBreaks : Edit → Prop
  | .nativeParameter p => OneLine p.name ∧ p.type.NoBreaks ∧ ∀ x ∈ p.argument.parts, OneLine x
  | .managedParameter p => OneLine p.name ∧ p.type.NoBreaks
  | .top st | .beforeCall st | .afterCall st _ | .bottom st => OneLine st.text
  | .nativeReturn type target => type.NoBreaks ∧ ∀ v ∈ target, OneLine v
  | .managedReturn type => type.NoBreaks
  | .recall | .enterScope | .exitScope | .instanceMethod => True

instance : DecidablePred NoBreaks
  | .nativeParameter _ => inferInstanceAs (Decidable (_ ∧ _ ∧ _))
  | .managedParameter _ => inferInstanceAs (Decidable (_ ∧ _))
  | .top _ | .beforeCall _ | .afterCall _ _ | .bottom _ => inferInstanceAs (Decidable (OneLine _))
  | .nativeReturn _ _ => inferInstanceAs (Decidable (_ ∧ _))
  | .managedReturn type => inferInstanceAs (Decidable type.NoBreaks)
  | .recall | .enterScope | .exitScope | .instanceMethod => inferInstanceAs (Decidable True)

theorem NoBreaks.statement {e : Edit} (h : e.NoBreaks) {st : Statement}
    (hst : e.statement? = some st) : OneLine st.text := by
  cases e with
  | top | beforeCall | afterCall | bottom =>
    cases hst
    exact h
  | _ => cases hst

end Edit

namespace Batch

variable {b : Batch} {e : Edit}

theorem mem_body_add {line : Line} (h : line ∈ (b.add e).close.body) :
    line.content = .nativeCall ∨ line ∈ b.close.body ∨
      ∃ st, e.statement? = some st ∧ line.content = .statement st := by
  cases e <;> simp only [add, close, Draft.body, List.mem_append, List.mem_cons, List.not_mem_nil,
    or_false, Edit.statement?] at h ⊢ <;> grind

theorem noBreaks_add (h : b.close.NoBreaks) (he : e.NoBreaks) : (b.add e).close.NoBreaks := by
  have hbody : ∀ line ∈ (b.add e).close.body, ∀ st, line.content = .statement st →
      OneLine st.text := by
    intro line hline st hcontent
    rcases mem_body_add hline with hcall | hold | ⟨st', hst, hnew⟩
    · rw [hcontent] at hcall
      cases hcall
    · exact h.body line hold st hcontent
    · rw [hcontent] at hnew
      cases hnew
      exact he.statement hst
  cases e with
  | nativeParameter p =>
    have hparameters := List.forall_mem_append.mpr
      ⟨h.nativeParameters, List.forall_mem_singleton.mpr he⟩
    exact { h with body := hbody, nativeParameters := hparameters }
  | managedParameter p =>
    have hparameters := List.forall_mem_append.mpr
      ⟨h.managedParameters, List.forall_mem_singleton.mpr he⟩
    exact { h with body := hbody, managedParameters := hparameters }
  | nativeReturn type target =>
    exact { h with body := hbody, nativeReturn := he.1, returnVariable := he.2 }
  | managedReturn type => exact { h with body := hbody, managedReturn := he }
  | _ => exact { h with body := hbody }

end Batch

namespace Draft

variable {d : Draft}

theorem NoBreaks.apply (h : d.NoBreaks) {edits : List Edit} (he : ∀ e ∈ edits, e.NoBreaks) :
    (d.apply edits).NoBreaks := by
  have hfold : ∀ b : Batch, b.close.NoBreaks → (edits.foldl Batch.add b).close.NoBreaks := by
    induction edits with
    | nil => exact fun b hb => hb
    | cons e edits ih =>
      obtain ⟨he, hedits⟩ := List.forall_mem_cons.mp he
      exact fun b hb => ih hedits (b.add e) (Batch.noBreaks_add hb he)
  exact hfold { draft := d } h

theorem NoBreaks.foldl_apply (h : d.NoBreaks) {batches : List (List Edit)}
    (he : ∀ edits ∈ batches, ∀ e ∈ edits, e.NoBreaks) : (batches.foldl Draft.apply d).NoBreaks := by
  induction batches generalizing d with
  | nil => exact h
  | cons edits batches ih =>
    obtain ⟨he, hbatches⟩ := List.forall_mem_cons.mp he
    exact ih (h.apply he) hbatches

theorem noBreaks_start {settings : Settings} {s : Signature} (hlibrary : OneLine settings.library)
    (hclass : OneLine settings.nativeClass) (hnative : OneLine s.nativeName)
    (hmanaged : OneLine s.managedName) : (start settings s).NoBreaks where
  nativeName := hnative
  managedName := hmanaged
  library := hlibrary
  nativeClass := hclass
  nativeParameters := List.forall_mem_nil _
  managedParameters := List.forall_mem_nil _
  body := by simp [body, start]
  nativeReturn := ManagedType.noBreaks_void
  returnVariable := by simp [start]
  managedReturn := ManagedType.noBreaks_void

end Draft

namespace Outcome

def NoBreaks : Outcome → Prop
  | bound d => d.NoBreaks
  | skipped nativeName e => OneLine nativeName ∧ e.NoBreaks

variable {o : Outcome}

theorem NoBreaks.exists_lines (h : o.NoBreaks) :
    ∀ render ∈ [o.delegateText, o.importText, o.wrapperText], ∃ lines,
      (∀ margin, render margin = fragment margin lines) ∧ lines ≠ [] ∧
        ∀ line ∈ lines, OneLine line := by
  obtain ⟨hdelegate, himport, hwrapper⟩ := o.lines_ne_nil
  have hlines : (∀ line ∈ o.delegateLines, OneLine line) ∧ (∀ line ∈ o.importLines, OneLine line) ∧
      ∀ line ∈ o.wrapperLines, OneLine line := by
    cases o with
    | bound d =>
      have h : d.NoBreaks := h
      exact ⟨fun line hline => (h.delegateLines line hline).1,
        fun line hline => (h.importLines line hline).1, h.oneLine_wrapperLines⟩
    | skipped nativeName e =>
      have hskip := List.forall_mem_singleton.mpr (isLine_skipLine h.1 h.2.reason).1
      exact ⟨hskip, hskip, hskip⟩
  simp only [List.forall_mem_cons]
  exact ⟨⟨_, o.delegateText_eq, hdelegate, hlines.1⟩, ⟨_, o.importText_eq, himport, hlines.2.1⟩,
    ⟨_, o.wrapperText_eq, hwrapper, hlines.2.2⟩, List.forall_mem_nil _⟩

theorem noBreaks_ofSignature {settings : Settings} {s : Signature} (hset : settings.NoBreaks)
    (hs : s.NoBreaks) : (ofSignature settings s).NoBreaks := by
  rw [ofSignature]
  split
  case h_1 d hbind =>
    obtain ⟨commits, w, hw, rfl, -⟩ := Reached.of_bindFunction hbind
    exact hw.noBreaks hset hs
  case h_2 e hbind => exact ⟨hs.nativeName, hs.error hbind⟩

end Outcome

/-- The three renderers put a margin before each line of what they give without one and change nothing
else, so margins add up. This holds of every bound or skipped function without a line break in its
names and texts: of those of a bindings file, and of every draft that edits can make. -/
theorem fragment_margin :
    (∀ o : Outcome, o.NoBreaks → ∀ render ∈ [o.delegateText, o.importText, o.wrapperText],
      ∀ margin, OneLine margin →
        render margin = indent margin (render "") ∧
        lineCount (render margin) = lineCount (render "") ∧
        (render margin).toList.getLast? = some '\n' ∧
        ∀ inner, OneLine inner → render (margin ++ inner) = indent margin (render inner)) ∧
    (∀ (settings : Settings) (s : Signature) (batches : List (List Edit)),
      OneLine settings.library → OneLine settings.nativeClass → OneLine s.nativeName →
        OneLine s.managedName → (∀ edits ∈ batches, ∀ e ∈ edits, e.NoBreaks) →
          (Outcome.bound (batches.foldl Draft.apply (.start settings s))).NoBreaks) ∧
    ∀ (settings : Settings) (s : Signature), settings.NoBreaks → s.NoBreaks →
      (Outcome.ofSignature settings s).NoBreaks := by
  have hempty : OneLine "" := by decide
  refine ⟨fun o ho render hrender margin hmargin => ?_,
    fun settings s batches hlibrary hclass hnative hmanaged he => ?_,
    fun settings s => Outcome.noBreaks_ofSignature⟩
  · obtain ⟨lines, hlines, hne, hfree⟩ := ho.exists_lines render hrender
    have happend {inner : String} (hinner : OneLine inner) := indent_fragment margin hinner hfree
    simp only [hlines]
    refine ⟨?_, ?_, getLast?_fragment margin hne, fun inner => happend⟩
    · rw [← happend hempty, String.append_empty]
    · rw [lineCount_fragment hmargin hfree, lineCount_fragment hempty hfree]
  · exact (Draft.noBreaks_start hlibrary hclass hnative hmanaged).foldl_apply he

def flagSignature : Signature where
  nativeName := "sp_flag"
  managedName := "Flag"
  parameters := []
  returns := .named "bool"

def flagEdits : List (List Edit) :=
  [[.nativeReturn .bool (some "flag"), .managedReturn .bool, .top (.declare "bool" "flag"), .enterScope,
      .beforeCall (.verbatim ""), .afterCall (.verbatim "Log(flag);") 2, .recall],
    [.exitScope, .exitScope, .recall, .bottom (.giveBack (.var "flag"))]]

theorem fragment_margin_flag :
    let o := Outcome.bound (flagEdits.foldl Draft.apply (.start {} flagSignature))
    o.NoBreaks ∧ lineCount (o.wrapperText "\t") = 11 ∧
      o.wrapperText "\t" = indent "\t" (o.wrapperText "") ∧
      o.wrapperText "\t  " = indent "\t" (o.wrapperText "  ") := by
  intro o
  obtain ⟨hlaw, hhistory, -⟩ := fragment_margin
  have ho : o.NoBreaks := hhistory {} flagSignature flagEdits (by decide) (by decide) (by decide)
    (by decide) (by decide)
  have hrender : o.wrapperText ∈ [o.delegateText, o.importText, o.wrapperText] := by simp
  have hcount : lineCount (o.wrapperText "") = 11 := by decide +kernel
  obtain ⟨hindent, hlines, -, happend⟩ := hlaw o ho o.wrapperText hrender "\t" (by decide)
  exact ⟨ho, hlines.trans hcount, hindent, happend "  " (by decide)⟩

end NativeBindings
