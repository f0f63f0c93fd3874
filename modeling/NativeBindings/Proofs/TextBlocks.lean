import NativeBindings.Draft.Fragments
import NativeBindings.Unicode.CodeRun

namespace NativeBindings

def OneLine (s : String) : Prop := '\n' ∉ s.toList

instance (s : String) : Decidable (OneLine s) := inferInstanceAs (Decidable (_ ∉ _))

def whitespaceRanges : List (Nat × Nat) :=
  [(0x9, 0xD), (0x20, 0x20), (0x85, 0x85), (0xA0, 0xA0), (0x1680, 0x1680), (0x2000, 0x200A),
   (0x2028, 0x2029), (0x202F, 0x202F), (0x205F, 0x205F), (0x3000, 0x3000)]

def isBlankLine (line : List Char) : Bool :=
  line.all fun c => Unicode.inRanges whitespaceRanges c.toNat

def Visible (s : String) : Prop := isBlankLine s.toList = false

instance (s : String) : Decidable (Visible s) := inferInstanceAs (Decidable (_ = _))

def IsLine (s : String) : Prop := OneLine s ∧ Visible s

def unlines (lines : List (List Char)) : String :=
  String.ofList (lines.flatMap (· ++ ['\n']))

/-- The blocks that are left when a text is split at its blank lines. -/
def textBlocks (text : String) : List String :=
  (((text.toList.splitOn '\n').splitOnP isBlankLine).filter (· ≠ [])).map unlines

def IsBlock (block : String) : Prop :=
  ∃ lines, lines ≠ [] ∧ (∀ line ∈ lines, '\n' ∉ line ∧ isBlankLine line = false) ∧
    block = unlines lines

def EndsOnce (s : String) : Prop :=
  ∃ front c, c ≠ '\n' ∧ s.toList = front ++ [c, '\n']

variable {a b s : String}

section OneLine

theorem oneLine_append : OneLine (a ++ b) ↔ OneLine a ∧ OneLine b := by
  simp [OneLine]

theorem OneLine.append (ha : OneLine a) (hb : OneLine b) : OneLine (a ++ b) :=
  oneLine_append.mpr ⟨ha, hb⟩

theorem OneLine.join {l : List String} (h : ∀ s ∈ l, OneLine s) : OneLine (String.join l) := by
  simpa [OneLine, String.toList_join] using h

theorem OneLine.intercalate (ha : OneLine a) {l : List String} (h : ∀ s ∈ l, OneLine s) :
    OneLine (a.intercalate l) := by
  induction l with
  | nil => simp [OneLine]
  | cons s l ih =>
    obtain ⟨hs, hl⟩ := List.forall_mem_cons.mp h
    cases l with
    | nil => simpa using hs
    | cons t l =>
      rw [String.intercalate_cons_cons]
      exact (hs.append ha).append (ih hl)

theorem oneLine_replicate {c : Char} (hc : c ≠ '\n') (n : Nat) :
    OneLine (String.ofList (List.replicate n c)) := by
  simp [OneLine, hc.symm]

theorem oneLine_toString (n : Nat) : OneLine (toString n) := by
  intro hmem
  have hdigit := Nat.isDigit_of_mem_toDigits (by decide) (by decide) (Nat.toList_repr ▸ hmem)
  cases hdigit

end OneLine

section Visible

theorem Visible.append_left (h : Visible a) (b : String) : Visible (a ++ b) := by
  rw [Visible, isBlankLine] at h ⊢
  rw [String.toList_append, List.all_append, h, Bool.false_and]

theorem Visible.append_right (a : String) (h : Visible b) : Visible (a ++ b) := by
  rw [Visible, isBlankLine] at h ⊢
  rw [String.toList_append, List.all_append, h, Bool.and_false]

end Visible

section Blocks

variable {lines : List (List Char)}

theorem splitOn_line {line : List Char} (h : '\n' ∉ line) (rest : List Char) :
    (line ++ '\n' :: rest).splitOn '\n' = line :: rest.splitOn '\n' := by
  have hfree : ∀ c ∈ line, (c == '\n') = false := by
    intro c hc
    exact beq_false_of_ne fun heq => h (heq ▸ hc)
  exact List.splitOnP_append_cons_of_forall_mem hfree '\n' rfl rest

theorem splitOn_unlines (h : ∀ line ∈ lines, '\n' ∉ line) (rest : List Char) :
    ((unlines lines).toList ++ rest).splitOn '\n' = lines ++ rest.splitOn '\n' := by
  rw [unlines, String.toList_ofList]
  induction lines with
  | nil => rfl
  | cons line lines ih =>
    obtain ⟨hline, hlines⟩ := List.forall_mem_cons.mp h
    rw [List.flatMap_cons, List.append_assoc, List.append_assoc, List.singleton_append,
      splitOn_line hline, ih hlines, List.cons_append]

theorem IsBlock.textBlocks_cons (hs : IsBlock s) (text : String) :
    textBlocks (s ++ "\n" ++ text) = s :: textBlocks text := by
  obtain ⟨lines, hne, hlines, rfl⟩ := hs
  have hsplit : (unlines lines ++ "\n" ++ text).toList.splitOn '\n' =
      lines ++ [] :: text.toList.splitOn '\n' := by
    rw [String.append_assoc, String.toList_append,
      splitOn_unlines (fun line hline => (hlines line hline).1), String.toList_append]
    exact congrArg (lines ++ ·) (splitOn_line List.not_mem_nil text.toList)
  rw [textBlocks, hsplit,
    List.splitOnP_append_cons_of_forall_mem (fun line hline => (hlines line hline).2) [] rfl,
    List.filter_cons_of_pos (by simpa using hne), List.map_cons]
  rfl

theorem IsBlock.textBlocks_eq (hs : IsBlock s) : textBlocks s = [s] := by
  obtain ⟨lines, hne, hlines, rfl⟩ := hs
  have hsplit : (unlines lines).toList.splitOn '\n' = lines ++ [[]] := by
    rw [← List.append_nil (unlines lines).toList,
      splitOn_unlines (fun line hline => (hlines line hline).1)]
    rfl
  rw [textBlocks, hsplit,
    List.splitOnP_append_cons_of_forall_mem (fun line hline => (hlines line hline).2) [] rfl,
    List.filter_cons_of_pos (by simpa using hne)]
  rfl

theorem textBlocks_intercalate {blocks : List String} (h : ∀ block ∈ blocks, IsBlock block) :
    textBlocks ("\n".intercalate blocks) = blocks := by
  induction blocks with
  | nil => rfl
  | cons block blocks ih =>
    obtain ⟨hblock, hblocks⟩ := List.forall_mem_cons.mp h
    cases blocks with
    | nil => rw [String.intercalate_singleton, hblock.textBlocks_eq]
    | cons next blocks =>
      rw [String.intercalate_cons_cons, hblock.textBlocks_cons, ih hblocks]

theorem IsBlock.endsOnce (hs : IsBlock s) : EndsOnce s := by
  obtain ⟨lines, hne, hlines, rfl⟩ := hs
  obtain ⟨front, last, rfl⟩ := (List.eq_nil_or_concat lines).resolve_left hne
  obtain ⟨hfree, hvisible⟩ := hlines last (by simp)
  have hlast : last ≠ [] := by
    rintro rfl
    cases hvisible
  obtain ⟨before, c, rfl⟩ := (List.eq_nil_or_concat last).resolve_left hlast
  refine ⟨front.flatMap (· ++ ['\n']) ++ before, c, ?_, ?_⟩
  · rintro rfl
    simp at hfree
  · simp [unlines]

theorem EndsOnce.append_left (hs : EndsOnce s) (a : String) : EndsOnce (a ++ s) := by
  obtain ⟨front, c, hc, hs⟩ := hs
  exact ⟨a.toList ++ front, c, hc, by rw [String.toList_append, hs, List.append_assoc]⟩

theorem EndsOnce.ne_empty (hs : EndsOnce s) : s ≠ "" := by
  obtain ⟨front, c, -, hs⟩ := hs
  rintro rfl
  simp at hs

theorem endsOnce_intercalate {blocks : List String} (hne : blocks ≠ [])
    (h : ∀ block ∈ blocks, IsBlock block) : EndsOnce ("\n".intercalate blocks) := by
  obtain ⟨front, last, rfl⟩ := (List.eq_nil_or_concat blocks).resolve_left hne
  have hlast := (h last (by simp)).endsOnce
  cases front with
  | nil => simpa using hlast
  | cons first front =>
    rw [List.concat_eq_append, String.intercalate_append_of_ne_nil (List.cons_ne_nil _ _)
      (List.cons_ne_nil _ _), String.intercalate_singleton]
    exact hlast.append_left _

theorem fragment_eq_unlines (margin : String) (lines : List String) :
    fragment margin lines = unlines (lines.map fun line => (margin ++ line).toList) := by
  apply String.toList_injective
  simp [fragment, unlines, String.toList_join, List.flatMap_map]

theorem isBlock_fragment {margin : String} {lines : List String} (hmargin : OneLine margin)
    (hne : lines ≠ []) (h : ∀ line ∈ lines, IsLine line) :
    IsBlock (fragment margin lines) := by
  refine ⟨lines.map fun line => (margin ++ line).toList, by simpa using hne, ?_,
    fragment_eq_unlines margin lines⟩
  intro l hl
  obtain ⟨line, hline, rfl⟩ := List.mem_map.mp hl
  obtain ⟨honeLine, hvisible⟩ := h line hline
  exact ⟨hmargin.append honeLine, hvisible.append_right margin⟩

end Blocks

end NativeBindings
