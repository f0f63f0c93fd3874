import Mathlib.Data.List.ReduceOption
import Mathlib.Data.List.Induction
import NativeBindings.Draft.Fragments
import NativeBindings.Proofs.Commit

namespace NativeBindings

namespace Edit

def nativeParameter? : Edit → Option NativeParameter
  | nativeParameter p => some p
  | _ => none

def managedParameter? : Edit → Option ManagedParameter
  | managedParameter p => some p
  | _ => none

def top? : Edit → Option Statement
  | top st => some st
  | _ => none

def bottom? : Edit → Option Statement
  | bottom st => some st
  | _ => none

def isBelow : Edit → Bool
  | .afterCall _ _ | .recall => true
  | _ => false

def nativeReturn? : Edit → Option (ManagedType × Option String)
  | nativeReturn type target => some (type, target)
  | _ => none

def managedReturn? : Edit → Option ManagedType
  | managedReturn type => some type
  | _ => none

end Edit

namespace History

def depthAbove (earlier : List Edit) : Nat := earlier.count .enterScope

/-- The depth that holds after the call: the scopes that were entered, less those that were left
since the latest was. -/
def depthBelow (earlier : List Edit) : Nat :=
  earlier.count .enterScope -
    (earlier.reverse.takeWhile (· ≠ .enterScope)).count .exitScope

def lineAbove? (earlier : List Edit) : Edit → Option Line
  | .beforeCall st => some ⟨depthAbove earlier, .statement st⟩
  | _ => none

def lineBelow? (earlier : List Edit) : Edit → Option Line
  | .afterCall st nested => some ⟨nested + depthBelow earlier, .statement st⟩
  | .recall => some ⟨depthBelow earlier, .nativeCall⟩
  | _ => none

def lines (line? : List Edit → Edit → Option Line) (earlier edits : List Edit) : List Line :=
  (edits.mapIdx fun i e => line? (earlier ++ edits.take i) e).reduceOption

def linesBelow (batches : List (List Edit)) : List Line :=
  (batches.mapIdx fun j batch => lines lineBelow? (batches.take j).flatten batch).reverse.flatten

def latest? {α : Type} (f : Edit → Option α) (history : List Edit) : Option α :=
  history.reverse.findSome? f

def draft (settings : Settings) (s : Signature) (history : List Edit) (below bottom : List Line) :
    Draft :=
  { Draft.start settings s with
    nativeParameters := history.filterMap Edit.nativeParameter?
    managedParameters := history.filterMap Edit.managedParameter?
    top := Line.outermost (history.filterMap Edit.top?)
    above := lines lineAbove? [] history
    below := below
    bottom := bottom
    nesting :=
      { above := depthAbove history, below := depthBelow history,
        entered := history.count .enterScope, exited := history.count .exitScope }
    nativeReturn := ((latest? Edit.nativeReturn? history).map Prod.fst).getD .void
    returnVariable := (latest? Edit.nativeReturn? history).bind Prod.snd
    managedReturn := (latest? Edit.managedReturn? history).getD .void
    isInstance := history.contains .instanceMethod }

variable {settings : Settings} {s : Signature} {earlier edits : List Edit} {e : Edit}
  {line? : List Edit → Edit → Option Line}

theorem mapIdx_take_concat {α β : Type} {f : List α → α → β} {l : List α} {a : α} :
    ((l ++ [a]).mapIdx fun i x => f ((l ++ [a]).take i) x) =
      (l.mapIdx fun i x => f (l.take i) x) ++ [f l a] := by
  rw [List.mapIdx_concat, List.take_left]
  congr 1
  rw [List.mapIdx_eq_mapIdx_iff]
  intro i hi
  rw [List.take_append_of_le_length (Nat.le_of_lt hi)]

theorem latest?_concat {α : Type} {f : Edit → Option α} :
    latest? f (edits ++ [e]) = (f e).or (latest? f edits) := by
  rw [latest?, List.reverse_append, List.reverse_singleton, List.findSome?_append,
    List.findSome?_singleton, latest?]

theorem lines_concat :
    lines line? earlier (edits ++ [e]) =
      lines line? earlier edits ++ (line? (earlier ++ edits) e).toList := by
  rw [lines, mapIdx_take_concat (f := fun before e => line? (earlier ++ before) e),
    List.reduceOption_append]
  cases line? (earlier ++ edits) e <;> rfl

theorem lines_append {more : List Edit} :
    lines line? earlier (edits ++ more) =
      lines line? earlier edits ++ lines line? (earlier ++ edits) more := by
  induction more using List.reverseRecOn with
  | nil => rw [List.append_nil]; exact (List.append_nil _).symm
  | append_singleton more e ih =>
    rw [← List.append_assoc, lines_concat, ih, lines_concat, List.append_assoc, List.append_assoc]

theorem linesBelow_concat {batches : List (List Edit)} :
    linesBelow (batches ++ [edits]) =
      lines lineBelow? batches.flatten edits ++ linesBelow batches := by
  rw [linesBelow, mapIdx_take_concat (f := fun before edits => lines lineBelow? before.flatten edits),
    List.reverse_concat, List.flatten_cons, linesBelow]

theorem linesBelow_eq_nil (h : ∀ e ∈ edits, e.isBelow = false) :
    lines lineBelow? earlier edits = [] := by
  induction edits using List.reverseRecOn with
  | nil => rfl
  | append_singleton edits e ih =>
    have hlast := h e List.mem_concat_self
    rw [lines_concat, ih fun e' he' => h e' (List.mem_append_left _ he')]
    cases e <;> first | rfl | cases hlast

theorem depthBelow_enterScope : depthBelow (earlier ++ [.enterScope]) = depthAbove earlier + 1 := by
  simp [depthBelow, depthAbove]

theorem depthBelow_exitScope : depthBelow (earlier ++ [.exitScope]) = depthBelow earlier - 1 := by
  simp [depthBelow, Nat.sub_sub]

theorem depthBelow_concat (henter : e ≠ .enterScope) (hexit : e ≠ .exitScope) :
    depthBelow (earlier ++ [e]) = depthBelow earlier := by
  simp [depthBelow, henter, hexit]

def batch (settings : Settings) (s : Signature) (earlier edits : List Edit)
    (below bottom : List Line) : Batch where
  draft := draft settings s (earlier ++ edits) below bottom
  below := lines lineBelow? earlier edits
  bottom := Line.outermost (edits.filterMap Edit.bottom?)

section Add

attribute [local simp] Batch.add draft lines_concat latest?_concat Line.outermost lineAbove? lineBelow?
  Edit.nativeParameter? Edit.managedParameter? Edit.top? Edit.bottom? Edit.nativeReturn?
  Edit.managedReturn?

theorem add_batch {below bottom : List Line} :
    (batch settings s earlier edits below bottom).add e =
      batch settings s earlier (edits ++ [e]) below bottom := by
  simp only [batch, lines_concat, ← List.append_assoc]
  generalize earlier ++ edits = history
  cases e with
  | enterScope => simp [depthBelow_enterScope, depthAbove, Nesting.enter]
  | exitScope => simp [depthBelow_exitScope, depthAbove, Nesting.exit]
  | afterCall st nested => simp [depthBelow_concat, depthAbove, Nat.add_comm]
  | _ => simp [depthBelow_concat, depthAbove]

end Add

theorem foldl_add {below bottom : List Line} :
    edits.foldl Batch.add { draft := draft settings s earlier below bottom } =
      batch settings s earlier edits below bottom := by
  induction edits using List.reverseRecOn with
  | nil => rw [batch, List.append_nil]; rfl
  | append_singleton edits e ih => rw [List.foldl_concat, ih, add_batch]

theorem apply_draft {below bottom : List Line} :
    (draft settings s earlier below bottom).apply edits =
      draft settings s (earlier ++ edits) (lines lineBelow? earlier edits ++ below)
        (Line.outermost (edits.filterMap Edit.bottom?) ++ bottom) := by
  rw [Draft.apply, foldl_add]
  rfl

theorem foldl_apply (settings : Settings) (s : Signature) (batches : List (List Edit)) :
    batches.foldl Draft.apply (.start settings s) =
      draft settings s batches.flatten (linesBelow batches)
        (Line.outermost (batches.reverse.flatMap (·.filterMap Edit.bottom?))) := by
  induction batches using List.reverseRecOn with
  | nil => rfl
  | append_singleton batches edits ih =>
    rw [List.foldl_concat, ih, apply_draft, linesBelow_concat, List.flatten_concat,
      List.reverse_concat, List.flatMap_cons, Line.outermost, Line.outermost, Line.outermost,
      List.map_append]

theorem apply_append {below bottom : List Line} {first second : List Edit}
    (hbelow : (∀ e ∈ first, e.isBelow = false) ∨ ∀ e ∈ second, e.isBelow = false)
    (hbottom : (∀ e ∈ first, e.bottom? = none) ∨ ∀ e ∈ second, e.bottom? = none) :
    (draft settings s earlier below bottom).apply (first ++ second) =
      ((draft settings s earlier below bottom).apply first).apply second := by
  have hlines : lines lineBelow? earlier (first ++ second) ++ below =
      lines lineBelow? (earlier ++ first) second ++ (lines lineBelow? earlier first ++ below) := by
    rw [lines_append]
    rcases hbelow with h | h
    · rw [linesBelow_eq_nil h, List.nil_append, List.nil_append]
    · rw [linesBelow_eq_nil h, List.append_nil, List.nil_append]
  have hresults : Line.outermost ((first ++ second).filterMap Edit.bottom?) ++ bottom =
      Line.outermost (second.filterMap Edit.bottom?) ++
        (Line.outermost (first.filterMap Edit.bottom?) ++ bottom) := by
    rw [List.filterMap_append]
    rcases hbottom with h | h
    · rw [List.filterMap_eq_nil_iff.mpr h]
      rfl
    · rw [List.filterMap_eq_nil_iff.mpr h, List.append_nil]
      rfl
  rw [apply_draft, apply_draft, apply_draft, hlines, hresults, List.append_assoc]

end History

open History

/-- The body after any batches of edits: declarations and preparations in the order of the history,
the call inside of all scopes that were entered, then what each batch wrote after it and its results,
the latest batch first. All calls show all parameters and the variable of the last edit that gives
one. Batches can be joined if at most one writes after the call, and at most one results. -/
theorem body_of_history (settings : Settings) (s : Signature) (batches : List (List Edit)) :
    let d := batches.foldl Draft.apply (.start settings s)
    let history := batches.flatten
    d.body = Line.outermost (history.filterMap Edit.top?) ++ lines lineAbove? [] history ++
      [⟨history.count .enterScope, .nativeCall⟩] ++ linesBelow batches ++
      Line.outermost (batches.reverse.flatMap (·.filterMap Edit.bottom?)) ∧
    (∀ line ∈ d.body, line.content = .nativeCall →
      let call := settings.nativeClass ++ "." ++ s.nativeName ++ "(" ++ ", ".intercalate
        ((history.filterMap Edit.nativeParameter?).map fun p => p.argument.text) ++ ");"
      d.lineText line =
        match (latest? Edit.nativeReturn? history).bind Prod.snd with
        | some target => target ++ " = " ++ call
        | none => call) ∧
    ∀ first second,
      ((∀ e ∈ first, e.isBelow = false) ∨ ∀ e ∈ second, e.isBelow = false) →
      ((∀ e ∈ first, e.bottom? = none) ∨ ∀ e ∈ second, e.bottom? = none) →
      d.apply (first ++ second) = (d.apply first).apply second := by
  intro d history
  have hd : d = _ := foldl_apply settings s batches
  rw [hd]
  refine ⟨?_, ?_, fun first second => apply_append⟩
  · rw [Draft.body]
    simp only [List.append_assoc, List.cons_append, List.nil_append]
    rfl
  · rintro ⟨depth, content⟩ - rfl
    rw [Draft.lineText, Draft.callText]
    rfl

def straySignature : Signature where
  nativeName := "sp_f"
  managedName := "F"
  parameters := []
  returns := .named "void"

def strayEdits : List (List Edit) :=
  [[.exitScope, .enterScope, .afterCall (.verbatim "first();") 1],
    [.exitScope, .exitScope, .recall, .beforeCall (.verbatim "second();")]]

theorem body_of_history_stray :
    let d := strayEdits.foldl Draft.apply (.start {} straySignature)
    d.body = [⟨1, .statement (.verbatim "second();")⟩, ⟨1, .nativeCall⟩, ⟨0, .nativeCall⟩,
      ⟨2, .statement (.verbatim "first();")⟩] ∧
    d.apply ([.exitScope, .recall] ++ [.enterScope, .bottom (.verbatim "third();")]) =
      (d.apply [.exitScope, .recall]).apply [.enterScope, .bottom (.verbatim "third();")] := by
  obtain ⟨hbody, -, happend⟩ := body_of_history {} straySignature strayEdits
  exact ⟨hbody.trans (by decide), happend _ _ (.inr (by decide)) (.inl (by decide))⟩

end NativeBindings
