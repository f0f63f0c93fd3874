import NativeBindings.Draft.Fragments
import NativeBindings.Proofs.Body

namespace NativeBindings

def Statement.isPlain : Statement → Bool
  | .openBuffer _ _ | .openText _ _ | .openBlock | .closeBlock | .verbatim _ => false
  | _ => true

def Statement.isUsing : Statement → Bool
  | .openBuffer _ _ | .openText _ _ => true
  | _ => false

namespace LineContent

def isPlain : LineContent → Bool
  | .statement s => s.isPlain
  | .nativeCall => true

def isUsing : LineContent → Bool
  | .statement s => s.isUsing
  | .nativeCall => false

theorem not_isUsing_of_isPlain {content : LineContent} (h : content.isPlain = true) :
    content.isUsing = false := by
  cases content with
  | nativeCall => rfl
  | statement s => cases s <;> first | rfl | cases h

end LineContent

def Draft.headers (d : Draft) : List LineContent :=
  (d.body.map Line.content).filter LineContent.isUsing

section Text

theorem ne_of_last_ne {a b : String} (h : a.toList.getLast? ≠ b.toList.getLast?) : a ≠ b := by
  rintro rfl
  exact h rfl

theorem append_ne_brace (a : String) {last : String}
    (h : last.toList.getLast? = some ';' ∨ last.toList.getLast? = some ')') :
    a ++ last ≠ "\x7b" ∧ a ++ last ≠ "\x7d" := by
  have hlast : (a ++ last).toList.getLast? = last.toList.getLast? := by
    rw [String.toList_append, List.getLast?_append]
    rcases h with h | h <;> rw [h] <;> rfl
  constructor <;> apply ne_of_last_ne <;> rw [hlast] <;> rcases h with h | h <;> rw [h] <;> decide

theorem Statement.text_ne_brace {s : Statement} (h : s.isPlain = true ∨ s.isUsing = true) :
    s.text ≠ "\x7b" ∧ s.text ≠ "\x7d" := by
  cases s with
  | openBlock | closeBlock | verbatim => rcases h with h | h <;> cases h
  | openBuffer | openText | ifFull => exact append_ne_brace _ (.inr rfl)
  | declare | growBuffer | readBuffer | check | giveBack => exact append_ne_brace _ (.inl rfl)

theorem Draft.callText_ne_brace (d : Draft) : d.callText ≠ "\x7b" ∧ d.callText ≠ "\x7d" := by
  rw [Draft.callText]
  cases d.returnVariable with
  | none => exact append_ne_brace _ (.inl rfl)
  | some target =>
    dsimp only
    rw [← String.append_assoc]
    exact append_ne_brace _ (.inl rfl)

theorem Draft.lineText_ne_brace (d : Draft) (line : Line)
    (h : line.content.isPlain = true ∨ line.content.isUsing = true) :
    d.lineText line ≠ "\x7b" ∧ d.lineText line ≠ "\x7d" := by
  obtain ⟨depth, content⟩ := line
  cases content with
  | statement s => exact s.text_ne_brace h
  | nativeCall => exact d.callText_ne_brace

end Text

/-- The depth before each line and at the end, where an opening brace counts up after its line and a
closing one counts down before it. -/
def braceDepths (depth : Int) : List String → List Int × Int
  | [] => ([], depth)
  | text :: rest =>
    let before := if text = "\x7d" then depth - 1 else depth
    let after := if text = "\x7b" then before + 1 else before
    (before :: (braceDepths after rest).1, (braceDepths after rest).2)

theorem braceDepths_plain {text : String} (h : text ≠ "\x7b" ∧ text ≠ "\x7d") (depth : Int)
    (rest : List String) :
    braceDepths depth (text :: rest) =
      (depth :: (braceDepths depth rest).1, (braceDepths depth rest).2) := by
  simp only [braceDepths, if_neg h.1, if_neg h.2]

inductive Nested : Nat → List Line → Prop
  | nil {depth : Nat} : Nested depth []
  | line {depth : Nat} {content : LineContent} {rest : List Line} (hplain : content.isPlain = true)
      (hrest : Nested depth rest) : Nested depth (⟨depth, content⟩ :: rest)
  | block {depth : Nat} {header : LineContent} {inner rest : List Line}
      (hheader : header.isPlain = true ∨ header.isUsing = true) (hinner : Nested (depth + 1) inner)
      (hrest : Nested depth rest) :
      Nested depth (⟨depth, header⟩ :: ⟨depth, .statement .openBlock⟩ ::
        (inner ++ ⟨depth, .statement .closeBlock⟩ :: rest))

namespace Nested

variable {depth : Nat} {lines more : List Line}

theorem append (h : Nested depth lines) (hmore : Nested depth more) :
    Nested depth (lines ++ more) := by
  induction h with
  | nil => exact hmore
  | line hplain _ ih => exact .line hplain (ih hmore)
  | block hheader hinner _ _ ih =>
    rw [List.cons_append, List.cons_append, List.append_assoc, List.cons_append]
    exact .block hheader hinner (ih hmore)

theorem outermost {statements : List Statement} (h : ∀ s ∈ statements, s.isPlain = true) :
    Nested 0 (Line.outermost statements) := by
  induction statements with
  | nil => exact .nil
  | cons s statements ih =>
    have hs : LineContent.isPlain (.statement s) = true := h s List.mem_cons_self
    exact .line hs (ih fun s' hs' => h s' (List.mem_cons_of_mem s hs'))

theorem braceDepths_append (h : Nested depth lines) (d : Draft) (rest : List String) :
    braceDepths depth (lines.map d.lineText ++ rest) =
      (lines.map (fun line => (line.depth : Int)) ++ (braceDepths depth rest).1,
        (braceDepths depth rest).2) := by
  induction h generalizing rest with
  | nil => rfl
  | @line depth content more hplain _ ih =>
    rw [List.map_cons, List.cons_append, braceDepths_plain (d.lineText_ne_brace _ (.inl hplain)), ih]
    rfl
  | @block depth header inner more hheader _ _ ihinner ih =>
    have hopening (rest : List String) :
        braceDepths depth (d.lineText ⟨depth, .statement .openBlock⟩ :: rest) =
          ((depth : Int) :: (braceDepths (depth + 1 : Nat) rest).1,
            (braceDepths (depth + 1 : Nat) rest).2) := rfl
    have hclosing (rest : List String) :
        braceDepths (depth + 1 : Nat) (d.lineText ⟨depth, .statement .closeBlock⟩ :: rest) =
          ((depth : Int) :: (braceDepths depth rest).1, (braceDepths depth rest).2) := by
      have hback : ((depth + 1 : Nat) : Int) - 1 = depth := by omega
      rw [← hback]
      rfl
    have hplain := braceDepths_plain (d.lineText_ne_brace ⟨depth, header⟩ hheader) depth
    simp only [List.map_cons, List.map_append, List.cons_append, List.append_assoc, hplain,
      hopening, ihinner, hclosing, ih]

theorem braceDepths_eq (h : Nested 0 lines) (d : Draft) :
    braceDepths 0 (lines.map d.lineText) = (lines.map fun line => (line.depth : Int), 0) := by
  have happend := h.braceDepths_append d []
  rw [List.append_nil] at happend
  rw [show (0 : Int) = ((0 : Nat) : Int) from rfl, happend]
  simp only [braceDepths, List.append_nil]

theorem openBlock_of_isUsing (h : Nested depth lines) {line : Line} {rest : List Line}
    (hsuffix : line :: rest <:+ lines) (hline : line.content.isUsing = true) :
    rest.head? = some ⟨line.depth, .statement .openBlock⟩ := by
  induction h generalizing line rest with
  | nil => simp at hsuffix
  | @line depth content more hplain _ ih =>
    rcases List.suffix_cons_iff.mp hsuffix with heq | hmore
    · obtain ⟨rfl, rfl⟩ := List.cons.inj heq
      rw [LineContent.not_isUsing_of_isPlain hplain] at hline
      cases hline
    · exact ih hmore hline
  | @block depth header inner more hheader _ _ ihinner ih =>
    rcases List.suffix_cons_iff.mp hsuffix with heq | hsuffix
    · obtain ⟨rfl, rfl⟩ := List.cons.inj heq
      rfl
    rcases List.suffix_cons_iff.mp hsuffix with heq | hsuffix
    · obtain ⟨rfl, rfl⟩ := List.cons.inj heq
      cases hline
    -- The line stands inside of the block, or else at its closing brace or after it.
    obtain ⟨before, heq⟩ := hsuffix
    rcases List.append_eq_append_iff.mp heq with ⟨after, hinner, hrest⟩ | ⟨after, -, hrest⟩
    · cases after with
      | nil =>
        obtain ⟨rfl, rfl⟩ := List.cons.inj hrest
        cases hline
      | cons first after =>
        rw [List.cons_append] at hrest
        obtain ⟨rfl, rfl⟩ := List.cons.inj hrest
        have hhead := ihinner ⟨before, hinner.symm⟩ hline
        rw [List.head?_append, hhead]
        rfl
    · rcases List.suffix_cons_iff.mp ⟨after, hrest.symm⟩ with heq | hmore
      · obtain ⟨rfl, rfl⟩ := List.cons.inj heq
        cases hline
      · exact ih hmore hline

end Nested

def Scope.headers (scopes : List Scope) : List LineContent :=
  scopes.map fun scope => .statement scope.header

structure Scope.Tidy (scope : Scope) : Prop where
  header : scope.header.isUsing = true
  nested : ∀ depth, Nested depth (scope.inner.map (Line.deepen depth))
  inner : (scope.inner.map Line.content).filter LineContent.isUsing = []

theorem Nested.wrap {scopes : List Scope} (hscopes : ∀ scope ∈ scopes, scope.Tidy) {depth : Nat}
    {inner : List Line} (hinner : Nested (depth + scopes.length) inner) :
    Nested depth (Scope.wrap depth scopes inner) := by
  induction scopes generalizing depth with
  | nil => exact hinner
  | cons scope scopes ih =>
    have htidy := hscopes scope List.mem_cons_self
    have hdepth : depth + (scope :: scopes).length = depth + 1 + scopes.length := by
      rw [List.length_cons]
      omega
    rw [hdepth] at hinner
    have hwrap : Nested (depth + 1) (Scope.wrap (depth + 1) scopes inner) :=
      ih (fun scope' h => hscopes scope' (List.mem_cons_of_mem scope h)) hinner
    have hheader : LineContent.isPlain (.statement scope.header) = true ∨
        LineContent.isUsing (.statement scope.header) = true := .inr htidy.header
    have hblock : Nested depth _ :=
      .block hheader (hwrap.append (htidy.nested (depth + 1))) .nil
    simpa only [Scope.wrap, Scope.opening, Scope.closing, List.cons_append, List.nil_append,
      List.append_assoc] using hblock

theorem headers_wrap {scopes : List Scope} (hscopes : ∀ scope ∈ scopes, scope.Tidy) (depth : Nat)
    (inner : List Line) :
    ((Scope.wrap depth scopes inner).map Line.content).filter LineContent.isUsing =
      Scope.headers scopes ++ (inner.map Line.content).filter LineContent.isUsing := by
  induction scopes generalizing depth with
  | nil => rfl
  | cons scope scopes ih =>
    have htidy := hscopes scope List.mem_cons_self
    have hrest := ih (fun scope' h => hscopes scope' (List.mem_cons_of_mem scope h)) (depth + 1)
    have hheader : LineContent.isUsing (.statement scope.header) = true := htidy.header
    have hopen : LineContent.isUsing (.statement .openBlock) = false := rfl
    have hclose : LineContent.isUsing (.statement .closeBlock) = false := rfl
    have hdeepen : Line.content ∘ Line.deepen (depth + 1) = Line.content := rfl
    have hinner := htidy.inner
    rw [Scope.wrap, Scope.opening, Scope.closing]
    simp only [List.map_append, List.filter_append, hrest, List.map_map, hdeepen, hinner]
    simp [hheader, hopen, hclose, Scope.headers]

/-- The blocks that are open at a line of a body, innermost first, those that were closed before it,
in their order, and those that were open at each native call. A block stands for its header. -/
structure Blocks where
  opened : List LineContent := []
  closed : List LineContent := []
  calls : List (List LineContent) := []
  /-- The line before, unless it is a brace. -/
  previous : Option LineContent := none

def Blocks.step (d : Draft) (b : Blocks) (line : Line) : Option Blocks :=
  if d.lineText line = "\x7b" then
    b.previous.map fun header => { b with opened := header :: b.opened, previous := none }
  else if d.lineText line = "\x7d" then
    match b.opened with
    | [] => none
    | header :: opened =>
      some { b with opened := opened, closed := b.closed ++ [header], previous := none }
  else
    some { b with
      calls := if line.content = .nativeCall then b.calls ++ [b.opened] else b.calls
      previous := some line.content }

namespace Blocks

variable {d : Draft} {b : Blocks} {depth : Nat}

theorem step_plain {s : Statement} (h : s.isPlain = true ∨ s.isUsing = true) :
    b.step d ⟨depth, .statement s⟩ = some { b with previous := some (.statement s) } := by
  obtain ⟨hopen, hclose⟩ := d.lineText_ne_brace ⟨depth, .statement s⟩ h
  rw [step, if_neg hopen, if_neg hclose]
  rfl

theorem step_nativeCall :
    b.step d ⟨depth, .nativeCall⟩ =
      some { b with calls := b.calls ++ [b.opened], previous := some .nativeCall } := by
  obtain ⟨hopen, hclose⟩ := d.lineText_ne_brace ⟨depth, .nativeCall⟩ (.inl rfl)
  rw [step, if_neg hopen, if_neg hclose]
  rfl

theorem step_openBlock {opened closed : List LineContent} {calls : List (List LineContent)}
    {header : LineContent} :
    step d ⟨opened, closed, calls, some header⟩ ⟨depth, .statement .openBlock⟩ =
      some ⟨header :: opened, closed, calls, none⟩ := rfl

theorem step_closeBlock {opened closed : List LineContent} {calls : List (List LineContent)}
    {header : LineContent} {previous : Option LineContent} :
    step d ⟨header :: opened, closed, calls, previous⟩ ⟨depth, .statement .closeBlock⟩ =
      some ⟨opened, closed ++ [header], calls, none⟩ := rfl

theorem foldlM_plain {lines : List Line}
    (h : ∀ line ∈ lines, ∃ s, line.content = .statement s ∧ s.isPlain = true) :
    ∃ previous, lines.foldlM (step d) b = some { b with previous := previous } := by
  induction lines generalizing b with
  | nil => exact ⟨b.previous, rfl⟩
  | cons line lines ih =>
    obtain ⟨s, hs, hplain⟩ := h line List.mem_cons_self
    obtain ⟨depth, content⟩ := line
    obtain rfl : content = .statement s := hs
    rw [List.foldlM_cons, step_plain (.inl hplain)]
    exact ih fun line' hline' => h line' (List.mem_cons_of_mem _ hline')

theorem foldlM_opening {scope : Scope} (h : scope.header.isUsing = true) :
    (scope.opening depth).foldlM (step d) b =
      some { b with opened := .statement scope.header :: b.opened, previous := none } := by
  have hheader : b.step d ⟨depth, .statement scope.header⟩ = _ := step_plain (.inr h)
  rw [Scope.opening, List.foldlM_cons, hheader]
  rfl

theorem foldlM_wrap {scopes : List Scope}
    (hscopes : ∀ scope ∈ scopes, scope.header.isUsing = true ∧
      ∀ line ∈ scope.inner, ∃ s, line.content = .statement s ∧ s.isPlain = true)
    {inner : List Line} {opened closed : List LineContent} {calls : List (List LineContent)}
    (hopened : opened = (Scope.headers scopes).reverse ++ b.opened)
    (hinner : ∀ previous, ∃ previous',
      inner.foldlM (step d) ⟨opened, b.closed, b.calls, previous⟩ =
        some ⟨opened, closed, calls, previous'⟩) :
    ∃ previous, (Scope.wrap depth scopes inner).foldlM (step d) b =
      some ⟨b.opened, closed ++ (Scope.headers scopes).reverse, calls, previous⟩ := by
  induction scopes generalizing depth b with
  | nil =>
    obtain rfl : opened = b.opened := hopened
    obtain ⟨previous, h⟩ := hinner b.previous
    refine ⟨previous, ?_⟩
    rw [Scope.wrap, h, Scope.headers, List.map_nil, List.reverse_nil, List.append_nil]
  | cons scope scopes ih =>
    obtain ⟨hheader, hplain⟩ := hscopes scope List.mem_cons_self
    have hheaders : (Scope.headers (scope :: scopes)).reverse =
        (Scope.headers scopes).reverse ++ [.statement scope.header] := by
      rw [Scope.headers, List.map_cons, List.reverse_cons]
      rfl
    have hdeeper : opened =
        (Scope.headers scopes).reverse ++ .statement scope.header :: b.opened := by
      rw [hopened, hheaders, List.append_assoc]
      rfl
    obtain ⟨afterScopes, hwrap⟩ := ih
      (b := { b with opened := .statement scope.header :: b.opened, previous := none })
      (fun scope' h => hscopes scope' (List.mem_cons_of_mem scope h)) hdeeper hinner
    have hdeepened : ∀ line ∈ scope.inner.map (Line.deepen (depth + 1)),
        ∃ s, line.content = .statement s ∧ s.isPlain = true := by
      intro line hline
      obtain ⟨line', hline', rfl⟩ := List.mem_map.mp hline
      exact hplain line' hline'
    obtain ⟨afterInner, hlines⟩ := foldlM_plain (d := d) (b := ⟨.statement scope.header :: b.opened,
      closed ++ (Scope.headers scopes).reverse, calls, afterScopes⟩) hdeepened
    refine ⟨none, ?_⟩
    rw [Scope.wrap, List.foldlM_append, List.foldlM_append, foldlM_opening hheader]
    simp only [Option.bind_eq_bind, Option.bind_some]
    rw [hwrap]
    simp only [Option.bind_some, Scope.closing, List.foldlM_append, Option.bind_eq_bind]
    rw [hlines, hheaders, ← List.append_assoc]
    rfl

theorem foldlM_growth {scope : Scope} {holder : String} (hheader : scope.header.isUsing = true)
    (hinner : scope.inner = Commit.growthLines holder) :
    (scope.opening depth ++ [Line.mk (depth + 1) .nativeCall] ++ scope.closing depth).foldlM
        (step d) b =
      some ⟨b.opened,
        b.closed ++ [.statement (.ifFull holder Rule.lengthVariable), .statement scope.header],
        b.calls ++ List.replicate 2 (.statement scope.header :: b.opened), none⟩ := by
  have hfull : (Statement.ifFull holder Rule.lengthVariable).isPlain = true := rfl
  have hgrow : (Statement.growBuffer holder Rule.lengthVariable Rule.terminatorSize).isPlain = true :=
    rfl
  have hread : (Statement.readBuffer Rule.textVariable holder
    (some Rule.lengthVariable)).isPlain = true := rfl
  rw [List.foldlM_append, List.foldlM_append, foldlM_opening hheader, Scope.closing, hinner]
  simp only [Commit.growthLines, List.map_cons, List.map_nil, Line.deepen, List.cons_append,
    List.nil_append, List.foldlM_cons, List.foldlM_nil, Option.bind_eq_bind, Option.pure_def,
    Option.bind_some, step_nativeCall, step_plain (.inl hfull), step_openBlock,
    step_plain (.inl hgrow), step_closeBlock, step_plain (.inl hread), List.append_assoc]
  rfl

theorem foldlM_body {declarations results : List Statement} {scopes : List Scope}
    {inner : List Line} {closed : List LineContent} {calls : List (List LineContent)}
    (hdeclarations : ∀ s ∈ declarations, s.isPlain = true)
    (hresults : ∀ s ∈ results, s.isPlain = true)
    (hscopes : ∀ scope ∈ scopes, scope.header.isUsing = true ∧
      ∀ line ∈ scope.inner, ∃ s, line.content = .statement s ∧ s.isPlain = true)
    (hinner : ∀ previous, ∃ previous',
      inner.foldlM (step d) ⟨(Scope.headers scopes).reverse, [], [], previous⟩ =
        some ⟨(Scope.headers scopes).reverse, closed, calls, previous'⟩) :
    ∃ previous, (Line.outermost declarations ++ Scope.wrap 0 scopes inner ++
        Line.outermost results).foldlM (step d) {} =
      some ⟨[], closed ++ (Scope.headers scopes).reverse, calls, previous⟩ := by
  have houtermost {statements : List Statement} (h : ∀ s ∈ statements, s.isPlain = true) :
      ∀ line ∈ Line.outermost statements,
        ∃ s, line.content = .statement s ∧ s.isPlain = true := by
    intro line hline
    obtain ⟨s, hs, rfl⟩ := List.mem_map.mp hline
    exact ⟨s, rfl, h s hs⟩
  obtain ⟨first, hfirst⟩ := foldlM_plain (d := d) (b := {}) (houtermost hdeclarations)
  have hopened : (Scope.headers scopes).reverse = (Scope.headers scopes).reverse ++ [] :=
    (List.append_nil _).symm
  obtain ⟨second, hsecond⟩ : ∃ previous,
      (Scope.wrap 0 scopes inner).foldlM (step d) { previous := first } =
        some ⟨[], closed ++ (Scope.headers scopes).reverse, calls, previous⟩ :=
    foldlM_wrap hscopes hopened hinner
  obtain ⟨third, hthird⟩ := foldlM_plain (d := d)
    (b := ⟨[], closed ++ (Scope.headers scopes).reverse, calls, second⟩) (houtermost hresults)
  refine ⟨third, ?_⟩
  rw [List.foldlM_append, List.foldlM_append, hfirst]
  simp only [Option.bind_eq_bind, Option.bind_some]
  rw [hsecond]
  exact hthird

end Blocks

namespace Commit

variable {settings : Settings} {c : Commit} {st : Statement} {scope : Scope}

theorem declarations_plain (h : st ∈ c.declarations) : st.isPlain = true := by
  cases c with
  | growableText =>
    rcases List.mem_cons.mp h with rfl | h
    · rfl
    · rw [List.mem_singleton.mp h]
      rfl
  | fixedText | returnStatus | returnScalar | returnHandle | returnText =>
    rw [List.mem_singleton.mp h]
    rfl
  | _ => cases h

theorem results_plain (h : st ∈ c.results settings) : st.isPlain = true := by
  cases c with
  | growableText | fixedText | returnStatus | returnScalar | returnHandle | returnText =>
    rw [List.mem_singleton.mp h]
    rfl
  | _ => cases h

theorem scope_tidy (h : c.scope? = some scope) : scope.Tidy := by
  cases c with
  | growableText buffer size length =>
    cases h
    exact ⟨rfl, fun depth => .block (.inl rfl) (.line rfl .nil) (.line rfl (.line rfl .nil)), rfl⟩
  | fixedText buffer size ignored =>
    cases h
    exact ⟨rfl, fun depth => .line rfl .nil, rfl⟩
  | text q =>
    cases h
    exact ⟨rfl, fun depth => .nil, rfl⟩
  | _ => cases h

theorem scope_plain (hrule : c.rule ≠ .inl .growableText) (h : c.scope? = some scope) :
    scope.header.isUsing = true ∧
      ∀ line ∈ scope.inner, ∃ s, line.content = .statement s ∧ s.isPlain = true := by
  cases c with
  | growableText => exact absurd rfl hrule
  | fixedText buffer size ignored =>
    cases h
    refine ⟨rfl, fun line hline => ?_⟩
    rw [List.mem_singleton.mp hline]
    exact ⟨_, rfl, rfl⟩
  | text q =>
    cases h
    exact ⟨rfl, by simp⟩
  | _ => cases h

theorem scopes_tidy (commits : List Commit) : ∀ scope ∈ scopes commits, scope.Tidy := by
  intro scope hscope
  obtain ⟨c, -, hc⟩ := List.mem_filterMap.mp hscope
  exact scope_tidy hc

theorem flatMap_declarations_plain (commits : List Commit) :
    ∀ st ∈ commits.flatMap declarations, st.isPlain = true := by
  intro st hst
  obtain ⟨c, -, hc⟩ := List.mem_flatMap.mp hst
  exact declarations_plain hc

theorem flatMap_results_plain (settings : Settings) (commits : List Commit) :
    ∀ st ∈ commits.reverse.flatMap (results settings), st.isPlain = true := by
  intro st hst
  obtain ⟨c, -, hc⟩ := List.mem_flatMap.mp hst
  exact results_plain hc

theorem scopes_plain {commits : List Commit} (h : ∀ c ∈ commits, c.rule ≠ .inl .growableText) :
    ∀ scope ∈ scopes commits, scope.header.isUsing = true ∧
      ∀ line ∈ scope.inner, ∃ s, line.content = .statement s ∧ s.isPlain = true := by
  intro scope hscope
  obtain ⟨c, hc, hcommit⟩ := List.mem_filterMap.mp hscope
  exact scope_plain (h c hc) hcommit

theorem filter_headers (commits : List Commit) :
    (Scope.headers (scopes commits)).reverse.filter LineContent.isUsing =
      (Scope.headers (scopes commits)).reverse := by
  rw [List.filter_eq_self]
  intro header hheader
  obtain ⟨scope, hscope, rfl⟩ := List.mem_map.mp (List.mem_reverse.mp hheader)
  exact (scopes_tidy commits scope hscope).header

end Commit

namespace Reached

variable {settings : Settings} {s : Signature} {commits : List Commit} {w : Work}

theorem nested (h : Reached settings s commits w) : Nested 0 w.draft.body := by
  have hcall : Nested (0 + (Commit.scopes commits).length)
      [⟨(Commit.scopes commits).length, .nativeCall⟩] := by
    rw [Nat.zero_add]
    exact .line rfl .nil
  rw [h.body_eq]
  apply Nested.append
  · apply Nested.append
    · exact Nested.outermost (Commit.flatMap_declarations_plain commits)
    · exact Nested.wrap (Commit.scopes_tidy commits) hcall
  · exact Nested.outermost (Commit.flatMap_results_plain settings commits)

theorem headers_eq (h : Reached settings s commits w) :
    w.draft.headers = Scope.headers (Commit.scopes commits) := by
  have houtermost {statements : List Statement} (h : ∀ st ∈ statements, st.isPlain = true) :
      ((Line.outermost statements).map Line.content).filter LineContent.isUsing = [] := by
    rw [List.filter_eq_nil_iff]
    intro content hcontent
    obtain ⟨line, hline, rfl⟩ := List.mem_map.mp hcontent
    obtain ⟨st, hst, rfl⟩ := List.mem_map.mp hline
    have hplain : LineContent.isPlain (.statement st) = true := h st hst
    simp [LineContent.not_isUsing_of_isPlain hplain]
  rw [Draft.headers, h.body_eq, List.map_append, List.map_append, List.filter_append,
    List.filter_append, houtermost (Commit.flatMap_declarations_plain commits),
    houtermost (Commit.flatMap_results_plain settings commits),
    headers_wrap (Commit.scopes_tidy commits), List.nil_append, List.append_nil]
  exact List.append_nil _

theorem blocks_of_plain (h : Reached settings s commits w)
    (hplain : ∀ c ∈ commits, c.rule ≠ .inl .growableText) :
    ∃ b, w.draft.body.foldlM (Blocks.step w.draft) {} = some b ∧ b.opened = [] ∧
      b.closed.filter LineContent.isUsing = (Scope.headers (Commit.scopes commits)).reverse ∧
      b.calls = [(Scope.headers (Commit.scopes commits)).reverse] := by
  have hinner (previous : Option LineContent) : ∃ previous',
      [Line.mk (Commit.scopes commits).length .nativeCall].foldlM (Blocks.step w.draft)
        ⟨(Scope.headers (Commit.scopes commits)).reverse, [], [], previous⟩ =
      some ⟨(Scope.headers (Commit.scopes commits)).reverse, [],
        [(Scope.headers (Commit.scopes commits)).reverse], previous'⟩ := by
    refine ⟨some .nativeCall, ?_⟩
    rw [List.foldlM_cons, Blocks.step_nativeCall]
    rfl
  obtain ⟨previous, hbody⟩ := Blocks.foldlM_body (Commit.flatMap_declarations_plain commits)
    (Commit.flatMap_results_plain settings commits) (Commit.scopes_plain hplain) hinner
  rw [← h.body_eq] at hbody
  exact ⟨_, hbody, rfl, Commit.filter_headers commits, rfl⟩

theorem blocks_of_growableText {earlier : List Commit} {buffer size : Parameter}
    {length : ManagedType}
    (h : Reached settings s (earlier ++ [.growableText buffer size length]) w)
    (hearlier : ∀ c ∈ earlier, c.rule ≠ .inl .growableText) :
    ∃ b, w.draft.body.foldlM (Blocks.step w.draft) {} = some b ∧ b.opened = [] ∧
      b.closed.filter LineContent.isUsing = (Scope.headers
        (Commit.scopes (earlier ++ [.growableText buffer size length]))).reverse ∧
      b.calls = List.replicate 2 (Scope.headers
        (Commit.scopes (earlier ++ [.growableText buffer size length]))).reverse := by
  -- A growable buffer is the innermost scope, with both calls inside, and the block that grows it
  -- is closed before the second one.
  obtain ⟨scope, hscope, hheader, hgrowth⟩ : ∃ scope,
      (Commit.growableText buffer size length).scope? = some scope ∧
      scope.header.isUsing = true ∧
      scope.inner = Commit.growthLines (Marshalling.outputLocal buffer.name) := ⟨_, rfl, rfl, rfl⟩
  have hinner (previous : Option LineContent) : ∃ previous',
      (scope.opening (Commit.scopes earlier).length ++
        [Line.mk ((Commit.scopes earlier).length + 1) .nativeCall] ++
        scope.closing (Commit.scopes earlier).length).foldlM (Blocks.step w.draft)
        ⟨(Scope.headers (Commit.scopes earlier)).reverse, [], [], previous⟩ =
      some ⟨(Scope.headers (Commit.scopes earlier)).reverse,
        [.statement (.ifFull (Marshalling.outputLocal buffer.name) Rule.lengthVariable),
          .statement scope.header],
        List.replicate 2
          (.statement scope.header :: (Scope.headers (Commit.scopes earlier)).reverse),
        previous'⟩ := ⟨none, Blocks.foldlM_growth hheader hgrowth⟩
  obtain ⟨previous, hbody⟩ := Blocks.foldlM_body (Commit.flatMap_declarations_plain _)
    (Commit.flatMap_results_plain settings _) (Commit.scopes_plain hearlier) hinner
  have hscopes : Commit.scopes (earlier ++ [.growableText buffer size length]) =
      Commit.scopes earlier ++ [scope] := by
    rw [Commit.scopes_append, Commit.scopes_singleton_some hscope]
  have hheaders : (Scope.headers (Commit.scopes earlier ++ [scope])).reverse =
      .statement scope.header :: (Scope.headers (Commit.scopes earlier)).reverse := by
    rw [Scope.headers, List.map_append, List.reverse_append]
    rfl
  have hkept : LineContent.isUsing (.statement scope.header) = true := hheader
  have hdropped : LineContent.isUsing (.statement
    (.ifFull (Marshalling.outputLocal buffer.name) Rule.lengthVariable)) = false := rfl
  rw [h.body_eq, hscopes, Scope.wrap_concat, List.length_append, Nat.zero_add, hheaders]
  refine ⟨_, hbody, rfl, ?_, rfl⟩
  rw [List.filter_append, Commit.filter_headers earlier]
  simp only [List.filter_cons, hdropped, hkept, Bool.false_eq_true, if_false, if_true]
  rfl

theorem blocks_eq (h : Reached settings s commits w) :
    ∃ b, w.draft.body.foldlM (Blocks.step w.draft) {} = some b ∧ b.opened = [] ∧
      b.closed.filter LineContent.isUsing = (Scope.headers (Commit.scopes commits)).reverse ∧
      b.calls = List.replicate
        (if ParameterRule.growableText.name ∈ commits.map Commit.name then 2 else 1)
        (Scope.headers (Commit.scopes commits)).reverse := by
  by_cases hgrowable : ∃ c ∈ commits, c.rule = .inl .growableText
  · rw [if_pos (Commit.name_mem_iff.mpr hgrowable)]
    obtain ⟨earlier, before, buffer, size, length, -, -, hearlier, rfl, -⟩ :=
      h.growableText_last hgrowable
    exact h.blocks_of_growableText hearlier
  · rw [if_neg (mt Commit.name_mem_iff.mp hgrowable)]
    exact h.blocks_of_plain fun c hc hrule => hgrowable ⟨c, hc, hrule⟩

end Reached

variable {settings : Settings} {s : Signature}

/-- Braces count the recorded depth of every line, from zero to zero. The headers that own a buffer or
a text are followed by their braces, are closed in the reverse order of their opening, and all of them
are open at each native call, of which there is a second one where a growable buffer was bound. -/
theorem body_nested {d : Draft} (h : bindFunction settings s = .ok d) :
    braceDepths 0 (d.body.map d.lineText) = (d.body.map fun line => (line.depth : Int), 0) ∧
    (∀ before line rest, d.body = before ++ line :: rest → line.content.isUsing = true →
      rest.head? = some ⟨line.depth, .statement .openBlock⟩) ∧
    (∃ b, d.body.foldlM (Blocks.step d) {} = some b ∧ b.opened = [] ∧
      b.closed.filter LineContent.isUsing = d.headers.reverse ∧
      b.calls = List.replicate
        (if ParameterRule.growableText.name ∈ committedRules settings s then 2 else 1)
        d.headers.reverse) ∧
    d.nesting =
      { above := d.headers.length, below := d.headers.length - 1,
        entered := d.headers.length, exited := d.headers.length } := by
  obtain ⟨commits, w, hw, rfl, -, -, hnames⟩ := Reached.of_bindFunction h
  refine ⟨hw.nested.braceDepths_eq w.draft, ?_, ?_, ?_⟩
  · intro before line rest hbody hline
    exact hw.nested.openBlock_of_isUsing ⟨before, hbody.symm⟩ hline
  · rw [hnames, hw.headers_eq]
    exact hw.blocks_eq
  · rw [hw.nesting_eq, hw.headers_eq, Scope.headers, List.length_map]

def searchSignature : Signature where
  nativeName := "sp_search_suggestion"
  managedName := "Suggestion"
  parameters :=
    [⟨"query", .pointer (.named "char")⟩, ⟨"suggestion", .pointer (.named "char")⟩,
      ⟨"size", .named "int"⟩]
  returns := .named "int"

theorem body_nested_search :
    ∃ d, bindFunction {} searchSignature = .ok d ∧
      d.nesting = { above := 2, below := 1, entered := 2, exited := 2 } ∧
      ∃ b, d.body.foldlM (Blocks.step d) {} = some b ∧ b.opened = [] ∧
        b.calls = [d.headers.reverse, d.headers.reverse] := by
  obtain ⟨d, hd⟩ : ∃ d, bindFunction {} searchSignature = .ok d := exists_draft (by decide +kernel)
  obtain ⟨-, -, ⟨b, hb, hopened, -, hcalls⟩, hnesting⟩ := body_nested hd
  have hgrowable : ParameterRule.growableText.name ∈ committedRules {} searchSignature := by
    decide +kernel
  have hheaders : (bindFunction {} searchSignature).toOption.map (·.headers.length) = some 2 := by
    decide +kernel
  rw [hd] at hheaders
  have hlength : d.headers.length = 2 := Option.some.inj hheaders
  rw [hlength] at hnesting
  rw [if_pos hgrowable] at hcalls
  exact ⟨d, hd, hnesting, b, hb, hopened, hcalls⟩

end NativeBindings
