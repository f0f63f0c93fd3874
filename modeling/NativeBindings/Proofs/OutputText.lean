import NativeBindings.Proofs.Exit
import NativeBindings.Proofs.GrowableText
import NativeBindings.Proofs.Nested

namespace NativeBindings

namespace Scope

variable {scopes : List Scope}

def openings : Nat → List Scope → List Line
  | _, [] => []
  | depth, scope :: scopes => scope.opening depth ++ openings (depth + 1) scopes

def closings : Nat → List Scope → List Line
  | _, [] => []
  | depth, scope :: scopes => closings (depth + 1) scopes ++ scope.closing depth

theorem wrap_append (outer scopes : List Scope) (depth : Nat) (inner : List Line) :
    wrap depth (outer ++ scopes) inner =
      openings depth outer ++ wrap (depth + outer.length) scopes inner ++ closings depth outer := by
  induction outer generalizing depth with
  | nil => exact (List.append_nil _).symm
  | cons scope outer ih =>
    have hdepth : depth + (scope :: outer).length = depth + 1 + outer.length := by
      rw [List.length_cons]
      omega
    rw [hdepth]
    simp only [List.cons_append, wrap, ih, openings, closings, List.append_assoc]

/-- What stands inside of a scope before its last line, with the scopes outside of it opened. -/
def leading (outer : List Scope) (header : Statement) (scopes : List Scope)
    (inner front : List Line) : List Line :=
  openings 0 outer ++ opening outer.length { header := header } ++
    wrap (outer.length + 1) scopes inner ++ front.map (Line.deepen (outer.length + 1))

theorem wrap_eq_leading (outer scopes : List Scope) (header : Statement) (inner front : List Line)
    (content : LineContent) :
    wrap 0 (outer ++ { header := header, inner := front ++ [⟨0, content⟩] } :: scopes) inner =
      leading outer header scopes inner front ++
        ⟨outer.length + 1, content⟩ :: ⟨outer.length, .statement .closeBlock⟩ ::
          closings 0 outer := by
  simp only [wrap_append, wrap, leading, opening, closing, Nat.zero_add, List.map_append,
    List.map_cons, List.map_nil, Line.deepen, Nat.add_zero, List.append_assoc, List.cons_append,
    List.nil_append]

theorem mem_leading {outer : List Scope} {header : Statement} {inner front : List Line}
    {line : Line} (h : line ∈ inner) : line ∈ leading outer header scopes inner front :=
  List.mem_append_left _ (List.mem_append_right _ (mem_wrap h))

theorem content_of_mem_closings (hscopes : ∀ scope ∈ scopes, scope.inner = []) {depth : Nat}
    {line : Line} (h : line ∈ closings depth scopes) : line.content = .statement .closeBlock := by
  induction scopes generalizing depth with
  | nil => cases h
  | cons scope scopes ih =>
    rcases List.mem_append.mp h with h | h
    · exact ih (fun scope' hscope => hscopes scope' (List.mem_cons_of_mem scope hscope)) h
    · rw [closing, hscopes scope List.mem_cons_self] at h
      rw [List.mem_singleton.mp h]

end Scope

namespace Blocks

theorem step_header (d : Draft) (b : Blocks) (depth : Nat) {content : LineContent}
    (h : content.isPlain = true ∨ content.isUsing = true) :
    ∃ b', b.step d ⟨depth, content⟩ = some b' ∧ b'.opened = b.opened ∧
      b'.previous = some content := by
  cases content with
  | statement st => exact ⟨_, step_plain h, rfl, rfl⟩
  | nativeCall => exact ⟨_, step_nativeCall, rfl, rfl⟩

theorem foldlM_nested {depth : Nat} {lines : List Line} (h : Nested depth lines) (d : Draft)
    (b : Blocks) :
    ∃ b', lines.foldlM (step d) b = some b' ∧ b'.opened = b.opened := by
  induction h generalizing b with
  | nil => exact ⟨b, rfl, rfl⟩
  | @line depth content rest hplain _ ih =>
    obtain ⟨first, hfirst, hopened, -⟩ := step_header d b depth (.inl hplain)
    obtain ⟨last, hlast, hrest⟩ := ih first
    refine ⟨last, ?_, hrest.trans hopened⟩
    rw [List.foldlM_cons, hfirst]
    exact hlast
  | @block depth header inner rest hheader _ _ ihinner ih =>
    obtain ⟨⟨_, closed, calls, _⟩, hfirst, rfl, rfl⟩ := step_header d b depth hheader
    obtain ⟨⟨_, closed, calls, previous⟩, hinner, rfl⟩ :=
      ihinner ⟨header :: b.opened, closed, calls, none⟩
    obtain ⟨last, hlast, hrest⟩ := ih ⟨b.opened, closed ++ [header], calls, none⟩
    refine ⟨last, ?_, hrest⟩
    simp only [List.foldlM_cons, List.foldlM_append, hfirst, step_openBlock, hinner,
      step_closeBlock, Option.bind_eq_bind, Option.bind_some, hlast]

theorem foldlM_openings {scopes : List Scope} (h : ∀ scope ∈ scopes, scope.header.isUsing = true)
    (d : Draft) (b : Blocks) (depth : Nat) :
    ∃ previous, (Scope.openings depth scopes).foldlM (step d) b =
      some { b with
        opened := (Scope.headers scopes).reverse ++ b.opened
        previous := previous } := by
  induction scopes generalizing depth b with
  | nil => exact ⟨b.previous, rfl⟩
  | cons scope scopes ih =>
    have hscopes : ∀ scope' ∈ scopes, scope'.header.isUsing = true := fun scope' hscope =>
      h scope' (List.mem_cons_of_mem scope hscope)
    obtain ⟨previous, hrest⟩ := ih hscopes
      { b with opened := .statement scope.header :: b.opened, previous := none } (depth + 1)
    refine ⟨previous, ?_⟩
    rw [Scope.openings, List.foldlM_append, foldlM_opening (h scope List.mem_cons_self)]
    simp only [Option.bind_eq_bind, Option.bind_some, hrest, Scope.headers, List.map_cons,
      List.reverse_cons, List.append_assoc, List.cons_append, List.nil_append]

theorem foldlM_leading {outer scopes : List Scope} {header : Statement} {inner front : List Line}
    (houter : ∀ scope ∈ outer, scope.Tidy) (hheader : header.isUsing = true)
    (hinner : Nested (outer.length + 1) (Scope.wrap (outer.length + 1) scopes inner))
    (hfront : Nested (outer.length + 1) (front.map (Line.deepen (outer.length + 1)))) (d : Draft)
    (b : Blocks) :
    ∃ b', (Scope.leading outer header scopes inner front).foldlM (step d) b = some b' ∧
      b'.opened = .statement header :: ((Scope.headers outer).reverse ++ b.opened) := by
  obtain ⟨previous, houtside⟩ :=
    foldlM_openings (fun scope hscope => (houter scope hscope).header) d b 0
  generalize (Scope.headers outer).reverse ++ b.opened = opened at houtside ⊢
  have hopening : (Scope.opening outer.length { header := header }).foldlM (step d)
        { b with opened := opened, previous := previous } =
      some { b with opened := .statement header :: opened, previous := none } :=
    foldlM_opening hheader
  obtain ⟨second, hsecond, hopened⟩ :=
    foldlM_nested hinner d { b with opened := .statement header :: opened, previous := none }
  obtain ⟨last, hlast, hrest⟩ := foldlM_nested hfront d second
  refine ⟨last, ?_, hrest.trans hopened⟩
  simp only [Scope.leading, List.foldlM_append, houtside, hopening, hsecond, hlast,
    Option.bind_eq_bind, Option.bind_some]

end Blocks

def Draft.assigned? (d : Draft) : LineContent → Option String
  | .nativeCall => d.returnVariable
  | .statement (.readBuffer target _ _) => some target
  | _ => none

variable {settings : Settings} {s : Signature} {commits : List Commit} {w : Work} {c : Commit}

namespace Commit

def buffer? : Commit → Option Parameter
  | growableText buffer _ _ | fixedText buffer _ _ => some buffer
  | _ => none

theorem buffer?_isSome_iff :
    c.buffer?.isSome = true ↔ c.rule = .inl .growableText ∨ c.rule = .inl .fixedText := by
  cases c <;> simp [buffer?, rule]

theorem scopes_around {scope : Scope} (h : c.scope? = some scope) (earlier later : List Commit) :
    scopes (earlier ++ c :: later) = scopes earlier ++ scope :: scopes later := by
  simp only [scopes, List.filterMap_append, List.filterMap_cons_some h]

theorem isPassing_of_mayContinue (h : c.mayContinue = true) (hbuffer : c.buffer?.isSome = false) :
    c.isPassing = true := by
  cases c with
  | scalar | receiver | handle | text | reference => rfl
  | fixedText => cases hbuffer
  | _ => cases h

theorem inner_of_passing (h : ∀ c ∈ commits, c.isPassing = true) :
    ∀ scope ∈ scopes commits, scope.inner = [] := by
  rw [scopes_of_passing h]
  intro scope hscope
  obtain ⟨q, -, rfl⟩ := List.mem_map.mp hscope
  rfl

theorem scope_of_buffer {buffer : Parameter} (h : c.buffer? = some buffer) :
    ∃ front length, c.scope? = some
        { header := .openBuffer (Marshalling.outputLocal buffer.name) Rule.bufferCapacity
          inner := front ++ [⟨0, .statement (.readBuffer Rule.textVariable
            (Marshalling.outputLocal buffer.name) length)⟩] } ∧
      ∀ depth, Nested depth (front.map (Line.deepen depth)) := by
  cases c with
  | growableText =>
    cases h
    exact ⟨(growthLines (Marshalling.outputLocal buffer.name)).dropLast, some Rule.lengthVariable,
      rfl, fun depth => .block (.inl rfl) (.line rfl .nil) (.line rfl .nil)⟩
  | fixedText =>
    cases h
    exact ⟨[], none, rfl, fun depth => .nil⟩
  | _ => cases h

theorem results_of_buffer (h : c.buffer?.isSome = true) :
    c.results settings = [.giveBack (.var Rule.textVariable)] := by
  cases c with
  | growableText | fixedText => rfl
  | _ => cases h

theorem results_of_first_buffer {earlier later : List Commit} (hown : c.buffer?.isSome = true)
    (hearlier : ∀ c' ∈ earlier, c'.isPassing = true) :
    (earlier ++ c :: later).reverse.flatMap (results settings) =
      later.reverse.flatMap (results settings) ++ [.giveBack (.var Rule.textVariable)] := by
  -- The results of later rules come first, so the text of the first buffer is given back last.
  simp only [List.reverse_append, List.reverse_cons, List.flatMap_append, List.flatMap_cons,
    List.flatMap_nil, results_of_passing hearlier, results_of_buffer hown, List.append_nil]

theorem managedReturn_of_buffer (h : c.buffer?.isSome = true) :
    c.managedReturn? = some .string := by
  cases c with
  | growableText | fixedText => rfl
  | _ => cases h

theorem givesValue_of_managedReturn {type : ManagedType} (h : c.managedReturn? = some type) :
    c.givesValue = true := by
  cases c with
  | growableText | fixedText | returnScalar | returnHandle | returnText => rfl
  | _ => cases h

theorem Fits.buffer {p : Progress} {buffer : Parameter} (h : c.Fits settings p)
    (hbuffer : c.buffer? = some buffer) :
    buffer ∈ p.signature.parameters ∧ buffer.type = .pointer (.named "char") := by
  cases c with
  | growableText =>
    cases hbuffer
    obtain ⟨hcurrent, -, htype, -⟩ := h
    exact ⟨List.mem_of_getElem? hcurrent, htype⟩
  | fixedText =>
    cases hbuffer
    obtain ⟨hcurrent, -, -, -, htype, -⟩ := h
    exact ⟨List.mem_of_getElem? hcurrent, htype⟩
  | _ => cases hbuffer

theorem exists_nativeParameter_of_buffer (settings : Settings) {buffer : Parameter}
    (h : c.buffer? = some buffer) :
    ∃ q ∈ c.nativeParameters settings,
      q.argument = .pointer (Marshalling.outputLocal buffer.name) := by
  cases c with
  | growableText | fixedText =>
    cases h
    exact ⟨_, List.mem_cons_self, rfl⟩
  | _ => cases h

end Commit

namespace Reached

theorem managedReturn_of_buffer (h : Reached settings s commits w)
    (hbuffer : ∃ c ∈ commits, c.buffer?.isSome = true) : w.draft.managedReturn = .string := by
  induction h with
  | start => simp at hbuffer
  | @step commits w last h hlast ih =>
    change last.managedReturn?.getD w.draft.managedReturn = _
    cases hown : last.buffer?.isSome with
    | true => rw [Commit.managedReturn_of_buffer hown, Option.getD_some]
    | false =>
      obtain ⟨c, hc, hsome⟩ := hbuffer
      have hc : c ∈ commits := by
        rcases List.mem_append.mp hc with hc | hc
        · exact hc
        · rw [List.mem_singleton.mp hc, hown] at hsome
          cases hsome
      cases hreturn : last.managedReturn? with
      | none => exact ih ⟨c, hc, hsome⟩
      | some type =>
        -- Another value would be given back after a fixed buffer, which is the buffer that
        -- others can follow.
        have hfixed : c.rule = .inl .fixedText := by
          rcases Commit.buffer?_isSome_iff.mp hsome with hrule | hrule
          · obtain ⟨htaken, hcurrent⟩ := h.after_growableText ⟨c, hc, hrule⟩
            exact absurd hcurrent (hlast.of_returnTaken htaken).2
          · exact hrule
        have hrule := h.gives_after_fixedText hlast ⟨c, hc, hfixed⟩
          (Commit.givesValue_of_managedReturn hreturn)
        rw [Commit.buffer?_isSome_iff.mpr hrule] at hown
        cases hown

theorem exists_first_buffer (h : Reached settings s commits w)
    (hbuffer : ∃ c ∈ commits, c.buffer?.isSome = true) :
    ∃ earlier c later, commits = earlier ++ c :: later ∧ c.buffer?.isSome = true ∧
      ∀ c' ∈ earlier, c'.isPassing = true := by
  obtain ⟨c, hfirst⟩ := Option.isSome_iff_exists.mp
    (List.find?_isSome (p := fun c : Commit => c.buffer?.isSome).mpr hbuffer)
  obtain ⟨hown, earlier, later, rfl, hearlier⟩ := List.find?_eq_some_iff_append.mp hfirst
  obtain ⟨-, -, hcontinue⟩ := List.pairwise_append.mp h.pairwise_mayContinue
  refine ⟨earlier, c, later, rfl, hown, fun c' hc' => ?_⟩
  have hother : c'.buffer?.isSome = false := (Bool.not_eq_true' _).mp (hearlier c' hc')
  exact Commit.isPassing_of_mayContinue (hcontinue c' hc' c List.mem_cons_self) hother

theorem exists_last_read {earlier later : List Commit} {buffer : Parameter}
    (h : Reached settings s (earlier ++ c :: later) w) (hown : c.buffer? = some buffer)
    (hearlier : ∀ c' ∈ earlier, c'.isPassing = true) :
    ∃ before depth length after, w.draft.body = before ++ ⟨depth, .statement (.readBuffer
        Rule.textVariable (Marshalling.outputLocal buffer.name) length)⟩ :: after ∧
      (∃ line ∈ before, line.content = .nativeCall) ∧
      (∀ line ∈ after, line.content = .statement .closeBlock ∨
        ∃ c : Commit, ∃ st ∈ c.results settings, line.content = .statement st) ∧
      ∃ b outer, before.foldlM (Blocks.step w.draft) {} = some b ∧
        b.opened = .statement (.openBuffer (Marshalling.outputLocal buffer.name)
          Rule.bufferCapacity) :: outer := by
  -- The scope of the first buffer is around those of the others, so its line is the last that
  -- reads a text. Only braces and results follow.
  obtain ⟨front, length, hscope, hfront⟩ := Commit.scope_of_buffer hown
  have hscopes := Commit.scopes_around hscope earlier later
  have hbody := h.body_eq
  rw [hscopes, Scope.wrap_eq_leading, ← hscopes] at hbody
  have hcall : Nested ((Commit.scopes earlier).length + 1 + (Commit.scopes later).length)
      [⟨(Commit.scopes (earlier ++ c :: later)).length, .nativeCall⟩] := by
    have hdepth : (Commit.scopes (earlier ++ c :: later)).length =
        (Commit.scopes earlier).length + 1 + (Commit.scopes later).length := by
      rw [hscopes, List.length_append, List.length_cons]
      omega
    rw [hdepth]
    exact .line rfl .nil
  have hinner := Nested.wrap (Commit.scopes_tidy later) hcall
  have hheader : (Statement.openBuffer (Marshalling.outputLocal buffer.name)
    Rule.bufferCapacity).isUsing = true := rfl
  obtain ⟨first, hfirst, -⟩ := Blocks.foldlM_nested (Nested.outermost
    (Commit.flatMap_declarations_plain (earlier ++ c :: later))) w.draft {}
  obtain ⟨b, hb, hopened⟩ := Blocks.foldlM_leading (Commit.scopes_tidy earlier) hheader hinner
    (hfront _) w.draft first
  rw [List.append_assoc, List.append_assoc, ← List.append_assoc, List.cons_append,
    List.cons_append] at hbody
  refine ⟨_, _, length, _, hbody, ?_, ?_, b, _, ?_, hopened⟩
  · refine ⟨⟨(Commit.scopes (earlier ++ c :: later)).length, .nativeCall⟩, ?_, rfl⟩
    exact List.mem_append_right _ (Scope.mem_leading List.mem_cons_self)
  · intro line hline
    rcases List.mem_cons.mp hline with rfl | hline
    · exact .inl rfl
    rcases List.mem_append.mp hline with hline | hline
    · exact .inl (Scope.content_of_mem_closings (Commit.inner_of_passing hearlier) hline)
    · obtain ⟨st, hst, hcontent⟩ := Line.content_of_mem_outermost hline
      obtain ⟨c', -, hst⟩ := List.mem_flatMap.mp hst
      exact .inr ⟨c', st, hst, hcontent⟩
  · rw [List.foldlM_append, hfirst]
    exact hb

end Reached

/-- Once a buffer is bound for an output text, the wrapper gives that text back. Its return type is
a string, its last line returns the text, and the last line that assigns the text reads it from a
buffer in whose scope it stands, after every native call. No rule that follows changes this. -/
theorem output_text_returned {d : Draft} (h : bindFunction settings s = .ok d)
    (hbuffer : ParameterRule.growableText.name ∈ committedRules settings s ∨
      ParameterRule.fixedText.name ∈ committedRules settings s) :
    d.managedReturn = .string ∧
    (∃ front, d.body = front ++ [⟨0, .statement (.giveBack (.var Rule.textVariable))⟩]) ∧
    (d.body.map d.lineText).getLast? = some "return managed_string;" ∧
    ∃ buffer ∈ s.parameters, buffer.type = .pointer (.named "char") ∧
      (∃ q ∈ d.nativeParameters, q.argument = .pointer (Marshalling.outputLocal buffer.name)) ∧
      ∃ before depth length after, d.body = before ++ ⟨depth, .statement (.readBuffer
          Rule.textVariable (Marshalling.outputLocal buffer.name) length)⟩ :: after ∧
        (∃ line ∈ before, line.content = .nativeCall) ∧
        (∀ line ∈ after, line.content ≠ .nativeCall ∧
          d.assigned? line.content ≠ some Rule.textVariable) ∧
        ∃ b outer, before.foldlM (Blocks.step d) {} = some b ∧
          b.opened = .statement (.openBuffer (Marshalling.outputLocal buffer.name)
            Rule.bufferCapacity) :: outer := by
  obtain ⟨commits, w, hw, rfl, -, -, hcommitted⟩ := Reached.of_bindFunction h
  have hbuffer : ∃ c ∈ commits, c.buffer?.isSome = true := by
    rw [hcommitted, Commit.name_mem_iff, Commit.name_mem_iff] at hbuffer
    rcases hbuffer with ⟨c, hc, hrule⟩ | ⟨c, hc, hrule⟩
    · exact ⟨c, hc, Commit.buffer?_isSome_iff.mpr (.inl hrule)⟩
    · exact ⟨c, hc, Commit.buffer?_isSome_iff.mpr (.inr hrule)⟩
  have hmanaged := hw.managedReturn_of_buffer hbuffer
  obtain ⟨earlier, c, later, rfl, hown, hearlier⟩ := hw.exists_first_buffer hbuffer
  obtain ⟨buffer, hparameter⟩ := Option.isSome_iff_exists.mp hown
  obtain ⟨front, hfront⟩ : ∃ front,
      w.draft.body = front ++ [⟨0, .statement (.giveBack (.var Rule.textVariable))⟩] := by
    obtain ⟨front, hbody, -, -⟩ := hw.exists_front
    rw [hbody, Commit.results_of_first_buffer hown hearlier, Line.outermost, List.map_append,
      ← List.append_assoc]
    exact ⟨_, rfl⟩
  have hmem : c ∈ earlier ++ c :: later := List.mem_append_right _ List.mem_cons_self
  obtain ⟨p, rfl, hchosen⟩ := hw.exists_chosen hmem
  obtain ⟨hbufferMem, htype⟩ := hchosen.fits.buffer hparameter
  obtain ⟨q, hq, hargument⟩ := Commit.exists_nativeParameter_of_buffer settings hparameter
  obtain ⟨before, depth, length, after, hbody, hcall, hafter, hopened⟩ :=
    hw.exists_last_read hparameter hearlier
  refine ⟨hmanaged, ⟨front, hfront⟩, ?_, buffer, hbufferMem, htype, ⟨q, ?_, hargument⟩,
    before, depth, length, after, hbody, hcall, ?_, hopened⟩
  · rw [hfront, List.map_append, List.getLast?_append]
    rfl
  · rw [hw.nativeParameters_eq]
    exact List.mem_flatMap.mpr ⟨c, hmem, hq⟩
  · intro line hline
    rcases hafter line hline with hclose | ⟨c', st, hst, hcontent⟩
    · rw [hclose]
      exact ⟨nofun, nofun⟩
    · rw [hcontent]
      refine ⟨nofun, ?_⟩
      cases st with
      | readBuffer => exact absurd hst Commit.read_not_mem_results
      | _ => nofun

def labelSignature : Signature where
  nativeName := "sp_link_labelled"
  managedName := "Labelled"
  parameters :=
    [⟨"buffer", .pointer (.named "char")⟩, ⟨"buffer_size", .named "int"⟩,
      ⟨"label", .pointer (.named "char")⟩]
  returns := .named "sp_error"

theorem output_text_returned_label :
    ∃ d, bindFunction { enums := [("sp_error", "SpotifyError")] } labelSignature = .ok d ∧
      committedRules { enums := [("sp_error", "SpotifyError")] } labelSignature =
        ["fixed-string", "string-in", "status-code"] ∧
      d.managedReturn = .string ∧
      (d.body.map d.lineText).getLast? = some "return managed_string;" ∧
      ∃ before depth holder length after,
        d.body = before ++
          ⟨depth, .statement (.readBuffer Rule.textVariable holder length)⟩ :: after ∧
        (∃ line ∈ before, line.content = .nativeCall) ∧
        ∀ line ∈ after, line.content ≠ .nativeCall := by
  obtain ⟨d, hd⟩ :
      ∃ d, bindFunction { enums := [("sp_error", "SpotifyError")] } labelSignature = .ok d :=
    exists_draft (by decide +kernel)
  have hrules : committedRules { enums := [("sp_error", "SpotifyError")] } labelSignature =
      ["fixed-string", "string-in", "status-code"] := by
    decide +kernel
  have hfixed : ParameterRule.fixedText.name ∈
      committedRules { enums := [("sp_error", "SpotifyError")] } labelSignature := by
    rw [hrules]
    decide
  obtain ⟨hmanaged, -, hlast, buffer, -, -, -, before, depth, length, after, hbody, hcall, hafter,
    -⟩ := output_text_returned hd (.inr hfixed)
  exact ⟨d, hd, hrules, hmanaged, hlast, before, depth, _, length, after, hbody, hcall,
    fun line hline => (hafter line hline).1⟩

end NativeBindings
