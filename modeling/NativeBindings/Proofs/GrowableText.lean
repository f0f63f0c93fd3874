import NativeBindings.Draft.Fragments
import NativeBindings.Proofs.Execution

namespace NativeBindings

def Scope.ofText (q : Parameter) : Scope where
  header := .openText (Marshalling.inputLocal q.name) (Identifier.escape q.name)

def Scope.ofGrowableBuffer (holder : String) : Scope where
  header := .openBuffer holder Rule.bufferCapacity
  inner := Commit.growthLines holder

def Scope.growth (depth : Nat) (holder : String) : List Line :=
  (ofGrowableBuffer holder).opening depth ++ [⟨depth + 1, .nativeCall⟩] ++
    (ofGrowableBuffer holder).closing depth

def Scope.guarded (depth : Nat) (holder : String) : List Line :=
  [⟨depth, .statement (.ifFull holder Rule.lengthVariable)⟩, ⟨depth, .statement .openBlock⟩,
   ⟨depth + 1, .statement (.growBuffer holder Rule.lengthVariable Rule.terminatorSize)⟩,
   ⟨depth, .statement .closeBlock⟩]

theorem Scope.growth_eq (depth : Nat) (holder : String) :
    growth depth holder =
      (ofGrowableBuffer holder).opening depth ++ [⟨depth + 1, .nativeCall⟩] ++
        guarded (depth + 1) holder ++ [⟨depth + 1, .nativeCall⟩] ++
        [⟨depth + 1, .statement
          (.readBuffer Rule.textVariable holder (some Rule.lengthVariable))⟩] ++
        [⟨depth, .statement .closeBlock⟩] := rfl

namespace Execution

variable {d : Draft} {text : Bytes} {depth : Nat} {holder : String} {blocks : List Owned}
  {locals : List (String × Option Value)} {calls reallocations : List Nat}

theorem foldlM_openText {q : Parameter} (hq : d.hasParameter (Identifier.escape q.name) = true) :
    ((Scope.ofText q).opening depth).foldlM (step d text)
        (between blocks locals calls reallocations) =
      some (between (.text (Marshalling.inputLocal q.name) :: blocks) locals calls
        reallocations) := by
  have hheader : step d text (between blocks locals calls reallocations)
      ⟨depth, .statement (.openText (Marshalling.inputLocal q.name) (Identifier.escape q.name))⟩ =
      some { between blocks locals calls reallocations with
        pending := some (.text (Marshalling.inputLocal q.name)) } := by
    simp [step, between, perform, hq]
  rw [Scope.opening, Scope.ofText, List.foldlM_cons, hheader]
  rfl

theorem foldlM_texts {texts : List Parameter}
    (htexts : ∀ q ∈ texts, d.hasParameter (Identifier.escape q.name) = true) {inner : List Line}
    {open' : List Owned} {locals' : List (String × Option Value)} {calls' reallocations' : List Nat}
    (hopen : open' = (texts.map fun q => .text (Marshalling.inputLocal q.name)).reverse ++ blocks)
    (hinner : inner.foldlM (step d text) (between open' locals calls reallocations) =
      some (between open' locals' calls' reallocations')) (depth : Nat) :
    (Scope.wrap depth (texts.map Scope.ofText) inner).foldlM (step d text)
        (between blocks locals calls reallocations) =
      some (between blocks locals' calls' reallocations') := by
  induction texts generalizing depth blocks with
  | nil =>
    obtain rfl : open' = blocks := hopen
    exact hinner
  | cons q texts ih =>
    have hopen' : open' = (texts.map fun q => .text (Marshalling.inputLocal q.name)).reverse ++
        .text (Marshalling.inputLocal q.name) :: blocks := by
      rw [hopen, List.map_cons, List.reverse_cons, List.append_assoc]
      rfl
    have hscopes : (Scope.wrap (depth + 1) (texts.map Scope.ofText) inner).foldlM (step d text)
        (between (.text (Marshalling.inputLocal q.name) :: blocks) locals calls reallocations) =
        some (between (.text (Marshalling.inputLocal q.name) :: blocks) locals' calls'
          reallocations') := by
      apply ih (fun q' hq' => htexts q' (List.mem_cons_of_mem q hq')) hopen'
    rw [List.map_cons, Scope.wrap, List.foldlM_append, List.foldlM_append,
      foldlM_openText (htexts q List.mem_cons_self)]
    simp only [Option.bind_eq_bind, Option.bind_some]
    rw [hscopes]
    rfl

structure PassesBuffer (d : Draft) (holder : String) (blocks : List Owned) : Prop where
  target : d.returnVariable = some Rule.lengthVariable
  arguments : ∃ first unsigned, d.nativeParameters.map (·.argument) =
      first ++ [.pointer holder, .capacity holder unsigned] ∧
    ∀ a ∈ first, ∀ e : Execution,
      (∃ capacity content, e.blocks = .buffer holder capacity content :: blocks) →
        e.canPass d a = true

theorem step_nativeCall (hd : PassesBuffer d holder blocks) {capacity : Nat} {content : Bytes}
    {x y : Option Value} :
    step d text (between (.buffer holder capacity content :: blocks)
        [(Rule.lengthVariable, x), (Rule.textVariable, y)] calls reallocations)
        ⟨depth, .nativeCall⟩ =
      some (between (.buffer holder capacity (text.take (capacity - 1)) :: blocks)
        [(Rule.lengthVariable, some (.length text.length)), (Rule.textVariable, y)]
        (calls ++ [capacity]) reallocations) := by
  obtain ⟨first, unsigned, harguments, hfirst⟩ := hd.arguments
  let e := between (.buffer holder capacity content :: blocks)
    [(Rule.lengthVariable, x), (Rule.textVariable, y)] calls reallocations
  have hpass : (d.nativeParameters.map (·.argument)).all (e.canPass d) = true := by
    rw [harguments, List.all_append, Bool.and_eq_true]
    constructor
    · rw [List.all_eq_true]
      exact fun a ha => hfirst a ha e ⟨capacity, content, rfl⟩
    · simp [canPass, Argument.refersTo, e, between, Owned.buffer?_head, Owned.name?]
  change e.call d text = _
  rw [call, if_pos hpass, harguments, hd.target, List.reverse_append]
  have hcall : e.blocks = .buffer holder capacity content :: blocks := rfl
  simp only [List.reverse_cons, List.reverse_nil, List.nil_append, List.cons_append, hcall,
    Owned.buffer?_head, Owned.setBuffer_head, Option.bind_eq_bind, Option.bind_some, Nat.le_refl,
    if_true]
  rfl

theorem foldlM_openBuffer :
    ((Scope.ofGrowableBuffer holder).opening depth).foldlM (step d text)
        (between blocks locals calls reallocations) =
      some (between (.buffer holder Rule.bufferCapacity [] :: blocks) locals calls
        reallocations) := rfl

section Lines

variable {capacity n : Nat} {content : Bytes} {y : Option Value}

theorem foldlM_guarded_of_lt (h : n < capacity) :
    (Scope.guarded depth holder).foldlM (step d text)
        (between (.buffer holder capacity content :: blocks)
          [(Rule.lengthVariable, some (.length n)), (Rule.textVariable, y)] calls reallocations) =
      some (between (.buffer holder capacity content :: blocks)
        [(Rule.lengthVariable, some (.length n)), (Rule.textVariable, y)] calls
        reallocations) := by
  have hcondition : step d text (between (.buffer holder capacity content :: blocks)
      [(Rule.lengthVariable, some (.length n)), (Rule.textVariable, y)] calls reallocations)
      ⟨depth, .statement (.ifFull holder Rule.lengthVariable)⟩ =
      some { between (.buffer holder capacity content :: blocks)
        [(Rule.lengthVariable, some (.length n)), (Rule.textVariable, y)] calls reallocations with
        skipping := some 0 } := by
    rw [step_statement, perform, between, Owned.buffer?_head]
    exact if_neg (Nat.not_le.mpr h)
  rw [Scope.guarded, List.foldlM_cons, hcondition]
  rfl

theorem foldlM_guarded_of_le (h : capacity ≤ n) :
    (Scope.guarded depth holder).foldlM (step d text)
        (between (.buffer holder capacity content :: blocks)
          [(Rule.lengthVariable, some (.length n)), (Rule.textVariable, y)] calls reallocations) =
      some (between (.buffer holder (n + Rule.terminatorSize) [] :: blocks)
        [(Rule.lengthVariable, some (.length n)), (Rule.textVariable, y)] calls
        (reallocations ++ [n + Rule.terminatorSize])) := by
  have hcondition : step d text (between (.buffer holder capacity content :: blocks)
      [(Rule.lengthVariable, some (.length n)), (Rule.textVariable, y)] calls reallocations)
      ⟨depth, .statement (.ifFull holder Rule.lengthVariable)⟩ =
      some { between (.buffer holder capacity content :: blocks)
        [(Rule.lengthVariable, some (.length n)), (Rule.textVariable, y)] calls reallocations with
        pending := some .nothing } := by
    rw [step_statement, perform, between, Owned.buffer?_head]
    exact if_pos h
  -- The block of the condition is open around the next statement and owns nothing.
  have hset : Owned.setBuffer holder (n + Rule.terminatorSize) []
      (.nothing :: .buffer holder capacity content :: blocks) =
      .nothing :: .buffer holder (n + Rule.terminatorSize) [] :: blocks := by
    change Owned.nothing ::
      Owned.setBuffer holder _ [] (.buffer holder capacity content :: blocks) = _
    rw [Owned.setBuffer_head]
  have hgrow : step d text (between (.nothing :: .buffer holder capacity content :: blocks)
      [(Rule.lengthVariable, some (.length n)), (Rule.textVariable, y)] calls reallocations)
      ⟨depth + 1, .statement (.growBuffer holder Rule.lengthVariable Rule.terminatorSize)⟩ =
      some (between (.nothing :: .buffer holder (n + Rule.terminatorSize) [] :: blocks)
        [(Rule.lengthVariable, some (.length n)), (Rule.textVariable, y)] calls
        (reallocations ++ [n + Rule.terminatorSize])) := by
    rw [step_statement, perform, ← hset, between, Owned.buffer?, Owned.buffer?_head]
    · rfl
    · intro other capacity' content' hblock
      cases hblock
  have hopen : step d text { between (.buffer holder capacity content :: blocks)
      [(Rule.lengthVariable, some (.length n)), (Rule.textVariable, y)] calls reallocations with
      pending := some .nothing } ⟨depth, .statement .openBlock⟩ =
      some (between (.nothing :: .buffer holder capacity content :: blocks)
        [(Rule.lengthVariable, some (.length n)), (Rule.textVariable, y)] calls reallocations) := rfl
  simp only [Scope.guarded, List.foldlM_cons, List.foldlM_nil, Option.bind_eq_bind,
    Option.pure_def, Option.bind_some, hcondition, hopen, hgrow, step_closeBlock]

theorem step_readBuffer :
    step d text (between (.buffer holder capacity content :: blocks)
        [(Rule.lengthVariable, some (.length n)), (Rule.textVariable, y)] calls reallocations)
        ⟨depth, .statement (.readBuffer Rule.textVariable holder (some Rule.lengthVariable))⟩ =
      some (between (.buffer holder capacity content :: blocks)
        [(Rule.lengthVariable, some (.length n)),
          (Rule.textVariable, some (.text (content.take n)))] calls reallocations) := by
  rw [step_statement, perform, between, Owned.buffer?_head]
  rfl

end Lines

theorem foldlM_growth_of_lt (hd : PassesBuffer d holder blocks)
    (htext : text.length < Rule.bufferCapacity) :
    (Scope.growth depth holder).foldlM (step d text)
        (between blocks [(Rule.lengthVariable, none), (Rule.textVariable, none)] [] []) =
      some (between blocks
        [(Rule.lengthVariable, some (.length text.length)), (Rule.textVariable, some (.text text))]
        [Rule.bufferCapacity, Rule.bufferCapacity] []) := by
  have hfits : text.take (Rule.bufferCapacity - 1) = text :=
    List.take_of_length_le (Nat.le_sub_one_of_lt htext)
  rw [Scope.growth_eq]
  simp only [List.foldlM_append, foldlM_openBuffer, List.foldlM_cons, List.foldlM_nil,
    Option.bind_eq_bind, Option.pure_def, Option.bind_some, step_nativeCall hd, hfits,
    foldlM_guarded_of_lt htext, step_readBuffer, List.take_length, step_closeBlock]
  rfl

theorem foldlM_growth_of_le (hd : PassesBuffer d holder blocks)
    (htext : Rule.bufferCapacity ≤ text.length) :
    (Scope.growth depth holder).foldlM (step d text)
        (between blocks [(Rule.lengthVariable, none), (Rule.textVariable, none)] [] []) =
      some (between blocks
        [(Rule.lengthVariable, some (.length text.length)), (Rule.textVariable, some (.text text))]
        [Rule.bufferCapacity, text.length + Rule.terminatorSize]
        [text.length + Rule.terminatorSize]) := by
  have hfits : text.take (text.length + Rule.terminatorSize - 1) = text :=
    List.take_of_length_le (Nat.le_of_eq rfl)
  rw [Scope.growth_eq]
  simp only [List.foldlM_append, foldlM_openBuffer, List.foldlM_cons, List.foldlM_nil,
    Option.bind_eq_bind, Option.pure_def, Option.bind_some, step_nativeCall hd, hfits,
    foldlM_guarded_of_le htext, step_readBuffer, List.take_length, step_closeBlock]
  rfl

theorem foldlM_growth (hd : PassesBuffer d holder blocks) (depth : Nat) (text : Bytes) :
    (Scope.growth depth holder).foldlM (step d text)
        (between blocks [(Rule.lengthVariable, none), (Rule.textVariable, none)] [] []) =
      some (between blocks
        [(Rule.lengthVariable, some (.length text.length)), (Rule.textVariable, some (.text text))]
        [256, max 256 (text.length + 1)]
        (if 256 ≤ text.length then [text.length + 1] else [])) := by
  by_cases htext : 256 ≤ text.length
  · have hmax : max 256 (text.length + 1) = text.length + 1 := by omega
    rw [hmax, if_pos htext]
    exact foldlM_growth_of_le hd htext
  · have hmax : max 256 (text.length + 1) = 256 := by omega
    rw [hmax, if_neg htext]
    exact foldlM_growth_of_lt hd (Nat.not_le.mp htext)

end Execution

variable {settings : Settings} {s : Signature} {commits : List Commit} {w : Work} {c : Commit}

namespace Commit

def isPassing : Commit → Bool
  | scalar _ _ | receiver _ | handle _ _ | text _ | reference _ _ => true
  | _ => false

def texts : Commit → List Parameter
  | text q => [q]
  | _ => []

theorem declarations_of_passing (h : ∀ c ∈ commits, c.isPassing = true) :
    commits.flatMap declarations = [] := by
  rw [List.flatMap_eq_nil_iff]
  intro c hc
  have hpassing := h c hc
  cases c <;> first | rfl | cases hpassing

theorem results_of_passing (h : ∀ c ∈ commits, c.isPassing = true) :
    commits.reverse.flatMap (results settings) = [] := by
  rw [List.flatMap_eq_nil_iff]
  intro c hc
  have hpassing := h c (List.mem_reverse.mp hc)
  cases c <;> first | rfl | cases hpassing

theorem scopes_of_passing (h : ∀ c ∈ commits, c.isPassing = true) :
    scopes commits = (commits.flatMap texts).map Scope.ofText := by
  induction commits with
  | nil => rfl
  | cons c commits ih =>
    have hc := h c List.mem_cons_self
    have hrest := ih fun c' hc' => h c' (List.mem_cons_of_mem c hc')
    rw [List.flatMap_cons, List.map_append, ← hrest, scopes, scopes]
    cases c with
    | text q => exact List.filterMap_cons_some rfl
    | scalar | receiver | handle | reference => exact List.filterMap_cons_none rfl
    | _ => cases hc

theorem texts_sublist (commits : List Commit) :
    (commits.flatMap texts).Sublist (commits.flatMap parameters) := by
  induction commits with
  | nil => exact .slnil
  | cons c commits ih =>
    have hc : c.texts.Sublist c.parameters := by
      cases c with
      | text q => exact .refl [q]
      | _ => exact List.nil_sublist _
    rw [List.flatMap_cons, List.flatMap_cons]
    exact hc.append ih

end Commit

namespace Reached

theorem takesReturn_eq_false (h : Reached settings s commits w)
    (hleft : w.progress.returnTaken = false) : ∀ c ∈ commits, c.takesReturn = false := by
  induction h with
  | start => simp
  | @step commits w c _ _ ih =>
    obtain ⟨hbefore, hlast⟩ := Bool.or_eq_false_iff.mp hleft
    intro c' hc'
    rcases List.mem_append.mp hc' with hearlier | hc'
    · exact ih hbefore c' hearlier
    · rw [List.mem_singleton.mp hc']
      exact hlast

theorem isPassing (h : Reached settings s commits w) (hleft : w.progress.returnTaken = false)
    (hfixed : ∀ c ∈ commits, c.rule ≠ .inl .fixedText) : ∀ c ∈ commits, c.isPassing = true := by
  intro c hc
  have hreturn := h.takesReturn_eq_false hleft c hc
  cases c with
  | scalar | receiver | handle | text | reference => rfl
  | fixedText => exact absurd rfl (hfixed _ hc)
  | _ => cases hreturn

theorem canPass (h : Reached settings s commits w) (hc : c ∈ commits)
    (hpassing : c.isPassing = true) {n : NativeParameter}
    (hn : n ∈ c.nativeParameters settings) {e : Execution}
    (htexts : ∀ q, .text q ∈ commits → .text (Marshalling.inputLocal q.name) ∈ e.blocks) :
    e.canPass w.draft n.argument = true := by
  cases c with
  | scalar | handle | reference =>
    rw [List.mem_singleton.mp hn]
    exact h.hasParameter_of_mem hc (List.mem_singleton.mpr rfl)
  | receiver q =>
    rw [List.mem_singleton.mp hn]
    exact h.hasParameter_this hc
  | text q =>
    rw [List.mem_singleton.mp hn]
    refine List.any_eq_true.mpr ⟨_, htexts q hc, ?_⟩
    exact beq_self_eq_true _
  | _ => cases hpassing

variable {buffer size : Parameter} {length : ManagedType}

theorem growableText_body (h : Reached settings s commits w)
    (hc : (Commit.growableText buffer size length).Chosen settings w.progress)
    (hpassing : ∀ c ∈ commits, c.isPassing = true) :
    (w.commit settings (.growableText buffer size length)).draft.body =
      Line.outermost
        [.declare "string" Rule.textVariable, .declare "int" Rule.lengthVariable] ++
      Scope.wrap 0 ((commits.flatMap Commit.texts).map Scope.ofText)
        (Scope.growth (commits.flatMap Commit.texts).length
          (Marshalling.outputLocal buffer.name)) ++
      Line.outermost [.giveBack (.var Rule.textVariable)] := by
  have hscope : (Commit.growableText buffer size length).scope? =
      some (Scope.ofGrowableBuffer (Marshalling.outputLocal buffer.name)) := rfl
  rw [(h.step hc).body_eq, Commit.scopes_append, Commit.scopes_singleton_some hscope,
    Scope.wrap_concat, List.flatMap_append, Commit.declarations_of_passing hpassing,
    List.reverse_append, List.flatMap_append, Commit.results_of_passing hpassing,
    Commit.scopes_of_passing hpassing, List.length_append, List.length_map, Nat.zero_add]
  rfl

theorem passesBuffer (h : Reached settings s commits w)
    (hc : (Commit.growableText buffer size length).Chosen settings w.progress)
    (hpassing : ∀ c ∈ commits, c.isPassing = true) :
    Execution.PassesBuffer (w.commit settings (.growableText buffer size length)).draft
      (Marshalling.outputLocal buffer.name)
      ((commits.flatMap Commit.texts).map fun q => .text (Marshalling.inputLocal q.name)).reverse where
  target := rfl
  arguments := by
    refine ⟨(commits.flatMap (Commit.nativeParameters settings)).map (·.argument),
      length == .uintPtr, ?_, ?_⟩
    · rw [(h.step hc).nativeParameters_eq, List.flatMap_append, List.map_append]
      rfl
    · rintro a ha e ⟨capacity, content, hblocks⟩
      obtain ⟨n, hn, rfl⟩ := List.mem_map.mp ha
      obtain ⟨c, hmem, hn⟩ := List.mem_flatMap.mp hn
      apply (h.step hc).canPass (List.mem_append_left _ hmem) (hpassing c hmem) hn
      intro q hq
      have hq : .text q ∈ commits := by simpa using hq
      have hq : q ∈ commits.flatMap Commit.texts :=
        List.mem_flatMap.mpr ⟨.text q, hq, List.mem_singleton.mpr rfl⟩
      rw [hblocks, List.mem_cons, List.mem_reverse]
      exact .inr (List.mem_map_of_mem hq)

theorem growableText_run (h : Reached settings s commits w)
    (hc : (Commit.growableText buffer size length).Chosen settings w.progress)
    (hpassing : ∀ c ∈ commits, c.isPassing = true) (text : Bytes) :
    ∃ e, Execution.run (w.commit settings (.growableText buffer size length)).draft text = some e ∧
      e.blocks = [] ∧ e.calls = [256, max 256 (text.length + 1)] ∧
      e.reallocations = (if 256 ≤ text.length then [text.length + 1] else []) ∧
      e.returned = some text := by
  have hd := h.passesBuffer hc hpassing
  have htexts : ∀ q ∈ commits.flatMap Commit.texts,
      (w.commit settings (.growableText buffer size length)).draft.hasParameter
        (Identifier.escape q.name) = true := by
    intro q hq
    obtain ⟨c, hmem, hq⟩ := List.mem_flatMap.mp hq
    cases c with
    | text q' =>
      obtain rfl := List.mem_singleton.mp hq
      exact (h.step hc).hasParameter_of_mem (List.mem_append_left _ hmem)
        (List.mem_singleton.mpr rfl)
    | _ => cases hq
  have hdeclare : (Line.outermost [.declare "string" Rule.textVariable,
      .declare "int" Rule.lengthVariable]).foldlM (Execution.step
        (w.commit settings (.growableText buffer size length)).draft text) {} =
      some (.between [] [(Rule.lengthVariable, none), (Rule.textVariable, none)] [] []) := rfl
  have hscopes := Execution.foldlM_texts htexts (List.append_nil _).symm
    (Execution.foldlM_growth hd (commits.flatMap Commit.texts).length text) 0
  rw [Execution.run, h.growableText_body hc hpassing, List.foldlM_append, List.foldlM_append,
    hdeclare]
  simp only [Option.bind_eq_bind, Option.bind_some]
  rw [hscopes]
  exact ⟨_, rfl, rfl, rfl, rfl, rfl⟩

end Reached

/-- The text of a body that follows the protocol: `texts` are passed on as encoded texts. -/
structure Draft.PrintsProtocol (d : Draft) (texts : List Parameter) (holder : String) : Prop where
  body : d.body.map d.lineText =
    ["string managed_string;", "int ret_length;"] ++
    texts.flatMap (fun q =>
      ["using (Utf8String utf8_" ++ q.name ++ " = SpotifyMarshalling.StringToUtf8(" ++
        Identifier.escape q.name ++ "))", "\x7b"]) ++
    ["using (Utf8Buffer " ++ holder ++ " = Utf8Buffer.Allocate(256))", "\x7b",
      d.callText,
      "if (" ++ holder ++ ".Capacity <= ret_length)", "\x7b",
      holder ++ ".Reallocate(ret_length + 1);", "\x7d",
      d.callText,
      "managed_string = " ++ holder ++ ".GetString(ret_length);", "\x7d"] ++
    List.replicate texts.length "\x7d" ++
    ["return managed_string;"]
  call : d.callText =
    "ret_length = " ++ (d.nativeClass ++ "." ++ d.nativeName ++ "(" ++
      ", ".intercalate (d.nativeParameters.map fun p => p.argument.text) ++ ");")
  arguments : ∃ first size,
    d.nativeParameters.map (fun p => p.argument.text) = first ++ [holder ++ ".IntPtr", size] ∧
    (size = holder ++ ".Capacity" ∨ size = "(UIntPtr)" ++ (holder ++ ".Capacity"))

section Text

variable (d : Draft) (holder : String)

theorem Statement.openText_text (q : Parameter) :
    (Statement.openText (Marshalling.inputLocal q.name) (Identifier.escape q.name)).text =
      "using (Utf8String utf8_" ++ q.name ++ " = SpotifyMarshalling.StringToUtf8(" ++
        Identifier.escape q.name ++ "))" := by
  have hjoin : "using (Utf8String utf8_" = "using (Utf8String " ++ "utf8_" := rfl
  change "using (Utf8String " ++ ("utf8_" ++ q.name) ++ " = SpotifyMarshalling.StringToUtf8(" ++
    Identifier.escape q.name ++ "))" = _
  simp only [hjoin, String.append_assoc]

theorem Statement.openBuffer_text :
    (Statement.openBuffer holder Rule.bufferCapacity).text =
      "using (Utf8Buffer " ++ holder ++ " = Utf8Buffer.Allocate(256))" := by
  have hjoin : " = Utf8Buffer.Allocate(256))" =
      " = Utf8Buffer.Allocate(" ++ (toString Rule.bufferCapacity ++ "))") := rfl
  change "using (Utf8Buffer " ++ holder ++ " = Utf8Buffer.Allocate(" ++
    toString Rule.bufferCapacity ++ "))" = _
  simp only [hjoin, String.append_assoc]

theorem Statement.ifFull_text :
    (Statement.ifFull holder Rule.lengthVariable).text =
      "if (" ++ holder ++ ".Capacity <= ret_length)" := by
  have hjoin : ".Capacity <= ret_length)" = ".Capacity" ++ (" <= " ++ ("ret_length" ++ ")")) := rfl
  change "if (" ++ (holder ++ ".Capacity") ++ " <= " ++ "ret_length" ++ ")" = _
  simp only [hjoin, String.append_assoc]

theorem Statement.growBuffer_text :
    (Statement.growBuffer holder Rule.lengthVariable Rule.terminatorSize).text =
      holder ++ ".Reallocate(ret_length + 1);" := by
  have hjoin : ".Reallocate(ret_length + 1);" =
      ".Reallocate(" ++ ("ret_length" ++ (" + " ++ (toString Rule.terminatorSize ++ ");"))) := rfl
  change holder ++ ".Reallocate(" ++ ("ret_length" ++ " + " ++ toString Rule.terminatorSize) ++
    ");" = _
  simp only [hjoin, String.append_assoc]

theorem Statement.readBuffer_text :
    (Statement.readBuffer Rule.textVariable holder (some Rule.lengthVariable)).text =
      "managed_string = " ++ holder ++ ".GetString(ret_length);" := by
  have hjoin : "managed_string = " = "managed_string" ++ " = " := rfl
  have hjoin' : ".GetString(ret_length);" = ".GetString(" ++ ("ret_length" ++ (")" ++ ";")) := rfl
  change "managed_string" ++ " = " ++ (holder ++ ".GetString(" ++ "ret_length" ++ ")") ++ ";" = _
  simp only [hjoin, hjoin', String.append_assoc]

theorem Scope.map_wrap_texts (texts : List Parameter) (depth : Nat) (inner : List Line) :
    (wrap depth (texts.map ofText) inner).map d.lineText =
      texts.flatMap (fun q =>
        ["using (Utf8String utf8_" ++ q.name ++ " = SpotifyMarshalling.StringToUtf8(" ++
          Identifier.escape q.name ++ "))", "\x7b"]) ++
      inner.map d.lineText ++ List.replicate texts.length "\x7d" := by
  induction texts generalizing depth with
  | nil => simp [wrap]
  | cons q texts ih =>
    have hopening : ((ofText q).opening depth).map d.lineText =
        ["using (Utf8String utf8_" ++ q.name ++ " = SpotifyMarshalling.StringToUtf8(" ++
          Identifier.escape q.name ++ "))", "\x7b"] := by
      rw [← Statement.openText_text]
      rfl
    have hclosing : ((ofText q).closing depth).map d.lineText = ["\x7d"] := rfl
    rw [List.map_cons, wrap, List.map_append, List.map_append, hopening, ih, hclosing,
      List.flatMap_cons, List.length_cons, List.replicate_succ']
    simp only [List.append_assoc]

theorem Scope.map_growth (depth : Nat) :
    (growth depth holder).map d.lineText =
      ["using (Utf8Buffer " ++ holder ++ " = Utf8Buffer.Allocate(256))", "\x7b",
        d.callText,
        "if (" ++ holder ++ ".Capacity <= ret_length)", "\x7b",
        holder ++ ".Reallocate(ret_length + 1);", "\x7d",
        d.callText,
        "managed_string = " ++ holder ++ ".GetString(ret_length);", "\x7d"] := by
  rw [← Statement.openBuffer_text, ← Statement.ifFull_text, ← Statement.growBuffer_text,
    ← Statement.readBuffer_text]
  rfl

end Text

theorem Reached.printsProtocol {buffer size : Parameter} {length : ManagedType}
    (h : Reached settings s commits w)
    (hc : (Commit.growableText buffer size length).Chosen settings w.progress)
    (hpassing : ∀ c ∈ commits, c.isPassing = true) :
    (w.commit settings (.growableText buffer size length)).draft.PrintsProtocol
      (commits.flatMap Commit.texts) (Marshalling.outputLocal buffer.name) where
  body := by
    rw [h.growableText_body hc hpassing, List.map_append, List.map_append, Scope.map_wrap_texts,
      Scope.map_growth]
    simp only [List.append_assoc]
    rfl
  call := by
    have hjoin : "ret_length = " = "ret_length" ++ " = " := rfl
    rw [hjoin]
    rfl
  arguments := by
    refine ⟨(commits.flatMap (Commit.nativeParameters settings)).map (·.argument.text),
      (Argument.capacity (Marshalling.outputLocal buffer.name) (length == .uintPtr)).text, ?_, ?_⟩
    · rw [(h.step hc).nativeParameters_eq, List.flatMap_append, List.map_append]
      rfl
    · cases length == ManagedType.uintPtr with
      | false => exact .inl rfl
      | true => exact .inr rfl

/-- A wrapper with a growable buffer and no fixed one calls the native function twice, first with the
initial capacity and then with room for the whole text and its terminator. It makes the buffer grow
once, where the text did not fit, and gives back the text, read while the buffer is open. -/
theorem growable_protocol {d : Draft} (h : bindFunction settings s = .ok d)
    (hgrowable : ParameterRule.growableText.name ∈ committedRules settings s)
    (hfixed : ParameterRule.fixedText.name ∉ committedRules settings s) :
    (∀ text, ∃ e, Execution.run d text = some e ∧ e.blocks = [] ∧
      e.calls = [256, max 256 (text.length + 1)] ∧
      e.reallocations = (if 256 ≤ text.length then [text.length + 1] else []) ∧
      e.returned = some text) ∧
    ∃ before buffer size texts, s.parameters = before ++ [buffer, size] ∧ texts.Sublist before ∧
      d.PrintsProtocol texts ("out_" ++ buffer.name) := by
  obtain ⟨commits, w, hw, rfl, hcurrent, -, hnames⟩ := Reached.of_bindFunction h
  rw [hnames, Commit.name_mem_iff] at hgrowable hfixed
  have hparameters := hw.parameters_eq_all hcurrent
  obtain ⟨earlier, before, buffer, size, length, hbefore, hchosen, -, rfl, rfl⟩ :=
    hw.growableText_last hgrowable
  obtain ⟨-, -, -, -, -, hleft, -⟩ := hchosen.fits
  have hpassing : ∀ c ∈ earlier, c.isPassing = true := by
    apply hbefore.isPassing hleft
    intro c hc hrule
    exact hfixed ⟨c, List.mem_append_left _ hc, hrule⟩
  refine ⟨hbefore.growableText_run hchosen hpassing, earlier.flatMap Commit.parameters, buffer, size,
    earlier.flatMap Commit.texts, ?_, Commit.texts_sublist earlier,
    hbefore.printsProtocol hchosen hpassing⟩
  rw [← hparameters, List.flatMap_append]
  rfl

def suggestionSignature : Signature where
  nativeName := "sp_search_suggestion"
  managedName := "Suggestion"
  parameters :=
    [⟨"search", .pointer (.named "sp_search")⟩, ⟨"query", .pointer (.named "char")⟩,
      ⟨"suggestion", .pointer (.named "char")⟩, ⟨"size", .named "size_t"⟩]
  returns := .named "int"
  receiver := some "sp_search"

theorem growable_protocol_suggestion :
    ∃ d, bindFunction {} suggestionSignature = .ok d ∧
      (∃ e, Execution.run d (List.replicate 255 7) = some e ∧ e.calls = [256, 256] ∧
        e.reallocations = [] ∧ e.returned = some (List.replicate 255 7)) ∧
      ∃ e, Execution.run d (List.replicate 256 7) = some e ∧ e.calls = [256, 257] ∧
        e.reallocations = [257] ∧ e.returned = some (List.replicate 256 7) := by
  obtain ⟨d, hd⟩ : ∃ d, bindFunction {} suggestionSignature = .ok d :=
    exists_draft (by decide +kernel)
  obtain ⟨hrun, -⟩ := growable_protocol hd (by decide +kernel) (by decide +kernel)
  obtain ⟨e, he, -, hcalls, hreallocations, hreturned⟩ := hrun (List.replicate 255 7)
  obtain ⟨e', he', -, hcalls', hreallocations', hreturned'⟩ := hrun (List.replicate 256 7)
  rw [List.length_replicate] at hcalls hreallocations hcalls' hreallocations'
  exact ⟨d, hd, ⟨e, he, hcalls, hreallocations, hreturned⟩,
    e', he', hcalls', hreallocations', hreturned'⟩

end NativeBindings
