import NativeBindings.Proofs.FirstRule

namespace NativeBindings

inductive Reached (settings : Settings) (s : Signature) : List Commit → Work → Prop
  | start : Reached settings s [] (Work.start settings s)
  | step {commits : List Commit} {w : Work} {c : Commit} (h : Reached settings s commits w)
      (hc : c.Chosen settings w.progress) :
      Reached settings s (commits ++ [c]) (w.commit settings c)

def Work.parameterRules (settings : Settings) (w : Work) : List String :=
  match w.progress.current? with
  | none => []
  | some _ =>
    match w.applyFirst settings (ParameterRule.priority.map ParameterRule.rule) with
    | none => []
    | some (name, next) =>
      if next.left < w.left then name :: parameterRules settings next else [name]
termination_by w.left

def committedRules (settings : Settings) (s : Signature) : List String :=
  let w := Work.start settings s
  w.parameterRules settings ++
    match w.bindParameters settings with
    | .error _ => []
    | .ok w =>
      if w.progress.returnTaken then []
      else
        ((w.applyFirst settings (ReturnRule.priority.map ReturnRule.rule)).map Prod.fst).toList

variable {settings : Settings} {s : Signature} {commits : List Commit} {w : Work} {c : Commit}

namespace Commit

variable {p : Progress}

theorem Fits.parameters_prefix (h : c.Fits settings p) : c.parameters <+: p.remaining := by
  have one {q : Parameter} (hq : p.current? = some q) :
      p.remaining = q :: p.signature.parameters.drop (p.index + 1) := by
    obtain ⟨hlt, hget⟩ := List.getElem?_eq_some_iff.mp hq
    rw [Progress.remaining, List.drop_eq_getElem_cons hlt, hget]
  have two {buffer size : Parameter} (hbuffer : p.current? = some buffer)
      (hsize : p.next? = some size) :
      p.remaining = buffer :: size :: p.signature.parameters.drop (p.index + 2) := by
    obtain ⟨hlt, hget⟩ := List.getElem?_eq_some_iff.mp hsize
    rw [one hbuffer, List.drop_eq_getElem_cons hlt, hget]
  cases c with
  | scalar | receiver | handle | text | reference =>
    rw [one h.1]
    exact ⟨_, rfl⟩
  | growableText | fixedText =>
    rw [two h.1 h.2.1]
    exact ⟨_, rfl⟩
  | _ => exact List.nil_prefix

theorem Fits.room (hle : p.index ≤ p.length) (h : c.Fits settings p) :
    p.index + c.parameters.length ≤ p.length := by
  have hlength := h.parameters_prefix.length_le
  rw [Progress.remaining, List.length_drop] at hlength
  rw [Progress.length] at hle ⊢
  omega

theorem parameters_ne_nil {r : ParameterRule} (hr : c.rule = .inl r) : c.parameters ≠ [] := by
  cases c <;> cases hr <;> simp [parameters]

theorem parameters_of_return {r : ReturnRule} (hr : c.rule = .inr r) : c.parameters = [] := by
  cases c <;> cases hr <;> rfl

theorem takesReturn_of_return {r : ReturnRule} (hr : c.rule = .inr r) : c.takesReturn = true := by
  cases c <;> cases hr <;> rfl

theorem Chosen.of_returnTaken (h : c.Chosen settings p) (htaken : p.returnTaken = true) :
    c.nativeReturn? = none ∧ p.current? ≠ none := by
  -- A rule that comes after the return value was taken finds a parameter, and leaves the return
  -- type as it is.
  have hfits := h.fits
  cases c with
  | growableText buffer size length =>
    obtain ⟨-, -, -, -, -, hleft, -⟩ := hfits
    rw [hleft] at htaken
    cases htaken
  | fixedText buffer size ignored =>
    obtain ⟨hcurrent, -, -, -, -, -, heq⟩ := hfits
    rw [htaken] at heq
    subst heq
    exact ⟨rfl, by simp [hcurrent]⟩
  | scalar | receiver | handle | text | reference => exact ⟨rfl, by simp [hfits.1]⟩
  | returnStatus | returnScalar | returnHandle | returnNothing | returnText =>
    have hleft := (h.returned _ rfl).2.1
    rw [htaken] at hleft
    cases hleft

theorem name_eq_iff {r : ParameterRule} : c.name = r.name ↔ c.rule = .inl r := by
  cases c <;> cases r <;> simp [name, rule, ParameterRule.name, ReturnRule.name]

theorem name_mem_iff {r : ParameterRule} :
    r.name ∈ commits.map name ↔ ∃ c ∈ commits, c.rule = .inl r := by
  simp only [List.mem_map, name_eq_iff]

theorem name_mem_append_iff {r : ParameterRule} :
    r.name ∈ (commits ++ [c]).map name ↔ r.name ∈ commits.map name ∨ c.rule = .inl r := by
  rw [List.map_append, List.mem_append, List.map_singleton, List.mem_singleton, ← name_eq_iff,
    eq_comm (a := c.name)]

end Commit

namespace Reached

theorem signature_eq (h : Reached settings s commits w) : w.progress.signature = s := by
  induction h with
  | start => rfl
  | step _ _ ih => exact ih

theorem index_le (h : Reached settings s commits w) : w.progress.index ≤ w.progress.length := by
  induction h with
  | start => exact Nat.zero_le _
  | step _ hc ih => exact hc.fits.room ih

theorem parameters_eq (h : Reached settings s commits w) :
    s.parameters = commits.flatMap Commit.parameters ++ w.progress.remaining := by
  induction h with
  | start => rfl
  | @step commits w c h hc ih =>
    obtain ⟨rest, hrest⟩ := hc.fits.parameters_prefix
    have hafter : (w.progress.after c).remaining = rest := by
      rw [Progress.remaining, Progress.after, ← List.drop_drop]
      change w.progress.remaining.drop _ = rest
      rw [← hrest, List.drop_left]
    rw [ih, ← hrest, Work.commit, hafter]
    simp

end Reached

theorem Work.left_commit_lt {r : ParameterRule} (hle : w.progress.index ≤ w.progress.length)
    (hr : c.rule = .inl r) (hfits : c.Fits settings w.progress) :
    (w.commit settings c).left < w.left := by
  have hroom := hfits.room hle
  have hpos := List.length_pos_iff.mpr (Commit.parameters_ne_nil hr)
  change w.progress.length - (w.progress.index + c.parameters.length) <
    w.progress.length - w.progress.index
  omega

theorem Reached.bindParameters_cases (h : Reached settings s commits w) :
    (∃ more last, Reached settings s (commits ++ more) last ∧ last.progress.current? = none ∧
      w.bindParameters settings = .ok last ∧
      w.parameterRules settings = more.map Commit.name) ∨
    (∃ more last q, Reached settings s (commits ++ more) last ∧
      last.progress.current? = some q ∧
      (∀ (c : Commit) (r : ParameterRule), c.rule = .inl r → ¬ c.Fits settings last.progress) ∧
      w.bindParameters settings =
        .error (.noParameterRule s.nativeName last.progress.index q.name q.type)) := by
  -- Every rule uses up a parameter, so the induction is on the number of those that are left.
  induction hn : w.left using Nat.strongRecOn generalizing w commits with
  | ind n ih =>
    rw [Work.bindParameters, Work.parameterRules]
    cases hcurrent : w.progress.current? with
    | none => exact .inl ⟨[], w, by rwa [List.append_nil], hcurrent, rfl, rfl⟩
    | some q =>
      cases happly : w.applyFirst settings (ParameterRule.priority.map ParameterRule.rule) with
      | none =>
        refine .inr ⟨[], w, q, by rwa [List.append_nil], hcurrent, ?_, ?_⟩
        · exact Work.parameterRules_eq_none_iff.mp happly
        · rw [h.signature_eq]
      | some result =>
        obtain ⟨name, next⟩ := result
        obtain ⟨c, r, hr, hc, rfl, rfl⟩ := Work.chosen_of_parameterRules happly
        have hlt := Work.left_commit_lt h.index_le hr hc.fits
        simp only [hlt, if_true]
        rcases ih _ (hn ▸ hlt) (h.step hc) rfl with
          ⟨more, last, hlast, hcurrent, hok, hnames⟩ | ⟨more, last, q, hlast, hcurrent, hnone, herror⟩
        · rw [List.append_assoc] at hlast
          exact .inl ⟨c :: more, last, hlast, hcurrent, hok, by rw [hnames, List.map_cons]⟩
        · rw [List.append_assoc] at hlast
          exact .inr ⟨c :: more, last, q, hlast, hcurrent, hnone, herror⟩

theorem bindFunction_cases (settings : Settings) (s : Signature) :
    (∃ commits w, Reached settings s commits w ∧ w.progress.current? = none ∧
      w.progress.returnTaken = true ∧ bindFunction settings s = .ok w.draft ∧
      committedRules settings s = commits.map Commit.name) ∨
    (∃ commits w q, Reached settings s commits w ∧ w.progress.current? = some q ∧
      (∀ (c : Commit) (r : ParameterRule), c.rule = .inl r → ¬ c.Fits settings w.progress) ∧
      bindFunction settings s =
        .error (.noParameterRule s.nativeName w.progress.index q.name q.type)) ∨
    (∃ commits w, Reached settings s commits w ∧ w.progress.current? = none ∧
      w.progress.returnTaken = false ∧
      (∀ (c : Commit) (r : ReturnRule), c.rule = .inr r → ¬ c.Fits settings w.progress) ∧
      bindFunction settings s = .error (.noReturnRule s.nativeName s.returns)) := by
  rw [bindFunction, committedRules]
  have hstart : Reached settings s [] (Work.start settings s) := .start
  rcases hstart.bindParameters_cases with
    ⟨commits, w, h, hcurrent, hok, hnames⟩ | ⟨commits, w, q, h, hcurrent, hnone, herror⟩
  case inr =>
    refine .inr (.inl ⟨commits, w, q, h, hcurrent, hnone, ?_⟩)
    rw [herror]
    rfl
  have hleft : w.progress.hasParametersLeft = false :=
    decide_eq_false (Nat.not_lt.mpr (List.getElem?_eq_none_iff.mp hcurrent))
  simp only [hok, hnames, bind, Except.bind, Work.bindReturn]
  cases htaken : w.progress.returnTaken with
  | true =>
    refine .inl ⟨commits, w, h, hcurrent, htaken, ?_, by simp⟩
    simp [Progress.isComplete, hleft, htaken]
  | false =>
    cases happly : w.applyFirst settings (ReturnRule.priority.map ReturnRule.rule) with
    | none =>
      refine .inr (.inr ⟨commits, w, h, hcurrent, htaken, ?_, ?_⟩)
      · exact (Work.returnRules_eq_none_iff h.index_le).mp happly
      · simp [h.signature_eq]
    | some result =>
      obtain ⟨name, next⟩ := result
      obtain ⟨c, r, hr, hc, rfl, rfl⟩ :=
        Work.chosen_of_returnRules hcurrent htaken h.index_le happly
      have hafter : w.progress.after c = { w.progress with returnTaken := true } := by
        rw [Progress.after, Commit.parameters_of_return hr, Commit.takesReturn_of_return hr,
          htaken]
        rfl
      refine .inl ⟨commits ++ [c], w.commit settings c, h.step hc, ?_, ?_, ?_, ?_⟩
      · rw [Work.commit, hafter]
        exact hcurrent
      · rw [Work.commit, hafter]
      · have hcomplete : (w.progress.after c).isComplete = true := by
          rw [hafter]
          change (!w.progress.hasParametersLeft && true) = true
          rw [hleft]
          rfl
        simp [Work.commit, hcomplete]
      · simp

theorem Reached.of_bindFunction {d : Draft} (h : bindFunction settings s = .ok d) :
    ∃ commits w, Reached settings s commits w ∧ w.draft = d ∧ w.progress.current? = none ∧
      w.progress.returnTaken = true ∧ committedRules settings s = commits.map Commit.name := by
  rcases bindFunction_cases settings s with
    ⟨commits, w, hw, hcurrent, htaken, hok, hnames⟩ | ⟨_, _, _, _, _, _, herror⟩ |
    ⟨_, _, _, _, _, _, herror⟩
  · rw [hok] at h
    exact ⟨commits, w, hw, Except.ok.inj h, hcurrent, htaken, hnames⟩
  · rw [herror] at h
    cases h
  · rw [herror] at h
    cases h

theorem Reached.parameters_eq_all (h : Reached settings s commits w)
    (hcurrent : w.progress.current? = none) : commits.flatMap Commit.parameters = s.parameters := by
  have hrest : w.progress.remaining = [] :=
    List.drop_eq_nil_of_le (List.getElem?_eq_none_iff.mp hcurrent)
  rw [h.parameters_eq, hrest, List.append_nil]

theorem exists_draft (h : (bindFunction settings s).toOption.isSome = true) :
    ∃ d, bindFunction settings s = .ok d := by
  cases hresult : bindFunction settings s with
  | ok d => exact ⟨d, rfl⟩
  | error e =>
    rw [hresult] at h
    cases h

end NativeBindings
