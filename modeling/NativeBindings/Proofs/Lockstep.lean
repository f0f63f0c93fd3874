import NativeBindings.Proofs.FirstRule

namespace NativeBindings

def Work.finish (settings : Settings) (w : Work) : Except BindError Draft := do
  let w ← w.bindParameters settings
  let w ← w.bindReturn settings
  if w.progress.isComplete then .ok w.draft else .error w.incomplete

theorem bindFunction_eq_finish (settings : Settings) (s : Signature) :
    bindFunction settings s = (Work.start settings s).finish settings := rfl

def Work.over (w : Work) (s : Signature) (change : Draft → Draft) : Work where
  progress := { w.progress with signature := s }
  draft := change w.draft

/-- What keeps two bindings in step whose signatures differ in the receiver at most, and whose
drafts differ by a change. -/
structure Lockstep (settings settings' : Settings) (s s' : Signature) (change : Draft → Draft)
    (inv : Work → Prop) : Prop where
  same : s' = { s with receiver := s'.receiver }
  signature : ∀ w, inv w → w.progress.signature = s
  parameter : ∀ w, inv w → ∀ r : ParameterRule,
    r.propose settings' { w.progress with signature := s' } = r.propose settings w.progress
  returned : ∀ w, inv w → ∀ r : ReturnRule,
    r.propose settings' { w.progress with signature := s' } = r.propose settings w.progress
  apply : ∀ w edits, inv w → change (w.draft.apply edits) = (change w.draft).apply edits
  keeps : ∀ w actions, inv w → inv (w.perform actions)

variable {settings settings' : Settings} {s s' : Signature} {change : Draft → Draft}
  {inv : Work → Prop} {w : Work}

theorem Staged.ofActions_congr {p p' : Progress} (h : p'.remaining = p.remaining)
    (actions : List Action) : ofActions p' actions = ofActions p actions := by
  have hadd : add p' = add p := by
    funext staged action
    cases action <;> simp only [add, h]
  rw [ofActions, ofActions, hadd]

namespace Work

theorem finish_of_bindParameters_error {e : BindError} (h : w.bindParameters settings = .error e) :
    w.finish settings = .error e := by
  rw [finish, h]
  rfl

theorem finish_eq_of_applyFirst {q : Parameter} {name : String} {next : Work}
    (hcurrent : w.progress.current? = some q)
    (hfirst : w.applyFirst settings (ParameterRule.priority.map ParameterRule.rule) =
      some (name, next))
    (hleft : next.left < w.left) : w.finish settings = next.finish settings := by
  have hbind : w.bindParameters settings = next.bindParameters settings := by
    rw [bindParameters]
    simp only [hcurrent, hfirst, hleft, if_true]
  rw [finish, hbind]
  rfl

theorem applyFirst_over {rules : List Rule}
    (hrules : ∀ r ∈ rules, r.propose settings' (w.over s' change).progress =
      r.propose settings w.progress)
    (hperform : ∀ actions,
      (w.over s' change).perform actions = (w.perform actions).over s' change) :
    (w.over s' change).applyFirst settings' rules =
      (w.applyFirst settings rules).map fun next => (next.1, next.2.over s' change) := by
  induction rules with
  | nil => rfl
  | cons rule rules ih =>
    rw [applyFirst, applyFirst, hrules rule List.mem_cons_self]
    by_cases haccepted : (rule.propose settings w.progress).accepted = true
    · simp only [haccepted, if_true, hperform, Option.map_some]
    · simp only [haccepted]
      exact ih fun r hr => hrules r (List.mem_cons_of_mem rule hr)

end Work

namespace Lockstep

theorem current?_over (h : Lockstep settings settings' s s' change inv) (hw : inv w) :
    (w.over s' change).progress.current? = w.progress.current? := by
  rw [Progress.current?, Progress.current?, h.signature w hw, Work.over, h.same]

theorem length_over (h : Lockstep settings settings' s s' change inv) (hw : inv w) :
    (w.over s' change).progress.length = w.progress.length := by
  rw [Progress.length, Progress.length, h.signature w hw, Work.over, h.same]

theorem perform_over (h : Lockstep settings settings' s s' change inv) (hw : inv w)
    (actions : List Action) :
    (w.over s' change).perform actions = (w.perform actions).over s' change := by
  have hremaining : (w.over s' change).progress.remaining = w.progress.remaining := by
    rw [Progress.remaining, Progress.remaining, h.signature w hw, Work.over, h.same]
  have hstaged := Staged.ofActions_congr hremaining actions
  have hedits := h.apply w (Staged.ofActions w.progress actions).edits hw
  have hlength := h.length_over hw
  rw [Work.perform, Work.perform, hstaged, Progress.takeParameters, Progress.takeParameters,
    hlength]
  simp only [Work.over, hedits]
  split <;> rfl

theorem parameterRules_over (h : Lockstep settings settings' s s' change inv) (hw : inv w) :
    (w.over s' change).applyFirst settings' (ParameterRule.priority.map ParameterRule.rule) =
      (w.applyFirst settings (ParameterRule.priority.map ParameterRule.rule)).map
        fun next => (next.1, next.2.over s' change) := by
  refine Work.applyFirst_over (List.forall_mem_map.mpr fun r _ => ?_) (h.perform_over hw)
  simp only [ParameterRule.rule, Rule.ofOption, Work.over, h.parameter w hw r]

theorem returnRules_over (h : Lockstep settings settings' s s' change inv) (hw : inv w) :
    (w.over s' change).applyFirst settings' (ReturnRule.priority.map ReturnRule.rule) =
      (w.applyFirst settings (ReturnRule.priority.map ReturnRule.rule)).map
        fun next => (next.1, next.2.over s' change) := by
  refine Work.applyFirst_over (List.forall_mem_map.mpr fun r _ => ?_) (h.perform_over hw)
  simp only [ReturnRule.rule, Rule.ofOption, Work.over, h.returned w hw r]

theorem keeps_next (h : Lockstep settings settings' s s' change inv) (hw : inv w)
    {rules : List Rule} {name : String} {next : Work} (hnext : w.applyFirst settings rules = some (name, next)) :
    inv next := by
  obtain ⟨_, rule, _, -, -, -, -, rfl⟩ := Work.applyFirst_eq_some_iff.mp hnext
  exact h.keeps w _ hw

theorem bindParameters (h : Lockstep settings settings' s s' change inv) (hw : inv w) :
    (∃ e, w.bindParameters settings = .error e ∧
      (w.over s' change).bindParameters settings' = .error e) ∨
    ∃ last, inv last ∧ w.bindParameters settings = .ok last ∧
      (w.over s' change).bindParameters settings' = .ok (last.over s' change) := by
  induction hn : w.left using Nat.strongRecOn generalizing w with
  | ind n ih =>
    have hname : s'.nativeName = s.nativeName := by rw [h.same]
    have hleft {next : Work} (hnext : inv next) : (next.over s' change).left = next.left := by
      rw [Work.left, Work.left, h.length_over hnext]
      rfl
    rw [Work.bindParameters, Work.bindParameters, h.current?_over hw, h.parameterRules_over hw]
    cases w.progress.current? with
    | none => exact .inr ⟨w, hw, rfl, rfl⟩
    | some q =>
      cases hnext : w.applyFirst settings (ParameterRule.priority.map ParameterRule.rule) with
      | none =>
        refine .inl ⟨_, rfl, ?_⟩
        simp only [Option.map_none, Work.over, hname, h.signature w hw]
      | some result =>
        obtain ⟨name, next⟩ := result
        have hinv := h.keeps_next hw hnext
        simp only [Option.map_some, hleft hw, hleft hinv]
        by_cases hlt : next.left < w.left
        · simp only [hlt, if_true]
          exact ih _ (hn ▸ hlt) hinv rfl
        · simp only [hlt, if_false]
          refine .inl ⟨_, rfl, ?_⟩
          rw [Work.incomplete, Work.incomplete, h.length_over hinv]
          simp only [Work.over, hname, h.signature next hinv]

theorem bindReturn (h : Lockstep settings settings' s s' change inv) (hw : inv w) :
    (∃ e, w.bindReturn settings = .error e ∧ (w.over s' change).bindReturn settings' = .error e) ∨
    ∃ last, inv last ∧ w.bindReturn settings = .ok last ∧
      (w.over s' change).bindReturn settings' = .ok (last.over s' change) := by
  have hname : s'.nativeName = s.nativeName := by rw [h.same]
  have hreturns : s'.returns = s.returns := by rw [h.same]
  have htaken : (w.over s' change).progress.returnTaken = w.progress.returnTaken := rfl
  rw [Work.bindReturn, Work.bindReturn, htaken, h.returnRules_over hw]
  by_cases htaken : w.progress.returnTaken = true
  · simp only [htaken, if_true]
    exact .inr ⟨w, hw, rfl, rfl⟩
  · simp only [htaken]
    cases hnext : w.applyFirst settings (ReturnRule.priority.map ReturnRule.rule) with
    | none =>
      refine .inl ⟨_, rfl, ?_⟩
      simp only [Option.map_none, Work.over, hname, hreturns, h.signature w hw]
      rfl
    | some result => exact .inr ⟨_, h.keeps_next hw hnext, rfl, rfl⟩

theorem finish (h : Lockstep settings settings' s s' change inv) (hw : inv w) :
    (∃ e, w.finish settings = .error e ∧ (w.over s' change).finish settings' = .error e) ∨
    ∃ last, inv last ∧ w.finish settings = .ok last.draft ∧
      (w.over s' change).finish settings' = .ok (change last.draft) := by
  rcases h.bindParameters hw with ⟨e, herror, herror'⟩ | ⟨middle, hmiddle, hok, hok'⟩
  · exact .inl ⟨e, Work.finish_of_bindParameters_error herror,
      Work.finish_of_bindParameters_error herror'⟩
  rcases h.bindReturn hmiddle with ⟨e, herror, herror'⟩ | ⟨last, hlast, hlastOk, hlastOk'⟩
  · refine .inl ⟨e, ?_, ?_⟩
    · simp only [Work.finish, hok, bind, Except.bind, herror]
    · simp only [Work.finish, hok', bind, Except.bind, herror']
  · have hname : s'.nativeName = s.nativeName := by rw [h.same]
    have hlength := h.length_over hlast
    have hcomplete : (last.over s' change).progress.isComplete = last.progress.isComplete := by
      simp only [Progress.isComplete, Progress.hasParametersLeft, hlength]
      rfl
    have hincomplete : (last.over s' change).incomplete = last.incomplete := by
      rw [Work.incomplete, Work.incomplete, hlength]
      simp only [Work.over, hname, h.signature last hlast]
    simp only [Work.finish, hok, hok', bind, Except.bind, hlastOk, hlastOk', hcomplete, hincomplete]
    by_cases hdone : last.progress.isComplete = true
    · simp only [hdone, if_true]
      exact .inr ⟨last, hlast, rfl, rfl⟩
    · simp only [hdone]
      exact .inl ⟨last.incomplete, rfl, rfl⟩

end Lockstep

end NativeBindings
