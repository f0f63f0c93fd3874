import Mathlib.Data.List.Induction
import NativeBindings.Proofs.FirstRule

namespace NativeBindings

def Action.edit? : Action → Option Edit
  | edit e => some e
  | _ => none

structure Attempt where
  settings : Settings
  rules : List Rule

def Work.attempt (w : Work) (a : Attempt) : Work :=
  ((w.applyFirst a.settings a.rules).map Prod.snd).getD w

def Work.session (w : Work) (attempts : List Attempt) : Work :=
  attempts.foldl Work.attempt w

def Progress.yielded (p : Progress) (actions : List Action) : List (Option NativeType) :=
  (List.range (actions.count .takeParameter)).map fun k =>
    (p.signature.parameters[p.index + k]?).map Parameter.type

structure Work.Becomes (w : Work) (actions : List Action) (next : Work) : Prop where
  signature : next.progress.signature = w.progress.signature
  index : next.progress.index = w.progress.index + (w.progress.yielded actions).countP Option.isSome
  room : next.progress.index ≤ w.progress.length
  returnTaken : next.progress.returnTaken =
    (w.progress.returnTaken || actions.contains .takeReturn)
  draft : next.draft = w.draft.apply (actions.filterMap Action.edit?)

variable {settings : Settings} {p : Progress} {w next : Work} {name : String}

namespace Staged

variable {actions : List Action} {action : Action}

theorem ofActions_concat :
    ofActions p (actions ++ [action]) = (ofActions p actions).add p action := by
  rw [ofActions, List.foldl_append]
  rfl

theorem edits_ofActions : (ofActions p actions).edits = actions.filterMap Action.edit? := by
  induction actions using List.reverseRecOn with
  | nil => rfl
  | append_singleton actions action ih =>
    rw [ofActions_concat, List.filterMap_append, ← ih]
    cases action with
    | edit e => rfl
    | takeParameter =>
      rw [add]
      split <;> simp [Action.edit?]
    | takeReturn => simp [add, Action.edit?]

theorem takesReturn_ofActions :
    (ofActions p actions).takesReturn = actions.contains .takeReturn := by
  induction actions using List.reverseRecOn with
  | nil => rfl
  | append_singleton actions action ih =>
    rw [ofActions_concat, List.contains_append, ← ih]
    cases action with
    | edit e => simp [add]
    | takeParameter =>
      rw [add]
      split <;> simp
    | takeReturn => simp [add]

theorem parameters_eq_countP (p : Progress) (actions : List Action) :
    (ofActions p actions).parameters = (ofActions p actions).yields.countP Option.isSome := by
  induction actions using List.reverseRecOn with
  | nil => rfl
  | append_singleton actions action ih =>
    rw [ofActions_concat]
    cases action with
    | edit e => exact ih
    | takeParameter =>
      rw [add]
      split <;> simp [ih]
    | takeReturn => exact ih

theorem parameters_eq_min (p : Progress) (actions : List Action) :
    (ofActions p actions).parameters =
      min (actions.count .takeParameter) p.remaining.length := by
  induction actions using List.reverseRecOn with
  | nil => rw [List.count_nil, Nat.zero_min]; rfl
  | append_singleton actions action ih =>
    rw [ofActions_concat, List.count_append]
    cases action with
    | edit e => simp [add, ih]
    | takeParameter =>
      rw [add, List.count_singleton_self]
      split
      case h_1 h =>
        have hlt := (List.getElem?_eq_some_iff.mp h).1
        simp only [ih] at hlt ⊢
        omega
      case h_2 h =>
        have hle := List.getElem?_eq_none_iff.mp h
        simp only [ih] at hle ⊢
        omega
    | takeReturn => simp [add, ih]

theorem yields_ofActions : (ofActions p actions).yields = p.yielded actions := by
  induction actions using List.reverseRecOn with
  | nil => rfl
  | append_singleton actions action ih =>
    rw [ofActions_concat, Progress.yielded, List.count_append]
    cases action with
    | edit e => simpa [add, Progress.yielded] using ih
    | takeParameter =>
      -- As many were taken as were asked for, until there are no more.
      have hmin := parameters_eq_min p actions
      have hget (k : Nat) : p.signature.parameters[p.index + k]? = p.remaining[k]? := by
        rw [Progress.remaining, List.getElem?_drop]
      rw [List.count_singleton_self, List.range_succ, List.map_append, ← Progress.yielded, ← ih,
        add]
      split
      case h_1 parameter h =>
        have hlt := (List.getElem?_eq_some_iff.mp h).1
        have hcount : (ofActions p actions).parameters = actions.count .takeParameter := by omega
        rw [hcount] at h
        simp [hget, h]
      case h_2 h =>
        have hle := List.getElem?_eq_none_iff.mp h
        have hnone : p.remaining[actions.count .takeParameter]? = none := by
          apply List.getElem?_eq_none
          omega
        simp [hget, hnone]
    | takeReturn => simpa [add, Progress.yielded] using ih

end Staged

namespace Work

variable {actions : List Action} {rules : List Rule}

theorem perform_becomes (hle : w.progress.index ≤ w.progress.length) :
    w.Becomes actions (w.perform actions) := by
  have hmin := Staged.parameters_eq_min w.progress actions
  have hcount := Staged.parameters_eq_countP w.progress actions
  have hroom : w.progress.index + (Staged.ofActions w.progress actions).parameters ≤
      w.progress.length := by
    have hlength : w.progress.remaining.length = w.progress.length - w.progress.index := by
      rw [Progress.remaining, List.length_drop, Progress.length]
    omega
  have hprogress : (w.perform actions).progress =
      { w.progress with
        index := w.progress.index + (Staged.ofActions w.progress actions).parameters
        returnTaken := w.progress.returnTaken || actions.contains .takeReturn } := by
    rw [perform, Progress.takeParameters, Nat.min_eq_left hroom, Staged.takesReturn_ofActions]
    cases actions.contains Action.takeReturn <;> simp [Progress.takeReturn]
  constructor
  · rw [hprogress]
  · rw [hprogress, hcount, Staged.yields_ofActions]
  · rw [hprogress]
    exact hroom
  · rw [hprogress]
  · rw [perform, Staged.edits_ofActions]

theorem attempt_of_eq_some {a : Attempt} (h : w.applyFirst a.settings a.rules = some (name, next)) :
    w.attempt a = next := by
  rw [attempt, h]
  rfl

theorem attempt_of_eq_none {a : Attempt} (h : w.applyFirst a.settings a.rules = none) :
    w.attempt a = w := by
  rw [attempt, h]
  rfl

theorem attempt_cases (w : Work) (a : Attempt) :
    ((∀ r ∈ a.rules, (r.propose a.settings w.progress).accepted = false) ∧
      w.applyFirst a.settings a.rules = none ∧ w.attempt a = w) ∨
    ∃ before rule after, a.rules = before ++ rule :: after ∧
      (∀ r ∈ before, (r.propose a.settings w.progress).accepted = false) ∧
      (rule.propose a.settings w.progress).accepted = true ∧
      w.applyFirst a.settings a.rules = some (rule.name, w.attempt a) ∧
      w.attempt a = w.attempt { a with rules := [rule] } ∧
      w.attempt a = w.perform (rule.propose a.settings w.progress).actions := by
  cases h : w.applyFirst a.settings a.rules with
  | none => exact .inl ⟨applyFirst_eq_none_iff.mp h, rfl, attempt_of_eq_none h⟩
  | some result =>
    obtain ⟨name, next⟩ := result
    have hattempt := attempt_of_eq_some h
    obtain ⟨before, rule, after, hrules, hbefore, haccepted, rfl, rfl⟩ :=
      applyFirst_eq_some_iff.mp h
    have halone : w.applyFirst a.settings [rule] =
        some (rule.name, w.perform (rule.propose a.settings w.progress).actions) :=
      applyFirst_eq_some_iff.mpr ⟨[], rule, [], rfl, by simp, haccepted, rfl, rfl⟩
    have hsingle : w.attempt { a with rules := [rule] } = _ := attempt_of_eq_some halone
    refine .inr ⟨before, rule, after, hrules, hbefore, haccepted, ?_, ?_, hattempt⟩
    · rw [hattempt]
    · rw [hattempt, hsingle]

theorem attempt_progress (hle : w.progress.index ≤ w.progress.length) (a : Attempt) :
    (w.attempt a).progress.signature = w.progress.signature ∧
      w.progress.index ≤ (w.attempt a).progress.index ∧
      (w.attempt a).progress.index ≤ w.progress.length ∧
      (w.progress.returnTaken = true → (w.attempt a).progress.returnTaken = true) := by
  rcases w.attempt_cases a with ⟨-, -, hsame⟩ | ⟨-, rule, -, -, -, -, -, -, hperform⟩
  · rw [hsame]
    exact ⟨rfl, Nat.le_refl _, hle, id⟩
  · have hbecomes : w.Becomes (rule.propose a.settings w.progress).actions _ := perform_becomes hle
    rw [hperform]
    refine ⟨hbecomes.signature, ?_, hbecomes.room, ?_⟩
    · rw [hbecomes.index]
      omega
    · intro htaken
      rw [hbecomes.returnTaken, htaken, Bool.true_or]

theorem session_progress (hle : w.progress.index ≤ w.progress.length) (attempts : List Attempt) :
    (w.session attempts).progress.signature = w.progress.signature ∧
      w.progress.index ≤ (w.session attempts).progress.index ∧
      (w.session attempts).progress.index ≤ w.progress.length ∧
      (w.progress.returnTaken = true → (w.session attempts).progress.returnTaken = true) := by
  induction attempts generalizing w with
  | nil => exact ⟨rfl, Nat.le_refl _, hle, id⟩
  | cons a attempts ih =>
    obtain ⟨hsignature, hfirst, hroom, htaken⟩ := w.attempt_progress hle a
    have hlength : (w.attempt a).progress.length = w.progress.length := by
      rw [Progress.length, hsignature, ← Progress.length]
    rw [← hlength] at hroom
    obtain ⟨hsignature', hrest, hroom', htaken'⟩ := ih hroom
    refine ⟨hsignature'.trans hsignature, Nat.le_trans hfirst hrest, ?_, fun h => ?_⟩
    · rw [← hlength]
      exact hroom'
    · exact htaken' (htaken h)

end Work

/-- Whatever was attempted before, an attempt leaves the state as it is or carries out one rule, the
first that accepts, as if it had been tried alone. A rule takes the parameters from the index on,
and nothing once they are used up; so the index never passes the last of them, and neither it nor
the return value is ever given back. -/
theorem session_safe (settings : Settings) (s : Signature) (attempts : List Attempt) :
    let w := (Work.start settings s).session attempts
    (w.progress.signature = s ∧ w.progress.index ≤ s.parameters.length ∧
      ∃ taken, taken.length = w.progress.index ∧ s.parameters = taken ++ w.progress.remaining) ∧
    (∀ more, w.progress.index ≤ (w.session more).progress.index ∧
      (w.progress.returnTaken = true → (w.session more).progress.returnTaken = true)) ∧
    (∀ actions, (Staged.ofActions w.progress actions).yields = w.progress.yielded actions ∧
      (Staged.ofActions w.progress actions).parameters =
        (w.progress.yielded actions).countP Option.isSome) ∧
    ∀ a : Attempt,
      ((∀ r ∈ a.rules, (r.propose a.settings w.progress).accepted = false) ∧
        w.applyFirst a.settings a.rules = none ∧ w.attempt a = w) ∨
      ∃ before rule after, a.rules = before ++ rule :: after ∧
        (∀ r ∈ before, (r.propose a.settings w.progress).accepted = false) ∧
        (rule.propose a.settings w.progress).accepted = true ∧
        w.applyFirst a.settings a.rules = some (rule.name, w.attempt a) ∧
        w.attempt a = w.attempt { a with rules := [rule] } ∧
        w.Becomes (rule.propose a.settings w.progress).actions (w.attempt a) := by
  intro w
  obtain ⟨hsignature, -, hle, -⟩ :=
    Work.session_progress (w := Work.start settings s) (Nat.zero_le _) attempts
  have hsignature : w.progress.signature = s := hsignature
  have hle : w.progress.index ≤ w.progress.length := by
    rw [Progress.length, hsignature]
    exact hle
  refine ⟨⟨hsignature, ?_, s.parameters.take w.progress.index, ?_, ?_⟩, ?_, ?_, ?_⟩
  · rwa [Progress.length, hsignature] at hle
  · rw [Progress.length, hsignature] at hle
    exact List.length_take_of_le hle
  · rw [Progress.remaining, hsignature, List.take_append_drop]
  · intro more
    obtain ⟨-, hindex, -, htaken⟩ := Work.session_progress hle more
    exact ⟨hindex, htaken⟩
  · intro actions
    rw [← Staged.yields_ofActions]
    exact ⟨rfl, Staged.parameters_eq_countP _ _⟩
  · intro a
    rcases w.attempt_cases a with
      hnone | ⟨before, rule, after, hrules, hbefore, haccepted, hfirst, halone, hperform⟩
    · exact .inl hnone
    · refine .inr ⟨before, rule, after, hrules, hbefore, haccepted, hfirst, halone, ?_⟩
      rw [hperform]
      exact Work.perform_becomes hle

example :
    let declines : Rule :=
      ⟨"declines", fun _ _ => ⟨[.edit .instanceMethod, .takeParameter, .takeReturn], false⟩⟩
    let greedy : Rule := ⟨"greedy", fun _ _ => ⟨List.replicate 3 .takeParameter, true⟩⟩
    let parameters : List Parameter := [⟨"a", .named "int"⟩, ⟨"b", .named "bool"⟩]
    let s : Signature := ⟨"sp_f", "F", parameters, .named "void", none, true⟩
    (Work.start {} s).session [⟨{}, [declines]⟩, ⟨{}, [declines, greedy]⟩] =
      { progress := ⟨s, 2, false⟩, draft := .start {} s } := by decide

end NativeBindings
