import NativeBindings.Proofs.RuleCommits

namespace NativeBindings

variable {settings : Settings} {w next : Work} {name : String}

namespace Work

theorem applyFirst_eq_some_iff {rules : List Rule} :
    w.applyFirst settings rules = some (name, next) ↔
      ∃ before rule after, rules = before ++ rule :: after ∧
        (∀ r ∈ before, (r.propose settings w.progress).accepted = false) ∧
        (rule.propose settings w.progress).accepted = true ∧
        name = rule.name ∧ next = w.perform (rule.propose settings w.progress).actions := by
  constructor
  · intro h
    induction rules with
    | nil => cases h
    | cons rule rules ih =>
      rw [applyFirst] at h
      split at h
      case isTrue haccepted =>
        cases h
        exact ⟨[], rule, rules, rfl, by simp, haccepted, rfl, rfl⟩
      case isFalse hdeclined =>
        obtain ⟨before, r, after, rfl, hbefore, hr⟩ := ih h
        refine ⟨rule :: before, r, after, rfl, ?_, hr⟩
        intro q hq
        rcases List.mem_cons.mp hq with rfl | hq
        · exact Bool.eq_false_iff.mpr hdeclined
        · exact hbefore q hq
  · rintro ⟨before, rule, after, rfl, hbefore, haccepted, rfl, rfl⟩
    induction before with
    | nil => simp [applyFirst, haccepted]
    | cons r before ih =>
      have hr := hbefore r List.mem_cons_self
      rw [List.cons_append, applyFirst]
      simp only [hr, Bool.false_eq_true, if_false]
      exact ih fun q hq => hbefore q (List.mem_cons_of_mem r hq)

theorem applyFirst_eq_none_iff {rules : List Rule} :
    w.applyFirst settings rules = none ↔
      ∀ r ∈ rules, (r.propose settings w.progress).accepted = false := by
  induction rules with
  | nil => simp [applyFirst]
  | cons rule rules ih =>
    rw [applyFirst, List.forall_mem_cons, ← ih]
    cases h : (rule.propose settings w.progress).accepted <;> simp

end Work

theorem mem_of_mem_takeWhile_ne {α : Type} [DecidableEq α] {before after : List α} {r q : α}
    (h : q ∈ (before ++ r :: after).takeWhile (· ≠ r)) : q ∈ before := by
  rw [List.takeWhile_append] at h
  split at h
  · simpa using h
  · exact (List.takeWhile_sublist _).mem h

section OfOption

variable {α : Type} [DecidableEq α] {title : α → String}
  {propose : α → Settings → Progress → Option (List Action)} {rules : List α}

theorem Rule.accepted_ofOption {f : Settings → Progress → Option (List Action)} {p : Progress} :
    ((Rule.ofOption name f).propose settings p).accepted = (f settings p).isSome := by
  simp only [ofOption]
  cases f settings p <;> rfl

theorem Rule.declined_ofOption {f : Settings → Progress → Option (List Action)} {p : Progress} :
    ((Rule.ofOption name f).propose settings p).accepted = false ↔ f settings p = none := by
  rw [accepted_ofOption, Option.isSome_eq_false_iff, Option.isNone_iff_eq_none]

theorem Work.applyFirst_ofOption_eq_some
    (h : w.applyFirst settings (rules.map fun r => .ofOption (title r) (propose r)) =
      some (name, next)) :
    ∃ r actions, propose r settings w.progress = some actions ∧
      (∀ q ∈ rules.takeWhile (· ≠ r), propose q settings w.progress = none) ∧
      name = title r ∧ next = w.perform actions := by
  obtain ⟨before, rule, after, hsplit, hbefore, haccepted, rfl, rfl⟩ :=
    applyFirst_eq_some_iff.mp h
  obtain ⟨front, back, rfl, rfl, hback⟩ := List.map_eq_append_iff.mp hsplit
  obtain ⟨r, back, rfl, rfl, rfl⟩ := List.map_eq_cons_iff.mp hback
  rw [Rule.accepted_ofOption, Option.isSome_iff_exists] at haccepted
  obtain ⟨actions, hactions⟩ := haccepted
  refine ⟨r, actions, hactions, fun q hq => ?_, rfl, by simp only [Rule.ofOption, hactions]⟩
  exact Rule.declined_ofOption.mp
    (hbefore _ (List.mem_map_of_mem (mem_of_mem_takeWhile_ne hq)))

omit [DecidableEq α] in
theorem Work.applyFirst_ofOption_eq_none :
    w.applyFirst settings (rules.map fun r => .ofOption (title r) (propose r)) = none ↔
      ∀ r ∈ rules, propose r settings w.progress = none := by
  simp only [applyFirst_eq_none_iff, List.forall_mem_map, Rule.declined_ofOption]

end OfOption

/-- A commit that fits where no earlier rule of its kind accepts. -/
structure Commit.Chosen (settings : Settings) (p : Progress) (c : Commit) : Prop where
  fits : c.Fits settings p
  parameter : ∀ r, c.rule = .inl r →
    ∀ q ∈ ParameterRule.priority.takeWhile (· ≠ r), q.propose settings p = none
  returned : ∀ r, c.rule = .inr r → p.current? = none ∧ p.returnTaken = false ∧
    ∀ q ∈ ReturnRule.priority.takeWhile (· ≠ r), q.propose settings p = none

namespace Commit

theorem Chosen.not_fits {p : Progress} {c : Commit} {r q : ParameterRule}
    (h : c.Chosen settings p) (earlier : Commit) (hr : c.rule = .inl r) (hq : earlier.rule = .inl q)
    (hbefore : q ∈ ParameterRule.priority.takeWhile (· ≠ r)) : ¬ earlier.Fits settings p :=
  fun hfits => propose_ne_none hq hfits (h.parameter r hr q hbefore)

theorem Chosen.return_not_fits {p : Progress} {c : Commit} {r q : ReturnRule}
    (h : c.Chosen settings p) (earlier : Commit) (hr : c.rule = .inr r) (hq : earlier.rule = .inr q)
    (hbefore : q ∈ ReturnRule.priority.takeWhile (· ≠ r)) : ¬ earlier.Fits settings p :=
  fun hfits => return_propose_ne_none hq hfits ((h.returned r hr).2.2 q hbefore)

theorem not_fits_scalar {p : Progress} {q q' : Parameter} {base : NativeType} {type : ManagedType}
    (hcurrent : p.current? = some q) (htype : q.type = .pointer base) :
    ¬ (scalar q' type).Fits settings p := by
  rintro ⟨hq', hscalar⟩
  rw [hcurrent] at hq'
  cases hq'
  rw [htype] at hscalar
  cases hscalar

end Commit

namespace Work

theorem chosen_of_parameterRules
    (h : w.applyFirst settings (ParameterRule.priority.map ParameterRule.rule) =
      some (name, next)) :
    ∃ c r, c.rule = .inl r ∧ c.Chosen settings w.progress ∧ name = c.name ∧
      next = w.commit settings c := by
  obtain ⟨r, actions, hactions, hbefore, rfl, rfl⟩ := applyFirst_ofOption_eq_some h
  obtain ⟨c, hc, hfits, hperform⟩ := ParameterRule.commit_of_propose hactions
  refine ⟨c, r, hc, ⟨hfits, fun r' hr' => ?_, fun r' hr' => ?_⟩, ?_, hperform⟩
  · rw [hc] at hr'
    cases hr'
    exact hbefore
  · rw [hc] at hr'
    cases hr'
  · rw [Commit.name, hc]
    rfl

theorem chosen_of_returnRules (hcurrent : w.progress.current? = none)
    (htaken : w.progress.returnTaken = false) (hroom : w.progress.index ≤ w.progress.length)
    (h : w.applyFirst settings (ReturnRule.priority.map ReturnRule.rule) = some (name, next)) :
    ∃ c r, c.rule = .inr r ∧ c.Chosen settings w.progress ∧ name = c.name ∧
      next = w.commit settings c := by
  obtain ⟨r, actions, hactions, hbefore, rfl, rfl⟩ := applyFirst_ofOption_eq_some h
  obtain ⟨c, hc, hfits, hperform⟩ := ReturnRule.commit_of_propose hroom hactions
  refine ⟨c, r, hc, ⟨hfits, fun r' hr' => ?_, fun r' hr' => ?_⟩, ?_, hperform⟩
  · rw [hc] at hr'
    cases hr'
  · rw [hc] at hr'
    cases hr'
    exact ⟨hcurrent, htaken, hbefore⟩
  · rw [Commit.name, hc]
    rfl

theorem parameterRules_eq_none_iff :
    w.applyFirst settings (ParameterRule.priority.map ParameterRule.rule) = none ↔
      ∀ (c : Commit) (r : ParameterRule), c.rule = .inl r → ¬ c.Fits settings w.progress := by
  refine applyFirst_ofOption_eq_none.trans ⟨fun h c r hr hfits => ?_, fun h r _ => ?_⟩
  · exact Commit.propose_ne_none hr hfits (h r (by cases r <;> decide))
  · rw [Option.eq_none_iff_forall_ne_some]
    intro actions hactions
    obtain ⟨c, hc, hfits, -⟩ := ParameterRule.commit_of_propose hactions
    exact h c r hc hfits

theorem returnRules_eq_none_iff (hroom : w.progress.index ≤ w.progress.length) :
    w.applyFirst settings (ReturnRule.priority.map ReturnRule.rule) = none ↔
      ∀ (c : Commit) (r : ReturnRule), c.rule = .inr r → ¬ c.Fits settings w.progress := by
  refine applyFirst_ofOption_eq_none.trans ⟨fun h c r hr hfits => ?_, fun h r _ => ?_⟩
  · exact Commit.return_propose_ne_none hr hfits (h r (by cases r <;> decide))
  · rw [Option.eq_none_iff_forall_ne_some]
    intro actions hactions
    obtain ⟨c, hc, hfits, -⟩ := ReturnRule.commit_of_propose hroom hactions
    exact h c r hc hfits

end Work

end NativeBindings
