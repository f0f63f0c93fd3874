import NativeBindings.Proofs.Body

namespace NativeBindings

variable {settings : Settings} {s : Signature} {commits : List Commit} {w : Work} {c : Commit}

namespace Commit

def mayContinue : Commit → Bool
  | scalar _ _ | receiver _ | handle _ _ | fixedText _ _ _ | text _ | reference _ _ => true
  | _ => false

theorem takesReturn_of_nativeReturn {target : ManagedType × Option String}
    (h : c.nativeReturn? = some target) : c.takesReturn = true := by
  cases c with
  | fixedText buffer size ignored =>
    obtain ⟨type, htype, -⟩ := Option.map_eq_some_iff.mp h
    rw [takesReturn, htype]
    rfl
  | scalar | receiver | handle | text | reference | returnNothing => cases h
  | _ => rfl

end Commit

namespace Reached

theorem exists_before (h : Reached settings s commits w) (hc : c ∈ commits) :
    ∃ earlier before, Reached settings s earlier before ∧ c.Chosen settings before.progress := by
  induction h with
  | start => cases hc
  | @step commits w last h hlast ih =>
    rcases List.mem_append.mp hc with hearlier | hc
    · exact ih hearlier
    · rw [List.mem_singleton.mp hc]
      exact ⟨commits, w, h, hlast⟩

theorem exists_chosen (h : Reached settings s commits w) (hc : c ∈ commits) :
    ∃ p : Progress, p.signature = s ∧ c.Chosen settings p := by
  obtain ⟨earlier, before, hbefore, hchosen⟩ := h.exists_before hc
  exact ⟨before.progress, hbefore.signature_eq, hchosen⟩

theorem returnTaken_eq (h : Reached settings s commits w) :
    w.progress.returnTaken = commits.any Commit.takesReturn := by
  induction h with
  | start => rfl
  | step _ _ ih => simp [Work.commit, Progress.after, ih]

theorem ended (h : Reached settings s commits w) (hc : c ∈ commits)
    (hlast : c.mayContinue = false) :
    w.progress.returnTaken = true ∧ w.progress.current? = none := by
  induction h with
  | start => cases hc
  | @step commits w c' h hc' ih =>
    rcases List.mem_append.mp hc with hearlier | hmem
    · obtain ⟨htaken, hcurrent⟩ := ih hearlier
      exact absurd hcurrent (hc'.of_returnTaken htaken).2
    · obtain rfl := List.mem_singleton.mp hmem
      cases hr : c.rule with
      | inl r =>
        apply (h.step hc').after_growableText
        refine ⟨c, List.mem_append_right _ hmem, ?_⟩
        cases c with
        | growableText => rfl
        | scalar | receiver | handle | fixedText | text | reference => cases hlast
        | _ => cases hr
      | inr r =>
        have hcurrent := (hc'.returned r hr).1
        simp only [Work.commit, Progress.after, Commit.parameters_of_return hr,
          Commit.takesReturn_of_return hr, Bool.or_true, true_and]
        exact hcurrent

theorem mayContinue (h : Reached settings s commits w) (hc : c.Chosen settings w.progress) :
    ∀ earlier ∈ commits, earlier.mayContinue = true := by
  intro earlier hearlier
  cases hlast : earlier.mayContinue with
  | true => rfl
  | false =>
    obtain ⟨htaken, hcurrent⟩ := h.ended hearlier hlast
    exact absurd hcurrent (hc.of_returnTaken htaken).2

theorem pairwise_mayContinue (h : Reached settings s commits w) :
    commits.Pairwise fun earlier _ => earlier.mayContinue = true := by
  induction h with
  | start => exact .nil
  | step h hc ih =>
    rw [List.pairwise_append]
    refine ⟨ih, List.pairwise_singleton _ _, ?_⟩
    intro earlier hearlier _ _
    exact h.mayContinue hc earlier hearlier

theorem eq_concat (h : Reached settings s commits w) (hc : c ∈ commits)
    (hlast : c.mayContinue = false) :
    ∃ earlier, commits = earlier ++ [c] ∧ ∀ c' ∈ earlier, c'.mayContinue = true := by
  cases h with
  | start => cases hc
  | @step earlier w c' h hc' =>
    have hearlier := h.mayContinue hc'
    rcases List.mem_append.mp hc with hmem | hmem
    · rw [hearlier c hmem] at hlast
      cases hlast
    · rw [List.mem_singleton.mp hmem]
      exact ⟨earlier, rfl, hearlier⟩

theorem pairwise_names (h : Reached settings s commits w)
    (hnames : (s.parameters.map Parameter.name).Nodup) :
    commits.Pairwise fun a b => ∀ q ∈ a.parameters, ∀ q' ∈ b.parameters, q.name ≠ q'.name := by
  rw [h.parameters_eq, List.map_append] at hnames
  have hused := (List.nodup_append.mp hnames).1
  rw [List.map_flatMap, List.Nodup, List.pairwise_flatMap] at hused
  refine hused.2.imp fun hdistinct q hq q' hq' => ?_
  exact hdistinct _ (List.mem_map_of_mem hq) _ (List.mem_map_of_mem hq')

theorem fixedText_once (h : Reached settings s commits w)
    (hnames : (s.parameters.map Parameter.name).Nodup) :
    commits.Pairwise fun a b => ¬ (a.rule = .inl .fixedText ∧ b.rule = .inl .fixedText) := by
  -- Fixed buffers have a name of their own, so distinct names leave room for one of them.
  have hbuffer : ∀ c ∈ commits, c.rule = .inl .fixedText →
      ∃ q ∈ c.parameters, q.name = "buffer" := by
    intro c hc hrule
    obtain ⟨p, -, hchosen⟩ := h.exists_chosen hc
    cases c with
    | fixedText buffer size ignored =>
      obtain ⟨-, -, hname, -⟩ := hchosen.fits
      exact ⟨buffer, List.mem_cons_self, hname⟩
    | _ => cases hrule
  refine (h.pairwise_names hnames).imp_of_mem ?_
  rintro a b ha hb hdistinct ⟨harule, hbrule⟩
  obtain ⟨q, hq, hname⟩ := hbuffer a ha harule
  obtain ⟨q', hq', hname'⟩ := hbuffer b hb hbrule
  exact hdistinct q hq q' hq' (hname.trans hname'.symm)

theorem nativeReturn_of_mem (h : Reached settings s commits w) (hc : c ∈ commits)
    {type : ManagedType} {target : Option String} (hreturn : c.nativeReturn? = some (type, target)) :
    w.draft.nativeReturn = type ∧ w.draft.returnVariable = target := by
  induction h with
  | start => cases hc
  | @step commits w c' h hc' ih =>
    rcases List.mem_append.mp hc with hearlier | hmem
    · have htaken : w.progress.returnTaken = true := by
        rw [h.returnTaken_eq, List.any_eq_true]
        exact ⟨c, hearlier, Commit.takesReturn_of_nativeReturn hreturn⟩
      have hnone := (hc'.of_returnTaken htaken).1
      simp only [Work.commit, Draft.extend, hnone, Option.elim_none]
      exact ih hearlier
    · obtain rfl := List.mem_singleton.mp hmem
      simp only [Work.commit, Draft.extend, hreturn, Option.elim_some, and_self]

theorem exists_nativeReturn (h : Reached settings s commits w) {v : String}
    (hv : w.draft.returnVariable = some v) :
    ∃ c ∈ commits, c.nativeReturn? = some (w.draft.nativeReturn, some v) := by
  induction h with
  | start => cases hv
  | @step commits w c h hc ih =>
    cases hreturn : c.nativeReturn? with
    | none =>
      simp only [Work.commit, Draft.extend, hreturn, Option.elim_none] at hv ⊢
      obtain ⟨c', hc', heq⟩ := ih hv
      exact ⟨c', List.mem_append_left _ hc', heq⟩
    | some target =>
      simp only [Work.commit, Draft.extend, hreturn, Option.elim_some] at hv ⊢
      refine ⟨c, List.mem_append_right _ List.mem_cons_self, ?_⟩
      rw [hreturn, ← hv]

end Reached

end NativeBindings
