import NativeBindings.Proofs.OutputPairs

namespace NativeBindings

def Settings.returnLocal? (settings : Settings) (t : NativeType) : Option String :=
  if (settings.scalar? t).isSome then
    some (if settings.isStatusCode t then "ret_status" else "ret_value")
  else if (settings.handleClass? t).isSome then some "ret_handle"
  else if t.isCString then some "ret_string"
  else none

/-- A growable buffer takes the return value for a length; a fixed buffer leaves no use for it. -/
def Signature.callTarget? (settings : Settings) (s : Signature) : Option String :=
  if ∃ i < s.parameters.length, s.GrowablePairAt settings i then some Rule.lengthVariable
  else if (∃ i < s.parameters.length, s.FixedPairAt settings i) ∧
      (Rule.ignoredReturn? settings s.returns).isSome then none
  else settings.returnLocal? s.returns

variable {settings : Settings} {s : Signature} {p : Progress} {c : Commit} {commits : List Commit}
  {w : Work} {i : Nat}

theorem Signature.TextAt.lt (h : s.TextAt settings i) : i < s.parameters.length := by
  obtain ⟨⟨t, ht, -⟩, -⟩ := h
  obtain ⟨q, hq, -⟩ := Option.map_eq_some_iff.mp ht
  exact (List.getElem?_eq_some_iff.mp hq).1

namespace Commit

theorem no_target_of_mayContinue (h : c.mayContinue = true) {type : ManagedType} {v : String} :
    c.nativeReturn? ≠ some (type, some v) := by
  intro hreturn
  cases c with
  | fixedText buffer size ignored =>
    obtain ⟨_, -, htarget⟩ := Option.map_eq_some_iff.mp hreturn
    cases htarget
  | scalar | receiver | handle | text | reference => cases hreturn
  | _ => cases h

theorem Chosen.returnLocal?_eq (h : c.Chosen settings p) {r : ReturnRule} (hr : c.rule = .inr r) :
    settings.returnLocal? p.signature.returns = c.nativeReturn?.bind Prod.snd := by
  have hfits := h.fits
  cases c with
  | returnStatus type =>
    obtain ⟨htype, hstatus⟩ := hfits
    rw [Settings.returnLocal?, if_pos (Option.isSome_of_eq_some htype),
      if_pos (Settings.isStatusCode_iff.mpr hstatus)]
    rfl
  | returnScalar type =>
    have hstatus : ¬ settings.isStatusCode p.signature.returns = true := fun hstatus =>
      h.return_not_fits (.returnStatus type) rfl rfl (by decide)
        ⟨hfits, Settings.isStatusCode_iff.mp hstatus⟩
    rw [Settings.returnLocal?, if_pos (Option.isSome_of_eq_some hfits), if_neg hstatus]
    rfl
  | returnHandle className =>
    obtain ⟨name, hname, -⟩ :=
      Settings.handleClass?_isSome_iff.mp (Option.isSome_of_eq_some hfits)
    have hscalar : ¬ (settings.scalar? p.signature.returns).isSome = true := by
      rw [hname]
      nofun
    rw [Settings.returnLocal?, if_neg hscalar, if_pos (Option.isSome_of_eq_some hfits)]
    rfl
  | returnNothing =>
    have hvoid : p.signature.returns = .named "void" := hfits
    have hscalar : settings.scalar? p.signature.returns = none :=
      Option.eq_none_iff_forall_ne_some.mpr fun type htype =>
        h.return_not_fits (.returnScalar type) rfl rfl (by decide) htype
    rw [hvoid] at hscalar ⊢
    rw [Settings.returnLocal?, hscalar]
    rfl
  | returnText =>
    have hc : p.signature.returns = .pointer (.named "char") := hfits
    have hclass : settings.handleClass? p.signature.returns = none :=
      Option.eq_none_iff_forall_ne_some.mpr fun className hclass =>
        h.return_not_fits (.returnHandle className) rfl rfl (by decide) hclass
    rw [hc] at hclass ⊢
    rw [Settings.returnLocal?, hclass]
    rfl
  | _ => cases hr

end Commit

namespace Reached

theorem lt_index (h : Reached settings s commits w) (hcurrent : w.progress.current? = none)
    (hi : i < s.parameters.length) : i < w.progress.index := by
  have hle := List.getElem?_eq_none_iff.mp hcurrent
  rw [h.signature_eq] at hle
  omega

theorem exists_growablePairAt_iff (h : Reached settings s commits w)
    (hcurrent : w.progress.current? = none) :
    (∃ i < s.parameters.length, s.GrowablePairAt settings i) ↔
      ∃ c ∈ commits, c.rule = .inl .growableText := by
  constructor
  · rintro ⟨i, hi, hpair⟩
    obtain ⟨earlier, before, c, r, hbefore, hchosen, hr, rfl, hc⟩ :=
      h.exists_commit_at (h.lt_index hcurrent hi) hpair.1
    exact ⟨c, hc, (hbefore.growablePairAt_iff hchosen hr).mp hpair⟩
  · rintro ⟨c, hc, hrule⟩
    obtain ⟨earlier, before, hbefore, hchosen⟩ := h.exists_before hc
    have hpair := (hbefore.growablePairAt_iff hchosen hrule).mpr hrule
    exact ⟨before.progress.index, hpair.1.lt, hpair⟩

theorem not_ignored (h : Reached settings s commits w) (hcurrent : w.progress.current? = none)
    (hleft : w.progress.returnTaken = false) :
    ¬ ((∃ i < s.parameters.length, s.FixedPairAt settings i) ∧
      (Rule.ignoredReturn? settings s.returns).isSome = true) := by
  -- The return rule comes when no fixed buffer has taken the return value.
  rintro ⟨⟨i, hi, hpair⟩, hsome⟩
  obtain ⟨c, hc, hrule | hrule⟩ := h.buffer_mem_of_fixedPairAt (h.lt_index hcurrent hi) hpair
  · have htaken := h.after_growableText ⟨c, hc, hrule⟩
    rw [hleft] at htaken
    cases htaken.1
  · rw [(h.return_left hleft).2 (Commit.name_mem_iff.mpr ⟨c, hc, hrule⟩)] at hsome
    cases hsome

theorem returnVariable_eq (h : Reached settings s commits w)
    (hcurrent : w.progress.current? = none) (htaken : w.progress.returnTaken = true) :
    w.draft.returnVariable = s.callTarget? settings := by
  rw [Signature.callTarget?]
  by_cases hgrowable : ∃ c ∈ commits, c.rule = .inl .growableText
  · rw [if_pos ((h.exists_growablePairAt_iff hcurrent).mpr hgrowable)]
    obtain ⟨c, hc, hrule⟩ := hgrowable
    cases c with
    | growableText => exact (h.nativeReturn_of_mem hc rfl).2
    | _ => cases hrule
  rw [if_neg (mt (h.exists_growablePairAt_iff hcurrent).mp hgrowable)]
  rw [h.returnTaken_eq, List.any_eq_true] at htaken
  obtain ⟨c, hc, htakes⟩ := htaken
  obtain ⟨earlier, before, hbefore, hchosen⟩ := h.exists_before hc
  cases hr : c.rule with
  | inl r =>
    cases c with
    | growableText => exact absurd ⟨_, hc, rfl⟩ hgrowable
    | fixedText buffer size ignored =>
      obtain ⟨type, rfl⟩ := Option.isSome_iff_exists.mp htakes
      obtain ⟨-, -, -, -, -, -, hignored⟩ := hchosen.fits
      have hsome : (Rule.ignoredReturn? settings s.returns).isSome = true := by
        rw [hbefore.signature_eq] at hignored
        split at hignored
        · cases hignored
        · rw [← hignored]
          rfl
      obtain ⟨i, -, hpair⟩ := h.fixedPairAt_of_mem ⟨_, hc, rfl⟩
      rw [if_pos ⟨⟨i, hpair.1.lt, hpair⟩, hsome⟩]
      exact (h.nativeReturn_of_mem hc rfl).2
    | scalar | receiver | handle | text | reference => cases htakes
    | _ => cases hr
  | inr r =>
    obtain ⟨hnone, hleft, -⟩ := hchosen.returned r hr
    have hlocal := hchosen.returnLocal?_eq hr
    rw [hbefore.signature_eq] at hlocal
    rw [if_neg (hbefore.not_ignored hnone hleft), hlocal]
    cases hreturn : c.nativeReturn? with
    | some target => exact (h.nativeReturn_of_mem hc hreturn).2
    | none =>
      refine Option.eq_none_iff_forall_ne_some.mpr fun v hv => ?_
      obtain ⟨c', hc', hreturn'⟩ := h.exists_nativeReturn hv
      have hlast : c.mayContinue = false := by cases c <;> cases hr <;> rfl
      obtain ⟨earlier, rfl, hcontinue⟩ := h.eq_concat hc hlast
      rcases List.mem_append.mp hc' with hc' | hc'
      · exact Commit.no_target_of_mayContinue (hcontinue c' hc') hreturn'
      · rw [List.mem_singleton.mp hc', hreturn] at hreturn'
        cases hreturn'

end Reached

end NativeBindings
