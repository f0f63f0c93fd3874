import NativeBindings.Proofs.Commit

namespace NativeBindings

namespace NativeType

theorem firstMatch_lengthTypes {t : NativeType} {rest : List NativeType} :
    firstMatch (t :: rest) lengthTypes = some 0 ↔ t = named "int" ∨ t = named "size_t" := by
  simp [firstMatch_eq_some_iff, lengthTypes]

end NativeType

namespace Progress

variable {p : Progress} {q : Parameter}

@[simp] theorem remaining_zero : p.remaining[0]? = p.current? := by
  rw [remaining, List.getElem?_drop, Nat.add_zero, current?]

@[simp] theorem remaining_one : p.remaining[1]? = p.next? := by
  rw [remaining, List.getElem?_drop, next?]

theorem drop_one_remaining (h : p.next? = some q) :
    ∃ rest, p.remaining.drop 1 = q :: rest := by
  obtain ⟨hlt, hget⟩ := List.getElem?_eq_some_iff.mp h
  exact ⟨_, by rw [remaining, List.drop_drop, List.drop_eq_getElem_cons hlt, hget]⟩

theorem index_lt_length (h : p.current? = some q) : p.index + 1 ≤ p.length :=
  (List.getElem?_eq_some_iff.mp h).1

theorem succ_index_lt_length (h : p.next? = some q) : p.index + 2 ≤ p.length :=
  (List.getElem?_eq_some_iff.mp h).1

theorem takeParameters_eq {count : Nat} (h : p.index + count ≤ p.length) :
    p.takeParameters count = { p with index := p.index + count } := by
  rw [takeParameters, Nat.min_eq_left h]

end Progress

variable {settings : Settings} {w : Work}

theorem Work.perform_eq_commit {actions : List Action} {c : Commit}
    (hroom : w.progress.index + c.parameters.length ≤ w.progress.length)
    (hparameters : (Staged.ofActions w.progress actions).parameters = c.parameters.length)
    (hreturn : (Staged.ofActions w.progress actions).takesReturn = c.takesReturn)
    (hdraft : w.draft.apply (Staged.ofActions w.progress actions).edits =
      w.draft.extend settings c) :
    w.perform actions = w.commit settings c := by
  simp only [perform, commit, hdraft, hparameters, hreturn, Progress.takeParameters_eq hroom,
    Progress.takeReturn, Progress.after]
  cases c.takesReturn <;> simp

section Execution

attribute [local simp] Staged.ofActions Staged.add Draft.apply Batch.add Batch.close
  Draft.extend Line.outermost Line.deepen Scope.opening Scope.closing Nesting.enter Nesting.exit
  Commit.parameters Commit.takesReturn Commit.nativeParameters Commit.managedParameters
  Commit.declarations Commit.growthLines Commit.scope? Commit.results Commit.nativeReturn?
  Commit.managedReturn? Commit.isReceiver Commit.rule

theorem ParameterRule.commit_of_propose {r : ParameterRule} {actions : List Action}
    (h : r.propose settings w.progress = some actions) :
    ∃ c : Commit, c.rule = .inl r ∧ c.Fits settings w.progress ∧
      w.perform actions = w.commit settings c := by
  cases r with
  | scalar =>
    simp only [propose, Rule.passScalar, bind, Option.bind_eq_some_iff, pure,
      Option.some.injEq] at h
    obtain ⟨q, hq, type, htype, rfl⟩ := h
    refine ⟨.scalar q type, rfl, ⟨hq, htype⟩,
      Work.perform_eq_commit (Progress.index_lt_length hq) ?_ ?_ ?_⟩
    all_goals simp [hq]
  | receiver =>
    simp only [propose, Rule.passReceiver, bind, Option.bind_eq_some_iff, pure] at h
    obtain ⟨name, hname, q, hq, h⟩ := h
    split at h
    case isFalse => cases h
    case isTrue hfit =>
    cases h
    refine ⟨.receiver q, rfl, ⟨hq, hfit.1, name, hname, (NativeType.fits_iff _ _).mp hfit.2⟩,
      Work.perform_eq_commit (Progress.index_lt_length hq) ?_ ?_ ?_⟩
    all_goals simp [hq]
  | handle =>
    simp only [propose, Rule.passHandle, bind, Option.bind_eq_some_iff, pure,
      Option.some.injEq] at h
    obtain ⟨q, hq, className, hclass, rfl⟩ := h
    refine ⟨.handle q className, rfl, ⟨hq, hclass⟩,
      Work.perform_eq_commit (Progress.index_lt_length hq) ?_ ?_ ?_⟩
    all_goals simp [hq]
  | growableText =>
    simp only [propose, Rule.growableText, bind, Option.bind_eq_some_iff] at h
    obtain ⟨buffer, hbuffer, size, hsize, h⟩ := h
    split at h
    case isFalse => cases h
    case isTrue hfit =>
    obtain ⟨hc, hlengths, hlast, htaken, hint⟩ := hfit
    simp only [Option.bind_eq_some_iff, pure, Option.some.injEq] at h
    obtain ⟨length, hlength, rfl⟩ := h
    obtain ⟨rest, hrest⟩ := Progress.drop_one_remaining hsize
    rw [hrest, List.map_cons, NativeType.firstMatch_lengthTypes] at hlengths
    refine ⟨.growableText buffer size length, rfl, ⟨hbuffer, hsize, NativeType.isCString_iff.mp hc,
        hlengths, hlast, htaken, NativeType.name?_eq_some.mp hint, hlength⟩,
      Work.perform_eq_commit (Progress.succ_index_lt_length hsize) ?_ ?_ ?_⟩
    all_goals simp [hbuffer, hsize, Nat.add_assoc]
  | fixedText =>
    simp only [propose, Rule.fixedText, bind, Option.bind_eq_some_iff] at h
    obtain ⟨buffer, hbuffer, size, hsize, h⟩ := h
    split at h
    case isFalse => cases h
    case isTrue hfit =>
    obtain ⟨hbufferName, hsizeName, hc, hint⟩ := hfit
    cases h
    refine ⟨.fixedText buffer size _, rfl, ⟨hbuffer, hsize, hbufferName, hsizeName,
        NativeType.isCString_iff.mp hc, hint, rfl⟩,
      Work.perform_eq_commit (Progress.succ_index_lt_length hsize) ?_ ?_ ?_⟩
    -- What the rule uses up does not depend on the type that it declares for the return value.
    all_goals
      generalize (if w.progress.returnTaken = true then none
        else Rule.ignoredReturn? settings w.progress.signature.returns) = ignored
      cases ignored <;>
        simp [hbuffer, hsize]
  | text =>
    simp only [propose, Rule.passText, bind, Option.bind_eq_some_iff] at h
    obtain ⟨q, hq, h⟩ := h
    split at h
    case isFalse => cases h
    case isTrue hc =>
    cases h
    refine ⟨.text q, rfl, ⟨hq, NativeType.isCString_iff.mp hc⟩,
      Work.perform_eq_commit (Progress.index_lt_length hq) ?_ ?_ ?_⟩
    all_goals simp [hq]
  | reference =>
    simp only [propose, Rule.passReference, bind, Option.bind_eq_some_iff, pure,
      Option.some.injEq] at h
    obtain ⟨q, hq, base, hbase, type, htype, rfl⟩ := h
    refine ⟨.reference q type, rfl, ⟨hq, base, NativeType.base?_eq_some.mp hbase, htype⟩,
      Work.perform_eq_commit (Progress.index_lt_length hq) ?_ ?_ ?_⟩
    all_goals simp [hq]

theorem ReturnRule.commit_of_propose {r : ReturnRule} {actions : List Action}
    (hroom : w.progress.index ≤ w.progress.length)
    (h : r.propose settings w.progress = some actions) :
    ∃ c : Commit, c.rule = .inr r ∧ c.Fits settings w.progress ∧
      w.perform actions = w.commit settings c := by
  cases r with
  | status =>
    simp only [propose, Rule.returnStatus, bind, Option.bind_eq_some_iff] at h
    obtain ⟨type, htype, h⟩ := h
    split at h
    case isFalse => cases h
    case isTrue hstatus =>
    cases h
    refine ⟨.returnStatus type, rfl, ⟨htype, Settings.isStatusCode_iff.mp hstatus⟩,
      Work.perform_eq_commit hroom ?_ ?_ ?_⟩
    all_goals simp
  | scalar =>
    simp only [propose, Rule.returnScalar, bind, Option.bind_eq_some_iff, pure,
      Option.some.injEq] at h
    obtain ⟨type, htype, rfl⟩ := h
    refine ⟨.returnScalar type, rfl, htype, Work.perform_eq_commit hroom ?_ ?_ ?_⟩
    all_goals simp
  | handle =>
    simp only [propose, Rule.returnHandle, bind, Option.bind_eq_some_iff, pure,
      Option.some.injEq] at h
    obtain ⟨className, hclass, rfl⟩ := h
    refine ⟨.returnHandle className, rfl, hclass, Work.perform_eq_commit hroom ?_ ?_ ?_⟩
    all_goals simp
  | nothing =>
    simp only [propose, Rule.returnNothing] at h
    split at h
    case isFalse => cases h
    case isTrue hvoid =>
    cases h
    refine ⟨.returnNothing, rfl, NativeType.isVoid_iff.mp hvoid,
      Work.perform_eq_commit hroom ?_ ?_ ?_⟩
    all_goals simp
  | text =>
    simp only [propose, Rule.returnText] at h
    split at h
    case isFalse => cases h
    case isTrue hc =>
    cases h
    refine ⟨.returnText, rfl, NativeType.isCString_iff.mp hc,
      Work.perform_eq_commit hroom ?_ ?_ ?_⟩
    all_goals simp

end Execution

theorem Commit.propose_ne_none {p : Progress} {c : Commit} {r : ParameterRule}
    (hr : c.rule = .inl r) (h : c.Fits settings p) : r.propose settings p ≠ none := by
  cases c <;> cases hr
  case scalar q type =>
    obtain ⟨hq, htype⟩ := h
    simp [ParameterRule.propose, Rule.passScalar, hq, htype]
  case receiver q =>
    obtain ⟨hq, hindex, name, hname, htype⟩ := h
    simp [ParameterRule.propose, Rule.passReceiver, hq, hname, hindex, htype,
      NativeType.fits_iff]
  case handle q className =>
    obtain ⟨hq, hclass⟩ := h
    simp [ParameterRule.propose, Rule.passHandle, hq, hclass]
  case growableText buffer size length =>
    obtain ⟨hbuffer, hsize, hc, hlengths, hlast, htaken, hint, hlength⟩ := h
    obtain ⟨rest, hrest⟩ := Progress.drop_one_remaining hsize
    simp [ParameterRule.propose, Rule.growableText, hbuffer, hsize, NativeType.isCString_iff, hc,
      hrest, NativeType.firstMatch_lengthTypes, hlengths, hlast, htaken, NativeType.name?_eq_some,
      hint, hlength]
  case fixedText buffer size ignored =>
    obtain ⟨hbuffer, hsize, hbufferName, hsizeName, hc, hint, -⟩ := h
    simp [ParameterRule.propose, Rule.fixedText, hbuffer, hsize, hbufferName, hsizeName,
      NativeType.isCString_iff, hc, hint]
  case text q =>
    obtain ⟨hq, hc⟩ := h
    simp [ParameterRule.propose, Rule.passText, hq, NativeType.isCString_iff, hc]
  case reference q type =>
    obtain ⟨hq, base, hbase, htype⟩ := h
    simp [ParameterRule.propose, Rule.passReference, hq, NativeType.base?_eq_some.mpr hbase, htype]

theorem Commit.return_propose_ne_none {p : Progress} {c : Commit} {r : ReturnRule}
    (hr : c.rule = .inr r) (h : c.Fits settings p) : r.propose settings p ≠ none := by
  cases c <;> cases hr
  case returnStatus type =>
    obtain ⟨htype, hstatus⟩ := h
    simp [ReturnRule.propose, Rule.returnStatus, htype, Settings.isStatusCode_iff.mpr hstatus]
  case returnScalar type => simp [ReturnRule.propose, Rule.returnScalar, show _ = _ from h]
  case returnHandle className => simp [ReturnRule.propose, Rule.returnHandle, show _ = _ from h]
  case returnNothing =>
    simp [ReturnRule.propose, Rule.returnNothing, NativeType.isVoid_iff, show _ = _ from h]
  case returnText =>
    simp [ReturnRule.propose, Rule.returnText, NativeType.isCString_iff, show _ = _ from h]

end NativeBindings
