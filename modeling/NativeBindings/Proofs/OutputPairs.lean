import Mathlib.Data.List.ReduceOption
import NativeBindings.Proofs.Exit

namespace NativeBindings

def Settings.IsText (settings : Settings) (t : NativeType) : Prop :=
  t = .pointer (.named "char") ∧ ¬ settings.IsHandle "char"

namespace Signature

def nameAt? (s : Signature) (i : Nat) : Option String := s.parameters[i]?.map Parameter.name

def typeAt? (s : Signature) (i : Nat) : Option NativeType := s.parameters[i]?.map Parameter.type

def ReceiverAt (s : Signature) (i : Nat) : Prop :=
  i = 0 ∧ ∃ name ∈ s.receiver, s.typeAt? i = some (.pointer (.named name))

def TextAt (settings : Settings) (s : Signature) (i : Nat) : Prop :=
  (∃ t ∈ s.typeAt? i, settings.IsText t) ∧ ¬ s.ReceiverAt i

def FixedPairAt (settings : Settings) (s : Signature) (i : Nat) : Prop :=
  s.TextAt settings i ∧ s.nameAt? i = some "buffer" ∧ s.nameAt? (i + 1) = some "buffer_size" ∧
    s.typeAt? (i + 1) = some (.named "int")

/-- The last two parameters of a function that returns a length. An earlier fixed pair leaves the
length only if it is a status code. -/
def GrowablePairAt (settings : Settings) (s : Signature) (i : Nat) : Prop :=
  s.TextAt settings i ∧ i + 2 = s.parameters.length ∧
    (s.typeAt? (i + 1) = some (.named "int") ∨ s.typeAt? (i + 1) = some (.named "size_t")) ∧
    s.returns = .named "int" ∧ ((∃ j < i, s.FixedPairAt settings j) → settings.errorType = "int")

def PairAt (settings : Settings) (s : Signature) (i : Nat) : Prop :=
  s.GrowablePairAt settings i ∨ s.FixedPairAt settings i

/-- Neither the receiver nor a part of a pair. -/
def KeptAt (settings : Settings) (s : Signature) (i : Nat) : Prop :=
  ¬ s.ReceiverAt i ∧ ∀ j ≤ i, s.PairAt settings j → j + 1 < i

section Decidability

variable {settings : Settings} {s : Signature} {i : Nat} {t : NativeType}

instance : Decidable (settings.IsText t) := inferInstanceAs (Decidable (_ ∧ _))

instance : Decidable (s.ReceiverAt i) := inferInstanceAs (Decidable (_ ∧ _))

instance : Decidable (s.TextAt settings i) := inferInstanceAs (Decidable (_ ∧ _))

instance : Decidable (s.FixedPairAt settings i) := inferInstanceAs (Decidable (_ ∧ _))

instance : Decidable (s.GrowablePairAt settings i) := inferInstanceAs (Decidable (_ ∧ _))

instance : Decidable (s.PairAt settings i) := inferInstanceAs (Decidable (_ ∨ _))

instance : Decidable (s.KeptAt settings i) := inferInstanceAs (Decidable (_ ∧ _))

end Decidability

def slots (settings : Settings) (s : Signature) : List (Option Parameter) :=
  s.parameters.mapIdx fun i q => if s.KeptAt settings i then some q else none

def kept (settings : Settings) (s : Signature) : List Parameter := (s.slots settings).reduceOption

theorem PairAt.textAt {settings : Settings} {s : Signature} {i : Nat} (h : s.PairAt settings i) :
    s.TextAt settings i :=
  h.elim (·.1) (·.1)

theorem mem_parameters_of_kept {settings : Settings} {s : Signature} {q : Parameter}
    (h : q ∈ s.kept settings) : q ∈ s.parameters := by
  obtain ⟨i, hi, heq⟩ := List.mem_mapIdx.mp (List.reduceOption_mem_iff.mp h)
  split at heq
  · cases heq
    exact List.getElem_mem hi
  · cases heq

end Signature

variable {settings : Settings} {s : Signature} {p : Progress} {q size : Parameter} {c : Commit}
  {commits : List Commit} {w : Work}

namespace Progress

theorem typeAt?_index (hq : p.current? = some q) : p.signature.typeAt? p.index = some q.type := by
  have hget : p.signature.parameters[p.index]? = some q := hq
  rw [Signature.typeAt?, hget, Option.map_some]

theorem typeAt?_next (hsize : p.next? = some size) :
    p.signature.typeAt? (p.index + 1) = some size.type := by
  have hget : p.signature.parameters[p.index + 1]? = some size := hsize
  rw [Signature.typeAt?, hget, Option.map_some]

theorem nameAt?_index (hq : p.current? = some q) : p.signature.nameAt? p.index = some q.name := by
  have hget : p.signature.parameters[p.index]? = some q := hq
  rw [Signature.nameAt?, hget, Option.map_some]

theorem nameAt?_next (hsize : p.next? = some size) :
    p.signature.nameAt? (p.index + 1) = some size.name := by
  have hget : p.signature.parameters[p.index + 1]? = some size := hsize
  rw [Signature.nameAt?, hget, Option.map_some]

theorem exists_next {t : NativeType} (h : p.signature.typeAt? (p.index + 1) = some t) :
    ∃ size, p.next? = some size ∧ size.type = t :=
  Option.map_eq_some_iff.mp h

theorem textAt_index_iff (hq : p.current? = some q) :
    p.signature.TextAt settings p.index ↔
      settings.IsText q.type ∧ ¬ p.signature.ReceiverAt p.index := by
  simp only [Signature.TextAt, typeAt?_index hq, Option.mem_some_iff, exists_eq_left']

end Progress

namespace Commit

theorem Fits.exists_current {r : ParameterRule} (h : c.Fits settings p) (hr : c.rule = .inl r) :
    ∃ q, p.current? = some q := by
  cases c with
  | scalar q | receiver q | handle q | text q | reference q => exact ⟨q, h.1⟩
  | growableText buffer | fixedText buffer => exact ⟨buffer, h.1⟩
  | _ => cases hr

theorem exists_fits_fixedText (h : p.signature.FixedPairAt settings p.index)
    (hq : p.current? = some q) :
    ∃ size ignored, (Commit.fixedText q size ignored).Fits settings p := by
  obtain ⟨htext, hname, hsizeName, hsizeType⟩ := h
  obtain ⟨⟨htype, -⟩, -⟩ := (Progress.textAt_index_iff hq).mp htext
  obtain ⟨size, hsize, hint⟩ := Progress.exists_next hsizeType
  rw [Progress.nameAt?_index hq] at hname
  rw [Progress.nameAt?_next hsize] at hsizeName
  exact ⟨size, _, hq, hsize, Option.some.inj hname, Option.some.inj hsizeName, htype, hint, rfl⟩

theorem exists_fits_growableText (h : p.signature.GrowablePairAt settings p.index)
    (hq : p.current? = some q) (hleft : p.returnTaken = false) :
    ∃ size length, (Commit.growableText q size length).Fits settings p := by
  obtain ⟨htext, hlast, hlengths, hint, -⟩ := h
  obtain ⟨⟨htype, -⟩, -⟩ := (Progress.textAt_index_iff hq).mp htext
  rcases hlengths with hlength | hlength <;>
    obtain ⟨size, hsize, hsizeType⟩ := Progress.exists_next hlength
  · exact ⟨size, .int, hq, hsize, htype, .inl hsizeType, hlast, hleft, hint, by rw [hsizeType]; rfl⟩
  · exact ⟨size, .uintPtr, hq, hsize, htype, .inr hsizeType, hlast, hleft, hint,
      by rw [hsizeType]; rfl⟩

namespace Chosen

variable {r : ParameterRule}

theorem receiverAt_iff (h : c.Chosen settings p) (hr : c.rule = .inl r) :
    p.signature.ReceiverAt p.index ↔ c.rule = .inl .receiver := by
  obtain ⟨q, hq⟩ := h.fits.exists_current hr
  constructor
  · rintro ⟨hindex, name, hname, htype⟩
    rw [Progress.typeAt?_index hq] at htype
    have htype := Option.some.inj htype
    have hfits : (Commit.receiver q).Fits settings p := ⟨hq, hindex, name, hname, htype⟩
    cases c with
    | scalar q' type => exact absurd h.fits (not_fits_scalar hq htype)
    | receiver => rfl
    | handle | growableText | fixedText | text | reference =>
      exact absurd hfits (h.not_fits (.receiver q) rfl rfl (by decide))
    | _ => cases hr
  · intro hrule
    have hfits := h.fits
    cases c with
    | receiver q' =>
      obtain ⟨hq', hindex, name, hname, htype⟩ := hfits
      exact ⟨hindex, name, hname, by rw [Progress.typeAt?_index hq', htype]⟩
    | _ => cases hrule

theorem not_isHandle (h : c.Chosen settings p) (hr : c.rule = .inl r) (hq : p.current? = some q)
    {name : String} (htype : q.type = .pointer (.named name))
    (hbefore : ParameterRule.handle ∈ ParameterRule.priority.takeWhile (· ≠ r)) :
    ¬ settings.IsHandle name := by
  intro hhandle
  obtain ⟨className, hclass⟩ := Option.isSome_iff_exists.mp
    (Settings.handleClass?_isSome_iff.mpr ⟨name, htype, hhandle⟩)
  exact h.not_fits (.handle q className) hr rfl hbefore ⟨hq, hclass⟩

theorem textAt_iff (h : c.Chosen settings p) (hr : c.rule = .inl r) :
    p.signature.TextAt settings p.index ↔
      c.rule = .inl .growableText ∨ c.rule = .inl .fixedText ∨ c.rule = .inl .text := by
  obtain ⟨q, hq⟩ := h.fits.exists_current hr
  have hfits := h.fits
  rw [Progress.textAt_index_iff hq, h.receiverAt_iff hr]
  constructor
  · rintro ⟨⟨htype, hnot⟩, hreceiver⟩
    cases c with
    | scalar => exact absurd hfits (not_fits_scalar hq htype)
    | receiver => exact absurd rfl hreceiver
    | handle q' className =>
      obtain ⟨hq', hclass⟩ := hfits
      rw [hq] at hq'
      cases hq'
      obtain ⟨name, hname, hhandle⟩ :=
        Settings.handleClass?_isSome_iff.mp (Option.isSome_of_eq_some hclass)
      rw [htype] at hname
      cases hname
      exact absurd hhandle hnot
    | growableText => exact .inl rfl
    | fixedText => exact .inr (.inl rfl)
    | text => exact .inr (.inr rfl)
    | reference => exact absurd ⟨hq, htype⟩ (h.not_fits (.text q) rfl rfl (by decide))
    | _ => cases hr
  · intro hrule
    cases c with
    | growableText buffer size length =>
      obtain ⟨hq', -, htype, -⟩ := hfits
      obtain rfl := Option.some.inj (hq'.symm.trans hq)
      exact ⟨⟨htype, h.not_isHandle rfl hq htype (by decide)⟩, nofun⟩
    | fixedText buffer size ignored =>
      obtain ⟨hq', -, -, -, htype, -⟩ := hfits
      obtain rfl := Option.some.inj (hq'.symm.trans hq)
      exact ⟨⟨htype, h.not_isHandle rfl hq htype (by decide)⟩, nofun⟩
    | text q' =>
      obtain ⟨hq', htype⟩ := hfits
      obtain rfl := Option.some.inj (hq'.symm.trans hq)
      exact ⟨⟨htype, h.not_isHandle rfl hq htype (by decide)⟩, nofun⟩
    | _ => rcases hrule with hrule | hrule | hrule <;> cases hrule

theorem not_textAt_inner (h : c.Chosen settings p) {j : Nat} (hlt : p.index < j)
    (hj : j < p.index + c.parameters.length) : ¬ p.signature.TextAt settings j := by
  have hfits := h.fits
  rintro ⟨⟨t, ht, rfl, -⟩, -⟩
  cases c with
  | growableText buffer size length =>
    obtain ⟨-, hsize, -, hlengths, -⟩ := hfits
    obtain rfl : j = p.index + 1 := Nat.le_antisymm (Nat.le_of_lt_succ hj) hlt
    rw [Progress.typeAt?_next hsize] at ht
    rcases hlengths with hlength | hlength <;> rw [hlength] at ht <;> cases ht
  | fixedText buffer size ignored =>
    obtain ⟨-, hsize, -, -, -, hint, -⟩ := hfits
    obtain rfl : j = p.index + 1 := Nat.le_antisymm (Nat.le_of_lt_succ hj) hlt
    rw [Progress.typeAt?_next hsize, hint] at ht
    cases ht
  | scalar | receiver | handle | text | reference =>
    exact absurd (Nat.le_of_lt_succ hj) (Nat.not_le_of_lt hlt)
  | _ => exact absurd hj (Nat.not_lt_of_lt hlt)

theorem fixedPairAt (h : c.Chosen settings p) (hr : c.rule = .inl .fixedText) :
    p.signature.FixedPairAt settings p.index := by
  have htext := (h.textAt_iff hr).mpr (.inr (.inl hr))
  have hfits := h.fits
  cases c with
  | fixedText buffer size ignored =>
    obtain ⟨hbuffer, hsize, hname, hsizeName, -, hint, -⟩ := hfits
    refine ⟨htext, ?_, ?_, ?_⟩
    · rw [Progress.nameAt?_index hbuffer, hname]
    · rw [Progress.nameAt?_next hsize, hsizeName]
    · rw [Progress.typeAt?_next hsize, hint]
  | _ => cases hr

theorem buffer_of_fixedPairAt (h : c.Chosen settings p) (hr : c.rule = .inl r)
    (hpair : p.signature.FixedPairAt settings p.index) :
    c.rule = .inl .growableText ∨ c.rule = .inl .fixedText := by
  -- Of the rules for C strings, that for plain texts comes last.
  rcases (h.textAt_iff hr).mp hpair.1 with hrule | hrule | hrule
  · exact .inl hrule
  · exact .inr hrule
  · obtain ⟨q, hq⟩ := h.fits.exists_current hr
    obtain ⟨size, ignored, hfits⟩ := exists_fits_fixedText hpair hq
    exact absurd hfits (h.not_fits (.fixedText q size ignored) hrule rfl (by decide))

end Chosen

def slots : Commit → List (Option Parameter)
  | scalar q _ | handle q _ | text q | reference q _ => [some q]
  | receiver _ => [none]
  | growableText _ _ _ | fixedText _ _ _ => [none, none]
  | _ => []

theorem Chosen.isText_iff {r : ParameterRule} (h : c.Chosen settings p) (hr : c.rule = .inl r)
    (hkept : some q ∈ c.slots) : settings.IsText q.type ↔ c.rule = .inl .text := by
  have htext := h.textAt_iff hr
  have hreceiver := h.receiverAt_iff hr
  have hfits := h.fits
  cases c with
  | scalar q' | handle q' | text q' | reference q' =>
    obtain rfl : q = q' := Option.some.inj (List.mem_singleton.mp hkept)
    rw [Progress.textAt_index_iff hfits.1, hreceiver] at htext
    simpa [rule] using htext
  | receiver => exact absurd (List.mem_singleton.mp hkept) nofun
  | growableText | fixedText => simp [slots] at hkept
  | _ => cases hr

theorem managedNames_eq (c : Commit) :
    c.managedParameters.map ManagedParameter.name =
      c.slots.reduceOption.map fun q => Identifier.escape q.name := by
  cases c <;> rfl

end Commit

namespace Reached

variable {r : ParameterRule}

theorem fixedPairAt_of_mem (h : Reached settings s commits w)
    (hfixed : ∃ c ∈ commits, c.rule = .inl .fixedText) :
    ∃ j < w.progress.index, s.FixedPairAt settings j := by
  induction h with
  | start => simp at hfixed
  | @step commits w c h hc ih =>
    obtain ⟨c', hc', hrule⟩ := hfixed
    rcases List.mem_append.mp hc' with hearlier | hlast
    · obtain ⟨j, hj, hpair⟩ := ih ⟨c', hearlier, hrule⟩
      exact ⟨j, Nat.lt_add_right _ hj, hpair⟩
    · obtain rfl := List.mem_singleton.mp hlast
      have hpair := hc.fixedPairAt hrule
      rw [h.signature_eq] at hpair
      have hpos := List.length_pos_iff.mpr (Commit.parameters_ne_nil hrule)
      exact ⟨w.progress.index, Nat.lt_add_of_pos_right hpos, hpair⟩

theorem exists_commit_at (h : Reached settings s commits w) {j : Nat}
    (hj : j < w.progress.index) (htext : s.TextAt settings j) :
    ∃ earlier before c r, Reached settings s earlier before ∧ c.Chosen settings before.progress ∧
      c.rule = .inl r ∧ before.progress.index = j ∧ c ∈ commits := by
  -- No rule takes a C string for a length, so a rule begins at each of them that was used up.
  induction h with
  | start => cases hj
  | @step commits w c h hc ih =>
    by_cases hbefore : j < w.progress.index
    · obtain ⟨earlier, before, c', r, hbefore, hchosen, hr, hindex, hmem⟩ := ih hbefore
      exact ⟨earlier, before, c', r, hbefore, hchosen, hr, hindex, List.mem_append_left _ hmem⟩
    have hj : j < w.progress.index + c.parameters.length := hj
    rw [← h.signature_eq] at htext
    have hle : j ≤ w.progress.index := Nat.le_of_not_lt fun hlt => hc.not_textAt_inner hlt hj htext
    have hindex : w.progress.index = j := by omega
    cases hr : c.rule with
    | inl r =>
      exact ⟨commits, w, c, r, h, hc, hr, hindex, List.mem_append_right _ List.mem_cons_self⟩
    | inr r =>
      rw [Commit.parameters_of_return hr] at hj
      exact absurd hj hbefore

theorem buffer_mem_of_fixedPairAt (h : Reached settings s commits w) {j : Nat}
    (hj : j < w.progress.index) (hpair : s.FixedPairAt settings j) :
    ∃ c ∈ commits, c.rule = .inl .growableText ∨ c.rule = .inl .fixedText := by
  obtain ⟨earlier, before, c, r, hbefore, hchosen, hr, rfl, hc⟩ := h.exists_commit_at hj hpair.1
  rw [← hbefore.signature_eq] at hpair
  exact ⟨c, hc, hchosen.buffer_of_fixedPairAt hr hpair⟩

theorem returnTaken_eq_false (h : Reached settings s commits w)
    (hcurrent : w.progress.current? = some q) (hint : s.returns = .named "int")
    (hstatus : (∃ j < w.progress.index, s.FixedPairAt settings j) → settings.errorType = "int") :
    w.progress.returnTaken = false := by
  rw [h.returnTaken_eq, List.any_eq_false]
  intro c hc htakes
  have hcontinue : c.mayContinue = true := by
    cases hlast : c.mayContinue with
    | true => rfl
    | false =>
      have hnone := (h.ended hc hlast).2
      rw [hcurrent] at hnone
      cases hnone
  cases c with
  | fixedText buffer size ignored =>
    have herror := hstatus (h.fixedPairAt_of_mem ⟨_, hc, rfl⟩)
    obtain ⟨p, rfl, hchosen⟩ := h.exists_chosen hc
    obtain ⟨-, -, -, -, -, -, hignored⟩ := hchosen.fits
    rw [ignoredReturn?_status (by rw [hint, herror]), ite_self] at hignored
    rw [hignored] at htakes
    cases htakes
  | scalar | receiver | handle | text | reference => cases htakes
  | _ => cases hcontinue

theorem errorType_eq (h : Reached settings s commits w) (hc : c.Chosen settings w.progress)
    (hleft : w.progress.returnTaken = false) (hint : s.returns = .named "int")
    (hfixed : ∃ j < w.progress.index, s.FixedPairAt settings j) : settings.errorType = "int" := by
  obtain ⟨j, hj, hpair⟩ := hfixed
  obtain ⟨c', hc', hrule⟩ := h.buffer_mem_of_fixedPairAt hj hpair
  -- Nothing follows a growable buffer, so the earlier one is fixed and left the return value.
  have hcontinue := h.mayContinue hc c' hc'
  have hrule := hrule.resolve_left fun hgrowable => by
    cases c' with
    | growableText => cases hcontinue
    | _ => cases hgrowable
  have hignored := (h.return_left hleft).2 (Commit.name_mem_iff.mpr ⟨c', hc', hrule⟩)
  rw [hint] at hignored
  by_cases herror : settings.errorType = "int"
  · exact herror
  · have hstatus : NativeType.named "int" ≠ .named settings.errorType :=
      fun heq => herror (NativeType.named.inj heq).symm
    obtain ⟨-, -, hscalar⟩ := Rule.ignoredReturn?_eq_none hignored hstatus
    cases hscalar

theorem growablePairAt_iff (h : Reached settings s commits w) (hc : c.Chosen settings w.progress)
    (hr : c.rule = .inl r) :
    s.GrowablePairAt settings w.progress.index ↔ c.rule = .inl .growableText := by
  have hs := h.signature_eq
  obtain ⟨q, hq⟩ := hc.fits.exists_current hr
  constructor
  · intro hpair
    have hleft := h.returnTaken_eq_false hq hpair.2.2.2.1 hpair.2.2.2.2
    rw [← hs] at hpair
    obtain ⟨size, length, hfits⟩ := Commit.exists_fits_growableText hpair hq hleft
    -- Of the rules for C strings, that for growable buffers comes first.
    rcases (hc.textAt_iff hr).mp hpair.1 with hrule | hrule | hrule
    · exact hrule
    · exact absurd hfits (hc.not_fits (.growableText q size length) hrule rfl (by decide))
    · exact absurd hfits (hc.not_fits (.growableText q size length) hrule rfl (by decide))
  · intro hrule
    have htext := (hc.textAt_iff hr).mpr (.inl hrule)
    have hfits := hc.fits
    cases c with
    | growableText buffer size length =>
      obtain ⟨hbuffer, hsize, -, hlengths, hlast, hleft, hint, -⟩ := hfits
      rw [Progress.length, hs] at hlast
      rw [hs] at hint htext
      refine ⟨htext, hlast, ?_, hint, h.errorType_eq hc hleft hint⟩
      rw [← hs, Progress.typeAt?_next hsize]
      exact hlengths.imp (congrArg some) (congrArg some)
    | _ => cases hrule

theorem pairAt_iff (h : Reached settings s commits w) (hc : c.Chosen settings w.progress)
    (hr : c.rule = .inl r) :
    s.PairAt settings w.progress.index ↔
      c.rule = .inl .growableText ∨ c.rule = .inl .fixedText := by
  rw [Signature.PairAt, h.growablePairAt_iff hc hr, ← h.signature_eq]
  constructor
  · rintro (hrule | hpair)
    · exact .inl hrule
    · exact hc.buffer_of_fixedPairAt hr hpair
  · exact Or.imp_right hc.fixedPairAt

theorem pairAt_succ_ne (h : Reached settings s commits w) {j : Nat} (hpair : s.PairAt settings j) :
    j + 1 ≠ w.progress.index := by
  induction h with
  | start => exact Nat.succ_ne_zero j
  | @step commits w c h hc ih =>
    intro hj
    have hj : j + 1 = w.progress.index + c.parameters.length := hj
    -- The last commit began at the pair, or used up a length where the pair begins.
    have htext : s.TextAt settings j := hpair.textAt
    by_cases hlt : w.progress.index < j
    · rw [← h.signature_eq] at htext
      exact hc.not_textAt_inner hlt (by omega) htext
    cases hr : c.rule with
    | inr r =>
      rw [Commit.parameters_of_return hr] at hj
      exact ih hj
    | inl r =>
      have hpos := List.length_pos_iff.mpr (Commit.parameters_ne_nil hr)
      obtain rfl : j = w.progress.index := by omega
      have hone : c.parameters.length = 1 := by omega
      rcases (h.pairAt_iff hc hr).mp hpair with hrule | hrule <;> cases c <;> cases hrule <;>
        cases hone

theorem keptAt_index (h : Reached settings s commits w) (hc : c.Chosen settings w.progress)
    (hr : c.rule = .inl r) (hreceiver : c.rule ≠ .inl .receiver)
    (hgrowable : c.rule ≠ .inl .growableText) (hfixed : c.rule ≠ .inl .fixedText) :
    s.KeptAt settings w.progress.index := by
  constructor
  · rw [← h.signature_eq, hc.receiverAt_iff hr]
    exact hreceiver
  · intro j hj hpair
    have hne := h.pairAt_succ_ne hpair
    have hindex : j ≠ w.progress.index := by
      rintro rfl
      exact ((h.pairAt_iff hc hr).mp hpair).elim hgrowable hfixed
    omega

theorem not_keptAt_pair (h : Reached settings s commits w) (hc : c.Chosen settings w.progress)
    (hr : c.rule = .inl .growableText ∨ c.rule = .inl .fixedText) :
    ¬ s.KeptAt settings w.progress.index ∧ ¬ s.KeptAt settings (w.progress.index + 1) := by
  obtain ⟨r, hrule⟩ : ∃ r, c.rule = .inl r := hr.elim (⟨_, ·⟩) (⟨_, ·⟩)
  have hpair : s.PairAt settings w.progress.index := (h.pairAt_iff hc hrule).mpr hr
  constructor
  · rintro ⟨-, hkept⟩
    exact absurd (hkept _ (Nat.le_refl _) hpair) (by omega)
  · rintro ⟨-, hkept⟩
    exact absurd (hkept _ (Nat.le_succ _) hpair) (by omega)

theorem slots_step (h : Reached settings s commits w) (hc : c.Chosen settings w.progress) :
    (c.parameters.mapIdx fun k q =>
      if s.KeptAt settings (w.progress.index + k) then some q else none) = c.slots := by
  cases c with
  | scalar | handle | text | reference =>
    have hkept := h.keptAt_index hc rfl nofun nofun nofun
    simp [Commit.parameters, Commit.slots, hkept]
  | receiver q =>
    have hreceiver := (hc.receiverAt_iff rfl).mpr rfl
    rw [h.signature_eq] at hreceiver
    have hkept : ¬ s.KeptAt settings w.progress.index := fun hkept => hkept.1 hreceiver
    simp [Commit.parameters, Commit.slots, hkept]
  | growableText =>
    obtain ⟨hfirst, hsecond⟩ := h.not_keptAt_pair hc (.inl rfl)
    simp [Commit.parameters, Commit.slots, hfirst, hsecond]
  | fixedText =>
    obtain ⟨hfirst, hsecond⟩ := h.not_keptAt_pair hc (.inr rfl)
    simp [Commit.parameters, Commit.slots, hfirst, hsecond]
  | _ => rfl

theorem slots_eq (h : Reached settings s commits w) :
    ((commits.flatMap Commit.parameters).mapIdx fun i q =>
      if s.KeptAt settings i then some q else none) = commits.flatMap Commit.slots := by
  induction h with
  | start => rfl
  | @step commits w c h hc ih =>
    have hstep := h.slots_step hc
    rw [h.index_eq] at hstep
    simp only [List.flatMap_append, List.flatMap_singleton, List.mapIdx_append, ih]
    rw [← hstep]
    simp only [Nat.add_comm]

theorem slots_eq_all (h : Reached settings s commits w) (hcurrent : w.progress.current? = none) :
    s.slots settings = commits.flatMap Commit.slots := by
  have hslots := h.slots_eq
  rwa [h.parameters_eq_all hcurrent] at hslots

theorem kept_eq (h : Reached settings s commits w) (hcurrent : w.progress.current? = none) :
    s.kept settings = (commits.flatMap Commit.slots).reduceOption :=
  congrArg List.reduceOption (h.slots_eq_all hcurrent)

theorem managedNames_eq (h : Reached settings s commits w) (hcurrent : w.progress.current? = none) :
    w.draft.managedParameters.map ManagedParameter.name =
      (s.kept settings).map fun q => Identifier.escape q.name := by
  rw [h.kept_eq hcurrent, h.managedParameters_eq, List.map_flatMap, List.reduceOption,
    List.filterMap_flatMap, List.map_flatMap]
  exact congrArg (fun f => commits.flatMap f) (funext Commit.managedNames_eq)

end Reached

end NativeBindings
