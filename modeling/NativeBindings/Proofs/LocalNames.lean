import NativeBindings.Proofs.CallTarget

namespace NativeBindings

namespace Statement

def declared? : Statement → Option String
  | .declare _ name => some name
  | _ => none

def owner? : Statement → Option String
  | .openBuffer name _ | .openText name _ => some name
  | _ => none

end Statement

def LineContent.introduced? : LineContent → Option String
  | .statement st => st.declared?.or st.owner?
  | .nativeCall => none

def Draft.localNames (d : Draft) : List String :=
  d.body.filterMap (·.content.introduced?)

namespace Signature

def variableNames : List String :=
  [Rule.textVariable, Rule.lengthVariable, "ret_status", "ret_value", "ret_handle", "ret_string"]

/-- A variable that the wrapper declares before its call. -/
def IsVariable (settings : Settings) (s : Signature) (name : String) : Prop :=
  (name = Rule.textVariable ∧ ∃ i < s.parameters.length, s.PairAt settings i) ∨
    s.callTarget? settings = some name

/-- A local in the header of a block: for a text that is passed in, or for the buffer of a pair. -/
def IsHolder (settings : Settings) (s : Signature) (name : String) : Prop :=
  (∃ q ∈ s.kept settings, settings.IsText q.type ∧ name = Marshalling.inputLocal q.name) ∨
    ∃ i < s.parameters.length, s.PairAt settings i ∧
      ∃ buffer ∈ s.nameAt? i, name = Marshalling.outputLocal buffer

def IsLocal (settings : Settings) (s : Signature) (name : String) : Prop :=
  s.IsVariable settings name ∨ s.IsHolder settings name

section Decidability

variable {settings : Settings} {s : Signature} {name : String}

instance : Decidable (s.IsVariable settings name) := inferInstanceAs (Decidable (_ ∨ _))

instance : Decidable (s.IsHolder settings name) := inferInstanceAs (Decidable (_ ∨ _))

instance : Decidable (s.IsLocal settings name) := inferInstanceAs (Decidable (_ ∨ _))

end Decidability

end Signature

variable {settings : Settings} {s : Signature} {commits : List Commit} {w : Work} {c : Commit}
  {name : String}

theorem Scope.introduced_wrap {scopes : List Scope}
    (hscopes : ∀ scope ∈ scopes,
      LineContent.introduced? (.statement scope.header) = scope.header.owner? ∧
      ∀ line ∈ scope.inner, line.content.introduced? = none) {depth callDepth : Nat} :
    (wrap depth scopes [⟨callDepth, .nativeCall⟩]).filterMap (·.content.introduced?) =
      scopes.filterMap (·.header.owner?) := by
  induction scopes generalizing depth with
  | nil => rfl
  | cons scope scopes ih =>
    obtain ⟨hheader, hinner⟩ := hscopes scope List.mem_cons_self
    have hrest : (wrap (depth + 1) scopes [⟨callDepth, .nativeCall⟩]).filterMap
        (·.content.introduced?) = _ :=
      ih fun scope' h => hscopes scope' (List.mem_cons_of_mem scope h)
    have hdeepened : (scope.inner.map (Line.deepen (depth + 1))).filterMap
        (·.content.introduced?) = [] := by
      rw [List.filterMap_map, List.filterMap_eq_nil_iff]
      exact hinner
    have hbraces : LineContent.introduced? (.statement .openBlock) = none ∧
        LineContent.introduced? (.statement .closeBlock) = none := ⟨rfl, rfl⟩
    simp only [wrap, opening, closing, List.filterMap_append, hrest, hdeepened, List.filterMap_cons,
      List.filterMap_nil, hheader, hbraces, List.append_nil]
    cases scope.header.owner? <;> rfl

section Names

namespace Marshalling

theorem head_inputLocal (name : String) : (inputLocal name).toList.head? = some 'u' := by
  rw [inputLocal, String.toList_append]
  rfl

theorem head_outputLocal (name : String) : (outputLocal name).toList.head? = some 'o' := by
  rw [outputLocal, String.toList_append]
  rfl

theorem inputLocal_ne_outputLocal (a b : String) : inputLocal a ≠ outputLocal b := by
  intro h
  have hhead := head_inputLocal a
  rw [h, head_outputLocal] at hhead
  exact absurd hhead (by decide)

theorem inputLocal_not_keyword (name : String) : inputLocal name ∉ Identifier.keywords := by
  have hkeywords : ∀ keyword ∈ Identifier.keywords, ¬ "utf8_".toList <+: keyword.toList := by decide
  intro hmem
  apply hkeywords _ hmem
  rw [inputLocal, String.toList_append]
  exact List.prefix_append _ _

theorem outputLocal_not_keyword (name : String) : outputLocal name ∉ Identifier.keywords := by
  have hkeywords : ∀ keyword ∈ Identifier.keywords, ¬ "out_".toList <+: keyword.toList := by decide
  intro hmem
  apply hkeywords _ hmem
  rw [outputLocal, String.toList_append]
  exact List.prefix_append _ _

end Marshalling

namespace Identifier

theorem escape_eq_iff {a b : String} (hkeyword : b ∉ keywords) (hmark : b.toList.head? ≠ some '@') :
    escape a = b ↔ a = b := by
  rw [escape]
  split
  case isTrue hmem =>
    constructor
    · rintro rfl
      exact absurd (by rw [String.toList_append]; rfl) hmark
    · rintro rfl
      exact absurd (List.contains_iff_mem.mp hmem) hkeyword
  case isFalse => rfl

theorem escape_ne_this (name : String) : escape name ≠ "this" := by
  intro h
  exact escape_not_mem_keywords name (h ▸ by decide)

end Identifier

namespace Signature

theorem callTarget?_mem (h : s.callTarget? settings = some name) : name ∈ variableNames := by
  rw [callTarget?, Settings.returnLocal?] at h
  split_ifs at h <;> cases h <;> decide

theorem IsVariable.mem (h : s.IsVariable settings name) : name ∈ variableNames := by
  rcases h with ⟨rfl, -⟩ | h
  · exact List.mem_cons_self
  · exact callTarget?_mem h

theorem IsHolder.exists_parameter (h : s.IsHolder settings name) : ∃ q ∈ s.parameters,
    name = Marshalling.inputLocal q.name ∨ name = Marshalling.outputLocal q.name := by
  rcases h with ⟨q, hq, -, rfl⟩ | ⟨i, -, -, buffer, hbuffer, rfl⟩
  · exact ⟨q, mem_parameters_of_kept hq, .inl rfl⟩
  · obtain ⟨q, hq, rfl⟩ := Option.map_eq_some_iff.mp hbuffer
    exact ⟨q, List.mem_of_getElem? hq, .inr rfl⟩

theorem IsVariable.escape_eq_iff (h : s.IsVariable settings name) {a : String} :
    Identifier.escape a = name ↔ a = name := by
  have hnames : ∀ name ∈ variableNames,
      name ∉ Identifier.keywords ∧ name.toList.head? ≠ some '@' := by decide
  obtain ⟨hkeyword, hmark⟩ := hnames name h.mem
  exact Identifier.escape_eq_iff hkeyword hmark

theorem IsLocal.escape_eq_iff (h : s.IsLocal settings name) {a : String} :
    Identifier.escape a = name ↔ a = name := by
  rcases h with h | h
  · exact h.escape_eq_iff
  obtain ⟨q, -, rfl | rfl⟩ := h.exists_parameter
  · refine Identifier.escape_eq_iff (Marshalling.inputLocal_not_keyword _) ?_
    rw [Marshalling.head_inputLocal]
    decide
  · refine Identifier.escape_eq_iff (Marshalling.outputLocal_not_keyword _) ?_
    rw [Marshalling.head_outputLocal]
    decide

end Signature

end Names

namespace Commit

theorem declares_returnVariable {type : ManagedType} {v : String}
    (h : c.nativeReturn? = some (type, some v)) : .declare type.name v ∈ c.declarations := by
  cases c with
  | fixedText buffer size ignored =>
    obtain ⟨_, -, htarget⟩ := Option.map_eq_some_iff.mp h
    cases htarget
  | growableText =>
    cases h
    exact List.mem_cons_of_mem _ List.mem_cons_self
  | returnStatus | returnScalar | returnHandle | returnText =>
    cases h
    exact List.mem_cons_self
  | _ => cases h

theorem nativeReturn_of_declare {type v : String} (h : .declare type v ∈ c.declarations) :
    v = Rule.textVariable ∨ ∃ t, c.nativeReturn? = some (t, some v) ∧ t.name = type := by
  cases c with
  | growableText =>
    rcases List.mem_cons.mp h with h | h
    · cases h
      exact .inl rfl
    · cases List.mem_singleton.mp h
      exact .inr ⟨.int, rfl, rfl⟩
  | fixedText =>
    cases List.mem_singleton.mp h
    exact .inl rfl
  | returnStatus | returnScalar | returnHandle | returnText =>
    cases List.mem_singleton.mp h
    exact .inr ⟨_, rfl, rfl⟩
  | _ => cases h

def owner? (c : Commit) : Option String := c.scope?.bind (·.header.owner?)

theorem scope_introduced {scope : Scope} (h : c.scope? = some scope) :
    LineContent.introduced? (.statement scope.header) = scope.header.owner? ∧
      ∀ line ∈ scope.inner, line.content.introduced? = none := by
  cases c with
  | growableText | fixedText | text =>
    cases h
    exact ⟨rfl, by simp [growthLines, LineContent.introduced?, Statement.declared?,
      Statement.owner?]⟩
  | _ => cases h

theorem declared_of_mayContinue (h : c.mayContinue = true) {name : String}
    (hname : name ∈ c.declarations.filterMap Statement.declared?) :
    c.rule = .inl .fixedText ∧ name = Rule.textVariable := by
  cases c with
  | fixedText => exact ⟨rfl, List.mem_singleton.mp hname⟩
  | scalar | receiver | handle | text | reference => cases hname
  | _ => cases h

theorem rule_of_declared_text
    (h : Rule.textVariable ∈ c.declarations.filterMap Statement.declared?) :
    c.rule = .inl .growableText ∨ c.rule = .inl .fixedText := by
  cases c with
  | growableText => exact .inl rfl
  | fixedText => exact .inr rfl
  | returnStatus | returnScalar | returnHandle | returnText =>
    exact absurd (List.mem_singleton.mp h) (by decide)
  | _ => cases h

theorem head_of_declared {name : String}
    (h : name ∈ c.declarations.filterMap Statement.declared?) :
    name.toList.head? = some 'm' ∨ name.toList.head? = some 'r' := by
  cases c with
  | growableText =>
    rcases List.mem_cons.mp h with rfl | h
    · exact .inl rfl
    · rw [List.mem_singleton.mp h]
      exact .inr rfl
  | fixedText =>
    rw [List.mem_singleton.mp h]
    exact .inl rfl
  | returnStatus | returnScalar | returnHandle | returnText =>
    rw [List.mem_singleton.mp h]
    exact .inr rfl
  | _ => cases h

theorem exists_of_owner {name : String} (h : c.owner? = some name) :
    ∃ q ∈ c.parameters,
      name = Marshalling.inputLocal q.name ∨ name = Marshalling.outputLocal q.name := by
  cases c with
  | growableText buffer | fixedText buffer =>
    cases h
    exact ⟨buffer, List.mem_cons_self, .inr rfl⟩
  | text q =>
    cases h
    exact ⟨q, List.mem_cons_self, .inl rfl⟩
  | _ => cases h

theorem exists_of_managed {name : String}
    (h : name ∈ c.managedParameters.map ManagedParameter.name) :
    ∃ q ∈ c.parameters, name = Identifier.escape q.name := by
  cases c with
  | scalar q | handle q | text q | reference q =>
    exact ⟨q, List.mem_cons_self, List.mem_singleton.mp h⟩
  | _ => cases h

theorem results_introduced {st : Statement} (h : st ∈ c.results settings) :
    LineContent.introduced? (.statement st) = none := by
  cases c with
  | growableText | fixedText | returnStatus | returnScalar | returnHandle | returnText =>
    rw [List.mem_singleton.mp h]
    rfl
  | _ => cases h

end Commit

namespace Reached

def locals (commits : List Commit) : List String :=
  (commits.flatMap Commit.declarations).filterMap Statement.declared?

theorem mem_locals :
    name ∈ locals commits ↔ ∃ c ∈ commits, name ∈ c.declarations.filterMap Statement.declared? := by
  rw [locals, List.filterMap_flatMap, List.mem_flatMap]

theorem head_of_mem_locals (h : name ∈ locals commits) :
    name.toList.head? = some 'm' ∨ name.toList.head? = some 'r' := by
  obtain ⟨c, -, hname⟩ := mem_locals.mp h
  exact Commit.head_of_declared hname

theorem this_not_mem_locals : "this" ∉ locals commits := by
  intro h
  exact absurd (head_of_mem_locals h) (by decide)

theorem owner_not_mem_locals (h : c.owner? = some name) : name ∉ locals commits := by
  intro hlocal
  obtain ⟨q, -, hprefix⟩ := Commit.exists_of_owner h
  have hhead : name.toList.head? = some 'u' ∨ name.toList.head? = some 'o' := by
    rcases hprefix with rfl | rfl
    · exact .inl (Marshalling.head_inputLocal _)
    · exact .inr (Marshalling.head_outputLocal _)
  rcases head_of_mem_locals hlocal with hlocal | hlocal <;> rcases hhead with hhead | hhead <;>
    rw [hlocal] at hhead <;> exact absurd hhead (by decide)

theorem declared_returnVariable (h : Reached settings s commits w) {v : String}
    (hv : w.draft.returnVariable = some v) :
    .declare w.draft.nativeReturn.name v ∈ commits.flatMap Commit.declarations := by
  obtain ⟨c, hc, hreturn⟩ := h.exists_nativeReturn hv
  exact List.mem_flatMap.mpr ⟨c, hc, Commit.declares_returnVariable hreturn⟩

theorem returnVariable_mem_locals (h : Reached settings s commits w) {v : String}
    (hv : w.draft.returnVariable = some v) : v ∈ locals commits :=
  List.mem_filterMap.mpr ⟨_, h.declared_returnVariable hv, rfl⟩

theorem localNames_eq (h : Reached settings s commits w) :
    w.draft.localNames = locals commits ++ commits.filterMap Commit.owner? := by
  have hdeclarations : (Line.outermost (commits.flatMap Commit.declarations)).filterMap
      (·.content.introduced?) = locals commits := by
    have hcommit : ∀ c : Commit, (Line.outermost c.declarations).filterMap
        (·.content.introduced?) = c.declarations.filterMap Statement.declared? := by
      intro c
      cases c <;> rfl
    rw [locals, Line.outermost, List.map_flatMap, List.filterMap_flatMap, List.filterMap_flatMap]
    exact congrArg (fun f => commits.flatMap f) (funext hcommit)
  have hscopes : ∀ scope ∈ Commit.scopes commits,
      LineContent.introduced? (.statement scope.header) = scope.header.owner? ∧
      ∀ line ∈ scope.inner, line.content.introduced? = none := by
    intro scope hscope
    obtain ⟨c, -, hscope⟩ := List.mem_filterMap.mp hscope
    exact Commit.scope_introduced hscope
  have howners : (Commit.scopes commits).filterMap (·.header.owner?) =
      commits.filterMap Commit.owner? := List.filterMap_filterMap
  have hresults : (Line.outermost (commits.reverse.flatMap (Commit.results settings))).filterMap
      (·.content.introduced?) = [] := by
    rw [List.filterMap_eq_nil_iff]
    intro line hline
    obtain ⟨st, hst, hcontent⟩ := Line.content_of_mem_outermost hline
    obtain ⟨c, -, hst⟩ := List.mem_flatMap.mp hst
    rw [hcontent]
    exact Commit.results_introduced hst
  rw [Draft.localNames, h.body_eq, List.filterMap_append, List.filterMap_append, hdeclarations,
    Scope.introduced_wrap hscopes, howners, hresults, List.append_nil]

theorem locals_nodup (h : Reached settings s commits w)
    (hnames : (s.parameters.map Parameter.name).Nodup)
    (hbuffers : ¬ ((∃ c ∈ commits, c.rule = .inl .growableText) ∧
      ∃ c ∈ commits, c.rule = .inl .fixedText)) : (locals commits).Nodup := by
  rw [locals, List.filterMap_flatMap, List.Nodup, List.pairwise_flatMap]
  constructor
  · intro c hc
    cases c <;>
      simp [Commit.declarations, Statement.declared?, Rule.textVariable, Rule.lengthVariable]
  · refine (h.pairwise_mayContinue.and (h.fixedText_once hnames)).imp_of_mem ?_
    rintro a b ha hb ⟨hcontinue, honce⟩ name hname _ hname' rfl
    obtain ⟨harule, rfl⟩ := Commit.declared_of_mayContinue hcontinue hname
    rcases Commit.rule_of_declared_text hname' with hrule | hrule
    · exact hbuffers ⟨⟨b, hb, hrule⟩, a, ha, harule⟩
    · exact honce ⟨harule, hrule⟩

theorem owners_nodup (h : Reached settings s commits w)
    (hnames : (s.parameters.map Parameter.name).Nodup) :
    (commits.filterMap Commit.owner?).Nodup := by
  rw [List.Nodup, List.pairwise_filterMap]
  refine (h.pairwise_names hnames).imp ?_
  rintro a b hdistinct name hname _ hname' rfl
  obtain ⟨q, hq, hprefix⟩ := Commit.exists_of_owner hname
  obtain ⟨q', hq', hprefix'⟩ := Commit.exists_of_owner hname'
  apply hdistinct q hq q' hq'
  rcases hprefix with rfl | rfl <;> rcases hprefix' with heq | heq
  · exact (String.append_right_inj _).mp heq
  · exact absurd heq (Marshalling.inputLocal_ne_outputLocal _ _)
  · exact absurd heq.symm (Marshalling.inputLocal_ne_outputLocal _ _)
  · exact (String.append_right_inj _).mp heq

theorem localNames_nodup (h : Reached settings s commits w)
    (hnames : (s.parameters.map Parameter.name).Nodup)
    (hbuffers : ¬ ((∃ c ∈ commits, c.rule = .inl .growableText) ∧
      ∃ c ∈ commits, c.rule = .inl .fixedText)) : w.draft.localNames.Nodup := by
  rw [h.localNames_eq, List.nodup_append]
  refine ⟨h.locals_nodup hnames hbuffers, h.owners_nodup hnames, ?_⟩
  rintro name hlocal _ howner rfl
  obtain ⟨c, -, howner⟩ := List.mem_filterMap.mp howner
  exact owner_not_mem_locals howner hlocal

theorem exists_pairAt_iff (h : Reached settings s commits w)
    (hcurrent : w.progress.current? = none) :
    (∃ i < s.parameters.length, s.PairAt settings i) ↔
      ∃ c ∈ commits, c.rule = .inl .growableText ∨ c.rule = .inl .fixedText := by
  constructor
  · rintro ⟨i, hi, hpair⟩
    obtain ⟨earlier, before, c, r, hbefore, hchosen, hr, rfl, hc⟩ :=
      h.exists_commit_at (h.lt_index hcurrent hi) hpair.textAt
    exact ⟨c, hc, (hbefore.pairAt_iff hchosen hr).mp hpair⟩
  · rintro ⟨c, hc, hrule⟩
    obtain ⟨earlier, before, hbefore, hchosen⟩ := h.exists_before hc
    obtain ⟨r, hr⟩ : ∃ r, c.rule = .inl r := hrule.elim (⟨_, ·⟩) (⟨_, ·⟩)
    have hpair := (hbefore.pairAt_iff hchosen hr).mpr hrule
    exact ⟨before.progress.index, hpair.textAt.lt, hpair⟩

theorem mem_locals_iff (h : Reached settings s commits w) (hcurrent : w.progress.current? = none)
    (htaken : w.progress.returnTaken = true) :
    name ∈ locals commits ↔ s.IsVariable settings name := by
  rw [Signature.IsVariable, h.exists_pairAt_iff hcurrent, ← h.returnVariable_eq hcurrent htaken,
    mem_locals]
  constructor
  · rintro ⟨c, hc, hname⟩
    obtain ⟨st, hst, heq⟩ := List.mem_filterMap.mp hname
    obtain ⟨type, v, rfl⟩ := Commit.declare_of_mem_declarations hst
    obtain rfl : v = name := Option.some.inj heq
    rcases Commit.nativeReturn_of_declare hst with rfl | ⟨t, hreturn, -⟩
    · exact .inl ⟨rfl, c, hc, Commit.rule_of_declared_text hname⟩
    · exact .inr (h.nativeReturn_of_mem hc hreturn).2
  · rintro (⟨rfl, c, hc, hrule⟩ | hv)
    · refine ⟨c, hc, ?_⟩
      cases c with
      | growableText | fixedText => exact List.mem_cons_self
      | _ => rcases hrule with hrule | hrule <;> cases hrule
    · exact mem_locals.mp (h.returnVariable_mem_locals hv)

theorem mem_owners_iff (h : Reached settings s commits w) (hcurrent : w.progress.current? = none) :
    name ∈ commits.filterMap Commit.owner? ↔ s.IsHolder settings name := by
  rw [List.mem_filterMap, Signature.IsHolder, h.kept_eq hcurrent]
  simp only [List.reduceOption_mem_iff, List.mem_flatMap]
  constructor
  · rintro ⟨c, hc, howner⟩
    obtain ⟨earlier, before, hbefore, hchosen⟩ := h.exists_before hc
    have hbuffer : ∀ {buffer : Parameter}, before.progress.current? = some buffer →
        s.nameAt? before.progress.index = some buffer.name := by
      intro buffer hbuffer
      rw [← hbefore.signature_eq, Progress.nameAt?_index hbuffer]
    cases c with
    | text q =>
      cases howner
      exact .inl ⟨q, ⟨_, hc, List.mem_cons_self⟩,
        (hchosen.isText_iff rfl List.mem_cons_self).mpr rfl, rfl⟩
    | growableText buffer =>
      cases howner
      have hpair := (hbefore.pairAt_iff hchosen rfl).mpr (.inl rfl)
      exact .inr ⟨_, hpair.textAt.lt, hpair, _, hbuffer hchosen.fits.1, rfl⟩
    | fixedText buffer =>
      cases howner
      have hpair := (hbefore.pairAt_iff hchosen rfl).mpr (.inr rfl)
      exact .inr ⟨_, hpair.textAt.lt, hpair, _, hbuffer hchosen.fits.1, rfl⟩
    | _ => cases howner
  · rintro (⟨q, ⟨c, hc, hslot⟩, htext, rfl⟩ | ⟨i, hi, hpair, buffer, hbuffer, rfl⟩)
    · obtain ⟨p, -, hchosen⟩ := h.exists_chosen hc
      have hrule : c.rule = .inl .text := by
        cases hr : c.rule with
        | inl r => rw [← hr]; exact (hchosen.isText_iff hr hslot).mp htext
        | inr r => cases c <;> cases hr <;> cases hslot
      cases c with
      | text q' =>
        obtain rfl := Option.some.inj (List.mem_singleton.mp hslot)
        exact ⟨_, hc, rfl⟩
      | _ => cases hrule
    · obtain ⟨earlier, before, c, r, hbefore, hchosen, hr, rfl, hc⟩ :=
        h.exists_commit_at (h.lt_index hcurrent hi) hpair.textAt
      have hrule := (hbefore.pairAt_iff hchosen hr).mp hpair
      have hfits := hchosen.fits
      cases c with
      | growableText buffer' | fixedText buffer' =>
        rw [← hbefore.signature_eq, Progress.nameAt?_index hfits.1] at hbuffer
        cases hbuffer
        exact ⟨_, hc, rfl⟩
      | _ => rcases hrule with hrule | hrule <;> cases hrule

theorem mem_localNames_iff (h : Reached settings s commits w)
    (hcurrent : w.progress.current? = none) (htaken : w.progress.returnTaken = true) :
    name ∈ w.draft.localNames ↔ s.IsLocal settings name := by
  rw [h.localNames_eq, List.mem_append, h.mem_locals_iff hcurrent htaken,
    h.mem_owners_iff hcurrent, Signature.IsLocal]

theorem not_both_buffers (h : Reached settings s commits w)
    (hone : ∀ i j, s.PairAt settings i → s.PairAt settings j → i = j) :
    ¬ ((∃ c ∈ commits, c.rule = .inl .growableText) ∧
      ∃ c ∈ commits, c.rule = .inl .fixedText) := by
  rintro ⟨hgrowable, c, hc, hrule⟩
  obtain ⟨earlier, before, buffer, size, length, hbefore, hchosen, -, rfl, -⟩ :=
    h.growableText_last hgrowable
  have hc : c ∈ earlier := by
    rcases List.mem_append.mp hc with hc | hc
    · exact hc
    · rw [List.mem_singleton.mp hc] at hrule
      cases hrule
  obtain ⟨j, hj, hfixed⟩ := hbefore.fixedPairAt_of_mem ⟨c, hc, hrule⟩
  have hlast := (hbefore.growablePairAt_iff hchosen rfl).mpr rfl
  rw [hone j _ (.inr hfixed) (.inl hlast)] at hj
  exact Nat.lt_irrefl _ hj

theorem managedNames_nodup (h : Reached settings s commits w)
    (hnative : ∀ q ∈ s.parameters, Identifier.IsNative q.name)
    (hnames : (s.parameters.map Parameter.name).Nodup) :
    (w.draft.managedParameters.map ManagedParameter.name).Nodup := by
  rw [h.managedParameters_eq, List.map_flatMap, List.Nodup, List.pairwise_flatMap]
  have hmem : ∀ c ∈ commits, ∀ q ∈ c.parameters, q ∈ s.parameters := by
    intro c hc q hq
    rw [h.parameters_eq]
    exact List.mem_append_left _ (List.mem_flatMap.mpr ⟨c, hc, hq⟩)
  constructor
  · intro c hc
    cases c <;> simp [Commit.managedParameters]
  · refine (h.pairwise_names hnames).imp_of_mem ?_
    rintro a b ha hb hdistinct name hname _ hname' rfl
    obtain ⟨q, hq, rfl⟩ := Commit.exists_of_managed hname
    obtain ⟨q', hq', heq⟩ := Commit.exists_of_managed hname'
    exact hdistinct q hq q' hq'
      (Identifier.escape_inj (hnative q (hmem a ha q hq)) (hnative q' (hmem b hb q' hq')) heq)

end Reached

/-- The parameters of a wrapper have distinct names, and its locals can be read off the signature. They
are distinct too if there is one output pair at most, and then all names are distinct exactly where no
parameter is named like a local. So they are where no parameter has the name of a variable that rules
declare, or of the local for another parameter. -/
theorem declared_distinct_iff {d : Draft} (h : bindFunction settings s = .ok d)
    (hnative : ∀ q ∈ s.parameters, Identifier.IsNative q.name)
    (hnames : (s.parameters.map Parameter.name).Nodup) :
    (d.managedParameters.map ManagedParameter.name).Nodup ∧
    (∀ name, name ∈ d.localNames ↔ s.IsLocal settings name) ∧
    ((∀ i j, s.PairAt settings i → s.PairAt settings j → i = j) →
      d.localNames.Nodup ∧
      ((d.managedParameters.map ManagedParameter.name ++ d.localNames).Nodup ↔
        ∀ q ∈ s.kept settings, ¬ s.IsLocal settings q.name) ∧
      ((∀ q ∈ s.parameters, q.name ∉ Signature.variableNames ∧ ∀ q' ∈ s.parameters,
          q.name ≠ Marshalling.inputLocal q'.name ∧ q.name ≠ Marshalling.outputLocal q'.name) →
        (d.managedParameters.map ManagedParameter.name ++ d.localNames).Nodup)) := by
  obtain ⟨commits, w, hw, rfl, hcurrent, htaken, -⟩ := Reached.of_bindFunction h
  have hmanaged := hw.managedNames_nodup hnative hnames
  have hmem : ∀ {name : String}, name ∈ w.draft.localNames ↔ s.IsLocal settings name :=
    hw.mem_localNames_iff hcurrent htaken
  refine ⟨hmanaged, fun name => hmem, fun hone => ?_⟩
  have hlocals := hw.localNames_nodup hnames (hw.not_both_buffers hone)
  have hall : (w.draft.managedParameters.map ManagedParameter.name ++ w.draft.localNames).Nodup ↔
      ∀ q ∈ s.kept settings, ¬ s.IsLocal settings q.name := by
    rw [List.nodup_append, hw.managedNames_eq hcurrent]
    rw [hw.managedNames_eq hcurrent] at hmanaged
    constructor
    · rintro ⟨-, -, hdistinct⟩ q hq hlocal
      refine hdistinct _ (List.mem_map_of_mem hq) q.name (hmem.mpr hlocal) ?_
      exact hlocal.escape_eq_iff.mpr rfl
    · intro hdistinct
      refine ⟨hmanaged, hlocals, ?_⟩
      rintro _ hname name hlocal rfl
      obtain ⟨q, hq, heq⟩ := List.mem_map.mp hname
      have hlocal := hmem.mp hlocal
      exact hdistinct q hq (hlocal.escape_eq_iff.mp heq ▸ hlocal)
  refine ⟨hlocals, hall, fun hplain => hall.mpr fun q hq hlocal => ?_⟩
  obtain ⟨hvariable, hholder⟩ := hplain q (Signature.mem_parameters_of_kept hq)
  rcases hlocal with hlocal | hlocal
  · exact hvariable hlocal.mem
  · obtain ⟨q', hq', heq | heq⟩ := hlocal.exists_parameter
    · exact (hholder q' hq').1 heq
    · exact (hholder q' hq').2 heq

def suggestSignature : Signature where
  nativeName := "sp_session_suggest"
  managedName := "Suggest"
  parameters :=
    [⟨"session", .pointer (.named "sp_session")⟩, ⟨"query", .pointer (.named "char")⟩,
      ⟨"suggestion", .pointer (.named "char")⟩, ⟨"size", .named "int"⟩]
  returns := .named "int"
  receiver := some "sp_session"

theorem declared_distinct_suggest :
    ∃ d, bindFunction {} suggestSignature = .ok d ∧
      d.localNames = ["managed_string", "ret_length", "utf8_query", "out_suggestion"] ∧
      (d.managedParameters.map ManagedParameter.name ++ d.localNames).Nodup := by
  obtain ⟨d, hd⟩ : ∃ d, bindFunction {} suggestSignature = .ok d := exists_draft (by decide +kernel)
  have hnative : ∀ q ∈ suggestSignature.parameters, Identifier.IsNative q.name := by
    simp only [suggestSignature, List.forall_mem_cons]
    refine ⟨⟨_, _, rfl, ?_⟩, ⟨_, _, rfl, ?_⟩, ⟨_, _, rfl, ?_⟩, ⟨_, _, rfl, ?_⟩, by simp⟩ <;>
      decide
  have hpair : ∀ i < 4, suggestSignature.PairAt {} i → i = 2 := by decide +kernel
  have hlast : ∀ i, suggestSignature.PairAt {} i → i = 2 := fun i hi =>
    hpair i hi.textAt.lt hi
  obtain ⟨-, -, hdistinct⟩ := declared_distinct_iff hd hnative (by decide)
  obtain ⟨-, hall, -⟩ := hdistinct fun i j hi hj => (hlast i hi).trans (hlast j hj).symm
  have hlocals : (bindFunction {} suggestSignature).toOption.map Draft.localNames =
      some ["managed_string", "ret_length", "utf8_query", "out_suggestion"] := by
    decide +kernel
  rw [hd] at hlocals
  exact ⟨d, hd, Option.some.inj hlocals, hall.mpr (by decide +kernel)⟩

def valueSignature : Signature where
  nativeName := "sp_f"
  managedName := "F"
  parameters := [⟨"ret_value", .named "int"⟩]
  returns := .named "int"

theorem declared_twice_value :
    ∃ d, bindFunction {} valueSignature = .ok d ∧
      (∀ q ∈ valueSignature.parameters, Identifier.IsNative q.name) ∧
      (valueSignature.parameters.map Parameter.name).Nodup ∧
      ¬ (d.managedParameters.map ManagedParameter.name ++ d.localNames).Nodup := by
  obtain ⟨d, hd⟩ : ∃ d, bindFunction {} valueSignature = .ok d := exists_draft (by decide +kernel)
  have hfields : (bindFunction {} valueSignature).toOption.map (fun d =>
      d.managedParameters.map ManagedParameter.name ++ d.localNames) =
        some ["ret_value", "ret_value"] := by decide +kernel
  rw [hd] at hfields
  have hnames : d.managedParameters.map ManagedParameter.name ++ d.localNames =
      ["ret_value", "ret_value"] := Option.some.inj hfields
  refine ⟨d, hd, ?_, by decide, ?_⟩
  · simp only [valueSignature, List.forall_mem_cons]
    exact ⟨⟨_, _, rfl, by decide⟩, by simp⟩
  · rw [hnames]
    decide

end NativeBindings
