import NativeBindings.Proofs.Scoping

namespace NativeBindings

variable {settings : Settings} {s : Signature} {commits : List Commit} {w : Work} {c : Commit}
  {d : Draft}

namespace Commit

theorem scope_owner (commits : List Commit) {scope : Scope} (h : c.scope? = some scope) :
    scope.header.owner?.isSome = true ∧
      ∀ name ∈ scope.header.owner?, name ∉ Reached.locals commits := by
  have howner : scope.header.owner? = c.owner? := by
    rw [Commit.owner?, h]
    rfl
  constructor
  · cases c with
    | growableText | fixedText | text =>
      cases h
      rfl
    | _ => cases h
  · intro name hname
    rw [howner] at hname
    exact Reached.owner_not_mem_locals hname

theorem scope_supported {scope : Scope} (hrule : c.rule ≠ .inl .growableText)
    (h : c.scope? = some scope)
    (hmanaged : ∀ q ∈ c.managedParameters,
      q.name ∉ Reached.locals commits ∧ d.hasParameter q.name = true) :
    scope.Supported d (Reached.locals commits) := by
  obtain ⟨hholds, howner⟩ := scope_owner commits h
  cases c with
  | growableText => exact absurd rfl hrule
  | fixedText buffer size ignored =>
    cases h
    refine ⟨hholds, howner, nofun, fun depth blocks assigned hwithin hdeclared => ?_⟩
    obtain ⟨block, hblock, hmem⟩ := hdeclared Rule.textVariable List.mem_cons_self
    have hread : Scoping.step d
        ⟨{ owner := some (Marshalling.outputLocal buffer.name) } :: blocks, assigned, none⟩
        ⟨depth + 0, .statement
          (.readBuffer Rule.textVariable (Marshalling.outputLocal buffer.name) none)⟩ = _ :=
      Scoping.step_readBuffer
        (List.forall_mem_cons.mpr ⟨Block.within_header howner, hwithin⟩)
        ⟨_, List.mem_cons_self, rfl⟩ (by simp) ⟨block, List.mem_cons_of_mem _ hblock, hmem⟩
    rw [List.map_cons, List.map_nil, List.foldlM_cons]
    exact congrArg (fun result => result >>= pure) hread
  | text q =>
    cases h
    refine ⟨hholds, howner, ?_, fun depth blocks assigned _ _ => rfl⟩
    rintro _ ⟨⟩
    exact hmanaged _ List.mem_cons_self
  | _ => cases h

theorem target_declared {scope : Scope} (h : c.scope? = some scope) {target : String}
    (htarget : target ∈ scope.targets) : target ∈ c.declarations.filterMap Statement.declared? := by
  cases c with
  | growableText | fixedText =>
    cases h
    rw [List.mem_singleton.mp htarget]
    exact List.mem_cons_self
  | text =>
    cases h
    cases htarget
  | _ => cases h

theorem returnVariable_ne {type : ManagedType} {v : String}
    (h : c.nativeReturn? = some (type, some v)) : v ≠ Rule.textVariable := by
  cases c with
  | fixedText buffer size ignored =>
    obtain ⟨_, -, htarget⟩ := Option.map_eq_some_iff.mp h
    cases htarget
  | growableText | returnStatus | returnScalar | returnHandle | returnText =>
    cases h
    decide
  | _ => cases h

end Commit

namespace Reached

def opened (commits part : List Commit) : List Block :=
  ((Commit.scopes part).map Scope.block).reverse ++ [{ declared := locals commits }]

theorem block_mem_opened {part : List Commit} {scope : Scope} (h : scope ∈ Commit.scopes part) :
    scope.block ∈ opened commits part :=
  List.mem_append_left _ (List.mem_reverse.mpr (List.mem_map_of_mem h))

theorem locals_mem_opened (commits part : List Commit) :
    { declared := locals commits } ∈ opened commits part :=
  List.mem_append_right _ List.mem_cons_self

theorem within_outermost (commits : List Commit) :
    ∀ block ∈ ([{ declared := locals commits }] : List Block), block.Within (locals commits) := by
  intro block hblock
  rw [List.mem_singleton.mp hblock]
  exact ⟨fun name hname => hname, nofun⟩

theorem within_opened (commits part : List Commit) :
    ∀ block ∈ opened commits part, block.Within (locals commits) := by
  intro block hblock
  rcases List.mem_append.mp hblock with hblock | hblock
  · obtain ⟨scope, hscope, rfl⟩ := List.mem_map.mp (List.mem_reverse.mp hblock)
    obtain ⟨c, -, hscope⟩ := List.mem_filterMap.mp hscope
    exact Scope.within_block (Commit.scope_owner commits hscope).2
  · exact within_outermost commits block hblock

def Clear (commits : List Commit) (d : Draft) : Prop :=
  ∀ m ∈ d.managedParameters, m.name ∉ locals commits

theorem refersTo_argument (h : Reached settings s commits w) {blocks : List Block}
    {assigned : List String} (hwithin : ∀ block ∈ blocks, block.Within (locals commits))
    (hclear : Clear commits w.draft)
    (howners : ∀ scope ∈ Commit.scopes commits, scope.block ∈ blocks) :
    ∀ p ∈ w.draft.nativeParameters,
      p.argument.refersTo (Scoping.canPass w.draft ⟨blocks, assigned, none⟩)
        (Scoping.holds ⟨blocks, assigned, none⟩) (Scoping.holds ⟨blocks, assigned, none⟩) = true := by
  intro p hp
  rw [h.nativeParameters_eq] at hp
  obtain ⟨c, hc, hp⟩ := List.mem_flatMap.mp hp
  have hmanaged : ∀ q ∈ c.managedParameters,
      Scoping.canPass w.draft ⟨blocks, assigned, none⟩ q.name = true := fun q hq =>
    Scoping.canPass_of_parameter hwithin (hclear q (h.mem_managedParameters hc hq))
      (h.hasParameter_of_mem hc hq)
  have hholds : ∀ {scope : Scope} {holder : String}, c.scope? = some scope →
      scope.header.owner? = some holder →
        Scoping.holds ⟨blocks, assigned, none⟩ holder = true := by
    intro scope holder hscope howner
    exact Scoping.holds_of_mem hwithin
      ⟨scope.block, howners scope (List.mem_filterMap.mpr ⟨c, hc, hscope⟩), howner⟩
  cases c with
  | scalar | reference | handle =>
    rw [List.mem_singleton.mp hp]
    exact hmanaged _ List.mem_cons_self
  | receiver q =>
    rw [List.mem_singleton.mp hp]
    exact Scoping.canPass_of_parameter hwithin this_not_mem_locals (h.hasParameter_this hc)
  | growableText | fixedText =>
    simp only [Commit.nativeParameters, List.mem_cons, List.not_mem_nil, or_false] at hp
    rcases hp with rfl | rfl <;> exact hholds rfl rfl
  | text =>
    rw [List.mem_singleton.mp hp]
    exact hholds rfl rfl
  | _ => cases hp

theorem step_nativeCall (h : Reached settings s commits w) {blocks : List Block}
    (hwithin : ∀ block ∈ blocks, block.Within (locals commits))
    (hclear : Clear commits w.draft)
    (howners : ∀ scope ∈ Commit.scopes commits, scope.block ∈ blocks)
    (hlocals : { declared := locals commits } ∈ blocks) (depth : Nat) (assigned : List String) :
    Scoping.step w.draft ⟨blocks, assigned, none⟩ ⟨depth, .nativeCall⟩ =
      some ⟨blocks, w.draft.returnVariable.toList ++ assigned, none⟩ := by
  refine (if_pos (List.all_eq_true.mpr (h.refersTo_argument hwithin hclear howners))).trans ?_
  cases hv : w.draft.returnVariable with
  | none => rfl
  | some v =>
    refine Scoping.assign_of_mem hwithin ⟨_, hlocals, ?_⟩
    exact h.returnVariable_mem_locals hv

theorem foldlM_wrap (h : Reached settings s commits w)
    (hclear : Clear commits w.draft)
    {part : List Commit} (hpart : ∀ c ∈ part, c ∈ commits ∧ c.rule ≠ .inl .growableText)
    {inner : List Line} {after : List String}
    (hinner : inner.foldlM (Scoping.step w.draft) ⟨opened commits part, [], none⟩ =
      some ⟨opened commits part, after, none⟩) :
    (Scope.wrap 0 (Commit.scopes part) inner).foldlM (Scoping.step w.draft)
        ⟨[{ declared := locals commits }], [], none⟩ =
      some ⟨[{ declared := locals commits }],
        (Commit.scopes part).flatMap Scope.targets ++ after, none⟩ := by
  apply Scope.foldlM_wrap _ (within_outermost commits) _ hinner
  · intro scope hscope
    obtain ⟨c, hc, hscope⟩ := List.mem_filterMap.mp hscope
    obtain ⟨hc, hrule⟩ := hpart c hc
    exact Commit.scope_supported hrule hscope fun q hq =>
      ⟨hclear q (h.mem_managedParameters hc hq), h.hasParameter_of_mem hc hq⟩
  · intro scope hscope target htarget
    obtain ⟨c, hc, hscope⟩ := List.mem_filterMap.mp hscope
    refine ⟨_, List.mem_cons_self, ?_⟩
    exact mem_locals.mpr ⟨c, (hpart c hc).1, Commit.target_declared hscope htarget⟩

theorem mem_targets_of_fixedText (hc : c ∈ commits) (hrule : c.rule = .inl .fixedText) :
    Rule.textVariable ∈ (Commit.scopes commits).flatMap Scope.targets := by
  cases c with
  | fixedText =>
    exact List.mem_flatMap.mpr ⟨_, List.mem_filterMap.mpr ⟨_, hc, rfl⟩, List.mem_cons_self⟩
  | _ => cases hrule

structure Settled (commits : List Commit) (d : Draft) (assigned : List String) : Prop where
  returned : ∀ v, d.returnVariable = some v → v ∈ assigned
  text : ∀ c ∈ commits, c.rule = .inl .growableText ∨ c.rule = .inl .fixedText →
    Rule.textVariable ∈ assigned

theorem foldlM_plain (h : Reached settings s commits w)
    (hclear : Clear commits w.draft)
    (hplain : ∀ c ∈ commits, c.rule ≠ .inl .growableText) :
    ∃ assigned, (Scope.wrap 0 (Commit.scopes commits)
        [⟨(Commit.scopes commits).length, .nativeCall⟩]).foldlM (Scoping.step w.draft)
        ⟨[{ declared := locals commits }], [], none⟩ =
      some ⟨[{ declared := locals commits }], assigned, none⟩ ∧
      Settled commits w.draft assigned := by
  have hcall := h.step_nativeCall (within_opened commits commits) hclear
    (fun scope => block_mem_opened) (locals_mem_opened commits commits)
    (Commit.scopes commits).length []
  have hinner : [Line.mk (Commit.scopes commits).length .nativeCall].foldlM
      (Scoping.step w.draft) ⟨opened commits commits, [], none⟩ =
      some ⟨opened commits commits, w.draft.returnVariable.toList ++ [], none⟩ :=
    congrArg (fun result => result >>= pure) hcall
  refine ⟨_, h.foldlM_wrap hclear (fun c hc => ⟨hc, hplain c hc⟩) hinner, ?_, ?_⟩
  · intro v hv
    rw [hv]
    exact List.mem_append_right _ List.mem_cons_self
  · rintro c hc (hrule | hrule)
    · exact absurd hrule (hplain c hc)
    · exact List.mem_append_left _ (mem_targets_of_fixedText hc hrule)

theorem foldlM_growable (h : Reached settings s commits w)
    (hclear : Clear commits w.draft)
    {earlier : List Commit} {buffer size : Parameter} {length : ManagedType}
    (hcommits : commits = earlier ++ [.growableText buffer size length])
    (hearlier : ∀ c ∈ earlier, c.rule ≠ .inl .growableText)
    (hreturn : w.draft.returnVariable = some Rule.lengthVariable) :
    ∃ assigned, (Scope.wrap 0 (Commit.scopes commits)
        [⟨(Commit.scopes commits).length, .nativeCall⟩]).foldlM (Scoping.step w.draft)
        ⟨[{ declared := locals commits }], [], none⟩ =
      some ⟨[{ declared := locals commits }], assigned, none⟩ ∧
      Settled commits w.draft assigned := by
  have hlast : .growableText buffer size length ∈ commits := by
    rw [hcommits]
    exact List.mem_append_right _ List.mem_cons_self
  obtain ⟨scope, hscope, hheader, hgrowth⟩ : ∃ scope,
      (Commit.growableText buffer size length).scope? = some scope ∧
      scope.header =
        .openBuffer (Marshalling.outputLocal buffer.name) Rule.bufferCapacity ∧
      scope.inner = Commit.growthLines (Marshalling.outputLocal buffer.name) := ⟨_, rfl, rfl, rfl⟩
  have howner := (Commit.scope_owner commits hscope).2
  -- The buffer is the innermost scope: the others stand around its lines as around a call.
  have hscopes : Commit.scopes commits = Commit.scopes earlier ++ [scope] := by
    rw [hcommits, Commit.scopes_append, Commit.scopes_singleton_some hscope]
  have hdeclared : ∀ {name : String},
      name ∈ (Commit.growableText buffer size length).declarations.filterMap Statement.declared? →
      ∃ block ∈ opened commits earlier, name ∈ block.declared := by
    intro name hname
    exact ⟨_, locals_mem_opened commits earlier, mem_locals.mpr ⟨_, hlast, hname⟩⟩
  have hcall : ∀ depth assigned, Scoping.step w.draft
      ⟨scope.block :: opened commits earlier, assigned, none⟩ ⟨depth, .nativeCall⟩ =
        some ⟨scope.block :: opened commits earlier, Rule.lengthVariable :: assigned, none⟩ := by
    intro depth assigned
    have howners : ∀ scope' ∈ Commit.scopes commits,
        scope'.block ∈ scope.block :: opened commits earlier := by
      intro scope' hscope'
      rw [hscopes] at hscope'
      rcases List.mem_append.mp hscope' with hscope' | hscope'
      · exact List.mem_cons_of_mem _ (block_mem_opened hscope')
      · rw [List.mem_singleton.mp hscope']
        exact List.mem_cons_self
    have hcall := h.step_nativeCall
      (List.forall_mem_cons.mpr ⟨Scope.within_block howner, within_opened commits earlier⟩) hclear
      howners (List.mem_cons_of_mem _ (locals_mem_opened commits earlier)) depth assigned
    rw [hreturn] at hcall
    exact hcall
  have hinner := Scope.foldlM_growth hheader hgrowth (within_opened commits earlier)
    (howner _ (by rw [hheader]; rfl)) hcall (hdeclared List.mem_cons_self)
    (hdeclared (List.mem_cons_of_mem _ List.mem_cons_self)) (Commit.scopes earlier).length
    ((Commit.scopes earlier).length + [scope].length)
  have hpart : ∀ c ∈ earlier, c ∈ commits ∧ c.rule ≠ .inl .growableText := by
    intro c hc
    rw [hcommits]
    exact ⟨List.mem_append_left _ hc, hearlier c hc⟩
  rw [hscopes, Scope.wrap_concat, List.length_append, Nat.zero_add]
  refine ⟨_, h.foldlM_wrap hclear hpart hinner, ?_, ?_⟩
  · intro v hv
    rw [hreturn] at hv
    cases hv
    exact List.mem_append_right _ (List.mem_cons_of_mem _ List.mem_cons_self)
  · intro c hc hrule
    exact List.mem_append_right _ List.mem_cons_self

theorem foldlM_scopes (h : Reached settings s commits w)
    (hclear : Clear commits w.draft) :
    ∃ assigned, (Scope.wrap 0 (Commit.scopes commits)
        [⟨(Commit.scopes commits).length, .nativeCall⟩]).foldlM (Scoping.step w.draft)
        ⟨[{ declared := locals commits }], [], none⟩ =
      some ⟨[{ declared := locals commits }], assigned, none⟩ ∧
      Settled commits w.draft assigned := by
  by_cases hgrowable : ∃ c ∈ commits, c.rule = .inl .growableText
  · obtain ⟨earlier, before, buffer, size, length, -, -, hearlier, rfl, rfl⟩ :=
      h.growableText_last hgrowable
    exact h.foldlM_growable hclear rfl hearlier rfl
  · exact h.foldlM_plain hclear fun c hc hrule => hgrowable ⟨c, hc, hrule⟩

theorem canRead (h : Reached settings s commits w) {assigned : List String}
    (hsettled : Settled commits w.draft assigned) (hc : c ∈ commits) {type : String} {name : String}
    (hdeclared : .declare type name ∈ c.declarations)
    (hassigned : (c.rule = .inl .growableText ∨ c.rule = .inl .fixedText) ∧
        name = Rule.textVariable ∨ ∃ type, c.nativeReturn? = some (type, some name)) :
    Scoping.canRead ⟨[{ declared := locals commits }], assigned, none⟩ name = true := by
  apply Scoping.canRead_of_mem (within_outermost commits)
  · refine ⟨_, List.mem_cons_self, mem_locals.mpr ⟨c, hc, ?_⟩⟩
    exact List.mem_filterMap.mpr ⟨_, hdeclared, rfl⟩
  · rcases hassigned with ⟨hrule, rfl⟩ | ⟨type, hreturn⟩
    · exact hsettled.text c hc hrule
    · exact hsettled.returned name (h.nativeReturn_of_mem hc hreturn).2

theorem step_result (h : Reached settings s commits w) {assigned : List String}
    (hsettled : Settled commits w.draft assigned) (hc : c ∈ commits) {st : Statement}
    (hst : st ∈ c.results settings) (depth : Nat) :
    Scoping.step w.draft ⟨[{ declared := locals commits }], assigned, none⟩
        ⟨depth, .statement st⟩ =
      some ⟨[{ declared := locals commits }], assigned, none⟩ := by
  cases c with
  | growableText =>
    obtain rfl := List.mem_singleton.mp hst
    exact if_pos (h.canRead hsettled hc List.mem_cons_self (.inl ⟨.inl rfl, rfl⟩))
  | fixedText =>
    obtain rfl := List.mem_singleton.mp hst
    exact if_pos (h.canRead hsettled hc List.mem_cons_self (.inl ⟨.inr rfl, rfl⟩))
  | returnStatus | returnScalar | returnHandle | returnText =>
    obtain rfl := List.mem_singleton.mp hst
    exact if_pos (h.canRead hsettled hc List.mem_cons_self (.inr ⟨_, rfl⟩))
  | _ => cases hst

theorem foldlM_top (commits : List Commit) (d : Draft) :
    (Line.outermost (commits.flatMap Commit.declarations)).foldlM (Scoping.step d) {} =
      some ⟨[{ declared := locals commits }], [], none⟩ := by
  apply Scoping.foldlM_declarations
  intro st hst
  obtain ⟨c, -, hst⟩ := List.mem_flatMap.mp hst
  exact Commit.declare_of_mem_declarations hst

theorem foldlM_body (h : Reached settings s commits w)
    (hclear : Clear commits w.draft) :
    ∃ e, w.draft.body.foldlM (Scoping.step w.draft) {} = some e ∧ e.pending = none := by
  obtain ⟨assigned, hscopes, hsettled⟩ := h.foldlM_scopes hclear
  have hresults : (Line.outermost (commits.reverse.flatMap (Commit.results settings))).foldlM
      (Scoping.step w.draft) ⟨[{ declared := locals commits }], assigned, none⟩ =
        some ⟨[{ declared := locals commits }], assigned, none⟩ := by
    apply Scoping.foldlM_fixed
    intro line hline
    obtain ⟨st, hst, rfl⟩ := List.mem_map.mp hline
    obtain ⟨c, hc, hst⟩ := List.mem_flatMap.mp hst
    exact h.step_result hsettled (List.mem_reverse.mp hc) hst 0
  refine ⟨⟨[{ declared := locals commits }], assigned, none⟩, ?_, rfl⟩
  rw [h.body_eq, List.foldlM_append, List.foldlM_append, foldlM_top]
  simp only [Option.bind_eq_bind, Option.bind_some]
  rw [hscopes]
  exact hresults

theorem clear_of_foldlM (h : Reached settings s commits w) {e : Scoping}
    (he : w.draft.body.foldlM (Scoping.step w.draft) {} = some e) :
    Clear commits w.draft := by
  rw [h.body_eq, List.append_assoc, List.foldlM_append, foldlM_top] at he
  simp only [Option.bind_eq_bind, Option.bind_some] at he
  rw [List.foldlM_append] at he
  obtain ⟨e₁, hwrap, -⟩ := Option.bind_eq_some_iff.mp he
  have howners : ∀ scope ∈ Commit.scopes commits, scope.header.owner?.isSome = true ∧
      ∀ name ∈ scope.header.owner?, name ∉ locals commits := by
    intro scope hscope
    obtain ⟨c, -, hscope⟩ := List.mem_filterMap.mp hscope
    exact Commit.scope_owner commits hscope
  obtain ⟨hheaders, e₂, hcall⟩ := Scope.reads_of_wrap howners (within_outermost commits)
    List.mem_cons_self hwrap
  obtain ⟨e₃, hcall, -⟩ := Option.bind_eq_some_iff.mp hcall
  have hpass : w.draft.nativeParameters.all (fun p => p.argument.refersTo
      (Scoping.canPass w.draft ⟨opened commits commits, [], none⟩)
      (Scoping.holds ⟨opened commits commits, [], none⟩)
      (Scoping.holds ⟨opened commits commits, [], none⟩)) = true := by
    by_contra hpass
    have hnone : Scoping.call w.draft ⟨opened commits commits, [], none⟩ = none := if_neg hpass
    exact absurd (hnone.symm.trans hcall) nofun
  rw [List.all_eq_true, h.nativeParameters_eq] at hpass
  intro q hq hvariable
  rw [h.managedParameters_eq] at hq
  obtain ⟨c, hc, hq⟩ := List.mem_flatMap.mp hq
  have hdeclared : Scoping.canPass w.draft ⟨opened commits commits, [], none⟩ q.name = false :=
    Scoping.canPass_declared (within_opened commits commits)
      ⟨_, locals_mem_opened commits commits, hvariable⟩
  have hnever : Scoping.canPass w.draft ⟨opened commits commits, [], none⟩ q.name ≠ true :=
    Bool.eq_false_iff.mp hdeclared
  cases c with
  | scalar | reference | handle =>
    obtain rfl := List.mem_singleton.mp hq
    exact hnever (hpass _ (List.mem_flatMap.mpr ⟨_, hc, List.mem_cons_self⟩))
  | text =>
    obtain rfl := List.mem_singleton.mp hq
    exact hheaders _ (List.mem_filterMap.mpr ⟨_, hc, rfl⟩) _ rfl hvariable
  | _ => cases hq

theorem receiver_first (h : Reached settings s commits w) (hc : c ∈ commits)
    (hreceiver : c.isReceiver = true) :
    ∃ q rest, commits = .receiver q :: rest ∧ ∀ c' ∈ rest, c'.isReceiver = false := by
  induction h with
  | start => cases hc
  | @step commits w last h hlast ih =>
    cases hr : last.isReceiver with
    | true =>
      cases last with
      | receiver q =>
        obtain ⟨hcurrent, hindex, -⟩ := hlast.fits
        -- Any rule before would have used up a parameter, or ended the run.
        have hnone : commits = [] := by
          rw [h.index_eq, List.length_eq_zero_iff, List.flatMap_eq_nil_iff] at hindex
          refine List.eq_nil_iff_forall_not_mem.mpr fun earlier hearlier => ?_
          have hcontinues := h.mayContinue hlast earlier hearlier
          have hparameters := hindex earlier hearlier
          cases earlier with
          | scalar | receiver | handle | fixedText | text | reference => cases hparameters
          | _ => cases hcontinues
        rw [hnone]
        exact ⟨q, [], rfl, nofun⟩
      | _ => cases hr
    | false =>
      have hearlier : c ∈ commits := by
        rcases List.mem_append.mp hc with hc | hc
        · exact hc
        · rw [List.mem_singleton.mp hc, hr] at hreceiver
          cases hreceiver
      obtain ⟨q, rest, rfl, hrest⟩ := ih hearlier
      refine ⟨q, rest ++ [last], rfl, fun c' hc' => ?_⟩
      rcases List.mem_append.mp hc' with hc' | hc'
      · exact hrest c' hc'
      · rw [List.mem_singleton.mp hc']
        exact hr

theorem scoped_iff (h : Reached settings s commits w) (hcurrent : w.progress.current? = none)
    (htaken : w.progress.returnTaken = true) :
    (∃ e, w.draft.body.foldlM (Scoping.step w.draft) {} = some e ∧ e.pending = none) ↔
      ∀ q ∈ s.kept settings, ¬ s.IsVariable settings q.name := by
  have hclear : Clear commits w.draft ↔
      ∀ q ∈ s.kept settings, ¬ s.IsVariable settings q.name := by
    rw [Clear, ← List.forall_mem_map (P := (· ∉ locals commits)), h.managedNames_eq hcurrent,
      List.forall_mem_map]
    refine forall₂_congr fun q _ => not_congr ?_
    rw [h.mem_locals_iff hcurrent htaken]
    constructor
    · intro hvariable
      exact hvariable.escape_eq_iff.mp rfl ▸ hvariable
    · intro hvariable
      exact (hvariable.escape_eq_iff.mpr rfl).symm ▸ hvariable
  rw [← hclear]
  constructor
  · rintro ⟨e, he, -⟩
    exact h.clear_of_foldlM he
  · exact h.foldlM_body

end Reached

theorem Commit.root_eq_this_iff {n : NativeParameter} (h : n ∈ c.nativeParameters settings) :
    n.argument.root = "this" ↔ c.isReceiver = true := by
  have hinput (name : String) : Marshalling.inputLocal name ≠ "this" := by
    intro heq
    have hhead := Marshalling.head_inputLocal name
    rw [heq] at hhead
    exact absurd hhead (by decide)
  have houtput (name : String) : Marshalling.outputLocal name ≠ "this" := by
    intro heq
    have hhead := Marshalling.head_outputLocal name
    rw [heq] at hhead
    exact absurd hhead (by decide)
  cases c with
  | receiver q =>
    rw [List.mem_singleton.mp h]
    exact iff_of_true rfl rfl
  | scalar | handle | reference =>
    rw [List.mem_singleton.mp h]
    exact iff_of_false (Identifier.escape_ne_this _) nofun
  | text =>
    rw [List.mem_singleton.mp h]
    exact iff_of_false (hinput _) nofun
  | growableText | fixedText =>
    simp only [nativeParameters, List.mem_cons, List.not_mem_nil, or_false] at h
    rcases h with rfl | rfl <;> exact iff_of_false (houtput _) nofun
  | _ => cases h

/-- Every line of a body finds what it uses exactly where no parameter that the wrapper keeps has the
name of a variable: a local is read in the open block that declares it, after an assignment on every
path, and the native call is given managed parameters, what open headers hold and the object itself.
The variable that the call is assigned to is declared with the type of the call, and the object is
passed by instance methods only, in the first place. -/
theorem locals_scoped {d : Draft} (h : bindFunction settings s = .ok d) :
    ((∃ e, d.body.foldlM (Scoping.step d) {} = some e ∧ e.pending = none) ↔
      ∀ q ∈ s.kept settings, ¬ s.IsVariable settings q.name) ∧
    (∀ v, d.returnVariable = some v →
      ⟨0, .statement (.declare d.nativeReturn.name v)⟩ ∈ d.top ∧
      ∀ type, ⟨0, .statement (.declare type v)⟩ ∈ d.top → type = d.nativeReturn.name) ∧
    ((∃ n ∈ d.nativeParameters, n.argument.root = "this") ↔ d.isInstance = true) ∧
    ∀ i n, d.nativeParameters[i]? = some n → n.argument.root = "this" → i = 0 := by
  obtain ⟨commits, w, hw, rfl, hcurrent, htaken, -⟩ := Reached.of_bindFunction h
  refine ⟨hw.scoped_iff hcurrent htaken, ?_, ?_, ?_⟩
  · intro v hv
    rw [hw.top_eq]
    refine ⟨List.mem_map_of_mem (hw.declared_returnVariable hv), fun type htype => ?_⟩
    obtain ⟨st, hst, heq⟩ := List.mem_map.mp htype
    cases heq
    obtain ⟨c, hc, hdeclare⟩ := List.mem_flatMap.mp hst
    rcases Commit.nativeReturn_of_declare hdeclare with htext | ⟨t, hreturn, rfl⟩
    · obtain ⟨c', -, hreturn⟩ := hw.exists_nativeReturn hv
      exact absurd htext (Commit.returnVariable_ne hreturn)
    · rw [(hw.nativeReturn_of_mem hc hreturn).1]
  · rw [hw.isInstance_eq, List.any_eq_true, hw.nativeParameters_eq]
    constructor
    · rintro ⟨n, hn, hroot⟩
      obtain ⟨c, hc, hn⟩ := List.mem_flatMap.mp hn
      exact ⟨c, hc, (Commit.root_eq_this_iff hn).mp hroot⟩
    · rintro ⟨c, hc, hreceiver⟩
      cases c with
      | receiver q =>
        exact ⟨_, List.mem_flatMap.mpr ⟨_, hc, List.mem_cons_self⟩, rfl⟩
      | _ => cases hreceiver
  · intro i n hn hroot
    have hmem := List.mem_of_getElem? hn
    rw [hw.nativeParameters_eq] at hn hmem
    obtain ⟨c, hc, hc'⟩ := List.mem_flatMap.mp hmem
    obtain ⟨q, rest, rfl, hrest⟩ := hw.receiver_first hc ((Commit.root_eq_this_iff hc').mp hroot)
    cases i with
    | zero => rfl
    | succ i =>
      obtain ⟨c', hc', hn'⟩ := List.mem_flatMap.mp (List.mem_of_getElem? (i := i) hn)
      have hno := hrest c' hc'
      rw [(Commit.root_eq_this_iff hn').mp hroot] at hno
      cases hno

theorem locals_scoped_suggest :
    ∃ d, bindFunction {} suggestSignature = .ok d ∧
      (∃ e, d.body.foldlM (Scoping.step d) {} = some e) ∧
      ⟨0, .statement (.declare "int" "ret_length")⟩ ∈ d.top ∧
      ∃ n ∈ d.nativeParameters, n.argument.root = "this" := by
  obtain ⟨d, hd⟩ : ∃ d, bindFunction {} suggestSignature = .ok d := exists_draft (by decide +kernel)
  obtain ⟨hscoped, hreturn, hthis, -⟩ := locals_scoped hd
  obtain ⟨e, he, -⟩ := hscoped.mpr (by decide +kernel)
  have hfields : (bindFunction {} suggestSignature).toOption.map (fun d =>
      (d.returnVariable, d.nativeReturn.name, d.isInstance)) =
        some (some "ret_length", "int", true) := by decide +kernel
  rw [hd] at hfields
  obtain ⟨hvariable, hfields⟩ := Prod.mk.inj (Option.some.inj hfields)
  obtain ⟨htype, hinstance⟩ := Prod.mk.inj hfields
  obtain ⟨hdeclared, -⟩ := hreturn _ hvariable
  rw [htype] at hdeclared
  exact ⟨d, hd, ⟨e, he⟩, hdeclared, hthis.mpr hinstance⟩

theorem unassigned_argument_value :
    ∃ d, bindFunction {} valueSignature = .ok d ∧
      (∀ q ∈ valueSignature.parameters, Identifier.IsNative q.name) ∧
      d.body = [⟨0, .statement (.declare "int" "ret_value")⟩, ⟨0, .nativeCall⟩,
        ⟨0, .statement (.giveBack (.var "ret_value"))⟩] ∧
      d.callText = "ret_value = NativeMethods.sp_f(ret_value);" ∧
      d.body.foldlM (Scoping.step d) {} = none := by
  obtain ⟨d, hd⟩ : ∃ d, bindFunction {} valueSignature = .ok d := exists_draft (by decide +kernel)
  have hfields : (bindFunction {} valueSignature).toOption.map (fun d =>
      (d.body, d.callText, d.body.foldlM (Scoping.step d) {})) =
        some ([⟨0, .statement (.declare "int" "ret_value")⟩, ⟨0, .nativeCall⟩,
          ⟨0, .statement (.giveBack (.var "ret_value"))⟩],
          "ret_value = NativeMethods.sp_f(ret_value);", none) := by decide +kernel
  rw [hd] at hfields
  obtain ⟨hbody, hfields⟩ := Prod.mk.inj (Option.some.inj hfields)
  obtain ⟨hcall, hnone⟩ := Prod.mk.inj hfields
  refine ⟨d, hd, ?_, hbody, hcall, hnone⟩
  simp only [valueSignature, List.forall_mem_cons]
  exact ⟨⟨_, _, rfl, by decide⟩, by simp⟩

end NativeBindings
