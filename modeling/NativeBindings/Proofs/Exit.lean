import NativeBindings.Proofs.Epilogue

namespace NativeBindings

variable {settings : Settings} {s : Signature} {commits : List Commit} {w : Work} {c : Commit}

namespace Commit

inductive Writes (settings : Settings) (c : Commit) : LineContent → Prop
  | declaration {st : Statement} (h : st ∈ c.declarations) : Writes settings c (.statement st)
  | header {scope : Scope} {st : Statement} (h : c.scope? = some scope) (hst : st = scope.header) :
      Writes settings c (.statement st)
  | inner {scope : Scope} {line : Line} {content : LineContent} (h : c.scope? = some scope)
      (hline : line ∈ scope.inner) (hcontent : line.content = content) : Writes settings c content
  | result {st : Statement} (h : st ∈ c.results settings) : Writes settings c (.statement st)

variable {scope : Scope}

theorem header_not_read (h : c.scope? = some scope) :
    LineContent.isRead (.statement scope.header) = false := by
  cases c with
  | growableText | fixedText | text =>
    cases h
    rfl
  | _ => cases h

theorem read_not_mem_results {target holder : String} {length : Option String} :
    .readBuffer target holder length ∉ c.results settings := by
  cases c <;> simp [results]

theorem reads_le_one
    (h : commits.Pairwise fun a b => ¬ (a.givesValue = true ∧ b.givesValue = true)) :
    ((scopes commits).flatMap Scope.inner).countP (·.content.isRead) ≤ 1 := by
  have hnone : ∀ c : Commit, c.givesValue = false →
      ((scopes [c]).flatMap Scope.inner).countP (·.content.isRead) = 0 := by
    intro c hno
    cases c with
    | growableText | fixedText => cases hno
    | _ => rfl
  have hone : ∀ c : Commit,
      ((scopes [c]).flatMap Scope.inner).countP (·.content.isRead) ≤ 1 := by
    intro c
    cases c <;> exact Nat.le_of_ble_eq_true rfl
  induction commits with
  | nil => exact Nat.zero_le 1
  | cons c commits ih =>
    obtain ⟨hfirst, hrest⟩ := List.pairwise_cons.mp h
    rw [← List.singleton_append, scopes_append, List.flatMap_append, List.countP_append]
    cases hgives : c.givesValue with
    | false =>
      rw [hnone c hgives, Nat.zero_add]
      exact ih hrest
    | true =>
      have hzero : ((scopes commits).flatMap Scope.inner).countP (·.content.isRead) = 0 := by
        rw [List.countP_eq_zero]
        intro line hline
        obtain ⟨scope, hscope, hline⟩ := List.mem_flatMap.mp hline
        obtain ⟨c', hc', hscope⟩ := List.mem_filterMap.mp hscope
        intro hread
        obtain ⟨target, holder, length, hread⟩ := LineContent.exists_of_isRead hread
        exact hfirst c' hc' ⟨hgives, (readBuffer_of_mem hscope hline hread).1⟩
      rw [hzero, Nat.add_zero]
      exact hone c

end Commit

namespace Rule

theorem ignoredReturn?_eq_none {t : NativeType} (h : ignoredReturn? settings t = none)
    (hstatus : t ≠ .named settings.errorType) :
    t ≠ .pointer (.named "char") ∧ settings.handleClass? t = none ∧ settings.scalar? t = none := by
  rw [ignoredReturn?, if_neg (fun hcode => hstatus (Settings.isStatusCode_iff.mp hcode))] at h
  split at h
  case isTrue => cases h
  case isFalse hpointer =>
  split at h
  case isTrue => cases h
  case isFalse =>
  obtain ⟨hc, hhandle⟩ := not_or.mp hpointer
  exact ⟨fun heq => hc (NativeType.isCString_iff.mpr heq),
    Option.not_isSome_iff_eq_none.mp hhandle, h⟩

end Rule

namespace Reached

theorem writes_of_mem (h : Reached settings s commits w) {line : Line}
    (hline : line ∈ w.draft.body) :
    line.content = .nativeCall ∨ line.content = .statement .openBlock ∨
      line.content = .statement .closeBlock ∨ ∃ c ∈ commits, c.Writes settings line.content := by
  rw [h.body_eq] at hline
  rcases List.mem_append.mp hline with hline | hline
  · rcases List.mem_append.mp hline with hline | hline
    · obtain ⟨st, hst, hcontent⟩ := Line.content_of_mem_outermost hline
      obtain ⟨c, hc, hst⟩ := List.mem_flatMap.mp hst
      rw [hcontent]
      exact .inr (.inr (.inr ⟨c, hc, .declaration hst⟩))
    · rcases Scope.content_of_mem_wrap hline with hcall | ⟨scope, hscope, hcontent⟩
      · rw [List.mem_singleton.mp hcall]
        exact .inl rfl
      · obtain ⟨c, hc, hscope⟩ := List.mem_filterMap.mp hscope
        rcases hcontent with hcontent | hcontent | hcontent | ⟨line', hline', hcontent⟩
        · rw [hcontent]
          exact .inr (.inr (.inr ⟨c, hc, .header hscope rfl⟩))
        · exact .inr (.inl hcontent)
        · exact .inr (.inr (.inl hcontent))
        · exact .inr (.inr (.inr ⟨c, hc, .inner hscope hline' hcontent.symm⟩))
  · obtain ⟨st, hst, hcontent⟩ := Line.content_of_mem_outermost hline
    obtain ⟨c, hc, hst⟩ := List.mem_flatMap.mp hst
    rw [hcontent]
    exact .inr (.inr (.inr ⟨c, List.mem_reverse.mp hc, .result hst⟩))

theorem gives_after_fixedText (h : Reached settings s commits w)
    (hc : c.Chosen settings w.progress) (hfixed : ∃ c ∈ commits, c.rule = .inl .fixedText)
    (hgives : c.givesValue = true) : c.rule = .inl .growableText ∨ c.rule = .inl .fixedText := by
  cases hr : c.rule with
  | inl r =>
    cases c with
    | growableText => exact .inl hr.symm
    | fixedText => exact .inr hr.symm
    | scalar | receiver | handle | text | reference => cases hgives
    | _ => cases hr
  | inr r =>
    have hignored := (h.return_left (hc.returned r hr).2.1).2 (Commit.name_mem_iff.mpr hfixed)
    rw [← h.signature_eq] at hignored
    have hfits := hc.fits
    cases c with
    | returnScalar type =>
      have hstatus : w.progress.signature.returns ≠ .named settings.errorType := fun hstatus =>
        hc.return_not_fits (.returnStatus type) rfl rfl (by decide) ⟨hfits, hstatus⟩
      obtain ⟨-, -, hscalar⟩ := Rule.ignoredReturn?_eq_none hignored hstatus
      exact absurd (hscalar.symm.trans hfits) nofun
    | returnHandle className =>
      obtain ⟨name, hname, -⟩ :=
        Settings.handleClass?_isSome_iff.mp (Option.isSome_of_eq_some hfits)
      obtain ⟨-, hclass, -⟩ := Rule.ignoredReturn?_eq_none hignored (by rw [hname]; nofun)
      exact absurd (hclass.symm.trans hfits) nofun
    | returnText =>
      obtain ⟨hc, -⟩ := Rule.ignoredReturn?_eq_none hignored (by rw [hfits]; nofun)
      exact absurd hfits hc
    | returnStatus | returnNothing => cases hgives
    | _ => cases hr

theorem gives_once (h : Reached settings s commits w)
    (hnames : (s.parameters.map Parameter.name).Nodup)
    (hbuffers : ¬ ((∃ c ∈ commits, c.rule = .inl .growableText) ∧
      ∃ c ∈ commits, c.rule = .inl .fixedText)) :
    commits.Pairwise fun a b => ¬ (a.givesValue = true ∧ b.givesValue = true) := by
  induction h with
  | start => exact .nil
  | @step commits w c h hc ih =>
    have honce := (h.step hc).fixedText_once hnames
    rw [List.pairwise_append] at honce ⊢
    obtain ⟨-, -, honce⟩ := honce
    refine ⟨ih ?_, List.pairwise_singleton _ _, ?_⟩
    · rintro ⟨⟨a, ha, hgrowable⟩, b, hb, hfixed⟩
      exact hbuffers
        ⟨⟨a, List.mem_append_left _ ha, hgrowable⟩, b, List.mem_append_left _ hb, hfixed⟩
    · -- Of the rules that others can follow, only a fixed buffer gives back a value.
      rintro earlier hearlier _ hlast ⟨hgives, hgivesLast⟩
      obtain rfl := List.mem_singleton.mp hlast
      have hfixed := Commit.fixedText_of_mayContinue (h.mayContinue hc earlier hearlier) hgives
      rcases h.gives_after_fixedText hc ⟨earlier, hearlier, hfixed⟩ hgivesLast with hrule | hrule
      · exact hbuffers ⟨⟨_, List.mem_append_right _ hlast, hrule⟩, earlier,
          List.mem_append_left _ hearlier, hfixed⟩
      · exact honce earlier hearlier _ hlast ⟨hfixed, hrule⟩

theorem gives_of_exit (h : Reached settings s commits w) {line : Line}
    (hline : line ∈ w.draft.body) (hexit : line.content.isExit = true) :
    ∃ c ∈ commits, c.givesValue = true := by
  obtain ⟨front, hbody, -, hfront⟩ := h.exists_front
  rw [hbody] at hline
  rcases List.mem_append.mp hline with hline | hline
  · rw [(hfront line hline).1] at hexit
    cases hexit
  · obtain ⟨st, hst, hcontent⟩ := Line.content_of_mem_outermost hline
    obtain ⟨c, hc, hst⟩ := List.mem_flatMap.mp hst
    cases hgives : c.givesValue with
    | true => exact ⟨c, List.mem_reverse.mp hc, hgives⟩
    | false =>
      rw [hcontent, Commit.check_of_mem_results hgives hst] at hexit
      cases hexit

theorem results_eq (h : Reached settings s commits w)
    (honce : commits.Pairwise fun a b => ¬ (a.givesValue = true ∧ b.givesValue = true))
    (hc : c ∈ commits) (hgives : c.givesValue = true) :
    ∃ checks result, c.results settings = [.giveBack result] ∧
      commits.reverse.flatMap (Commit.results settings) = checks ++ [.giveBack result] ∧
      ∀ st ∈ checks, LineContent.isExit (.statement st) = false := by
  obtain ⟨result, hresult⟩ : ∃ result, c.results settings = [.giveBack result] :=
    Commit.results_of_givesValue hgives
  obtain ⟨earlier, later, rfl⟩ := List.append_of_mem hc
  obtain ⟨-, hlater, hearlier⟩ := List.pairwise_append.mp honce
  obtain ⟨-, -, hcontinue⟩ := List.pairwise_append.mp h.pairwise_mayContinue
  -- The rules before can be followed by others, so their only results are values given back.
  have hnothing : earlier.reverse.flatMap (Commit.results settings) = [] := by
    rw [List.flatMap_eq_nil_iff]
    intro c' hc'
    have hc' := List.mem_reverse.mp hc'
    have hno : c'.givesValue = false := Bool.eq_false_iff.mpr fun hgives' =>
      hearlier c' hc' c List.mem_cons_self ⟨hgives', hgives⟩
    rw [Commit.results_of_mayContinue (hcontinue c' hc' c List.mem_cons_self), hno]
    rfl
  refine ⟨later.reverse.flatMap (Commit.results settings), result, hresult, ?_, ?_⟩
  · simp only [List.reverse_append, List.reverse_cons, List.flatMap_append, hnothing,
      List.append_nil, List.flatMap_cons, hresult, List.flatMap_nil]
  · intro st hst
    obtain ⟨c', hc', hst⟩ := List.mem_flatMap.mp hst
    have hno : c'.givesValue = false := Bool.eq_false_iff.mpr fun hgives' =>
      (List.pairwise_cons.mp hlater).1 c' (List.mem_reverse.mp hc') ⟨hgives, hgives'⟩
    obtain rfl := Commit.check_of_mem_results hno hst
    rfl

theorem exists_exit (h : Reached settings s commits w)
    (honce : commits.Pairwise fun a b => ¬ (a.givesValue = true ∧ b.givesValue = true))
    (hc : c ∈ commits) (hgives : c.givesValue = true) :
    ∃ front result, c.results settings = [.giveBack result] ∧
      w.draft.body = front ++ [⟨0, .statement (.giveBack result)⟩] ∧
      ∀ line ∈ front, line.content.isExit = false := by
  obtain ⟨front, hbody, -, hfront⟩ := h.exists_front
  obtain ⟨checks, result, hresult, hresults, hchecks⟩ := h.results_eq honce hc hgives
  refine ⟨front ++ Line.outermost checks, result, hresult, ?_, ?_⟩
  · rw [hbody, hresults, Line.outermost, List.map_append, ← List.append_assoc]
    rfl
  · intro line hline
    rcases List.mem_append.mp hline with hline | hline
    · exact (hfront line hline).1
    · obtain ⟨st, hst, hcontent⟩ := Line.content_of_mem_outermost hline
      rw [hcontent]
      exact hchecks st hst

theorem commit_of_read (h : Reached settings s commits w) {line : Line}
    (hline : line ∈ w.draft.body) {target holder : String} {length : Option String}
    (hread : line.content = .statement (.readBuffer target holder length)) :
    ∃ c ∈ commits, c.givesValue = true ∧ c.results settings = [.giveBack (.var target)] := by
  have hwrites := h.writes_of_mem hline
  rw [hread] at hwrites
  rcases hwrites with hcall | hopen | hclose | ⟨c, hc, hwrites⟩
  · cases hcall
  · cases hopen
  · cases hclose
  · cases hwrites with
    | declaration hst =>
      obtain ⟨type, name, heq⟩ := Commit.declare_of_mem_declarations hst
      cases heq
    | header hscope hst =>
      have hno := Commit.header_not_read hscope
      rw [← hst] at hno
      cases hno
    | inner hscope hline' hcontent =>
      obtain ⟨hgives, hresults⟩ := Commit.readBuffer_of_mem hscope hline' hcontent
      exact ⟨c, hc, hgives, hresults settings⟩
    | result hst => exact absurd hst Commit.read_not_mem_results

theorem reads_le_one (h : Reached settings s commits w)
    (honce : commits.Pairwise fun a b => ¬ (a.givesValue = true ∧ b.givesValue = true)) :
    w.draft.body.countP (·.content.isRead) ≤ 1 := by
  have hdeclarations :
      (Line.outermost (commits.flatMap Commit.declarations)).countP (·.content.isRead) = 0 := by
    rw [List.countP_eq_zero]
    intro line hline
    obtain ⟨st, hst, hcontent⟩ := Line.content_of_mem_outermost hline
    obtain ⟨c, -, hst⟩ := List.mem_flatMap.mp hst
    obtain ⟨type, name, rfl⟩ := Commit.declare_of_mem_declarations hst
    rw [hcontent]
    nofun
  have hresults : (Line.outermost (commits.reverse.flatMap (Commit.results settings))).countP
      (·.content.isRead) = 0 := by
    rw [List.countP_eq_zero]
    intro line hline
    obtain ⟨st, hst, hcontent⟩ := Line.content_of_mem_outermost hline
    obtain ⟨c, -, hst⟩ := List.mem_flatMap.mp hst
    rw [hcontent]
    cases st with
    | readBuffer => exact absurd hst Commit.read_not_mem_results
    | _ => nofun
  have hheader : ∀ scope ∈ Commit.scopes commits,
      LineContent.isRead (.statement scope.header) = false := by
    intro scope hscope
    obtain ⟨c, -, hscope⟩ := List.mem_filterMap.mp hscope
    exact Commit.header_not_read hscope
  rw [h.body_eq, List.countP_append, List.countP_append, hdeclarations, hresults,
    Scope.countP_wrap hheader rfl rfl]
  simpa [LineContent.isRead] using Commit.reads_le_one honce

theorem exits_twice (h : Reached settings s commits w)
    (hnames : (s.parameters.map Parameter.name).Nodup)
    (hgrowable : ∃ c ∈ commits, c.rule = .inl .growableText)
    (hfixed : ∃ c ∈ commits, c.rule = .inl .fixedText) :
    settings.errorType = "int" ∧ s.returns = .named "int" ∧
      ∃ front, w.draft.body =
        front ++ List.replicate 2 ⟨0, .statement (.giveBack (.var Rule.textVariable))⟩ := by
  -- Only where status codes are plain integers can a growable buffer follow a fixed one, and then
  -- there are two exits.
  obtain ⟨front, hbody, -, -⟩ := h.exists_front
  obtain ⟨earlier, before, buffer, size, length, hbefore, hchosen, hfirst, rfl, rfl⟩ :=
    h.growableText_last hgrowable
  obtain ⟨c, hc, hrule⟩ := hfixed
  have hc : c ∈ earlier := by
    rcases List.mem_append.mp hc with hc | hc
    · exact hc
    · rw [List.mem_singleton.mp hc] at hrule
      cases hrule
  obtain ⟨-, -, -, -, -, hleft, hint, -⟩ := hchosen.fits
  rw [hbefore.signature_eq] at hint
  have hignored := (hbefore.return_left hleft).2 (Commit.name_mem_iff.mpr ⟨c, hc, hrule⟩)
  -- The fixed buffer left an integer, which it does for a status code only.
  have hstatus : s.returns = .named settings.errorType := by
    refine Decidable.byContradiction fun hstatus => ?_
    obtain ⟨-, -, hscalar⟩ := Rule.ignoredReturn?_eq_none hignored hstatus
    rw [hint] at hscalar
    cases hscalar
  have hgives : c.givesValue = true := by
    rw [Commit.givesValue, hrule]
    rfl
  -- Up to the growable buffer, the fixed one is the only rule that gives back a value.
  have honce := hbefore.gives_once hnames fun hboth =>
    hboth.1.elim fun c hc => hfirst c hc.1 hc.2
  obtain ⟨checks, result, hresult, hresults, hchecks⟩ := hbefore.results_eq honce hc hgives
  have hcontinue := hbefore.mayContinue hchosen
  rw [Commit.results_of_mayContinue (hcontinue c hc), if_pos hgives] at hresult
  obtain rfl : checks = [] := by
    refine List.eq_nil_iff_forall_not_mem.mpr fun st hst => ?_
    have hmem : st ∈ earlier.reverse.flatMap (Commit.results settings) := by
      rw [hresults]
      exact List.mem_append_left _ hst
    have hno := hchecks st hst
    rw [Commit.giveBack_of_mayContinue hcontinue hmem] at hno
    cases hno
  rw [hstatus] at hint
  refine ⟨NativeType.named.inj hint, hstatus.trans hint, front, ?_⟩
  rw [hbody, List.reverse_append, List.flatMap_append, hresults, ← hresult]
  rfl

end Reached

section Text

def LeavesMethod (text : String) : Prop := "return ".toList <+: text.toList

def Settings.PlainNames (settings : Settings) : Prop :=
  ∀ name ∈ settings.nativeClass :: settings.errorCheck :: settings.enums.map Prod.snd,
    ' ' ∉ name.toList ∧ name ≠ "return"

instance : DecidablePred LeavesMethod := fun _ => inferInstanceAs (Decidable (_ <+: _))

instance : Decidable settings.PlainNames := inferInstanceAs (Decidable (∀ _ ∈ _, _))

theorem not_leavesMethod {text : String}
    (h : ¬ ("return ".toList <+: text.toList ∨ text.toList <+: "return ".toList)) (more : String) :
    ¬ LeavesMethod (text ++ more) := by
  intro hleaves
  rw [LeavesMethod, String.toList_append] at hleaves
  exact h (List.prefix_or_prefix_of_prefix hleaves (List.prefix_append _ _))

theorem not_leavesMethod_of_name {name : String} (hblank : ' ' ∉ name.toList)
    (hname : name ≠ "return") {mark : Char} (hmark : mark = ' ' ∨ mark ∉ "return ".toList)
    (more : List Char) : ¬ "return ".toList <+: name.toList ++ mark :: more := by
  rintro ⟨rest, hrest⟩
  -- Up to the first blank, one side is the word, and the other begins with the name.
  have hword := congrArg (List.takeWhile (· != ' ')) hrest
  have hchars : ∀ c ∈ name.toList, (c != ' ') = true := by
    intro c hc
    rw [bne_iff_ne]
    rintro rfl
    exact hblank hc
  rw [List.takeWhile_append_of_pos hchars] at hword
  have hreturn : ("return ".toList ++ rest).takeWhile (· != ' ') = "return".toList := rfl
  rw [hreturn] at hword
  rcases hmark with rfl | hmark
  · rw [List.takeWhile_cons_of_neg (by decide), List.append_nil] at hword
    exact hname (String.toList_inj.mp hword.symm)
  · have hpos : (mark != ' ') = true := by
      rw [bne_iff_ne]
      rintro rfl
      exact hmark (by decide)
    simp only [List.takeWhile_cons, hpos, if_true] at hword
    refine hmark (List.mem_append_left [' '] (?_ : mark ∈ "return".toList))
    rw [hword]
    exact List.mem_append_right _ List.mem_cons_self

theorem Statement.leavesMethod_of_isExit {st : Statement}
    (h : LineContent.isExit (.statement st) = true) : LeavesMethod st.text := by
  cases st with
  | giveBack result =>
    simp only [text, LeavesMethod, String.append_assoc, String.toList_append]
    exact List.prefix_append _ _
  | _ => cases h

theorem check_stays (hplain : settings.PlainNames) :
    ¬ LeavesMethod (Statement.check settings.errorCheck "ret_status").text := by
  obtain ⟨hblank, hword⟩ := hplain settings.errorCheck (List.mem_cons_of_mem _ List.mem_cons_self)
  simp only [LeavesMethod, Statement.text, String.append_assoc, String.toList_append]
  exact not_leavesMethod_of_name hblank hword (.inr (by decide)) _

theorem Settings.PlainNames.scalar {t : NativeType} {type : ManagedType}
    (hplain : settings.PlainNames) (h : settings.scalar? t = some type) :
    ' ' ∉ type.name.toList ∧ type.name ≠ "return" := by
  rcases Settings.scalar?_cases h with ⟨primitive, rfl⟩ | ⟨e, he, rfl⟩
  · cases primitive <;> decide
  · refine hplain e.2 (List.mem_cons_of_mem _ (List.mem_cons_of_mem _ ?_))
    exact List.mem_map_of_mem he

namespace Commit

variable {p : Progress} {st : Statement} {scope : Scope}

theorem Chosen.declaration_stays (h : c.Chosen settings p) (hplain : settings.PlainNames)
    (hst : st ∈ c.declarations) : ¬ LeavesMethod st.text := by
  have hscalar : ∀ {type : ManagedType} {name : String},
      settings.scalar? p.signature.returns = some type →
      ¬ LeavesMethod (Statement.declare type.name name).text := by
    intro type name htype
    obtain ⟨hblank, hword⟩ := hplain.scalar htype
    simp only [LeavesMethod, Statement.text, String.append_assoc, String.toList_append]
    exact not_leavesMethod_of_name hblank hword (.inl rfl) _
  have hfits := h.fits
  cases c with
  | growableText | fixedText | returnHandle | returnText =>
    simp only [declarations, List.mem_cons, List.not_mem_nil, or_false] at hst
    rcases hst with rfl | rfl <;> decide
  | returnStatus type =>
    rw [List.mem_singleton.mp hst]
    exact hscalar hfits.1
  | returnScalar type =>
    rw [List.mem_singleton.mp hst]
    exact hscalar hfits
  | _ => cases hst

theorem header_stays (h : c.scope? = some scope) : ¬ LeavesMethod scope.header.text := by
  cases c with
  | growableText | fixedText =>
    cases h
    dsimp only [Statement.text]
    unfold Marshalling.openBuffer
    simp only [String.append_assoc]
    exact not_leavesMethod (by decide) _
  | text =>
    cases h
    dsimp only [Statement.text]
    unfold Marshalling.openText
    simp only [String.append_assoc]
    exact not_leavesMethod (by decide) _
  | _ => cases h

theorem inner_stays (h : c.scope? = some scope) {line : Line} (hline : line ∈ scope.inner)
    (hst : line.content = .statement st) : ¬ LeavesMethod st.text := by
  cases c with
  | growableText | fixedText =>
    cases h
    simp only [growthLines, List.mem_cons, List.not_mem_nil, or_false] at hline
    rcases hline with rfl | rfl | rfl | rfl | rfl | rfl <;> cases hst <;>
      simp only [Statement.text, Marshalling.capacity, Marshalling.growBuffer,
        Marshalling.outputLocal, Marshalling.bufferText, Rule.textVariable, String.append_assoc] <;>
      first
      | decide
      | exact not_leavesMethod (by decide) _
  | text =>
    cases h
    cases hline
  | _ => cases h

end Commit

namespace Reached

theorem nativeClass_eq (h : Reached settings s commits w) :
    w.draft.nativeClass = settings.nativeClass := by
  induction h with
  | start => rfl
  | step _ _ ih => exact ih

theorem callText_stays (h : Reached settings s commits w) (hplain : settings.PlainNames) :
    ¬ LeavesMethod w.draft.callText := by
  rw [Draft.callText]
  cases hv : w.draft.returnVariable with
  | none =>
    obtain ⟨hblank, hword⟩ := hplain settings.nativeClass List.mem_cons_self
    simp only [LeavesMethod, h.nativeClass_eq, String.append_assoc, String.toList_append]
    exact not_leavesMethod_of_name hblank hword (.inr (by decide)) _
  | some v =>
    obtain ⟨c, -, hreturn⟩ := h.exists_nativeReturn hv
    cases c with
    | growableText | returnStatus | returnScalar | returnHandle | returnText =>
      obtain ⟨-, htarget⟩ := Prod.mk.inj (Option.some.inj hreturn)
      cases htarget
      exact not_leavesMethod (by decide) _
    | fixedText buffer size ignored =>
      obtain ⟨type, -, htarget⟩ := Option.map_eq_some_iff.mp hreturn
      cases htarget
    | _ => cases hreturn

theorem leavesMethod_iff (h : Reached settings s commits w) (hplain : settings.PlainNames)
    {line : Line} (hline : line ∈ w.draft.body) :
    LeavesMethod (w.draft.lineText line) ↔ line.content.isExit = true := by
  have hstays : ∀ {st : Statement}, line.content = .statement st → ¬ LeavesMethod st.text →
      (LeavesMethod (w.draft.lineText line) ↔ line.content.isExit = true) := by
    intro st hcontent hst
    rw [Draft.lineText, hcontent]
    exact iff_of_false hst fun hexit => hst (Statement.leavesMethod_of_isExit hexit)
  have hcalls : line.content = .nativeCall →
      (LeavesMethod (w.draft.lineText line) ↔ line.content.isExit = true) := by
    intro hcontent
    rw [Draft.lineText, hcontent]
    exact iff_of_false (h.callText_stays hplain) Bool.false_ne_true
  rcases h.writes_of_mem hline with hcall | hopen | hclose | ⟨c, hc, hwrites⟩
  · exact hcalls hcall
  · exact hstays hopen (by decide)
  · exact hstays hclose (by decide)
  cases hcontent : line.content with
  | nativeCall =>
    rw [← hcontent]
    exact hcalls hcontent
  | statement st =>
    rw [hcontent] at hwrites
    rw [← hcontent]
    cases hwrites with
    | declaration hst =>
      obtain ⟨p, -, hchosen⟩ := h.exists_chosen hc
      exact hstays hcontent (hchosen.declaration_stays hplain hst)
    | header hscope hst =>
      rw [hst] at hcontent
      exact hstays hcontent (Commit.header_stays hscope)
    | inner hscope hline' heq => exact hstays hcontent (Commit.inner_stays hscope hline' heq)
    | result hst =>
      cases hgives : c.givesValue with
      | true =>
        obtain ⟨result, hresult⟩ : ∃ result, c.results settings = [.giveBack result] :=
          Commit.results_of_givesValue hgives
        rw [hresult] at hst
        rw [Draft.lineText, hcontent, List.mem_singleton.mp hst]
        exact iff_of_true (Statement.leavesMethod_of_isExit rfl) rfl
      | false =>
        obtain rfl := Commit.check_of_mem_results hgives hst
        exact hstays hcontent (check_stays hplain)

end Reached

end Text

namespace Commit

theorem return_name_mem_iff {r : ReturnRule} :
    r.name ∈ commits.map name ↔ ∃ c ∈ commits, c.rule = .inr r := by
  have hname : ∀ c : Commit, c.name = r.name ↔ c.rule = .inr r := by
    intro c
    cases c <;> cases r <;> simp [name, rule, ParameterRule.name, ReturnRule.name]
  simp only [List.mem_map, hname]

end Commit

/-- A proposal for the signature sets the type that the wrapper returns. -/
def SetsReturn (settings : Settings) (s : Signature)
    (propose : Settings → Progress → Option (List Action)) : Prop :=
  ∃ p actions type, p.signature = s ∧ propose settings p = some actions ∧
    .edit (.managedReturn type) ∈ actions

theorem Reached.exists_givesValue_iff (h : Reached settings s commits w) :
    (∃ c ∈ commits, c.givesValue = true) ↔
      (∃ r : ParameterRule, r.name ∈ commits.map Commit.name ∧ SetsReturn settings s r.propose) ∨
        ∃ r : ReturnRule, r.name ∈ commits.map Commit.name ∧ SetsReturn settings s r.propose := by
  simp only [Commit.name_mem_iff, Commit.return_name_mem_iff]
  constructor
  · rintro ⟨c, hc, hgives⟩
    obtain ⟨p, hp, hchosen⟩ := h.exists_chosen hc
    rw [Commit.givesValue] at hgives
    cases hr : c.rule with
    | inl r =>
      obtain ⟨actions, hactions⟩ :=
        Option.ne_none_iff_exists'.mp (Commit.propose_ne_none hr hchosen.fits)
      rw [hr] at hgives
      obtain ⟨type, htype⟩ := (ParameterRule.managedReturn_mem_iff hactions).mpr hgives
      exact .inl ⟨r, ⟨c, hc, hr⟩, p, actions, type, hp, hactions, htype⟩
    | inr r =>
      obtain ⟨actions, hactions⟩ :=
        Option.ne_none_iff_exists'.mp (Commit.return_propose_ne_none hr hchosen.fits)
      rw [hr] at hgives
      obtain ⟨type, htype⟩ := (ReturnRule.managedReturn_mem_iff hactions).mpr hgives
      exact .inr ⟨r, ⟨c, hc, hr⟩, p, actions, type, hp, hactions, htype⟩
  · rintro (⟨r, ⟨c, hc, hr⟩, p, actions, type, -, hactions, htype⟩ |
      ⟨r, ⟨c, hc, hr⟩, p, actions, type, -, hactions, htype⟩)
    · have hgives := (ParameterRule.managedReturn_mem_iff hactions).mp ⟨type, htype⟩
      exact ⟨c, hc, by rwa [Commit.givesValue, hr]⟩
    · have hgives := (ReturnRule.managedReturn_mem_iff hactions).mp ⟨type, htype⟩
      exact ⟨c, hc, by rwa [Commit.givesValue, hr]⟩

/-- A body leaves the method once at most, in its last line, and where some rule that was carried out
sets the type that the wrapper returns.
The last line gives back the text that was read, if one was. Only where status codes are plain
integers can both kinds of buffer be bound, and then there are two exits. -/
theorem single_exit {d : Draft} (h : bindFunction settings s = .ok d)
    (hnames : (s.parameters.map Parameter.name).Nodup) :
    (settings.PlainNames → ∀ line ∈ d.body,
      LeavesMethod (d.lineText line) ↔ line.content.isExit = true) ∧
    (¬ (ParameterRule.growableText.name ∈ committedRules settings s ∧
        ParameterRule.fixedText.name ∈ committedRules settings s) →
      (∀ before line after, d.body = before ++ line :: after → line.content.isExit = true →
        after = [] ∧ ∀ line' ∈ before, line'.content.isExit = false) ∧
      ((∃ line ∈ d.body, line.content.isExit = true) ↔
        (∃ r : ParameterRule, r.name ∈ committedRules settings s ∧
            SetsReturn settings s r.propose) ∨
          ∃ r : ReturnRule, r.name ∈ committedRules settings s ∧
            SetsReturn settings s r.propose) ∧
      d.body.countP (·.content.isRead) ≤ 1 ∧
      ∀ line ∈ d.body, ∀ target holder length,
        line.content = .statement (.readBuffer target holder length) →
        ∃ front, d.body = front ++ [⟨0, .statement (.giveBack (.var target))⟩]) ∧
    (ParameterRule.growableText.name ∈ committedRules settings s →
      ParameterRule.fixedText.name ∈ committedRules settings s →
      settings.errorType = "int" ∧ s.returns = .named "int" ∧
        ∃ front, d.body =
          front ++ List.replicate 2 ⟨0, .statement (.giveBack (.var Rule.textVariable))⟩) := by
  obtain ⟨commits, w, hw, rfl, -, htaken, hcommitted⟩ := Reached.of_bindFunction h
  rw [hcommitted, ← hw.exists_givesValue_iff]
  simp only [Commit.name_mem_iff]
  refine ⟨fun hplain line hline => hw.leavesMethod_iff hplain hline, fun hbuffers => ?_,
    hw.exits_twice hnames⟩
  have honce := hw.gives_once hnames hbuffers
  refine ⟨?_, ?_, hw.reads_le_one honce, ?_⟩
  · intro before line after hbody hexit
    have hline : line ∈ w.draft.body := by
      rw [hbody]
      exact List.mem_append_right _ List.mem_cons_self
    obtain ⟨c, hc, hgives⟩ := hw.gives_of_exit hline hexit
    obtain ⟨front, result, -, hfront, hno⟩ := hw.exists_exit honce hc hgives
    rw [hfront] at hbody
    rcases List.eq_nil_or_concat after with rfl | ⟨middle, last, rfl⟩
    · obtain ⟨rfl, -⟩ := List.append_inj' hbody rfl
      exact ⟨rfl, hno⟩
    · rw [List.concat_eq_append, ← List.cons_append, ← List.append_assoc] at hbody
      obtain ⟨rfl, -⟩ := List.append_inj' hbody rfl
      rw [hno line (List.mem_append_right _ List.mem_cons_self)] at hexit
      cases hexit
  · constructor
    · rintro ⟨line, hline, hexit⟩
      exact hw.gives_of_exit hline hexit
    · rintro ⟨c, hc, hgives⟩
      obtain ⟨front, result, -, hbody, -⟩ := hw.exists_exit honce hc hgives
      rw [hbody]
      exact ⟨_, List.mem_append_right _ List.mem_cons_self, rfl⟩
  · intro line hline target holder length hread
    obtain ⟨c, hc, hgives, hresults⟩ := hw.commit_of_read hline hread
    obtain ⟨front, result, hresult, hbody, -⟩ := hw.exists_exit honce hc hgives
    rw [hresults] at hresult
    cases hresult
    exact ⟨front, hbody⟩

theorem single_exit_userName :
    ∃ d, bindFunction { enums := [("sp_error", "SpotifyError")] } userNameSignature = .ok d ∧
      (∃ line ∈ d.body, LeavesMethod (d.lineText line)) ∧
      (∀ before line after, d.body = before ++ line :: after → LeavesMethod (d.lineText line) →
        after = []) ∧
      d.body.countP (·.content.isRead) ≤ 1 := by
  obtain ⟨d, hd⟩ :
      ∃ d, bindFunction { enums := [("sp_error", "SpotifyError")] } userNameSignature = .ok d :=
    exists_draft (by decide +kernel)
  obtain ⟨htext, hone, -⟩ := single_exit hd (by decide)
  have htext := htext (by decide +kernel)
  obtain ⟨hlast, hexists, hreads, -⟩ := hone (by decide +kernel)
  have hsets : SetsReturn { enums := [("sp_error", "SpotifyError")] } userNameSignature
      ParameterRule.fixedText.propose :=
    ⟨{ signature := userNameSignature, index := 1 }, _, .string, rfl, rfl, by decide⟩
  obtain ⟨line, hline, hexit⟩ := hexists.mpr (.inl ⟨.fixedText, by decide +kernel, hsets⟩)
  refine ⟨d, hd, ⟨line, hline, (htext line hline).mpr hexit⟩, ?_, hreads⟩
  intro before line after hbody hleaves
  have hline : line ∈ d.body := by
    rw [hbody]
    exact List.mem_append_right _ List.mem_cons_self
  exact (hlast before line after hbody ((htext line hline).mp hleaves)).1

def namesSignature : Signature where
  nativeName := "sp_names"
  managedName := "Names"
  parameters :=
    [⟨"buffer", .pointer (.named "char")⟩, ⟨"buffer_size", .named "int"⟩,
      ⟨"title", .pointer (.named "char")⟩, ⟨"title_size", .named "int"⟩]
  returns := .named "int"

theorem two_exits_names :
    ∃ d, bindFunction { errorType := "int" } namesSignature = .ok d ∧
      (namesSignature.parameters.map Parameter.name).Nodup ∧
      (d.body.map d.lineText).count "return managed_string;" = 2 ∧
      d.body.countP (·.content.isRead) = 2 := by
  obtain ⟨d, hd⟩ : ∃ d, bindFunction { errorType := "int" } namesSignature = .ok d :=
    exists_draft (by decide +kernel)
  have hbody : (bindFunction { errorType := "int" } namesSignature).toOption.map (fun d =>
      ((d.body.map d.lineText).count "return managed_string;",
        d.body.countP (·.content.isRead))) = some (2, 2) := by
    decide +kernel
  rw [hd] at hbody
  obtain ⟨hexits, hreads⟩ := Prod.mk.inj (Option.some.inj hbody)
  exact ⟨d, hd, by decide, hexits, hreads⟩

end NativeBindings
