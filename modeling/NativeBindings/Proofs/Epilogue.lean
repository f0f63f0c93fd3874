import NativeBindings.Draft.Fragments
import NativeBindings.Proofs.NativeDeclaration
import NativeBindings.Proofs.RunOrder

namespace NativeBindings

namespace LineContent

def isExit : LineContent → Bool
  | .statement (.giveBack _) => true
  | _ => false

def isCheck : LineContent → Bool
  | .statement (.check _ _) => true
  | _ => false

def isRead : LineContent → Bool
  | .statement (.readBuffer _ _ _) => true
  | _ => false

theorem exists_of_isRead {content : LineContent} (h : content.isRead = true) :
    ∃ target holder length, content = .statement (.readBuffer target holder length) := by
  unfold isRead at h
  split at h
  · exact ⟨_, _, _, rfl⟩
  · cases h

end LineContent

def ParameterRule.givesValue : ParameterRule → Bool
  | growableText | fixedText => true
  | _ => false

def ReturnRule.givesValue : ReturnRule → Bool
  | scalar | handle | text => true
  | _ => false

def Commit.givesValue (c : Commit) : Bool :=
  c.rule.elim ParameterRule.givesValue ReturnRule.givesValue

variable {settings : Settings} {s : Signature} {commits : List Commit} {w : Work} {c : Commit}

section Proposals

variable {p : Progress} {actions : List Action}

theorem ParameterRule.managedReturn_mem_iff {r : ParameterRule}
    (h : r.propose settings p = some actions) :
    (∃ type, .edit (.managedReturn type) ∈ actions) ↔ r.givesValue = true := by
  cases r with
  | scalar | handle =>
    simp only [propose, Rule.passScalar, Rule.passHandle, bind, pure, Option.bind_eq_some_iff,
      Option.some.injEq] at h
    obtain ⟨q, -, type, -, rfl⟩ := h
    simp [givesValue]
  | reference =>
    simp only [propose, Rule.passReference, bind, pure, Option.bind_eq_some_iff,
      Option.some.injEq] at h
    obtain ⟨q, -, base, -, type, -, rfl⟩ := h
    simp [givesValue]
  | receiver =>
    simp only [propose, Rule.passReceiver, bind, pure, Option.bind_eq_some_iff] at h
    obtain ⟨name, -, q, -, h⟩ := h
    split at h <;> cases h
    simp [givesValue]
  | growableText =>
    simp only [propose, Rule.growableText, bind, pure, Option.bind_eq_some_iff] at h
    obtain ⟨buffer, -, size, -, h⟩ := h
    split at h
    case isFalse => cases h
    case isTrue =>
    obtain ⟨length, -, h⟩ := Option.bind_eq_some_iff.mp h
    cases h
    simp [givesValue]
  | fixedText =>
    simp only [propose, Rule.fixedText, bind, pure, Option.bind_eq_some_iff] at h
    obtain ⟨buffer, -, size, -, h⟩ := h
    split at h <;> cases h
    simp [givesValue]
  | text =>
    simp only [propose, Rule.passText, bind, pure, Option.bind_eq_some_iff] at h
    obtain ⟨q, -, h⟩ := h
    split at h <;> cases h
    simp [givesValue]

theorem ReturnRule.managedReturn_mem_iff {r : ReturnRule}
    (h : r.propose settings p = some actions) :
    (∃ type, .edit (.managedReturn type) ∈ actions) ↔ r.givesValue = true := by
  cases r with
  | scalar | handle =>
    simp only [propose, Rule.returnScalar, Rule.returnHandle, bind, pure,
      Option.bind_eq_some_iff, Option.some.injEq] at h
    obtain ⟨type, -, rfl⟩ := h
    simp [givesValue]
  | status =>
    simp only [propose, Rule.returnStatus, bind, pure, Option.bind_eq_some_iff] at h
    obtain ⟨type, -, h⟩ := h
    split at h <;> cases h
    simp [givesValue]
  | nothing | text =>
    simp only [propose, Rule.returnNothing, Rule.returnText] at h
    split at h <;> cases h
    simp [givesValue]

end Proposals

namespace Scope

variable {depth : Nat} {scopes : List Scope} {inner : List Line} {line : Line}

theorem mem_wrap (h : line ∈ inner) : line ∈ wrap depth scopes inner := by
  induction scopes generalizing depth with
  | nil => exact h
  | cons scope scopes ih => exact List.mem_append_left _ (List.mem_append_right _ ih)

theorem content_of_mem_wrap (h : line ∈ wrap depth scopes inner) :
    line ∈ inner ∨ ∃ scope ∈ scopes, line.content = .statement scope.header ∨
      line.content = .statement .openBlock ∨ line.content = .statement .closeBlock ∨
      ∃ line' ∈ scope.inner, line.content = line'.content := by
  induction scopes generalizing depth with
  | nil => exact .inl h
  | cons scope scopes ih =>
    simp only [wrap, opening, closing, List.mem_append, List.mem_cons, List.not_mem_nil,
      or_false, List.mem_map] at h
    rcases h with ((rfl | rfl) | hinner) | ⟨line', hline', rfl⟩ | rfl
    · exact .inr ⟨scope, List.mem_cons_self, .inl rfl⟩
    · exact .inr ⟨scope, List.mem_cons_self, .inr (.inl rfl)⟩
    · rcases ih hinner with hinner | ⟨scope', hscope', hcontent⟩
      · exact .inl hinner
      · exact .inr ⟨scope', List.mem_cons_of_mem scope hscope', hcontent⟩
    · exact .inr ⟨scope, List.mem_cons_self, .inr (.inr (.inr ⟨line', hline', rfl⟩))⟩
    · exact .inr ⟨scope, List.mem_cons_self, .inr (.inr (.inl rfl))⟩

theorem countP_wrap {p : LineContent → Bool}
    (hheader : ∀ scope ∈ scopes, p (.statement scope.header) = false)
    (hopen : p (.statement .openBlock) = false) (hclose : p (.statement .closeBlock) = false) :
    (wrap depth scopes inner).countP (p ·.content) =
      inner.countP (p ·.content) + (scopes.flatMap Scope.inner).countP (p ·.content) := by
  induction scopes generalizing depth with
  | nil => rfl
  | cons scope scopes ih =>
    have hscope := hheader scope List.mem_cons_self
    have hrest : (wrap (depth + 1) scopes inner).countP (p ·.content) = _ :=
      ih fun scope' h => hheader scope' (List.mem_cons_of_mem scope h)
    have hdeepen : (p ·.content) ∘ Line.deepen (depth + 1) = (p ·.content) := rfl
    simp only [wrap, opening, closing, List.countP_append, List.countP_map, hrest, hdeepen,
      List.flatMap_cons]
    simp only [List.countP_cons, List.countP_nil, hscope, hopen, hclose, Bool.false_eq_true,
      if_false]
    omega

end Scope

theorem Line.content_of_mem_outermost {statements : List Statement} {line : Line}
    (h : line ∈ outermost statements) : ∃ st ∈ statements, line.content = .statement st := by
  obtain ⟨st, hst, rfl⟩ := List.mem_map.mp h
  exact ⟨st, hst, rfl⟩

namespace Commit

variable {st : Statement} {scope : Scope}

theorem declare_of_mem_declarations (h : st ∈ c.declarations) :
    ∃ type name, st = .declare type name := by
  cases c with
  | growableText =>
    rcases List.mem_cons.mp h with rfl | h
    · exact ⟨_, _, rfl⟩
    · exact ⟨_, _, List.mem_singleton.mp h⟩
  | fixedText | returnStatus | returnScalar | returnHandle | returnText =>
    exact ⟨_, _, List.mem_singleton.mp h⟩
  | _ => cases h

theorem scope_no_result (h : c.scope? = some scope) :
    (LineContent.isExit (.statement scope.header) = false ∧
      LineContent.isCheck (.statement scope.header) = false) ∧
    ∀ line ∈ scope.inner, line.content.isExit = false ∧ line.content.isCheck = false := by
  cases c with
  | growableText | fixedText | text =>
    cases h
    exact ⟨⟨rfl, rfl⟩, by simp [growthLines, LineContent.isExit, LineContent.isCheck]⟩
  | _ => cases h

theorem results_of_givesValue (h : c.givesValue = true) :
    ∃ result, c.results settings = [.giveBack result] := by
  cases c with
  | growableText | fixedText | returnScalar | returnHandle | returnText => exact ⟨_, rfl⟩
  | _ => cases h

theorem check_of_mem_results (h : c.givesValue = false) (hst : st ∈ c.results settings) :
    st = .check settings.errorCheck "ret_status" := by
  cases c with
  | returnStatus => exact List.mem_singleton.mp hst
  | growableText | fixedText | returnScalar | returnHandle | returnText => cases h
  | _ => cases hst

theorem results_of_mayContinue (h : c.mayContinue = true) :
    c.results settings = if c.givesValue then [.giveBack (.var Rule.textVariable)] else [] := by
  cases c with
  | scalar | receiver | handle | fixedText | text | reference => rfl
  | _ => cases h

theorem giveBack_of_mayContinue {earlier : List Commit} (h : ∀ c ∈ earlier, c.mayContinue = true)
    (hst : st ∈ earlier.reverse.flatMap (results settings)) :
    st = .giveBack (.var Rule.textVariable) := by
  obtain ⟨c, hc, hst⟩ := List.mem_flatMap.mp hst
  rw [results_of_mayContinue (h c (List.mem_reverse.mp hc))] at hst
  split at hst
  · exact List.mem_singleton.mp hst
  · cases hst

theorem fixedText_of_mayContinue (h : c.mayContinue = true) (hgives : c.givesValue = true) :
    c.rule = .inl .fixedText := by
  cases c with
  | fixedText => rfl
  | scalar | receiver | handle | text | reference => cases hgives
  | _ => cases h

theorem readBuffer_of_mem (h : c.scope? = some scope) {line : Line} (hline : line ∈ scope.inner)
    {target holder : String} {length : Option String}
    (hread : line.content = .statement (.readBuffer target holder length)) :
    c.givesValue = true ∧ ∀ settings, c.results settings = [.giveBack (.var target)] := by
  cases c with
  | growableText | fixedText =>
    cases h
    simp only [growthLines, List.mem_cons, List.not_mem_nil, or_false] at hline
    grind [results, givesValue, rule, ParameterRule.givesValue]
  | text =>
    cases h
    cases hline
  | _ => cases h

end Commit

namespace Reached

theorem exists_front (h : Reached settings s commits w) :
    ∃ front, w.draft.body =
        front ++ Line.outermost (commits.reverse.flatMap (Commit.results settings)) ∧
      (∃ line ∈ front, line.content = .nativeCall) ∧
      ∀ line ∈ front, line.content.isExit = false ∧ line.content.isCheck = false := by
  refine ⟨_, h.body_eq, ?_, ?_⟩
  · refine ⟨⟨(Commit.scopes commits).length, .nativeCall⟩, ?_, rfl⟩
    exact List.mem_append_right _ (Scope.mem_wrap List.mem_cons_self)
  · intro line hline
    rcases List.mem_append.mp hline with htop | hwrap
    · obtain ⟨st, hst, hcontent⟩ := Line.content_of_mem_outermost htop
      obtain ⟨c, -, hst⟩ := List.mem_flatMap.mp hst
      obtain ⟨type, name, rfl⟩ := Commit.declare_of_mem_declarations hst
      rw [hcontent]
      exact ⟨rfl, rfl⟩
    · rcases Scope.content_of_mem_wrap hwrap with hcall | ⟨scope, hscope, hcontent⟩
      · rw [List.mem_singleton.mp hcall]
        exact ⟨rfl, rfl⟩
      · obtain ⟨c, -, hc⟩ := List.mem_filterMap.mp hscope
        obtain ⟨hheader, hinner⟩ := Commit.scope_no_result hc
        rcases hcontent with hcontent | hcontent | hcontent | ⟨line', hline', hcontent⟩ <;>
          rw [hcontent]
        · exact hheader
        · exact ⟨rfl, rfl⟩
        · exact ⟨rfl, rfl⟩
        · exact hinner line' hline'

section Status

variable {type : ManagedType}

theorem ignoredReturn?_status (hstatus : s.returns = .named settings.errorType) :
    Rule.ignoredReturn? settings s.returns = none := by
  rw [Rule.ignoredReturn?, if_pos (Settings.isStatusCode_iff.mpr hstatus)]

theorem eq_concat_returnStatus (h : Reached settings s commits w)
    (htaken : w.progress.returnTaken = true)
    (hgrowable : ∀ c ∈ commits, c.rule ≠ .inl .growableText)
    (hstatus : s.returns = .named settings.errorType)
    (htype : settings.scalar? s.returns = some type) :
    ∃ earlier, commits = earlier ++ [.returnStatus type] ∧
      ∀ c ∈ earlier, c.mayContinue = true := by
  rw [h.returnTaken_eq, List.any_eq_true] at htaken
  obtain ⟨c, hc, htakes⟩ := htaken
  obtain ⟨p, rfl, hchosen⟩ := h.exists_chosen hc
  have hfits := hchosen.fits
  cases c with
  | growableText => exact absurd rfl (hgrowable _ hc)
  | fixedText buffer size ignored =>
    obtain ⟨-, -, -, -, -, -, hignored⟩ := hfits
    rw [ignoredReturn?_status hstatus, ite_self] at hignored
    rw [hignored] at htakes
    cases htakes
  | scalar | receiver | handle | text | reference => cases htakes
  | returnStatus type' =>
    obtain rfl : type' = type := Option.some.inj (hfits.1.symm.trans htype)
    exact h.eq_concat hc rfl
  | returnScalar | returnNothing =>
    exact absurd ⟨htype, hstatus⟩
      (hchosen.return_not_fits (.returnStatus type) rfl rfl (by decide))
  | returnHandle className =>
    obtain ⟨name, hname, -⟩ :=
      Settings.handleClass?_isSome_iff.mp (Option.isSome_of_eq_some hfits)
    rw [hname] at hstatus
    cases hstatus
  | returnText =>
    rw [show p.signature.returns = _ from hfits] at hstatus
    cases hstatus

end Status

theorem no_check (h : Reached settings s commits w)
    (hgrowable : ∃ c ∈ commits, c.rule = .inl .growableText) :
    ∀ line ∈ w.draft.body, line.content.isCheck = false := by
  obtain ⟨front, hbody, -, hfront⟩ := h.exists_front
  obtain ⟨earlier, before, buffer, size, length, hearlier, hchosen, -, rfl, -⟩ :=
    h.growableText_last hgrowable
  intro line hline
  rw [hbody] at hline
  rcases List.mem_append.mp hline with hline | hline
  · exact (hfront line hline).2
  · obtain ⟨st, hst, hcontent⟩ := Line.content_of_mem_outermost hline
    have hgives : st = .giveBack (.var Rule.textVariable) := by
      rw [List.reverse_append, List.flatMap_append] at hst
      rcases List.mem_append.mp hst with hst | hst
      · exact List.mem_singleton.mp hst
      · exact Commit.giveBack_of_mayContinue (hearlier.mayContinue hchosen) hst
    rw [hcontent, hgives]
    rfl

end Reached

/-- A status code is assigned by every call and checked once, after the calls and before the exit.
Only where status codes are plain integers can a growable buffer take one for a length, and then it
is not checked. -/
theorem status_checked {d : Draft} (h : bindFunction settings s = .ok d)
    (hstatus : s.returns = .named settings.errorType)
    (hscalar : (settings.scalar? s.returns).isSome = true) :
    (ParameterRule.growableText.name ∉ committedRules settings s →
      (∃ type, settings.scalar? s.returns = some type ∧
        ⟨0, .statement (.declare type.name "ret_status")⟩ ∈ d.top) ∧
      (∀ line ∈ d.body, line.content = .nativeCall →
        d.lineText line = "ret_status = " ++ (d.nativeClass ++ "." ++ d.nativeName ++ "(" ++
          ", ".intercalate (d.nativeParameters.map fun p => p.argument.text) ++ ");")) ∧
      ∃ before after,
        d.body = before ++ ⟨0, .statement (.check settings.errorCheck "ret_status")⟩ :: after ∧
        (∃ line ∈ before, line.content = .nativeCall) ∧
        (∀ line ∈ before, line.content.isCheck = false ∧ line.content.isExit = false) ∧
        ∀ line ∈ after, line.content.isExit = true) ∧
    (ParameterRule.growableText.name ∈ committedRules settings s →
      settings.errorType = "int" ∧ d.returnVariable = some Rule.lengthVariable ∧
      ∀ line ∈ d.body, line.content.isCheck = false) := by
  obtain ⟨commits, w, hw, rfl, -, htaken, hnames⟩ := Reached.of_bindFunction h
  obtain ⟨type, htype⟩ := Option.isSome_iff_exists.mp hscalar
  rw [hnames, Commit.name_mem_iff]
  constructor
  · intro hgrowable
    obtain ⟨earlier, rfl, hearlier⟩ := hw.eq_concat_returnStatus htaken
      (fun c hc hrule => hgrowable ⟨c, hc, hrule⟩) hstatus htype
    have hlast : Commit.returnStatus type ∈ earlier ++ [.returnStatus type] :=
      List.mem_append_right _ List.mem_cons_self
    obtain ⟨-, hvariable⟩ := hw.nativeReturn_of_mem hlast rfl
    obtain ⟨front, hbody, hcall, hfront⟩ := hw.exists_front
    refine ⟨⟨type, htype, ?_⟩, ?_, front,
      Line.outermost (earlier.reverse.flatMap (Commit.results settings)), ?_, hcall, ?_, ?_⟩
    · rw [hw.top_eq]
      refine List.mem_map_of_mem (List.mem_flatMap.mpr ⟨_, hlast, ?_⟩)
      exact List.mem_cons_self
    · rintro ⟨depth, content⟩ - rfl
      have hjoin : "ret_status = " = "ret_status" ++ " = " := rfl
      rw [Draft.lineText, Draft.callText, hvariable, hjoin]
    · rw [hbody, List.reverse_append, List.flatMap_append]
      rfl
    · exact fun line hline => (hfront line hline).symm
    · intro line hline
      obtain ⟨st, hst, hcontent⟩ := Line.content_of_mem_outermost hline
      rw [hcontent, Commit.giveBack_of_mayContinue hearlier hst]
      rfl
  · intro hgrowable
    have hno := hw.no_check hgrowable
    obtain ⟨earlier, before, buffer, size, length, hbefore, hchosen, -, rfl, rfl⟩ :=
      hw.growableText_last hgrowable
    obtain ⟨-, -, -, -, -, -, hint, -⟩ := hchosen.fits
    rw [hbefore.signature_eq, hstatus] at hint
    exact ⟨NativeType.named.inj hint, rfl, hno⟩

def userNameSignature : Signature where
  nativeName := "sp_session_user_name"
  managedName := "UserName"
  parameters :=
    [⟨"session", .pointer (.named "sp_session")⟩, ⟨"buffer", .pointer (.named "char")⟩,
      ⟨"buffer_size", .named "int"⟩]
  returns := .named "sp_error"
  receiver := some "sp_session"

theorem status_checked_userName :
    ∃ d, bindFunction { enums := [("sp_error", "SpotifyError")] } userNameSignature = .ok d ∧
      ⟨0, .statement (.declare "SpotifyError" "ret_status")⟩ ∈ d.top ∧
      ∃ before after,
        d.body = before ++
          ⟨0, .statement (.check "SpotifyException.Check" "ret_status")⟩ :: after ∧
        (∃ line ∈ before, line.content = .nativeCall) ∧
        (∀ line ∈ before, line.content.isExit = false) ∧
        ∀ line ∈ after, line.content.isExit = true := by
  obtain ⟨d, hd⟩ :
      ∃ d, bindFunction { enums := [("sp_error", "SpotifyError")] } userNameSignature = .ok d :=
    exists_draft (by decide +kernel)
  obtain ⟨⟨type, htype, hdeclared⟩, -, before, after, hbody, hcall, hbefore, hafter⟩ :=
    (status_checked hd rfl (by decide)).1 (by decide +kernel)
  obtain rfl : ManagedType.ofName "SpotifyError" = type :=
    Option.some.inj ((show _ = _ by decide).trans htype)
  exact ⟨d, hd, hdeclared, before, after, hbody, hcall, fun line hline => (hbefore line hline).2,
    hafter⟩

def linkTextSignature : Signature where
  nativeName := "sp_link_as_string"
  managedName := "AsString"
  parameters := [⟨"buffer", .pointer (.named "char")⟩, ⟨"buffer_size", .named "int"⟩]
  returns := .named "int"

theorem status_unchecked_linkText :
    ∃ d, bindFunction { errorType := "int" } linkTextSignature = .ok d ∧
      linkTextSignature.returns = .named "int" ∧
      ⟨0, .statement (.declare "int" "ret_status")⟩ ∉ d.body ∧
      ∀ line ∈ d.body, line.content.isCheck = false := by
  obtain ⟨d, hd⟩ : ∃ d, bindFunction { errorType := "int" } linkTextSignature = .ok d :=
    exists_draft (by decide +kernel)
  have hbody : (bindFunction { errorType := "int" } linkTextSignature).toOption.map (fun d =>
      decide (⟨0, .statement (.declare "int" "ret_status")⟩ ∉ d.body) &&
        d.body.all (!·.content.isCheck)) = some true := by
    decide +kernel
  rw [hd] at hbody
  obtain ⟨hdeclared, hchecks⟩ := (Bool.and_eq_true _ _).mp (Option.some.inj hbody)
  refine ⟨d, hd, rfl, of_decide_eq_true hdeclared, fun line hline => ?_⟩
  exact (Bool.not_eq_true' _).mp (List.all_eq_true.mp hchecks line hline)

end NativeBindings
