import Mathlib.Data.List.Basic
import NativeBindings.Proofs.NativeDeclaration

namespace NativeBindings

namespace Settings

/-- Tables that give no native type two meanings. -/
structure Unambiguous (settings : Settings) : Prop where
  separate : ∀ name, settings.IsEnum name → ¬ settings.IsHandle name
  char_enum : ¬ settings.IsEnum "char"
  char_handle : ¬ settings.IsHandle "char"
  int_handle : ¬ settings.IsHandle "int"
  bool_handle : ¬ settings.IsHandle "bool"
  void_enum : ¬ settings.IsEnum "void"

end Settings

variable {settings : Settings} {w : Work} {p : Progress}

theorem not_sublist_swap {α : Type} {l : List α} {a b : α} (hl : l.Nodup) (hab : a ≠ b)
    (h : [a, b].Sublist l) : ¬ [b, a].Sublist l := by
  intro hswap
  induction l with
  | nil => cases h
  | cons c l ih =>
    obtain ⟨hc, hl⟩ := List.nodup_cons.mp hl
    rcases List.cons_sublist_cons'.mp h with htail | ⟨rfl, hb⟩
    · rcases List.cons_sublist_cons'.mp hswap with hswap | ⟨rfl, -⟩
      · exact ih hl htail hswap
      · exact hc (htail.mem (by simp))
    · rcases List.cons_sublist_cons'.mp hswap with hswap | ⟨heq, -⟩
      · exact hc (hswap.mem (by simp))
      · exact hab heq.symm

theorem find?_eq_of_perm {α : Type} [DecidableEq α] {l l' : List α} {q : α → Bool}
    (hl : l.Nodup) (hperm : l'.Perm l)
    (hkeeps : ∀ a b, q a = true → q b = true → [a, b].Sublist l → [a, b].Sublist l') :
    l'.find? q = l.find? q := by
  cases h : l.find? q with
  | none =>
    rw [List.find?_eq_none] at h ⊢
    exact fun a ha => h a (hperm.mem_iff.mp ha)
  | some a =>
    obtain ⟨ha, before, after, rfl, hbefore⟩ := List.find?_eq_some_iff_append.mp h
    cases h' : l'.find? q with
    | none =>
      rw [List.find?_eq_none] at h'
      exact absurd ha (h' a (hperm.mem_iff.mpr (by simp)))
    | some b =>
      obtain ⟨hb, before', after', rfl, hbefore'⟩ := List.find?_eq_some_iff_append.mp h'
      by_cases hba : b = a
      · rw [hba]
      exfalso
      -- Each of the two comes before the other in one list, so in both.
      have hafter : b ∈ after := by
        have hmem : b ∈ before ++ a :: after := hperm.mem_iff.mp (by simp)
        have hnot : b ∉ before := fun hmem => by simpa [hb] using hbefore b hmem
        simpa [hnot, hba] using hmem
      have hafter' : a ∈ after' := by
        have hmem : a ∈ before' ++ b :: after' := hperm.mem_iff.mpr (by simp)
        have hnot : a ∉ before' := fun hmem => by simpa [ha] using hbefore' a hmem
        simpa [hnot, Ne.symm hba] using hmem
      have hab : [a, b].Sublist (before ++ a :: after) :=
        ((List.singleton_sublist.mpr hafter).cons_cons a).trans (List.sublist_append_right _ _)
      have hba' : [b, a].Sublist (before' ++ b :: after') :=
        ((List.singleton_sublist.mpr hafter').cons_cons b).trans (List.sublist_append_right _ _)
      exact not_sublist_swap (hperm.nodup_iff.mpr hl) hba hba' (hkeeps a b ha hb hab)

namespace Work

theorem applyFirst_eq_find? (rules : List Rule) :
    w.applyFirst settings rules =
      (rules.find? fun r => (r.propose settings w.progress).accepted).map
        fun r => (r.name, w.perform (r.propose settings w.progress).actions) := by
  induction rules with
  | nil => rfl
  | cons rule rules ih =>
    rw [applyFirst, List.find?_cons, ih]
    by_cases haccepted : (rule.propose settings w.progress).accepted = true
    · simp [haccepted]
    · simp [haccepted]

theorem applyFirst_eq_of_perm {α : Type} [DecidableEq α] {rule : α → Rule} {rules rules' : List α}
    (hrules : rules.Nodup) (hperm : rules'.Perm rules)
    (hkeeps : ∀ a b, ((rule a).propose settings w.progress).accepted = true →
      ((rule b).propose settings w.progress).accepted = true →
      [a, b].Sublist rules → [a, b].Sublist rules') :
    w.applyFirst settings (rules'.map rule) = w.applyFirst settings (rules.map rule) := by
  have hfind := find?_eq_of_perm
    (q := fun a => ((rule a).propose settings w.progress).accepted) hrules hperm hkeeps
  rw [applyFirst_eq_find?, applyFirst_eq_find?, List.find?_map, List.find?_map]
  simp only [Function.comp_def, hfind]

end Work

namespace ParameterRule

variable {r r' : ParameterRule} {t : NativeType}

def Suits (settings : Settings) : ParameterRule → NativeType → Prop
  | scalar, .named name => settings.IsScalar name
  | receiver, .pointer (.named _) => True
  | handle, .pointer (.named name) => settings.IsHandle name
  | growableText, .pointer (.named name) => name = "char"
  | fixedText, .pointer (.named name) => name = "char"
  | text, .pointer (.named name) => name = "char"
  | reference, .pointer (.named name) => settings.IsReferable name
  | _, _ => False

theorem exists_suits (h : (r.rule.propose settings p).accepted = true) :
    ∃ q, p.current? = some q ∧ r.Suits settings q.type := by
  rw [rule, Rule.accepted_ofOption, Option.isSome_iff_exists] at h
  obtain ⟨actions, hactions⟩ := h
  obtain ⟨c, hc, hfits, -⟩ := commit_of_propose (w := ⟨p, .start settings p.signature⟩) hactions
  cases c <;> cases hc
  case scalar q type =>
    obtain ⟨name, hname, hscalar⟩ :=
      Settings.scalar?_isSome_iff.mp (Option.isSome_of_eq_some hfits.2)
    exact ⟨q, hfits.1, by rwa [hname]⟩
  case receiver q =>
    obtain ⟨hq, -, name, -, htype⟩ := hfits
    exact ⟨q, hq, by rw [htype]; trivial⟩
  case handle q className =>
    obtain ⟨name, hname, hhandle⟩ :=
      Settings.handleClass?_isSome_iff.mp (Option.isSome_of_eq_some hfits.2)
    exact ⟨q, hfits.1, by rwa [hname]⟩
  case growableText buffer size length =>
    obtain ⟨hq, -, htype, -⟩ := hfits
    exact ⟨buffer, hq, by rw [htype]; rfl⟩
  case fixedText buffer size ignored =>
    obtain ⟨hq, -, -, -, htype, -⟩ := hfits
    exact ⟨buffer, hq, by rw [htype]; rfl⟩
  case text q =>
    obtain ⟨hq, htype⟩ := hfits
    exact ⟨q, hq, by rw [htype]; rfl⟩
  case reference q type =>
    obtain ⟨hq, base, hbase, htype⟩ := hfits
    obtain ⟨name, rfl, hname⟩ :=
      Settings.referenceScalar?_isSome_iff.mp (Option.isSome_of_eq_some htype)
    exact ⟨q, hq, by rwa [hbase]⟩

theorem eq_scalar_iff (h : r.Suits settings t) : r = scalar ↔ ∃ name, t = .named name := by
  match t with
  | .named name => cases r <;> simp_all [Suits]
  | .pointer base => cases r <;> simp_all [Suits]
  | .tuple elements => cases r <;> cases h

theorem scalar_exclusive (hr : r ≠ scalar) :
    (scalar.rule.propose settings p).accepted = false ∨
      (r.rule.propose settings p).accepted = false := by
  rw [← Bool.not_eq_true, ← Bool.not_eq_true, ← not_and_or]
  rintro ⟨hscalar, h⟩
  obtain ⟨q, hq, hsuits⟩ := exists_suits hscalar
  obtain ⟨q', hq', hsuits'⟩ := exists_suits h
  obtain rfl := Option.some.inj (hq.symm.trans hq')
  exact hr ((eq_scalar_iff hsuits').mpr ((eq_scalar_iff hsuits).mp rfl))

def kind : ParameterRule → ParameterRule
  | growableText | fixedText => text
  | r => r

def kindOf (settings : Settings) : NativeType → ParameterRule
  | .pointer (.named name) =>
    if name = "char" then text else if settings.IsHandle name then handle else reference
  | _ => scalar

theorem kind_eq (h : settings.Unambiguous) (hr : r ≠ receiver) (hsuits : r.Suits settings t) :
    r.kind = kindOf settings t := by
  match t with
  | .named name => exact congrArg kind ((eq_scalar_iff hsuits).mpr ⟨name, rfl⟩)
  | .pointer (.named name) =>
    rw [kindOf]
    cases r with
    | receiver => exact absurd rfl hr
    | scalar => cases hsuits
    | handle =>
      have hchar : name ≠ "char" := fun heq => h.char_handle (heq ▸ hsuits)
      have hhandle : settings.IsHandle name := hsuits
      rw [if_neg hchar, if_pos hhandle]
      rfl
    | growableText | fixedText | text =>
      obtain rfl : name = "char" := hsuits
      rw [if_pos rfl]
      rfl
    | reference =>
      rcases hsuits with rfl | rfl | ⟨-, henum⟩
      · rw [if_neg (by decide), if_neg h.bool_handle]
        rfl
      · rw [if_neg (by decide), if_neg h.int_handle]
        rfl
      · have hchar : name ≠ "char" := fun heq => h.char_enum (heq ▸ henum)
        rw [if_neg hchar, if_neg (h.separate name henum)]
        rfl
  | .pointer (.pointer base) => cases r <;> cases hsuits
  | .pointer (.tuple elements) => cases r <;> cases hsuits
  | .tuple elements => cases r <;> cases hsuits

theorem mem_priority (r : ParameterRule) : r ∈ priority := by
  cases r <;> decide

theorem order_cases : ∀ r ∈ priority, ∀ r' ∈ priority, [r, r'].Sublist priority →
    r = receiver ∧ r' ∈ [handle, growableText, fixedText, text, reference] ∨
    [r, r'].Sublist [growableText, fixedText, text] ∨
    r = scalar ∧ r' = receiver ∨
    r ≠ receiver ∧ r' ≠ receiver ∧ r.kind ≠ r'.kind := by
  decide

theorem ordered_of_accepted (h : settings.Unambiguous)
    (hr : (r.rule.propose settings p).accepted = true)
    (hr' : (r'.rule.propose settings p).accepted = true) (hbefore : [r, r'].Sublist priority) :
    r = receiver ∧ r' ∈ [handle, growableText, fixedText, text, reference] ∨
      [r, r'].Sublist [growableText, fixedText, text] := by
  obtain ⟨q, hq, hsuits⟩ := exists_suits hr
  obtain ⟨q', hq', hsuits'⟩ := exists_suits hr'
  obtain rfl := Option.some.inj (hq.symm.trans hq')
  rcases order_cases r (mem_priority r) r' (mem_priority r') hbefore with
    hreceiver | htexts | ⟨hscalar, hreceiver⟩ | ⟨hleft, hright, hkind⟩
  · exact .inl hreceiver
  · exact .inr htexts
  · have hscalar' := (eq_scalar_iff hsuits').mpr ((eq_scalar_iff hsuits).mp hscalar)
    rw [hreceiver] at hscalar'
    cases hscalar'
  · exact absurd ((kind_eq h hleft hsuits).trans (kind_eq h hright hsuits').symm) hkind

end ParameterRule

namespace ReturnRule

variable {r r' : ReturnRule} {t : NativeType}

def Suits (settings : Settings) : ReturnRule → NativeType → Prop
  | status, .named name => settings.IsScalar name
  | scalar, .named name => settings.IsScalar name
  | nothing, .named name => name = "void"
  | handle, .pointer (.named name) => settings.IsHandle name
  | text, .pointer (.named name) => name = "char"
  | _, _ => False

theorem suits_of_accepted (h : (r.rule.propose settings p).accepted = true) :
    r.Suits settings p.signature.returns := by
  have hstart : r.rule.propose settings { p with index := 0 } = r.rule.propose settings p := by
    cases r <;> rfl
  rw [← hstart, rule, Rule.accepted_ofOption, Option.isSome_iff_exists] at h
  obtain ⟨actions, hactions⟩ := h
  obtain ⟨c, hc, hfits, -⟩ := commit_of_propose
    (w := ⟨{ p with index := 0 }, .start settings p.signature⟩) (Nat.zero_le _) hactions
  cases c <;> cases hc
  case returnStatus type =>
    obtain ⟨name, hname, hscalar⟩ :=
      Settings.scalar?_isSome_iff.mp (Option.isSome_of_eq_some hfits.1)
    rwa [hname]
  case returnScalar type =>
    obtain ⟨name, hname, hscalar⟩ := Settings.scalar?_isSome_iff.mp (Option.isSome_of_eq_some hfits)
    rwa [hname]
  case returnHandle className =>
    obtain ⟨name, hname, hhandle⟩ :=
      Settings.handleClass?_isSome_iff.mp (Option.isSome_of_eq_some hfits)
    rwa [hname]
  case returnNothing => rw [show p.signature.returns = _ from hfits]; rfl
  case returnText => rw [show p.signature.returns = _ from hfits]; rfl

def kind : ReturnRule → ReturnRule
  | status => scalar
  | r => r

def kindOf : NativeType → ReturnRule
  | .named name => if name = "void" then nothing else scalar
  | .pointer (.named name) => if name = "char" then text else handle
  | _ => scalar

theorem kind_eq (h : settings.Unambiguous) (hsuits : r.Suits settings t) : r.kind = kindOf t := by
  match t with
  | .named name =>
    rw [kindOf]
    cases r with
    | status | scalar =>
      have hvoid : name ≠ "void" := by
        rintro rfl
        rcases hsuits with heq | heq | heq | henum
        · exact absurd heq (by decide)
        · exact absurd heq (by decide)
        · exact absurd heq (by decide)
        · exact h.void_enum henum
      rw [if_neg hvoid]
      rfl
    | nothing =>
      obtain rfl : name = "void" := hsuits
      rw [if_pos rfl]
      rfl
    | handle | text => cases hsuits
  | .pointer (.named name) =>
    rw [kindOf]
    cases r with
    | handle =>
      have hchar : name ≠ "char" := fun heq => h.char_handle (heq ▸ hsuits)
      rw [if_neg hchar]
      rfl
    | text =>
      obtain rfl : name = "char" := hsuits
      rw [if_pos rfl]
      rfl
    | status | scalar | nothing => cases hsuits
  | .pointer (.pointer base) => cases r <;> cases hsuits
  | .pointer (.tuple elements) => cases r <;> cases hsuits
  | .tuple elements => cases r <;> cases hsuits

theorem mem_priority (r : ReturnRule) : r ∈ priority := by
  cases r <;> decide

theorem order_cases : ∀ r ∈ priority, ∀ r' ∈ priority, [r, r'].Sublist priority →
    [r, r'].Sublist [status, scalar] ∨ r.kind ≠ r'.kind := by
  decide

theorem ordered_of_accepted (h : settings.Unambiguous)
    (hr : (r.rule.propose settings p).accepted = true)
    (hr' : (r'.rule.propose settings p).accepted = true) (hbefore : [r, r'].Sublist priority) :
    [r, r'].Sublist [status, scalar] := by
  have hkind := (kind_eq h (suits_of_accepted hr)).trans (kind_eq h (suits_of_accepted hr')).symm
  exact (order_cases r (mem_priority r) r' (mem_priority r') hbefore).resolve_right
    (fun hne => hne hkind)

end ReturnRule

/-- Where no type has two meanings, the parameter rules can be tried in every order that keeps the
receiver before the other rules for pointers and the rules for texts as they are, and the return
rules in every order that keeps the status code before the scalar: the same rule is carried out. -/
theorem applyFirst_reordered (settings : Settings) (w : Work) :
    (settings.Unambiguous → ∀ rules : List ParameterRule, rules.Perm ParameterRule.priority →
      (∀ r ∈ [ParameterRule.handle, .growableText, .fixedText, .text, .reference],
        [.receiver, r].Sublist rules) →
      [.growableText, .fixedText, .text].Sublist rules →
      w.applyFirst settings (rules.map ParameterRule.rule) =
        w.applyFirst settings (ParameterRule.priority.map ParameterRule.rule)) ∧
    (settings.Unambiguous → ∀ rules : List ReturnRule, rules.Perm ReturnRule.priority →
      [.status, .scalar].Sublist rules →
      w.applyFirst settings (rules.map ReturnRule.rule) =
        w.applyFirst settings (ReturnRule.priority.map ReturnRule.rule)) ∧
    ∀ r : ParameterRule, r ≠ .scalar →
      (ParameterRule.scalar.rule.propose settings w.progress).accepted = false ∨
        (r.rule.propose settings w.progress).accepted = false := by
  refine ⟨fun h rules hperm hreceiver htexts => ?_, fun h rules hperm hstatus => ?_,
    fun r hr => ParameterRule.scalar_exclusive hr⟩
  · apply Work.applyFirst_eq_of_perm (by decide) hperm
    intro r r' hr hr' hbefore
    rcases ParameterRule.ordered_of_accepted h hr hr' hbefore with ⟨rfl, hmem⟩ | hsublist
    · exact hreceiver r' hmem
    · exact hsublist.trans htexts
  · apply Work.applyFirst_eq_of_perm (by decide) hperm
    intro r r' hr hr' hbefore
    exact (ReturnRule.ordered_of_accepted h hr hr' hbefore).trans hstatus

def albumSettings : Settings where
  enums := [("sp_error", "SpotifyError"), ("sp_albumtype", "AlbumType")]
  handles := [("sp_album", "Album"), ("sp_session", "Session")]

def albumTitle : Work :=
  .start albumSettings {
    nativeName := "sp_album_title"
    managedName := "Title"
    parameters := [⟨"buffer", .pointer (.named "char")⟩, ⟨"buffer_size", .named "int"⟩]
    returns := .named "int" }

theorem applyFirst_reordered_title :
    albumSettings.Unambiguous ∧
      (albumTitle.applyFirst albumSettings
        ([.receiver, .reference, .growableText, .handle, .fixedText, .scalar, .text].map
          ParameterRule.rule)).map Prod.fst = some "growable-string" ∧
      (albumTitle.applyFirst { albumSettings with errorType := "int" }
        ([.text, .nothing, .status, .handle, .scalar].map ReturnRule.rule)).map Prod.fst =
          some "status-code" := by
  have h : albumSettings.Unambiguous :=
    ⟨by simp [albumSettings, Settings.IsEnum, Settings.IsHandle],
      by simp [albumSettings, Settings.IsEnum], by simp [albumSettings, Settings.IsHandle],
      by simp [albumSettings, Settings.IsHandle], by simp [albumSettings, Settings.IsHandle],
      by simp [albumSettings, Settings.IsEnum]⟩
  have h' : { albumSettings with errorType := "int" }.Unambiguous :=
    ⟨h.separate, h.char_enum, h.char_handle, h.int_handle, h.bool_handle, h.void_enum⟩
  refine ⟨h, ?_, ?_⟩
  · rw [(applyFirst_reordered albumSettings albumTitle).1 h _ (by decide) (by decide) (by decide)]
    decide
  · rw [(applyFirst_reordered _ albumTitle).2.1 h' _ (by decide) (by decide)]
    decide

end NativeBindings
