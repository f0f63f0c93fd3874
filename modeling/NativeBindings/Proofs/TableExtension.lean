import NativeBindings.Proofs.Domain
import NativeBindings.Proofs.Lockstep

namespace NativeBindings

namespace Settings

structure Extends (settings settings' : Settings) : Prop where
  rest : settings' = { settings with enums := settings'.enums, handles := settings'.handles }
  enums : ∀ name target,
    settings.enums.lookup name = some target → settings'.enums.lookup name = some target
  handles : ∀ name target,
    settings.handles.lookup name = some target → settings'.handles.lookup name = some target

/-- A name that only the second tables hold. -/
def Adds (settings settings' : Settings) (name : String) : Prop :=
  settings'.IsEnum name ∧ ¬ settings.IsEnum name ∨
    settings'.IsHandle name ∧ ¬ settings.IsHandle name

end Settings

def NativeType.mentions (name : String) (t : NativeType) : Prop :=
  t = .named name ∨ t = .pointer (.named name)

def Signature.Mentions (s : Signature) (name : String) : Prop :=
  (∃ q ∈ s.parameters, q.type.mentions name) ∨ s.returns.mentions name

variable {settings settings' : Settings} {s : Signature} {t : NativeType} {p : Progress}
  {name : String}

theorem NameTable.lookup_eq_of_extends {table table' : NameTable}
    (h : ∀ target, table.lookup name = some target → table'.lookup name = some target)
    (hnew : ¬ (name ∈ table'.map Prod.fst ∧ name ∉ table.map Prod.fst)) :
    table'.lookup name = table.lookup name := by
  cases hname : table.lookup name with
  | some target => exact h target hname
  | none =>
    rw [← Option.not_isSome_iff_eq_none, NameTable.lookup_isSome_iff] at hname ⊢
    exact fun hmem => hnew ⟨hmem, hname⟩

namespace Settings.Extends

variable (h : settings.Extends settings')
include h

theorem isEnum (hname : settings.IsEnum name) : settings'.IsEnum name := by
  rw [IsEnum, ← NameTable.lookup_isSome_iff, Option.isSome_iff_exists] at hname ⊢
  obtain ⟨target, htarget⟩ := hname
  exact ⟨target, h.enums name target htarget⟩

theorem isHandle (hname : settings.IsHandle name) : settings'.IsHandle name := by
  rw [IsHandle, ← NameTable.lookup_isSome_iff, Option.isSome_iff_exists] at hname ⊢
  obtain ⟨target, htarget⟩ := hname
  exact ⟨target, h.handles name target htarget⟩

theorem isScalar (hname : settings.IsScalar name) : settings'.IsScalar name :=
  hname.imp_right (Or.imp_right (Or.imp_right h.isEnum))

theorem isReferable (hname : settings.IsReferable name) : settings'.IsReferable name :=
  hname.imp_right (Or.imp_right (And.imp_right h.isEnum))

theorem acceptable {i : Nat} (ht : Acceptable settings s i t) : Acceptable settings' s i t := by
  match t with
  | .named name => exact h.isScalar ht
  | .pointer (.named name) => exact ht.imp_right (Or.imp h.isHandle (Or.imp_right h.isReferable))
  | .pointer (.pointer base) => cases ht
  | .pointer (.tuple elements) => cases ht
  | .tuple elements => cases ht

theorem acceptableReturn (ht : AcceptableReturn settings t) : AcceptableReturn settings' t := by
  match t with
  | .named name => exact ht.imp_right h.isScalar
  | .pointer (.named name) => exact ht.imp_left h.isHandle
  | .pointer (.pointer base) => cases ht
  | .pointer (.tuple elements) => cases ht
  | .tuple elements => cases ht

theorem exists_draft (hs : ∃ d, bindFunction settings s = .ok d) :
    ∃ d, bindFunction settings' s = .ok d := by
  rw [bindFunction_ok_iff] at hs ⊢
  obtain ⟨hparameters, hreturn⟩ := hs
  exact ⟨fun i q hi hq => h.acceptable (hparameters i q hi hq), h.acceptableReturn hreturn⟩

theorem scalarNamed?_eq (hname : ¬ settings.Adds settings' name) :
    settings'.scalarNamed? name = settings.scalarNamed? name := by
  have hlookup : settings'.enums.lookup name = settings.enums.lookup name :=
    NameTable.lookup_eq_of_extends (h.enums name) fun hnew => hname (.inl hnew)
  rw [scalarNamed?, scalarNamed?, hlookup]

theorem scalar?_eq (ht : ∀ name, t = .named name → ¬ settings.Adds settings' name) :
    settings'.scalar? t = settings.scalar? t := by
  cases t with
  | named name => exact h.scalarNamed?_eq (ht name rfl)
  | pointer base => rfl
  | tuple elements => rfl

theorem referenceScalar?_eq (ht : ∀ name, t = .named name → ¬ settings.Adds settings' name) :
    settings'.referenceScalar? t = settings.referenceScalar? t := by
  rw [referenceScalar?, referenceScalar?, h.scalar?_eq ht]

theorem handleClass?_eq
    (ht : ∀ name, t = .pointer (.named name) → ¬ settings.Adds settings' name) :
    settings'.handleClass? t = settings.handleClass? t := by
  rw [handleClass?, handleClass?]
  cases hname : t.baseName? with
  | none => rfl
  | some name =>
    have hname := NativeType.baseName?_eq_some.mp hname
    exact NameTable.lookup_eq_of_extends (h.handles name) fun hnew => ht name hname (.inr hnew)

end Settings.Extends

structure Settings.Agree (settings settings' : Settings) (t : NativeType) : Prop where
  scalar : settings'.scalar? t = settings.scalar? t
  reference : ∀ base, t = .pointer base →
    settings'.referenceScalar? base = settings.referenceScalar? base
  handle : settings'.handleClass? t = settings.handleClass? t

theorem Settings.Extends.agree (h : settings.Extends settings')
    (ht : ∀ name, settings.Adds settings' name → ¬ t.mentions name) :
    settings.Agree settings' t where
  scalar := h.scalar?_eq fun name hname hnew => ht name hnew (.inl hname)
  reference base hbase := h.referenceScalar?_eq fun name hname hnew =>
    ht name hnew (.inr (by rw [hbase, hname]))
  handle := h.handleClass?_eq fun name hname hnew => ht name hnew (.inr hname)

theorem Settings.isStatusCode_congr
    (hrest : settings' = { settings with enums := settings'.enums, handles := settings'.handles }) :
    settings'.isStatusCode t = settings.isStatusCode t := by
  rw [isStatusCode, isStatusCode, hrest]

section Agreement

variable
  (hrest : settings' = { settings with enums := settings'.enums, handles := settings'.handles })
  (hparameters : ∀ q ∈ p.signature.parameters, settings.Agree settings' q.type)
  (hreturn : settings.Agree settings' p.signature.returns)

include hrest hreturn

theorem ReturnRule.propose_congr (r : ReturnRule) :
    r.propose settings' p = r.propose settings p := by
  have hcheck : settings'.errorCheck = settings.errorCheck := by rw [hrest]
  cases r with
  | status =>
    simp only [propose, Rule.returnStatus, hreturn.scalar, Settings.isStatusCode_congr hrest,
      hcheck]
  | scalar => simp only [propose, Rule.returnScalar, hreturn.scalar]
  | handle => simp only [propose, Rule.returnHandle, hreturn.handle]
  | nothing => rfl
  | text => rfl

include hparameters

theorem ParameterRule.propose_congr (r : ParameterRule) :
    r.propose settings' p = r.propose settings p := by
  have hfield : settings'.handleField = settings.handleField := by rw [hrest]
  have hcurrent (q : Parameter) (hq : p.current? = some q) : settings.Agree settings' q.type :=
    hparameters q (List.mem_of_getElem? hq)
  have hnext (q : Parameter) (hq : p.next? = some q) : settings.Agree settings' q.type :=
    hparameters q (List.mem_of_getElem? hq)
  cases r with
  | scalar =>
    rw [propose, Rule.passScalar, Rule.passScalar]
    cases hq : p.current? with
    | none => rfl
    | some q => simp only [Option.bind_eq_bind, Option.bind_some, (hcurrent q hq).scalar]
  | receiver => simp only [propose, Rule.passReceiver, hfield]
  | handle =>
    rw [propose, Rule.passHandle, Rule.passHandle]
    cases hq : p.current? with
    | none => rfl
    | some q => simp only [Option.bind_eq_bind, Option.bind_some, (hcurrent q hq).handle, hfield]
  | growableText =>
    rw [propose, Rule.growableText, Rule.growableText]
    cases hq : p.next? with
    | none => rfl
    | some q => simp only [Option.bind_eq_bind, Option.bind_some, (hnext q hq).scalar]
  | fixedText =>
    have hignored : Rule.ignoredReturn? settings' p.signature.returns =
        Rule.ignoredReturn? settings p.signature.returns := by
      simp only [Rule.ignoredReturn?, Settings.isStatusCode_congr hrest, hreturn.handle,
        hreturn.scalar]
    simp only [propose, Rule.fixedText, hignored]
  | text => rfl
  | reference =>
    rw [propose, Rule.passReference, Rule.passReference]
    cases hq : p.current? with
    | none => rfl
    | some q =>
      simp only [Option.bind_eq_bind, Option.bind_some]
      cases hbase : q.type.base? with
      | none => rfl
      | some base =>
        have hreference := (hcurrent q hq).reference base (NativeType.base?_eq_some.mp hbase)
        simp only [Option.bind_some, hreference]

end Agreement

theorem Settings.Extends.lockstep (h : settings.Extends settings')
    (hs : ∀ name, settings.Adds settings' name → ¬ s.Mentions name) :
    Lockstep settings settings' s s id (fun w => w.progress.signature = s) := by
  have hparameters : ∀ q ∈ s.parameters, settings.Agree settings' q.type := fun q hq =>
    h.agree fun name hnew hname => hs name hnew (.inl ⟨q, hq, hname⟩)
  have hreturn : settings.Agree settings' s.returns :=
    h.agree fun name hnew hname => hs name hnew (.inr hname)
  constructor
  · rfl
  · exact fun w hw => hw
  · rintro w rfl r
    exact r.propose_congr h.rest hparameters hreturn
  · rintro w rfl r
    exact r.propose_congr h.rest hreturn
  · exact fun w edits hw => rfl
  · rintro w actions rfl
    rw [Work.perform]
    split <;> rfl

theorem Outcome.isBound_iff :
    (ofSignature settings s).isBound = true ↔ ∃ d, bindFunction settings s = .ok d := by
  rw [ofSignature]
  cases bindFunction settings s <;> simp [isBound]

/-- With more entries in the tables every function that could be bound still can; and a function
that mentions none of the new names is bound to the same draft, or skipped for the same reason. -/
theorem bindFunction_extends (h : settings.Extends settings') (s : Signature) :
    ((∃ d, bindFunction settings s = .ok d) → ∃ d, bindFunction settings' s = .ok d) ∧
    ((Outcome.ofSignature settings s).isBound = true →
      (Outcome.ofSignature settings' s).isBound = true) ∧
    ((∀ name, settings.Adds settings' name → ¬ s.Mentions name) →
      bindFunction settings' s = bindFunction settings s ∧
      Outcome.ofSignature settings' s = Outcome.ofSignature settings s) := by
  refine ⟨h.exists_draft, ?_, fun hs => ?_⟩
  · rw [Outcome.isBound_iff, Outcome.isBound_iff]
    exact h.exists_draft
  · have hstart : Work.start settings' s = (Work.start settings s).over s id := by
      rw [h.rest]
      rfl
    have hsame : bindFunction settings' s = bindFunction settings s := by
      rw [bindFunction_eq_finish, bindFunction_eq_finish, hstart]
      rcases (h.lockstep hs).finish (w := Work.start settings s) rfl with
        ⟨e, herror, herror'⟩ | ⟨last, -, hok, hok'⟩
      · rw [herror, herror']
      · rw [hok, hok', id]
    refine ⟨hsame, ?_⟩
    rw [Outcome.ofSignature, Outcome.ofSignature, hsame]

def playlistSettings : Settings where
  enums := [("sp_error", "SpotifyError")]
  handles := [("sp_playlist", "Playlist")]

def counterSettings : Settings where
  enums := [("sp_linktype", "LinkType"), ("sp_error", "SpotifyError")]
  handles := [("sp_playlist", "Playlist"), ("int", "Counter")]

def seekSignature : Signature where
  nativeName := "sp_playlist_seek"
  managedName := "Seek"
  parameters :=
    [⟨"playlist", .pointer (.named "sp_playlist")⟩, ⟨"offset", .pointer (.named "int")⟩]
  returns := .named "sp_error"

def renameSignature : Signature where
  nativeName := "sp_playlist_rename"
  managedName := "Rename"
  parameters :=
    [⟨"playlist", .pointer (.named "sp_playlist")⟩, ⟨"name", .pointer (.named "char")⟩]
  returns := .named "sp_error"

theorem bindFunction_extends_counter :
    playlistSettings.Extends counterSettings ∧
      (∃ d, bindFunction counterSettings seekSignature = .ok d) ∧
      bindFunction counterSettings renameSignature =
        bindFunction playlistSettings renameSignature := by
  have hextends : playlistSettings.Extends counterSettings := by
    refine ⟨rfl, fun name target hname => ?_, fun name target hname => ?_⟩
    · by_cases h : name = "sp_error"
      · rw [h] at hname ⊢
        exact hname
      · simp [playlistSettings, h] at hname
    · by_cases h : name = "sp_playlist"
      · rw [h] at hname ⊢
        exact hname
      · simp [playlistSettings, h] at hname
  have hnew : ∀ name, playlistSettings.Adds counterSettings name →
      name = "sp_linktype" ∨ name = "int" := by
    rintro name (⟨hname, hold⟩ | ⟨hname, hold⟩)
    · have hname : name = "sp_linktype" ∨ name = "sp_error" := by
        simpa [Settings.IsEnum, counterSettings] using hname
      have hold : name ≠ "sp_error" := by simpa [Settings.IsEnum, playlistSettings] using hold
      exact .inl (hname.resolve_right hold)
    · have hname : name = "sp_playlist" ∨ name = "int" := by
        simpa [Settings.IsHandle, counterSettings] using hname
      have hold : name ≠ "sp_playlist" := by
        simpa [Settings.IsHandle, playlistSettings] using hold
      exact .inr (hname.resolve_left hold)
  refine ⟨hextends, ?_, ?_⟩
  · exact (bindFunction_extends hextends seekSignature).1 (exists_draft (by decide +kernel))
  · apply ((bindFunction_extends hextends renameSignature).2.2 ?_).1
    intro name hname
    rcases hnew name hname with rfl | rfl <;>
      simp [Signature.Mentions, NativeType.mentions, renameSignature]

end NativeBindings
