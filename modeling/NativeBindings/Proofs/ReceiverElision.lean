import NativeBindings.Proofs.Lockstep
import NativeBindings.Proofs.RunOrder

namespace NativeBindings

def Draft.elide (field : String) (d : Draft) : Draft :=
  { d with
    nativeParameters :=
      d.nativeParameters.modifyHead fun p => { p with argument := .member "this" field }
    managedParameters := d.managedParameters.tail
    isInstance := true }

def Batch.elide (field : String) (b : Batch) : Batch := { b with draft := b.draft.elide field }

def Signature.withReceiver (s : Signature) (handle : String) : Signature :=
  { s with receiver := some handle }

variable {settings : Settings} {s : Signature} {w : Work} {b : Batch} {d : Draft} {q : Parameter}
  {handle className : String}

namespace Batch

theorem elide_add (hnative : b.draft.nativeParameters ≠ [])
    (hmanaged : b.draft.managedParameters ≠ []) (field : String) (e : Edit) :
    (b.add e).elide field = (b.elide field).add e := by
  obtain ⟨first, rest, hfirst⟩ := List.exists_cons_of_ne_nil hnative
  cases e with
  | nativeParameter p => simp only [elide, add, Draft.elide, hfirst, List.cons_append,
      List.modifyHead_cons]
  | managedParameter p => simp only [elide, add, Draft.elide, List.tail_append_of_ne_nil hmanaged]
  | _ => rfl

theorem parameters_prefix_add (b : Batch) (e : Edit) :
    b.draft.nativeParameters <+: (b.add e).draft.nativeParameters ∧
    b.draft.managedParameters <+: (b.add e).draft.managedParameters := by
  cases e with
  | nativeParameter p => exact ⟨List.prefix_append _ _, List.prefix_rfl⟩
  | managedParameter p => exact ⟨List.prefix_rfl, List.prefix_append _ _⟩
  | _ => exact ⟨List.prefix_rfl, List.prefix_rfl⟩

theorem parameters_prefix_foldl (b : Batch) (edits : List Edit) :
    b.draft.nativeParameters <+: (edits.foldl add b).draft.nativeParameters ∧
    b.draft.managedParameters <+: (edits.foldl add b).draft.managedParameters := by
  induction edits generalizing b with
  | nil => exact ⟨List.prefix_rfl, List.prefix_rfl⟩
  | cons e edits ih =>
    obtain ⟨hnative, hmanaged⟩ := b.parameters_prefix_add e
    obtain ⟨hnatives, hmanageds⟩ := ih (b.add e)
    exact ⟨hnative.trans hnatives, hmanaged.trans hmanageds⟩

theorem elide_foldl (hnative : b.draft.nativeParameters ≠ [])
    (hmanaged : b.draft.managedParameters ≠ []) (field : String) (edits : List Edit) :
    (edits.foldl add b).elide field = edits.foldl add (b.elide field) := by
  induction edits generalizing b with
  | nil => rfl
  | cons e edits ih =>
    obtain ⟨hnatives, hmanageds⟩ := b.parameters_prefix_add e
    rw [List.foldl_cons, List.foldl_cons, ← elide_add hnative hmanaged]
    exact ih (hnatives.ne_nil hnative) (hmanageds.ne_nil hmanaged)

end Batch

namespace Draft

theorem parameters_prefix (d : Draft) (edits : List Edit) :
    d.nativeParameters <+: (d.apply edits).nativeParameters ∧
    d.managedParameters <+: (d.apply edits).managedParameters :=
  Batch.parameters_prefix_foldl { draft := d } edits

theorem elide_apply (hnative : d.nativeParameters ≠ []) (hmanaged : d.managedParameters ≠ [])
    (field : String) (edits : List Edit) :
    (d.apply edits).elide field = (d.elide field).apply edits := by
  have hfold := Batch.elide_foldl (b := { draft := d }) hnative hmanaged field edits
  exact congrArg Batch.close hfold

end Draft

structure Work.PassedHandle (settings : Settings) (s : Signature) (q : Parameter)
    (className : String) (w : Work) : Prop where
  signature : w.progress.signature = s
  index : 0 < w.progress.index
  native : [⟨Identifier.escape q.name, .intPtr,
    .member (Identifier.escape q.name) settings.handleField⟩] <+: w.draft.nativeParameters
  managed : [⟨Identifier.escape q.name, .ofName className⟩] <+: w.draft.managedParameters

namespace Work.PassedHandle

theorem perform (h : PassedHandle settings s q className w) (hfirst : s.parameters.head? = some q)
    (actions : List Action) : PassedHandle settings s q className (w.perform actions) := by
  obtain ⟨hnative, hmanaged⟩ :=
    w.draft.parameters_prefix (Staged.ofActions w.progress actions).edits
  have hlength : 0 < w.progress.length := by
    rw [Progress.length, h.signature]
    exact List.length_pos_iff.mpr (List.ne_nil_of_mem (List.mem_of_mem_head? hfirst))
  have hindex : 0 < (w.progress.takeParameters
      (Staged.ofActions w.progress actions).parameters).index :=
    Nat.lt_min.mpr ⟨Nat.add_pos_left h.index _, hlength⟩
  refine ⟨?_, ?_, h.native.trans hnative, h.managed.trans hmanaged⟩
  · rw [Work.perform]
    split <;> exact h.signature
  · rw [Work.perform]
    split <;> exact hindex

theorem lockstep (hnone : s.receiver = none) (hfirst : s.parameters.head? = some q) :
    Lockstep settings settings s (s.withReceiver handle) (Draft.elide settings.handleField)
      (PassedHandle settings s q className) := by
  constructor
  · rfl
  · exact fun w hw => hw.signature
  · intro w hw r
    obtain rfl := hw.signature
    cases r with
    | receiver =>
      have hindex : w.progress.index ≠ 0 := Nat.pos_iff_ne_zero.mp hw.index
      simp only [ParameterRule.propose, Rule.passReceiver, hnone, hindex, false_and, if_false]
      cases Progress.current? _ <;> rfl
    | _ => rfl
  · intro w hw r
    obtain rfl := hw.signature
    cases r <;> rfl
  · intro w edits hw
    exact Draft.elide_apply (hw.native.ne_nil (List.cons_ne_nil _ _))
      (hw.managed.ne_nil (List.cons_ne_nil _ _)) _ edits
  · exact fun w actions hw => hw.perform hfirst actions

end Work.PassedHandle

theorem Work.finish_eq_of_chosen {c : Commit} {r : ParameterRule}
    (hle : w.progress.index ≤ w.progress.length) (hcurrent : w.progress.current? = some q)
    (hr : c.rule = .inl r) (hfits : c.Fits settings w.progress)
    (honly : ∀ (c' : Commit) (r' : ParameterRule), c'.rule = .inl r' →
      c'.Chosen settings w.progress → c' = c) :
    w.finish settings = (w.commit settings c).finish settings := by
  cases happly : w.applyFirst settings (ParameterRule.priority.map ParameterRule.rule) with
  | none => exact absurd hfits (Work.parameterRules_eq_none_iff.mp happly c r hr)
  | some result =>
    obtain ⟨name, next⟩ := result
    obtain ⟨c', r', hr', hc', -, rfl⟩ := Work.chosen_of_parameterRules happly
    obtain rfl := honly c' r' hr' hc'
    exact Work.finish_eq_of_applyFirst hcurrent happly (Work.left_commit_lt hle hr hfits)

theorem Work.current?_start (hfirst : s.parameters.head? = some q) :
    (start settings s).progress.current? = some q := by
  rw [Progress.current?, ← hfirst, List.head?_eq_getElem?]
  rfl

section FirstParameter

variable (hclass : settings.handles.lookup handle = some className)
  (hfirst : s.parameters.head? = some q) (htype : q.type = .pointer (.named handle))

include hfirst htype

theorem bindFunction_withReceiver :
    bindFunction settings (s.withReceiver handle) =
      ((Work.start settings (s.withReceiver handle)).commit settings (.receiver q)).finish
        settings := by
  have hcurrent : (Work.start settings (s.withReceiver handle)).progress.current? = some q :=
    Work.current?_start hfirst
  have hfits : (Commit.receiver q).Fits settings
      (Work.start settings (s.withReceiver handle)).progress :=
    ⟨hcurrent, rfl, handle, rfl, htype⟩
  rw [bindFunction_eq_finish]
  -- The receiver comes first of all rules that a pointer fits.
  refine Work.finish_eq_of_chosen (Nat.zero_le _) hcurrent rfl hfits fun c r hr hc => ?_
  cases c with
  | scalar q' type => exact absurd hc.fits (Commit.not_fits_scalar hcurrent htype)
  | receiver q' =>
    have hq' := hc.fits.1
    rw [hcurrent] at hq'
    cases hq'
    rfl
  | handle | growableText | fixedText | text | reference =>
    exact absurd hfits (hc.not_fits (.receiver q) rfl rfl (by decide))
  | _ => cases hr

include hclass

theorem bindFunction_withoutReceiver (hnone : s.receiver = none) :
    bindFunction settings s =
      ((Work.start settings s).commit settings (.handle q className)).finish settings := by
  have hcurrent : (Work.start settings s).progress.current? = some q :=
    Work.current?_start hfirst
  have hlookup : settings.handleClass? q.type = some className := by rw [htype]; exact hclass
  have hfits : (Commit.handle q className).Fits settings (Work.start settings s).progress :=
    ⟨hcurrent, hlookup⟩
  rw [bindFunction_eq_finish]
  refine Work.finish_eq_of_chosen (Nat.zero_le _) hcurrent rfl hfits fun c r hr hc => ?_
  cases c with
  | scalar q' type => exact absurd hc.fits (Commit.not_fits_scalar hcurrent htype)
  | receiver q' =>
    obtain ⟨-, -, name, hname, -⟩ := hc.fits
    rw [show (Work.start settings s).progress.signature.receiver = none from hnone] at hname
    cases hname
  | handle q' className' =>
    obtain ⟨hq', hclass'⟩ := hc.fits
    rw [hcurrent] at hq'
    cases hq'
    rw [hlookup] at hclass'
    cases hclass'
    rfl
  | growableText | fixedText | text | reference =>
    exact absurd hfits (hc.not_fits (.handle q className) rfl rfl (by decide))
  | _ => cases hr

end FirstParameter

theorem not_isInstance (hnone : s.receiver = none) (h : bindFunction settings s = .ok d) :
    d.isInstance = false := by
  obtain ⟨commits, w, hw, rfl, -, -, -⟩ := Reached.of_bindFunction h
  rw [hw.isInstance_eq, List.any_eq_false]
  intro c hc hreceiver
  obtain ⟨p, rfl, hchosen⟩ := hw.exists_chosen hc
  cases c with
  | receiver q =>
    obtain ⟨-, -, name, hname, -⟩ := hchosen.fits
    rw [hnone] at hname
    cases hname
  | _ => cases hreceiver

/-- The bindings of a function that takes a handle first: as a parameter, and as the object. -/
structure Draft.Elides (settings : Settings) (q : Parameter) (className : String)
    (d d' : Draft) : Prop where
  delegate : ∀ margin, d'.delegateText margin = d.delegateText margin
  imports : ∀ margin, d'.importText margin = d.importText margin
  managed : d.managedParameters =
    ⟨Identifier.escape q.name, .ofName className⟩ :: d'.managedParameters
  native : ∃ rest,
    d.nativeParameters = ⟨Identifier.escape q.name, .intPtr,
      .member (Identifier.escape q.name) settings.handleField⟩ :: rest ∧
    d'.nativeParameters = ⟨Identifier.escape q.name, .intPtr,
      .member "this" settings.handleField⟩ :: rest
  arguments : ∃ rest,
    d.nativeParameters.map (·.argument.text) =
      (Identifier.escape q.name ++ "." ++ settings.handleField) :: rest ∧
    d'.nativeParameters.map (·.argument.text) = ("this." ++ settings.handleField) :: rest
  nativeReturn : d'.nativeReturn = d.nativeReturn
  managedReturn : d'.managedReturn = d.managedReturn
  returnVariable : d'.returnVariable = d.returnVariable
  nesting : d'.nesting = d.nesting
  names : d'.managedName = d.managedName ∧ d'.nativeClass = d.nativeClass ∧ d'.wrapper = d.wrapper
  body : d'.body = d.body
  text : ∀ line, line.content ≠ .nativeCall → d'.lineText line = d.lineText line
  isInstance : d'.isInstance = true
  isStatic : d.isInstance = false

theorem Work.PassedHandle.elides (h : PassedHandle settings s q className w)
    (hstatic : w.draft.isInstance = false) :
    Draft.Elides settings q className w.draft (w.draft.elide settings.handleField) := by
  obtain ⟨rest, hrest⟩ := h.native
  obtain ⟨managed, hmanaged⟩ := h.managed
  have hnative : (w.draft.elide settings.handleField).nativeParameterText =
      w.draft.nativeParameterText := by
    simp only [Draft.nativeParameterText, Draft.elide, ← hrest, List.cons_append,
      List.modifyHead_cons, List.map_cons]
  constructor
  case delegate =>
    intro margin
    rw [Draft.delegateText, hnative]
    rfl
  case imports =>
    intro margin
    rw [Draft.importText, hnative]
    rfl
  case managed => rw [Draft.elide, ← hmanaged]; rfl
  case native => exact ⟨rest, hrest.symm, by rw [Draft.elide, ← hrest]; rfl⟩
  case arguments =>
    refine ⟨rest.map (·.argument.text), by rw [← hrest]; rfl, ?_⟩
    rw [Draft.elide, ← hrest]
    rfl
  case names => exact ⟨rfl, rfl, rfl⟩
  case text =>
    rintro ⟨depth, content⟩ hline
    cases content with
    | statement st => rfl
    | nativeCall => exact absurd rfl hline
  case isStatic => exact hstatic
  all_goals rfl

/-- Where the first parameter is a handle, a receiver of its type makes the object stand for it.
Both functions are skipped for the same reason, or the bindings differ in the call's first argument,
the first managed parameter and the kind of method. -/
theorem receiver_elision (hclass : settings.handles.lookup handle = some className)
    (hnone : s.receiver = none) (hfirst : s.parameters.head? = some q)
    (htype : q.type = .pointer (.named handle)) :
    (∃ e, bindFunction settings s = .error e ∧
      bindFunction settings (s.withReceiver handle) = .error e) ∨
    ∃ d d', bindFunction settings s = .ok d ∧
      bindFunction settings (s.withReceiver handle) = .ok d' ∧
      d.Elides settings q className d' := by
  have hpassed : Work.PassedHandle settings s q className
      ((Work.start settings s).commit settings (.handle q className)) :=
    ⟨rfl, Nat.one_pos, List.prefix_rfl, List.prefix_rfl⟩
  have hover : (Work.start settings (s.withReceiver handle)).commit settings (.receiver q) =
      ((Work.start settings s).commit settings (.handle q className)).over (s.withReceiver handle)
        (Draft.elide settings.handleField) := rfl
  have hlockstep : Lockstep settings settings s (s.withReceiver handle)
      (Draft.elide settings.handleField) (Work.PassedHandle settings s q className) :=
    Work.PassedHandle.lockstep hnone hfirst
  have hwithout := bindFunction_withoutReceiver hclass hfirst htype hnone
  have hwith : bindFunction settings (s.withReceiver handle) = _ :=
    bindFunction_withReceiver hfirst htype
  rw [hover] at hwith
  rcases hlockstep.finish hpassed with
    ⟨e, herror, herror'⟩ | ⟨last, hlast, hok, hok'⟩
  · exact .inl ⟨e, hwithout.trans herror, hwith.trans herror'⟩
  · have hd := hwithout.trans hok
    exact .inr ⟨_, _, hd, hwith.trans hok', hlast.elides (not_isInstance hnone hd)⟩

def trackSettings : Settings where
  handles := [("sp_track", "Track")]

def trackNameSignature : Signature where
  nativeName := "sp_track_name"
  managedName := "Name"
  parameters :=
    [⟨"track", .pointer (.named "sp_track")⟩, ⟨"locale", .pointer (.named "char")⟩,
      ⟨"name", .pointer (.named "char")⟩, ⟨"size", .named "int"⟩]
  returns := .named "int"

theorem receiver_elision_trackName :
    ∃ d d', bindFunction trackSettings trackNameSignature = .ok d ∧
      bindFunction trackSettings (trackNameSignature.withReceiver "sp_track") = .ok d' ∧
      d.Elides trackSettings ⟨"track", .pointer (.named "sp_track")⟩ "Track" d' ∧
      d'.managedParameters = [⟨"locale", .string⟩] ∧ d'.nesting.entered = 2 := by
  obtain ⟨d, hd⟩ := exists_draft
    (show (bindFunction trackSettings trackNameSignature).toOption.isSome = true by decide +kernel)
  have hclass : trackSettings.handles.lookup "sp_track" = some "Track" := rfl
  have hnone : trackNameSignature.receiver = none := rfl
  rcases receiver_elision hclass hnone rfl rfl with ⟨e, herror, -⟩ | h
  · rw [hd] at herror
    cases herror
  · obtain ⟨d₀, d', hok, hok', helides⟩ := h
    have hfields : (bindFunction trackSettings trackNameSignature).toOption.map (fun d =>
        (d.managedParameters, d.nesting.entered)) =
          some ([⟨"track", .ofName "Track"⟩, ⟨"locale", .string⟩], 2) := by decide +kernel
    rw [hok] at hfields
    obtain ⟨hmanaged, hentered⟩ := Prod.mk.inj (Option.some.inj hfields)
    rw [helides.managed] at hmanaged
    exact ⟨d₀, d', hok, hok', helides, (List.cons.inj hmanaged).2,
      helides.nesting ▸ hentered⟩

end NativeBindings
