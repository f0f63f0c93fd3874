import NativeBindings.Proofs.Exit
import NativeBindings.Proofs.NativeDeclaration
import NativeBindings.Proofs.Nested
import NativeBindings.Proofs.TextBlocks

namespace NativeBindings

theorem oneLine_escape {name : String} (h : OneLine name) : OneLine (Identifier.escape name) := by
  rw [Identifier.escape]
  split
  · exact OneLine.append (by decide) h
  · exact h

namespace ManagedType

def NoBreaks (t : ManagedType) : Prop := OneLine t.name ∧ ∀ a ∈ t.attributes, OneLine a

instance (t : ManagedType) : Decidable t.NoBreaks := inferInstanceAs (Decidable (_ ∧ _))

variable {t : ManagedType} {name : String}

theorem NoBreaks.ofName (h : OneLine name) : (ofName name).NoBreaks :=
  ⟨h, List.forall_mem_nil _⟩

theorem NoBreaks.asReference (h : t.NoBreaks) : t.asReference.NoBreaks := h

theorem NoBreaks.parameterText (h : t.NoBreaks) (hname : OneLine name) :
    OneLine (t.parameterText name) := by
  have hattributes : OneLine (String.join (t.attributes.map fun a => "[" ++ a ++ "] ")) := by
    apply OneLine.join
    intro text htext
    obtain ⟨a, ha, rfl⟩ := List.mem_map.mp htext
    exact (OneLine.append (by decide) (h.2 a ha)).append (by decide)
  have href : OneLine (if t.byReference then "ref " else "") := by
    split <;> decide
  rw [ManagedType.parameterText]
  exact (((hattributes.append href).append h.1).append (by decide)).append hname

theorem visible_returnAttributes : ∀ line ∈ t.returnAttributes, Visible line := by
  intro line hline
  rw [ManagedType.returnAttributes] at hline
  split at hline
  case isTrue => cases hline
  case isFalse =>
  obtain rfl := Option.some.inj hline
  exact (Visible.append_left (by decide) _).append_left _

theorem NoBreaks.returnAttributes (h : t.NoBreaks) :
    ∀ line ∈ t.returnAttributes, IsLine line := by
  intro line hline
  refine ⟨?_, visible_returnAttributes line hline⟩
  rw [ManagedType.returnAttributes] at hline
  split at hline
  case isTrue => cases hline
  case isFalse =>
  obtain rfl := Option.some.inj hline
  exact ((by decide : OneLine "[return: ").append
    (OneLine.intercalate (by decide) h.2)).append (by decide)

end ManagedType

section Parts

def Argument.parts : Argument → List String
  | .var name | .reference name | .pointer name | .capacity name _ | .verbatim name => [name]
  | .member owner field => [owner, field]

def Result.parts : Result → List String
  | .var name | .textAt name => [name]
  | .handle className address => [className, address]

def Statement.parts : Statement → List String
  | .declare type name => [type, name]
  | .openBuffer name _ => [name]
  | .openText name argument => [name, argument]
  | .openBlock | .closeBlock => []
  | .ifFull buffer length | .growBuffer buffer length _ => [buffer, length]
  | .readBuffer target buffer length => target :: buffer :: length.toList
  | .check method status => [method, status]
  | .giveBack result => result.parts
  | .verbatim text => [text]

theorem Argument.oneLine_text {a : Argument} (h : ∀ x ∈ a.parts, OneLine x) : OneLine a.text := by
  cases a with
  | var name | verbatim name => exact h name List.mem_cons_self
  | reference name => exact OneLine.append (by decide) (h name List.mem_cons_self)
  | member owner field =>
    simp only [parts, List.forall_mem_cons] at h
    obtain ⟨howner, hfield, -⟩ := h
    exact (howner.append (by decide)).append hfield
  | pointer holder => exact (h holder List.mem_cons_self).append (by decide)
  | capacity buffer unsigned =>
    have hcapacity : OneLine (Marshalling.capacity buffer) :=
      (h buffer List.mem_cons_self).append (by decide)
    cases unsigned with
    | false => exact hcapacity
    | true => exact OneLine.append (by decide) hcapacity

theorem Result.oneLine_text {r : Result} (h : ∀ x ∈ r.parts, OneLine x) : OneLine r.text := by
  cases r with
  | var name => exact h name List.mem_cons_self
  | textAt address =>
    exact (OneLine.append (by decide) (h address List.mem_cons_self)).append (by decide)
  | handle className address =>
    simp only [parts, List.forall_mem_cons] at h
    simp only [text, Marshalling.wrapHandle, oneLine_append, h, and_true]
    decide

theorem Statement.oneLine_text {st : Statement} (h : ∀ x ∈ st.parts, OneLine x) :
    OneLine st.text := by
  cases st with
  | openBlock | closeBlock => decide
  | verbatim text => exact h text List.mem_cons_self
  | giveBack result =>
    simp only [text, oneLine_append, Result.oneLine_text h, and_true]
    decide
  | readBuffer target buffer length =>
    simp only [parts, List.forall_mem_cons] at h
    obtain ⟨htarget, hbuffer, hlength⟩ := h
    have hlength : OneLine (length.getD "") := by
      cases length with
      | none => decide
      | some name => exact hlength name List.mem_cons_self
    simp only [text, Marshalling.bufferText, oneLine_append, htarget, hbuffer, hlength, true_and,
      and_true]
    decide
  | openBuffer name capacity =>
    have hname := h name List.mem_cons_self
    have hcapacity := oneLine_toString capacity
    dsimp only [text]
    unfold Marshalling.openBuffer
    simp only [oneLine_append, hname, hcapacity, and_true]
    decide
  | growBuffer buffer length margin =>
    simp only [parts, List.forall_mem_cons] at h
    have hmargin := oneLine_toString margin
    simp only [text, Marshalling.growBuffer, oneLine_append, h, hmargin, true_and, and_true]
    decide
  | openText name argument =>
    simp only [parts, List.forall_mem_cons] at h
    dsimp only [text]
    unfold Marshalling.openText
    simp only [oneLine_append, h, and_true]
    decide
  | declare | ifFull | check =>
    simp only [parts, List.forall_mem_cons] at h
    simp only [text, Marshalling.capacity, oneLine_append, h, true_and, and_true]
    decide

end Parts

structure Settings.NoBreaks (settings : Settings) : Prop where
  library : OneLine settings.library
  nativeClass : OneLine settings.nativeClass
  errorCheck : OneLine settings.errorCheck
  handleField : OneLine settings.handleField
  enums : ∀ e ∈ settings.enums, OneLine e.2
  handles : ∀ e ∈ settings.handles, OneLine e.2

structure Signature.NoBreaks (s : Signature) : Prop where
  nativeName : OneLine s.nativeName
  managedName : OneLine s.managedName
  parameters : ∀ q ∈ s.parameters, OneLine q.name ∧ OneLine q.type.text
  returns : OneLine s.returns.text

namespace Settings.NoBreaks

variable {settings : Settings} {t : NativeType} {type : ManagedType}

theorem scalar (h : settings.NoBreaks) (ht : settings.scalar? t = some type) : type.NoBreaks := by
  rcases Settings.scalar?_cases ht with ⟨primitive, rfl⟩ | ⟨e, he, rfl⟩
  · cases primitive <;> decide
  · exact .ofName (h.enums e he)

theorem referenceScalar (h : settings.NoBreaks) (ht : settings.referenceScalar? t = some type) :
    type.NoBreaks := by
  rw [Settings.referenceScalar?] at ht
  split at ht
  · cases ht
  · exact h.scalar ht

theorem handleClass (h : settings.NoBreaks) {className : String}
    (ht : settings.handleClass? t = some className) : OneLine className := by
  obtain ⟨name, -, hname⟩ := Option.bind_eq_some_iff.mp ht
  exact h.handles _ (NameTable.mem_of_lookup hname)

theorem ignoredReturn (h : settings.NoBreaks)
    (ht : Rule.ignoredReturn? settings t = some type) : type.NoBreaks := by
  rw [Rule.ignoredReturn?] at ht
  split at ht
  · cases ht
  split at ht
  · cases ht
    decide
  split at ht
  · cases ht
    decide
  · exact h.scalar ht

end Settings.NoBreaks

variable {settings : Settings} {s : Signature} {commits : List Commit} {w : Work} {c : Commit}

theorem Marshalling.oneLine_inputLocal {name : String} (h : OneLine name) :
    OneLine (inputLocal name) := OneLine.append (by decide) h

theorem Marshalling.oneLine_outputLocal {name : String} (h : OneLine name) :
    OneLine (outputLocal name) := OneLine.append (by decide) h

namespace Commit

variable {p : Progress} {st : Statement} {scope : Scope}

theorem Fits.nativeParameters_noBreaks (hfits : c.Fits settings p) (h : settings.NoBreaks)
    (hnames : ∀ q ∈ c.parameters, OneLine q.name) :
    ∀ n ∈ c.nativeParameters settings,
      OneLine n.name ∧ n.type.NoBreaks ∧ ∀ x ∈ n.argument.parts, OneLine x := by
  have hpointer : ManagedType.intPtr.NoBreaks := by decide
  have hfield : ∀ {owner : String}, OneLine owner →
      ∀ x ∈ [owner, settings.handleField], OneLine x := by
    intro owner howner
    exact List.forall_mem_cons.mpr ⟨howner, List.forall_mem_singleton.mpr h.handleField⟩
  cases c with
  | scalar q type =>
    have hname := oneLine_escape (hnames q List.mem_cons_self)
    have htype := h.scalar hfits.2
    exact List.forall_mem_singleton.mpr ⟨hname, htype, List.forall_mem_singleton.mpr hname⟩
  | reference q type =>
    have hname := oneLine_escape (hnames q List.mem_cons_self)
    obtain ⟨-, base, -, hbase⟩ := hfits
    have htype := (h.referenceScalar hbase).asReference
    exact List.forall_mem_singleton.mpr ⟨hname, htype, List.forall_mem_singleton.mpr hname⟩
  | receiver q =>
    have hname := oneLine_escape (hnames q List.mem_cons_self)
    exact List.forall_mem_singleton.mpr ⟨hname, hpointer, hfield (by decide)⟩
  | handle q className =>
    have hname := oneLine_escape (hnames q List.mem_cons_self)
    exact List.forall_mem_singleton.mpr ⟨hname, hpointer, hfield hname⟩
  | text q =>
    have hname := hnames q List.mem_cons_self
    have hholder := List.forall_mem_singleton.mpr (Marshalling.oneLine_inputLocal hname)
    exact List.forall_mem_singleton.mpr ⟨oneLine_escape hname, hpointer, hholder⟩
  | growableText buffer size length =>
    have hbuffer := hnames buffer List.mem_cons_self
    have hsize := hnames size (List.mem_cons_of_mem _ List.mem_cons_self)
    obtain ⟨-, -, -, -, -, -, -, hlength⟩ := hfits
    have hholder := List.forall_mem_singleton.mpr (Marshalling.oneLine_outputLocal hbuffer)
    exact List.forall_mem_cons.mpr ⟨⟨oneLine_escape hbuffer, hpointer, hholder⟩,
      List.forall_mem_singleton.mpr ⟨oneLine_escape hsize, h.scalar hlength, hholder⟩⟩
  | fixedText buffer size ignored =>
    have hbuffer := hnames buffer List.mem_cons_self
    have hholder := List.forall_mem_singleton.mpr (Marshalling.oneLine_outputLocal hbuffer)
    have hfirst : OneLine "buffer" := by decide
    have hsecond : OneLine "buffer_size" ∧ ManagedType.int.NoBreaks := by decide
    exact List.forall_mem_cons.mpr ⟨⟨hfirst, hpointer, hholder⟩,
      List.forall_mem_singleton.mpr ⟨hsecond.1, hsecond.2, hholder⟩⟩
  | _ => exact List.forall_mem_nil _

theorem Fits.managedParameters_noBreaks (hfits : c.Fits settings p) (h : settings.NoBreaks)
    (hnames : ∀ q ∈ c.parameters, OneLine q.name) :
    ∀ m ∈ c.managedParameters, OneLine m.name ∧ m.type.NoBreaks := by
  cases c with
  | scalar q type =>
    have hname := oneLine_escape (hnames q List.mem_cons_self)
    exact List.forall_mem_singleton.mpr ⟨hname, h.scalar hfits.2⟩
  | reference q type =>
    have hname := oneLine_escape (hnames q List.mem_cons_self)
    obtain ⟨-, base, -, hbase⟩ := hfits
    exact List.forall_mem_singleton.mpr ⟨hname, (h.referenceScalar hbase).asReference⟩
  | handle q className =>
    have hname := oneLine_escape (hnames q List.mem_cons_self)
    exact List.forall_mem_singleton.mpr ⟨hname, .ofName (h.handleClass hfits.2)⟩
  | text q =>
    have hname := oneLine_escape (hnames q List.mem_cons_self)
    have hstring : ManagedType.string.NoBreaks := by decide
    exact List.forall_mem_singleton.mpr ⟨hname, hstring⟩
  | _ => exact List.forall_mem_nil _

theorem Fits.declaration_noBreaks (hfits : c.Fits settings p) (h : settings.NoBreaks)
    (hst : st ∈ c.declarations) : ∀ x ∈ st.parts, OneLine x := by
  have hscalar : ∀ {type : ManagedType} {name : String},
      settings.scalar? p.signature.returns = some type → OneLine name →
      ∀ x ∈ (Statement.declare type.name name).parts, OneLine x := by
    intro type name htype hname
    exact List.forall_mem_cons.mpr ⟨(h.scalar htype).1, List.forall_mem_singleton.mpr hname⟩
  cases c with
  | growableText | fixedText | returnHandle | returnText =>
    simp only [declarations, List.mem_cons, List.not_mem_nil, or_false] at hst
    rcases hst with rfl | rfl <;> decide
  | returnStatus type =>
    rw [List.mem_singleton.mp hst]
    exact hscalar hfits.1 (by decide)
  | returnScalar type =>
    rw [List.mem_singleton.mp hst]
    exact hscalar hfits (by decide)
  | _ => cases hst

theorem scope_noBreaks (hscope : c.scope? = some scope)
    (hnames : ∀ q ∈ c.parameters, OneLine q.name) :
    (∀ x ∈ scope.header.parts, OneLine x) ∧
      ∀ line ∈ scope.inner, ∀ st, line.content = .statement st → ∀ x ∈ st.parts, OneLine x := by
  have hvariables : OneLine Rule.textVariable ∧ OneLine Rule.lengthVariable := by decide
  cases c with
  | growableText buffer size length =>
    obtain rfl := Option.some.inj hscope
    have hholder := Marshalling.oneLine_outputLocal (hnames buffer List.mem_cons_self)
    refine ⟨List.forall_mem_singleton.mpr hholder, ?_⟩
    simp [growthLines, Statement.parts, hholder, hvariables]
  | fixedText buffer size ignored =>
    obtain rfl := Option.some.inj hscope
    have hholder := Marshalling.oneLine_outputLocal (hnames buffer List.mem_cons_self)
    refine ⟨List.forall_mem_singleton.mpr hholder, ?_⟩
    simp [Statement.parts, hholder, hvariables]
  | text q =>
    obtain rfl := Option.some.inj hscope
    have hname := hnames q List.mem_cons_self
    refine ⟨?_, List.forall_mem_nil _⟩
    simp [Statement.parts, oneLine_escape hname, Marshalling.oneLine_inputLocal hname]
  | _ => cases hscope

theorem Fits.result_noBreaks (hfits : c.Fits settings p) (h : settings.NoBreaks)
    (hst : st ∈ c.results settings) : ∀ x ∈ st.parts, OneLine x := by
  cases c with
  | growableText | fixedText | returnScalar | returnText =>
    rw [List.mem_singleton.mp hst]
    decide
  | returnStatus type =>
    rw [List.mem_singleton.mp hst]
    exact List.forall_mem_cons.mpr ⟨h.errorCheck, by decide⟩
  | returnHandle className =>
    rw [List.mem_singleton.mp hst]
    exact List.forall_mem_cons.mpr ⟨h.handleClass hfits, by decide⟩
  | _ => cases hst

theorem Fits.writes_noBreaks (hfits : c.Fits settings p) (h : settings.NoBreaks)
    (hnames : ∀ q ∈ c.parameters, OneLine q.name) (hst : c.Writes settings (.statement st)) :
    OneLine st.text := by
  apply Statement.oneLine_text
  cases hst with
  | declaration hst => exact hfits.declaration_noBreaks h hst
  | header hscope hst => exact hst ▸ (scope_noBreaks hscope hnames).1
  | inner hscope hline hcontent => exact (scope_noBreaks hscope hnames).2 _ hline st hcontent
  | result hst => exact hfits.result_noBreaks h hst

theorem Fits.nativeReturn_noBreaks (hfits : c.Fits settings p) (h : settings.NoBreaks)
    {type : ManagedType} {target : Option String} (hreturn : c.nativeReturn? = some (type, target)) :
    type.NoBreaks ∧ ∀ v ∈ target, OneLine v := by
  cases c with
  | growableText | returnHandle | returnText =>
    cases hreturn
    decide
  | fixedText buffer size ignored =>
    obtain ⟨-, -, -, -, -, -, rfl⟩ := hfits
    obtain ⟨type', htype, heq⟩ := Option.map_eq_some_iff.mp hreturn
    cases heq
    split at htype
    · cases htype
    · exact ⟨h.ignoredReturn htype, by simp⟩
  | returnStatus type' =>
    cases hreturn
    exact ⟨h.scalar hfits.1, by decide⟩
  | returnScalar type' =>
    cases hreturn
    exact ⟨h.scalar hfits, by decide⟩
  | _ => cases hreturn

theorem Fits.managedReturn_noBreaks (hfits : c.Fits settings p) (h : settings.NoBreaks)
    {type : ManagedType} (hreturn : c.managedReturn? = some type) : type.NoBreaks := by
  cases c with
  | growableText | fixedText | returnText =>
    cases hreturn
    decide
  | returnScalar type' =>
    cases hreturn
    exact h.scalar hfits
  | returnHandle className =>
    cases hreturn
    exact .ofName (h.handleClass hfits)
  | _ => cases hreturn

end Commit

/-- A draft none of whose names holds a line break, those in the statements of its body included. -/
structure Draft.NoBreaks (d : Draft) : Prop where
  nativeName : OneLine d.nativeName
  managedName : OneLine d.managedName
  library : OneLine d.library
  nativeClass : OneLine d.nativeClass
  nativeParameters : ∀ n ∈ d.nativeParameters,
    OneLine n.name ∧ n.type.NoBreaks ∧ ∀ x ∈ n.argument.parts, OneLine x
  managedParameters : ∀ m ∈ d.managedParameters, OneLine m.name ∧ m.type.NoBreaks
  body : ∀ line ∈ d.body, ∀ st, line.content = .statement st → OneLine st.text
  nativeReturn : d.nativeReturn.NoBreaks
  returnVariable : ∀ v ∈ d.returnVariable, OneLine v
  managedReturn : d.managedReturn.NoBreaks

namespace Reached

theorem managedName_eq (h : Reached settings s commits w) :
    w.draft.managedName = s.managedName := by
  induction h with
  | start => rfl
  | step _ _ ih => exact ih

theorem returns_noBreaks (h : Reached settings s commits w) (hset : settings.NoBreaks) :
    w.draft.nativeReturn.NoBreaks ∧ (∀ v ∈ w.draft.returnVariable, OneLine v) ∧
      w.draft.managedReturn.NoBreaks := by
  -- Each rule leaves what the draft has, or puts its own types in its place.
  induction h with
  | start =>
    change ManagedType.void.NoBreaks ∧ (∀ v ∈ (none : Option String), OneLine v) ∧
      ManagedType.void.NoBreaks
    decide
  | @step commits w c h hc ih =>
    obtain ⟨hnative, hvariable, hmanaged⟩ := ih
    simp only [Work.commit, Draft.extend]
    refine ⟨?_, ?_, ?_⟩
    · cases hreturn : c.nativeReturn? with
      | none => exact hnative
      | some target => exact (hc.fits.nativeReturn_noBreaks hset hreturn).1
    · cases hreturn : c.nativeReturn? with
      | none => exact hvariable
      | some target => exact (hc.fits.nativeReturn_noBreaks hset hreturn).2
    · cases hreturn : c.managedReturn? with
      | none => exact hmanaged
      | some type => exact hc.fits.managedReturn_noBreaks hset hreturn

theorem noBreaks (h : Reached settings s commits w) (hset : settings.NoBreaks) (hs : s.NoBreaks) :
    w.draft.NoBreaks := by
  have hnames : ∀ c ∈ commits, ∀ q ∈ c.parameters, OneLine q.name := by
    intro c hc q hq
    refine (hs.parameters q ?_).1
    rw [h.parameters_eq]
    exact List.mem_append_left _ (List.mem_flatMap.mpr ⟨c, hc, hq⟩)
  obtain ⟨hnative, hvariable, hmanaged⟩ := h.returns_noBreaks hset
  refine {
    nativeName := h.nativeName_eq ▸ hs.nativeName
    managedName := h.managedName_eq ▸ hs.managedName
    library := h.library_eq ▸ hset.library
    nativeClass := h.nativeClass_eq ▸ hset.nativeClass
    nativeParameters := ?_
    managedParameters := ?_
    body := ?_
    nativeReturn := hnative
    returnVariable := hvariable
    managedReturn := hmanaged }
  · intro n hn
    rw [h.nativeParameters_eq] at hn
    obtain ⟨c, hc, hn⟩ := List.mem_flatMap.mp hn
    obtain ⟨p, -, hchosen⟩ := h.exists_chosen hc
    exact hchosen.fits.nativeParameters_noBreaks hset (hnames c hc) n hn
  · intro m hm
    rw [h.managedParameters_eq] at hm
    obtain ⟨c, hc, hm⟩ := List.mem_flatMap.mp hm
    obtain ⟨p, -, hchosen⟩ := h.exists_chosen hc
    exact hchosen.fits.managedParameters_noBreaks hset (hnames c hc) m hm
  · intro line hline st hcontent
    rcases h.writes_of_mem hline with heq | heq | heq | ⟨c, hc, hwrites⟩
    · rw [heq] at hcontent
      cases hcontent
    · rw [heq] at hcontent
      cases hcontent
      decide
    · rw [heq] at hcontent
      cases hcontent
      decide
    · rw [hcontent] at hwrites
      obtain ⟨p, -, hchosen⟩ := h.exists_chosen hc
      exact hchosen.fits.writes_noBreaks hset (hnames c hc) hwrites

end Reached

namespace Draft

variable {d : Draft}

theorem NoBreaks.nativeParameterText (h : d.NoBreaks) : OneLine d.nativeParameterText := by
  apply OneLine.intercalate (by decide)
  intro text htext
  obtain ⟨n, hn, rfl⟩ := List.mem_map.mp htext
  obtain ⟨hname, htype, -⟩ := h.nativeParameters n hn
  exact htype.parameterText hname

theorem NoBreaks.managedParameterText (h : d.NoBreaks) : OneLine d.managedParameterText := by
  apply OneLine.intercalate (by decide)
  intro text htext
  obtain ⟨m, hm, rfl⟩ := List.mem_map.mp htext
  obtain ⟨hname, htype⟩ := h.managedParameters m hm
  exact htype.parameterText hname

theorem NoBreaks.callText (h : d.NoBreaks) : OneLine d.callText := by
  have harguments : OneLine (", ".intercalate (d.nativeParameters.map fun n => n.argument.text)) := by
    apply OneLine.intercalate (by decide)
    intro text htext
    obtain ⟨n, hn, rfl⟩ := List.mem_map.mp htext
    exact Argument.oneLine_text (h.nativeParameters n hn).2.2
  have hcall : OneLine (d.nativeClass ++ "." ++ d.nativeName ++ "(" ++
      ", ".intercalate (d.nativeParameters.map fun n => n.argument.text) ++ ");") := by
    simp only [oneLine_append, h.nativeClass, h.nativeName, harguments, true_and, and_true]
    decide
  rw [Draft.callText]
  cases hv : d.returnVariable with
  | none => exact hcall
  | some v => exact ((h.returnVariable v hv).append (by decide)).append hcall

theorem NoBreaks.lineText (h : d.NoBreaks) {line : Line} (hline : line ∈ d.body) :
    OneLine (d.lineText line) := by
  rw [Draft.lineText]
  split
  case h_1 st hcontent => exact h.body line hline st hcontent
  case h_2 => exact h.callText

theorem visible_callText (d : Draft) : Visible d.callText := by
  rw [Draft.callText]
  cases d.returnVariable with
  | none => exact Visible.append_right _ (by decide)
  | some v => exact Visible.append_right _ (Visible.append_right _ (by decide))

end Draft

theorem Statement.visible_text {st : Statement} (h : st.isPlain = true ∨ st.isUsing = true) :
    Visible st.text := by
  cases st with
  | openBlock | closeBlock | verbatim => rcases h with h | h <;> cases h
  | _ => exact Visible.append_right _ (by decide)

theorem Nested.visible_lineText {depth : Nat} {lines : List Line} (h : Nested depth lines)
    (d : Draft) : ∀ line ∈ lines, Visible (d.lineText line) := by
  have hcontent : ∀ {depth : Nat} {content : LineContent},
      content.isPlain = true ∨ content.isUsing = true → Visible (d.lineText ⟨depth, content⟩) := by
    intro depth content h
    cases content with
    | statement st => exact Statement.visible_text h
    | nativeCall => exact d.visible_callText
  induction h with
  | nil => exact List.forall_mem_nil _
  | line hplain _ ih => exact List.forall_mem_cons.mpr ⟨hcontent (.inl hplain), ih⟩
  | @block depth header inner rest hheader _ _ ihinner ih =>
    have hopen : Visible (Statement.text .openBlock) := by decide
    have hclose : Visible (Statement.text .closeBlock) := by decide
    simp only [List.forall_mem_cons, List.forall_mem_append]
    exact ⟨hcontent hheader, hopen, ihinner, hclose, ih⟩

namespace Draft

variable {d : Draft}

theorem NoBreaks.declaration (h : d.NoBreaks) {before after : String} (hbefore : OneLine before)
    (hafter : OneLine after) :
    IsLine (before ++ d.nativeReturn.name ++ " " ++ d.nativeName ++ after ++
      d.nativeParameterText ++ ");") := by
  constructor
  · simp only [oneLine_append, hbefore, hafter, h.nativeReturn.1, h.nativeName,
      h.nativeParameterText, true_and, and_true]
    decide
  · exact Visible.append_right _ (by decide)

theorem NoBreaks.delegateLines (h : d.NoBreaks) : ∀ line ∈ d.delegateLines, IsLine line := by
  intro line hline
  rcases List.mem_append.mp hline with hattributes | hdeclaration
  · exact h.nativeReturn.returnAttributes line (Option.mem_toList.mp hattributes)
  · obtain rfl := List.mem_singleton.mp hdeclaration
    exact h.declaration (by decide) (by decide)

theorem NoBreaks.importLines (h : d.NoBreaks) : ∀ line ∈ d.importLines, IsLine line := by
  intro line hline
  rw [Draft.importLines, List.append_assoc, List.singleton_append] at hline
  rcases List.mem_cons.mp hline with rfl | hline
  · constructor
    · simp only [oneLine_append, h.library, and_true]
      decide
    · exact Visible.append_right _ (by decide)
  rcases List.mem_append.mp hline with hattributes | hdeclaration
  · exact h.nativeReturn.returnAttributes line (Option.mem_toList.mp hattributes)
  · obtain rfl := List.mem_singleton.mp hdeclaration
    exact h.declaration (by decide) (by decide)

theorem NoBreaks.headerLine (h : d.NoBreaks) : OneLine d.headerLine := by
  have hstatic : OneLine (if d.isInstance then "" else "static ") := by
    split <;> decide
  unfold Draft.headerLine
  simp only [oneLine_append, hstatic, h.managedReturn.1, h.managedName, h.managedParameterText,
    and_true]
  decide

theorem visible_headerLine (d : Draft) : Visible d.headerLine := by
  unfold Draft.headerLine
  exact Visible.append_right _ (by decide)

theorem NoBreaks.oneLine_wrapperLines (h : d.NoBreaks) : ∀ line ∈ d.wrapperLines, OneLine line := by
  intro line hline
  rw [Draft.wrapperLines] at hline
  split at hline
  case isFalse =>
    obtain rfl := List.mem_singleton.mp hline
    simp only [oneLine_append, h.nativeName, and_true]
    decide
  case isTrue =>
  simp only [List.mem_append, List.mem_cons, List.not_mem_nil, or_false, Option.mem_toList,
    List.mem_map] at hline
  rcases hline with ((hattributes | rfl | rfl) | ⟨line, hbody, rfl⟩) | rfl
  · exact (h.managedReturn.returnAttributes line hattributes).1
  · exact h.headerLine
  · decide
  · exact (oneLine_replicate (by decide) _).append (h.lineText hbody)
  · decide

theorem visible_wrapperLines (d : Draft) (hnested : Nested 0 d.body) :
    ∀ line ∈ d.wrapperLines, Visible line := by
  intro line hline
  rw [Draft.wrapperLines] at hline
  split at hline
  case isFalse =>
    obtain rfl := List.mem_singleton.mp hline
    exact Visible.append_right _ (by decide)
  case isTrue =>
  simp only [List.mem_append, List.mem_cons, List.not_mem_nil, or_false, Option.mem_toList,
    List.mem_map] at hline
  rcases hline with ((hattributes | rfl | rfl) | ⟨line, hbody, rfl⟩) | rfl
  · exact ManagedType.visible_returnAttributes line hattributes
  · exact d.visible_headerLine
  · decide
  · exact (hnested.visible_lineText d line hbody).append_right _
  · decide

end Draft

theorem isLine_skipLine {name : String} {e : BindError} (hname : OneLine name)
    (he : OneLine e.reason) : IsLine (Outcome.skipLine name e) := by
  constructor
  · exact (((OneLine.append (by decide) hname).append (by decide)).append he).append (by decide)
  · exact Visible.append_right _ (by decide)

def BindError.NoBreaks : BindError → Prop
  | noParameterRule function _ parameter type =>
    OneLine function ∧ OneLine parameter ∧ OneLine type.text
  | noReturnRule function type => OneLine function ∧ OneLine type.text
  | incomplete function _ _ => OneLine function

theorem BindError.NoBreaks.reason {e : BindError} (h : e.NoBreaks) : OneLine e.reason := by
  cases e with
  | noParameterRule function index parameter type =>
    exact ((OneLine.append (by decide) h.2.1).append (by decide)).append h.2.2
  | noReturnRule function type => exact OneLine.append (by decide) h.2
  | incomplete function consumed total =>
    have hconsumed := oneLine_toString consumed
    have htotal := oneLine_toString total
    exact ((hconsumed.append (by decide)).append htotal).append (by decide)

theorem Signature.NoBreaks.error {e : BindError} (hs : s.NoBreaks)
    (h : bindFunction settings s = .error e) : e.NoBreaks := by
  rcases bindFunction_end settings s with
    ⟨-, -, d, hok⟩ | ⟨i, q, hq, -, -, herror⟩ | ⟨-, -, herror⟩
  · rw [h] at hok
    cases hok
  · rw [h] at herror
    cases herror
    exact ⟨hs.nativeName, hs.parameters q (List.mem_of_getElem? hq)⟩
  · rw [h] at herror
    cases herror
    exact ⟨hs.nativeName, hs.returns⟩

namespace Outcome

theorem lines_ne_nil (o : Outcome) :
    o.delegateLines ≠ [] ∧ o.importLines ≠ [] ∧ o.wrapperLines ≠ [] := by
  cases o with
  | skipped name e => exact ⟨List.cons_ne_nil _ _, List.cons_ne_nil _ _, List.cons_ne_nil _ _⟩
  | bound d =>
    refine ⟨?_, ?_, ?_⟩
    · simp [delegateLines, Draft.delegateLines]
    · simp [importLines, Draft.importLines]
    · rw [wrapperLines, Draft.wrapperLines]
      split <;> simp

theorem lines_isLine (hset : settings.NoBreaks) (hs : s.NoBreaks) :
    let o := Outcome.ofSignature settings s
    (∀ line ∈ o.delegateLines, IsLine line) ∧ (∀ line ∈ o.importLines, IsLine line) ∧
      ∀ line ∈ o.wrapperLines, IsLine line := by
  intro o
  cases hbind : bindFunction settings s with
  | ok d =>
    have ho : o = .bound d := by simp only [o, ofSignature, hbind]
    obtain ⟨commits, w, hw, rfl, -⟩ := Reached.of_bindFunction hbind
    have hdraft := hw.noBreaks hset hs
    rw [ho]
    exact ⟨hdraft.delegateLines, hdraft.importLines, fun line hline =>
      ⟨hdraft.oneLine_wrapperLines line hline, w.draft.visible_wrapperLines hw.nested line hline⟩⟩
  | error e =>
    have ho : o = .skipped s.nativeName e := by simp only [o, ofSignature, hbind]
    have hline := List.forall_mem_singleton.mpr
      (isLine_skipLine hs.nativeName (hs.error hbind).reason)
    rw [ho]
    exact ⟨hline, hline, hline⟩

end Outcome

end NativeBindings
