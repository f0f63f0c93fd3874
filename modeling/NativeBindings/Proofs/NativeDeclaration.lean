import NativeBindings.NativeType.Spelling
import NativeBindings.Proofs.Domain

namespace NativeBindings

instance {settings : Settings} {name : String} : Decidable (settings.IsHandle name) :=
  inferInstanceAs (Decidable (_ ∈ _))

instance {settings : Settings} {name : String} : Decidable (settings.IsEnum name) :=
  inferInstanceAs (Decidable (_ ∈ _))

def parameterImage? (settings : Settings) (s : Signature) (i : Nat) (t : NativeType) :
    Option ManagedType :=
  if i = 0 ∧ ∃ name ∈ s.receiver, t = .pointer (.named name) then some .intPtr
  else
    match t with
    | .named name => settings.scalar? (.named name)
    | .pointer (.named name) =>
      if settings.IsHandle name ∨ name = "char" then some .intPtr
      else (settings.referenceScalar? (.named name)).map .asReference
    | _ => none

def returnImage? (settings : Settings) : NativeType → Option ManagedType
  | .named name =>
    match settings.scalar? (.named name) with
    | some type => some type
    | none => if name = "void" then some .void else none
  | .pointer (.named name) =>
    if settings.IsHandle name ∨ name = "char" then some .intPtr else none
  | _ => none

/-- A fixed buffer takes a return value that is nothing before the rules for scalars can find an
enum of that name. -/
def HidesVoidEnum (settings : Settings) (returns : NativeType) : Prop :=
  returns = .named "void" ∧ settings.IsEnum "void" ∧ settings.errorType ≠ "void"

instance {settings : Settings} {t : NativeType} : Decidable (HidesVoidEnum settings t) :=
  inferInstanceAs (Decidable (_ ∧ _ ∧ _))

variable {settings : Settings} {s : Signature} {p : Progress} {q : Parameter} {c : Commit}
  {commits : List Commit} {w : Work}

section Image

variable {i : Nat} {t : NativeType} {name : String}

theorem parameterImage?_receiver (hi : i = 0) (hname : s.receiver = some name) :
    parameterImage? settings s i (.pointer (.named name)) = some .intPtr := by
  rw [parameterImage?, if_pos ⟨hi, name, hname, rfl⟩]

theorem parameterImage?_named :
    parameterImage? settings s i (.named name) = settings.scalar? (.named name) := by
  rw [parameterImage?, if_neg]
  rintro ⟨-, _, -, h⟩
  cases h

theorem parameterImage?_pointer (h : settings.IsHandle name ∨ name = "char") :
    parameterImage? settings s i (.pointer (.named name)) = some .intPtr := by
  simp only [parameterImage?, if_pos h, ite_self]

theorem parameterImage?_reference
    (hreceiver : ¬ (i = 0 ∧ s.receiver = some name)) (h : ¬ (settings.IsHandle name ∨ name = "char")) :
    parameterImage? settings s i (.pointer (.named name)) =
      (settings.referenceScalar? (.named name)).map .asReference := by
  rw [parameterImage?, if_neg]
  · exact if_neg h
  · rintro ⟨hi, name', hname', heq⟩
    cases heq
    exact hreceiver ⟨hi, hname'⟩

theorem returnImage?_of_scalar {type : ManagedType} (h : settings.scalar? t = some type) :
    returnImage? settings t = some type := by
  obtain ⟨name, rfl, -⟩ := Settings.scalar?_isSome_iff.mp (Option.isSome_of_eq_some h)
  rw [returnImage?, h]

theorem returnImage?_void (h : settings.scalar? (.named "void") = none) :
    returnImage? settings (.named "void") = some .void := by
  rw [returnImage?, h]
  rfl

theorem returnImage?_handle (h : (settings.handleClass? t).isSome) :
    returnImage? settings t = some .intPtr := by
  obtain ⟨name, rfl, hhandle⟩ := Settings.handleClass?_isSome_iff.mp h
  rw [returnImage?, if_pos (.inl hhandle)]

theorem returnImage?_cString :
    returnImage? settings (.pointer (.named "char")) = some .intPtr := by
  rw [returnImage?, if_pos (.inr rfl)]

end Image

namespace Commit

theorem Chosen.nativeParameters_image (h : c.Chosen settings p) :
    (c.nativeParameters settings).map (fun n => (n.name, some n.type)) =
      c.parameters.mapIdx fun k q =>
        (Identifier.escape q.name, parameterImage? settings p.signature (p.index + k) q.type) := by
  have hfits := h.fits
  cases c with
  | scalar q type =>
    obtain ⟨-, htype⟩ := hfits
    obtain ⟨name, hname, -⟩ := Settings.scalar?_isSome_iff.mp (Option.isSome_of_eq_some htype)
    rw [hname] at htype
    simp [nativeParameters, parameters, hname, parameterImage?_named, htype]
  | receiver q =>
    obtain ⟨-, hindex, name, hreceiver, hname⟩ := hfits
    simp [nativeParameters, parameters, hname, parameterImage?_receiver hindex hreceiver]
  | handle q className =>
    obtain ⟨-, hclass⟩ := hfits
    obtain ⟨name, hname, hhandle⟩ :=
      Settings.handleClass?_isSome_iff.mp (Option.isSome_of_eq_some hclass)
    simp [nativeParameters, parameters, hname, parameterImage?_pointer (.inl hhandle)]
  | growableText buffer size length =>
    obtain ⟨-, -, hc, hsize, -, -, -, hlength⟩ := hfits
    have hnamed : ∃ name, size.type = .named name := by
      rcases hsize with h | h <;> exact ⟨_, h⟩
    obtain ⟨name, hname⟩ := hnamed
    rw [hname] at hlength
    simp [nativeParameters, parameters, hc, hname, parameterImage?_pointer, parameterImage?_named,
      hlength]
  | fixedText buffer size ignored =>
    obtain ⟨-, -, hbuffer, hsize, hc, hint, -⟩ := hfits
    have hescape : Identifier.escape "buffer" = "buffer" ∧
        Identifier.escape "buffer_size" = "buffer_size" := by decide
    simp [nativeParameters, parameters, hc, hint, hbuffer, hsize, hescape,
      parameterImage?_pointer, parameterImage?_named, Settings.scalar?, Settings.scalarNamed?,
      NativeType.name?, Primitive.ofName?, Primitive.managedType]
  | text q =>
    obtain ⟨-, hc⟩ := hfits
    simp [nativeParameters, parameters, hc, parameterImage?_pointer]
  | reference q type =>
    obtain ⟨hq, base, hbase, htype⟩ := hfits
    obtain ⟨name, rfl, -⟩ :=
      Settings.referenceScalar?_isSome_iff.mp (Option.isSome_of_eq_some htype)
    have hreceiver : ¬ (p.index = 0 ∧ p.signature.receiver = some name) := by
      rintro ⟨hindex, hname⟩
      exact h.not_fits (.receiver q) rfl rfl (by decide)
        ⟨hq, hindex, name, hname, hbase⟩
    have hpointer : ¬ (settings.IsHandle name ∨ name = "char") := by
      rintro (hhandle | rfl)
      · obtain ⟨className, hclass⟩ := Option.isSome_iff_exists.mp
          (Settings.handleClass?_isSome_iff.mpr ⟨name, hbase, hhandle⟩)
        exact h.not_fits (.handle q className) rfl rfl (by decide) ⟨hq, hclass⟩
      · exact h.not_fits (.text q) rfl rfl (by decide) ⟨hq, hbase⟩
    simp [nativeParameters, parameters, hbase, parameterImage?_reference hreceiver hpointer, htype]
  | _ => rfl

theorem ignoredReturn?_image {t : NativeType} {type : ManagedType}
    (h : Rule.ignoredReturn? settings t = some type) :
    some type = if HidesVoidEnum settings t then some .void else returnImage? settings t := by
  rw [Rule.ignoredReturn?] at h
  split at h
  case isTrue => cases h
  case isFalse hstatus =>
  split at h
  case isTrue hpointer =>
    cases h
    rcases hpointer with hc | hhandle
    · rw [NativeType.isCString_iff.mp hc, if_neg (by simp [HidesVoidEnum]), returnImage?_cString]
    · obtain ⟨name, rfl, -⟩ := Settings.handleClass?_isSome_iff.mp hhandle
      rw [if_neg (by simp [HidesVoidEnum]), returnImage?_handle hhandle]
  split at h
  case isTrue hvoid =>
    cases h
    obtain rfl := NativeType.isVoid_iff.mp hvoid
    split
    case isTrue => rfl
    case isFalse hplain =>
      have herror : settings.errorType ≠ "void" := by
        rintro heq
        exact hstatus (Settings.isStatusCode_iff.mpr (by rw [heq]))
      have henum : ¬ settings.IsEnum "void" := fun henum => hplain ⟨rfl, henum, herror⟩
      have hscalar : settings.scalar? (.named "void") = none := by
        rw [← Option.not_isSome_iff_eq_none, Settings.scalar?_isSome_iff]
        simp [Settings.IsScalar, henum]
      rw [returnImage?_void hscalar]
  case isFalse hvoid =>
    rw [if_neg fun hexcept => hvoid (NativeType.isVoid_iff.mpr hexcept.1),
      returnImage?_of_scalar h]

theorem not_hidesVoidEnum_of_ignoredReturn {t : NativeType}
    (h : Rule.ignoredReturn? settings t = none) : ¬ HidesVoidEnum settings t := by
  rintro ⟨rfl, -, herror⟩
  have hstatus : settings.isStatusCode (.named "void") = false := by
    rw [← Bool.not_eq_true, Settings.isStatusCode_iff]
    simpa using herror.symm
  simp [Rule.ignoredReturn?, hstatus, NativeType.isCString_iff, NativeType.isVoid_iff,
    Settings.handleClass?, NativeType.baseName?, NativeType.base?] at h

theorem Chosen.return_image {r : ReturnRule} (h : c.Chosen settings p) (hr : c.rule = .inr r) :
    some (c.nativeReturn?.elim .void (·.1)) = returnImage? settings p.signature.returns := by
  have hfits := h.fits
  cases c with
  | returnStatus type => exact (returnImage?_of_scalar hfits.1).symm
  | returnScalar type => exact (returnImage?_of_scalar hfits).symm
  | returnHandle className => exact (returnImage?_handle (Option.isSome_of_eq_some hfits)).symm
  | returnNothing =>
    have hvoid : p.signature.returns = .named "void" := hfits
    have hscalar : settings.scalar? p.signature.returns = none := by
      rw [Option.eq_none_iff_forall_ne_some]
      exact fun type htype =>
        h.return_not_fits (.returnScalar type) rfl rfl (by decide) htype
    rw [hvoid] at hscalar ⊢
    exact (returnImage?_void hscalar).symm
  | returnText =>
    rw [show p.signature.returns = _ from hfits]
    exact returnImage?_cString.symm
  | _ => cases hr

end Commit

namespace Reached

theorem index_eq (h : Reached settings s commits w) :
    w.progress.index = (commits.flatMap Commit.parameters).length := by
  induction h with
  | start => rfl
  | @step commits w c _ _ ih => simp [Work.commit, Progress.after, ih]

theorem nativeParameters_image (h : Reached settings s commits w) :
    w.draft.nativeParameters.map (fun n => (n.name, some n.type)) =
      (commits.flatMap Commit.parameters).mapIdx fun i q =>
        (Identifier.escape q.name, parameterImage? settings s i q.type) := by
  induction h with
  | start => rfl
  | @step commits w c h hc ih =>
    have himage := hc.nativeParameters_image
    rw [h.signature_eq, h.index_eq] at himage
    simp only [Work.commit, Draft.extend, List.map_append, ih, himage, List.flatMap_append,
      List.flatMap_cons, List.flatMap_nil, List.append_nil, List.mapIdx_append]
    simp only [Nat.add_comm]

theorem return_left (h : Reached settings s commits w) (hleft : w.progress.returnTaken = false) :
    w.draft.nativeReturn = .void ∧
      (ParameterRule.fixedText.name ∈ commits.map Commit.name →
        Rule.ignoredReturn? settings s.returns = none) := by
  induction h with
  | start => exact ⟨rfl, fun h => by cases h⟩
  | @step commits w c h hc ih =>
    obtain ⟨hbefore, htakes⟩ := Bool.or_eq_false_iff.mp hleft
    obtain ⟨hvoid, hignored⟩ := ih hbefore
    rw [Commit.name_mem_append_iff]
    cases c with
    | fixedText buffer size ignored =>
      obtain ⟨-, -, -, -, -, -, heq⟩ := hc.fits
      obtain rfl : ignored = none :=
        Option.isNone_iff_eq_none.mp (Option.isSome_eq_false_iff.mp htakes)
      rw [hbefore, h.signature_eq] at heq
      exact ⟨hvoid, fun _ => heq.symm⟩
    | growableText | returnStatus | returnScalar | returnHandle | returnNothing | returnText =>
      cases htakes
    | scalar | receiver | handle | text | reference =>
      exact ⟨hvoid, fun hfixed => hignored (hfixed.resolve_right (by simp [Commit.rule]))⟩

theorem return_taken (h : Reached settings s commits w)
    (htaken : w.progress.returnTaken = true) :
    (ParameterRule.fixedText.name ∈ commits.map Commit.name ∨ w.progress.current? = none) ∧
      some w.draft.nativeReturn =
        if ParameterRule.fixedText.name ∈ commits.map Commit.name ∧
            HidesVoidEnum settings s.returns then some .void
        else returnImage? settings s.returns := by
  induction h with
  | start => cases htaken
  | @step commits w c h hc ih =>
    simp only [Commit.name_mem_append_iff]
    cases hbefore : w.progress.returnTaken with
    | true =>
      -- Only a fixed buffer takes the return value before the last parameter.
      obtain ⟨hfixed, hreturn⟩ := ih hbefore
      obtain ⟨hnone, hcurrent⟩ := hc.of_returnTaken hbefore
      have hfixed := hfixed.resolve_right hcurrent
      have hsame : (w.commit settings c).draft.nativeReturn = w.draft.nativeReturn := by
        simp only [Work.commit, Draft.extend, hnone, Option.elim_none]
      rw [hsame, hreturn]
      simp [hfixed]
    | false =>
      obtain ⟨hvoid, hignored⟩ := h.return_left hbefore
      cases hr : c.rule with
      | inr r =>
        have hcurrent := (hc.returned r hr).1
        have himage := hc.return_image hr
        rw [h.signature_eq] at himage
        refine ⟨.inr ?_, ?_⟩
        · simpa [Work.commit, Progress.after, Progress.current?, Commit.parameters_of_return hr]
            using hcurrent
        · rw [if_neg, ← himage]
          · simp only [Work.commit, Draft.extend, hvoid]
          · rintro ⟨hfixed, hhides⟩
            exact Commit.not_hidesVoidEnum_of_ignoredReturn
              (hignored (hfixed.resolve_right (by simp))) hhides
      | inl r =>
        cases c with
        | scalar | receiver | handle | text | reference =>
          simp [Work.commit, Progress.after, hbefore, Commit.takesReturn, Commit.rule] at htaken
        | growableText buffer size length =>
          obtain ⟨-, -, -, -, hlast, -, hint, -⟩ := hc.fits
          rw [h.signature_eq] at hint
          refine ⟨.inr (List.getElem?_eq_none_iff.mpr (Nat.le_of_eq hlast.symm)), ?_⟩
          rw [hint, if_neg (by simp [HidesVoidEnum])]
          rfl
        | fixedText buffer size ignored =>
          obtain ⟨-, -, -, -, -, -, heq⟩ := hc.fits
          rw [hbefore, h.signature_eq] at heq
          cases ignored with
          | none => simp [Work.commit, Progress.after, hbefore, Commit.takesReturn] at htaken
          | some type =>
            refine ⟨.inl (.inr hr.symm), ?_⟩
            simp only [← hr, Commit.rule, or_true, true_and]
            exact Commit.ignoredReturn?_image heq.symm
        | _ => cases hr

theorem nativeName_eq (h : Reached settings s commits w) : w.draft.nativeName = s.nativeName := by
  induction h with
  | start => rfl
  | step _ _ ih => exact ih

theorem library_eq (h : Reached settings s commits w) : w.draft.library = settings.library := by
  induction h with
  | start => rfl
  | step _ _ ih => exact ih

end Reached

namespace Identifier

def IsNative (name : String) : Prop :=
  ∃ c rest, name.toList = c :: rest ∧ NativeType.Spelling.isWordStart c = true ∧
    rest.all NativeType.Spelling.isWordPart = true

theorem IsNative.not_marked {a : String} (h : IsNative ("@" ++ a)) : False := by
  obtain ⟨c, rest, hname, hstart, -⟩ := h
  rw [String.toList_append] at hname
  obtain rfl : '@' = c := (List.cons.inj hname).1
  exact absurd hstart (by decide)

theorem escape_not_mem_keywords (name : String) : escape name ∉ keywords := by
  have hmarks : ∀ keyword ∈ keywords, keyword.toList.head? ≠ some '@' := by decide
  rw [escape]
  split
  · intro hmem
    exact hmarks _ hmem (by simp)
  case isFalse h => simpa using h

theorem escape_inj {a b : String} (ha : IsNative a) (hb : IsNative b) (h : escape a = escape b) :
    a = b := by
  rw [escape, escape] at h
  split at h <;> split at h
  · exact String.append_right_inj _ |>.mp h
  · exact (IsNative.not_marked (h ▸ hb)).elim
  · exact (IsNative.not_marked (h ▸ ha)).elim
  · exact h

end Identifier

/-- The native declaration of a bound function is the image of its signature. Names are escaped and
types are mapped position by position, whichever rules were carried out; only a fixed buffer declares
a return value `void` as nothing where an enum has that name. -/
theorem native_declaration {d : Draft} (h : bindFunction settings s = .ok d) :
    d.nativeParameters.map (fun n => (n.name, some n.type)) =
      s.parameters.mapIdx (fun i q =>
        (Identifier.escape q.name, parameterImage? settings s i q.type)) ∧
    ((∀ q ∈ s.parameters, Identifier.IsNative q.name) → (s.parameters.map Parameter.name).Nodup →
      (d.nativeParameters.map NativeParameter.name).Nodup ∧
        ∀ n ∈ d.nativeParameters, n.name ∉ Identifier.keywords) ∧
    some d.nativeReturn =
      (if ParameterRule.fixedText.name ∈ committedRules settings s ∧
          HidesVoidEnum settings s.returns then some .void
        else returnImage? settings s.returns) ∧
    d.nativeParameterText =
      ", ".intercalate (d.nativeParameters.map fun n => n.type.parameterText n.name) ∧
    ∀ margin,
      d.delegateText margin = fragment margin (d.nativeReturn.returnAttributes.toList ++
        ["internal delegate " ++ d.nativeReturn.name ++ " " ++ s.nativeName ++ "_delegate(" ++
          d.nativeParameterText ++ ");"]) ∧
      d.importText margin = fragment margin (["[DllImport(\"" ++ settings.library ++ "\")]"] ++
        d.nativeReturn.returnAttributes.toList ++
        ["internal static extern " ++ d.nativeReturn.name ++ " " ++ s.nativeName ++ "(" ++
          d.nativeParameterText ++ ");"]) := by
  obtain ⟨commits, w, hw, rfl, hcurrent, htaken, hnames⟩ := Reached.of_bindFunction h
  have himage := hw.nativeParameters_image
  rw [hw.parameters_eq_all hcurrent] at himage
  have hescaped : w.draft.nativeParameters.map NativeParameter.name =
      s.parameters.map fun q => Identifier.escape q.name := by
    have hfst := congrArg (List.map Prod.fst) himage
    rw [List.map_map] at hfst
    refine hfst.trans (List.ext_getElem? fun i => ?_)
    simp [Function.comp_def]
  refine ⟨himage, fun hnative hdistinct => ⟨?_, fun n hn => ?_⟩, ?_, rfl, fun margin => ⟨?_, ?_⟩⟩
  · rw [hescaped]
    rw [List.Nodup, List.pairwise_map] at hdistinct ⊢
    refine hdistinct.imp_of_mem fun {a b} ha hb hne heq => hne ?_
    exact Identifier.escape_inj (hnative a ha) (hnative b hb) heq
  · have hmem := List.mem_map_of_mem (f := NativeParameter.name) hn
    rw [hescaped] at hmem
    obtain ⟨q, -, hq⟩ := List.mem_map.mp hmem
    rw [← hq]
    exact Identifier.escape_not_mem_keywords q.name
  · rw [hnames]
    exact (hw.return_taken htaken).2
  · rw [Draft.delegateText_eq, Draft.delegateLines, hw.nativeName_eq]
  · rw [Draft.importText_eq, Draft.importLines, hw.nativeName_eq, hw.library_eq]

def voidEnumSettings : Settings where
  enums := [("void", "Nothing"), ("sp_error", "SpotifyError")]
  handles := [("sp_track", "Track")]

def describeSignature : Signature where
  nativeName := "sp_track_describe"
  managedName := "Describe"
  parameters :=
    [⟨"track", .pointer (.named "sp_track")⟩, ⟨"string", .pointer (.named "char")⟩,
      ⟨"buffer", .pointer (.named "char")⟩, ⟨"buffer_size", .named "int"⟩]
  returns := .named "void"
  receiver := some "sp_track"

theorem native_declaration_describe :
    ∃ d, bindFunction voidEnumSettings describeSignature = .ok d ∧
      d.nativeParameters.map (fun n => (n.name, some n.type)) =
        [("track", some .intPtr), ("@string", some .intPtr), ("buffer", some .intPtr),
          ("buffer_size", some .int)] ∧
      (d.nativeParameters.map NativeParameter.name).Nodup ∧
      (∀ n ∈ d.nativeParameters, n.name ∉ Identifier.keywords) ∧
      d.nativeReturn = .void := by
  obtain ⟨d, hd⟩ : ∃ d, bindFunction voidEnumSettings describeSignature = .ok d :=
    exists_draft (by decide +kernel)
  obtain ⟨himage, hnames, hreturn, -⟩ := native_declaration hd
  have hnative : ∀ q ∈ describeSignature.parameters, Identifier.IsNative q.name := by
    simp only [describeSignature, List.forall_mem_cons]
    refine ⟨⟨_, _, rfl, ?_⟩, ⟨_, _, rfl, ?_⟩, ⟨_, _, rfl, ?_⟩, ⟨_, _, rfl, ?_⟩, by simp⟩ <;>
      decide
  obtain ⟨hnodup, hkeywords⟩ := hnames hnative (by decide)
  have hfixed : ParameterRule.fixedText.name ∈
      committedRules voidEnumSettings describeSignature := by decide +kernel
  have hhides : HidesVoidEnum voidEnumSettings describeSignature.returns := by decide
  rw [if_pos ⟨hfixed, hhides⟩] at hreturn
  refine ⟨d, hd, himage.trans ?_, hnodup, hkeywords, Option.some.inj hreturn⟩
  decide +kernel

end NativeBindings
