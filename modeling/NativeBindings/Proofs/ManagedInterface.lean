import Mathlib.Data.List.Forall2
import Mathlib.Data.List.ReduceOption
import NativeBindings.Proofs.LocalNames
import NativeBindings.Proofs.Nested
import NativeBindings.Proofs.OutputPairs

namespace NativeBindings

def Settings.passing? (settings : Settings) (q : Parameter) : Option (ManagedType × Argument) :=
  let name := Identifier.escape q.name
  match q.type with
  | .named base => (settings.scalarNamed? base).map (·, .var name)
  | .pointer (.named base) =>
    match settings.handles.lookup base with
    | some className => some (.ofName className, .member name settings.handleField)
    | none =>
      if base = "char" then some (.string, .pointer (Marshalling.inputLocal q.name))
      else
        (settings.referenceScalar? (.named base)).map fun type =>
          (type.asReference, .reference name)
  | _ => none

namespace Draft

end Draft

variable {settings : Settings} {s : Signature} {p : Progress} {c : Commit} {q : Parameter}
  {commits : List Commit} {w : Work} {d : Draft}

section Passing

variable {type : ManagedType} {className base : String}

theorem passing?_scalar (h : settings.scalar? q.type = some type) :
    settings.passing? q = some (type, .var (Identifier.escape q.name)) := by
  obtain ⟨name, hname, -⟩ := Settings.scalar?_isSome_iff.mp (Option.isSome_of_eq_some h)
  rw [hname] at h
  have hnamed : settings.scalarNamed? name = some type := h
  rw [Settings.passing?, hname]
  simp only [hnamed, Option.map_some]

theorem passing?_handle (h : settings.handleClass? q.type = some className) :
    settings.passing? q =
      some (.ofName className, .member (Identifier.escape q.name) settings.handleField) := by
  obtain ⟨name, hname, -⟩ := Settings.handleClass?_isSome_iff.mp (Option.isSome_of_eq_some h)
  rw [hname] at h
  have hlookup : settings.handles.lookup name = some className := h
  rw [Settings.passing?, hname]
  simp only [hlookup]

theorem passing?_text (h : settings.IsText q.type) :
    settings.passing? q = some (.string, .pointer (Marshalling.inputLocal q.name)) := by
  obtain ⟨htype, hhandle⟩ := h
  rw [Settings.IsHandle, ← NameTable.lookup_isSome_iff, Option.not_isSome_iff_eq_none] at hhandle
  rw [Settings.passing?, htype]
  simp only [hhandle, if_true]

theorem passing?_reference (htype : q.type = .pointer (.named base))
    (hhandle : ¬ settings.IsHandle base) (hchar : base ≠ "char")
    (h : settings.referenceScalar? (.named base) = some type) :
    settings.passing? q = some (type.asReference, .reference (Identifier.escape q.name)) := by
  rw [Settings.IsHandle, ← NameTable.lookup_isSome_iff, Option.not_isSome_iff_eq_none] at hhandle
  rw [Settings.passing?, htype]
  simp only [hhandle, if_neg hchar, h, Option.map_some]

end Passing

namespace Commit.Chosen

theorem keeps (h : c.Chosen settings p) (hkept : some q ∈ c.slots) :
    ∃ type argument native, settings.passing? q = some (type, argument) ∧
      c.managedParameters = [⟨Identifier.escape q.name, type⟩] ∧
      c.nativeParameters settings = [⟨Identifier.escape q.name, native, argument⟩] := by
  have hfits := h.fits
  cases c with
  | scalar q' type =>
    obtain rfl := Option.some.inj (List.mem_singleton.mp hkept)
    exact ⟨_, _, _, passing?_scalar hfits.2, rfl, rfl⟩
  | handle q' className =>
    obtain rfl := Option.some.inj (List.mem_singleton.mp hkept)
    exact ⟨_, _, _, passing?_handle hfits.2, rfl, rfl⟩
  | text q' =>
    obtain rfl := Option.some.inj (List.mem_singleton.mp hkept)
    have htext := (h.isText_iff rfl hkept).mpr rfl
    exact ⟨_, _, _, passing?_text htext, rfl, rfl⟩
  | reference q' type =>
    obtain rfl := Option.some.inj (List.mem_singleton.mp hkept)
    obtain ⟨hq, base, hbase, htype⟩ := hfits
    obtain ⟨name, rfl, -⟩ :=
      Settings.referenceScalar?_isSome_iff.mp (Option.isSome_of_eq_some htype)
    have hhandle : ¬ settings.IsHandle name := h.not_isHandle rfl hq hbase (by decide)
    have hchar : name ≠ "char" := by
      rintro rfl
      exact h.not_fits (.text q) rfl rfl (by decide) ⟨hq, hbase⟩
    exact ⟨_, _, _, passing?_reference hbase hhandle hchar htype, rfl, rfl⟩
  | receiver => exact absurd (List.mem_singleton.mp hkept) nofun
  | growableText | fixedText => simp [slots] at hkept
  | _ => cases hkept

end Commit.Chosen

namespace Reached

end Reached

section Sources

variable {qs : List Parameter}

namespace Draft

end Draft

end Sources

end NativeBindings
