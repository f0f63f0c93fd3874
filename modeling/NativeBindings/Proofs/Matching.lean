import Mathlib.Order.Bounds.Defs
import NativeBindings.NativeType

namespace NativeBindings.NativeType

variable {s t u : NativeType} {sequence templates : List NativeType} {i : Nat}

theorem fits_refl (t : NativeType) : t.fits t = true :=
  (fits_iff t t).mpr rfl

theorem fits_symm (h : s.fits t = true) : t.fits s = true := by
  obtain rfl := (fits_iff s t).mp h
  exact h

theorem fits_trans (hst : s.fits t = true) (htu : t.fits u = true) : s.fits u = true := by
  obtain rfl := (fits_iff s t).mp hst
  exact htu

def positions (sequence templates : List NativeType) : Set Nat :=
  {i | ∃ t ∈ templates, sequence[i]? = some t}

theorem mem_positions_iff :
    i ∈ positions sequence templates ↔ ∃ h : i < sequence.length, sequence[i] ∈ templates := by
  constructor
  · rintro ⟨t, ht, hi⟩
    obtain ⟨hlt, rfl⟩ := List.getElem?_eq_some_iff.mp hi
    exact ⟨hlt, ht⟩
  · rintro ⟨hlt, hmem⟩
    exact ⟨sequence[i], hmem, List.getElem?_eq_getElem hlt⟩

theorem firstMatch_isLeast_iff :
    firstMatch sequence templates = some i ↔ IsLeast (positions sequence templates) i := by
  rw [firstMatch_eq_some_iff]
  constructor
  · rintro ⟨hlt, hmem, hbefore⟩
    refine ⟨mem_positions_iff.mpr ⟨hlt, hmem⟩, fun j hj => ?_⟩
    obtain ⟨_, hjmem⟩ := mem_positions_iff.mp hj
    exact Nat.le_of_not_lt fun hji => hbefore j hji hjmem
  · rintro ⟨hi, hleast⟩
    obtain ⟨hlt, hmem⟩ := mem_positions_iff.mp hi
    refine ⟨hlt, hmem, fun j hji hjmem => ?_⟩
    have hle := hleast (mem_positions_iff.mpr ⟨Nat.lt_trans hji hlt, hjmem⟩)
    omega

/-- Matching is equality, at any depth and for tuples of any length, and a search finds the first
element that is one of the templates wherever there is one. -/
theorem matching_is_equality :
    (∀ subject template : NativeType, subject.fits template = true ↔ subject = template) ∧
      (∀ xs ys : List NativeType, (tuple xs).fits (tuple ys) = true ↔
        xs.length = ys.length ∧ ∀ p ∈ xs.zip ys, p.1.fits p.2 = true) ∧
      (Equivalence fun subject template : NativeType => subject.fits template = true) ∧
      ∀ sequence templates : List NativeType,
        (∀ i, firstMatch sequence templates = some i ↔
          IsLeast (positions sequence templates) i) ∧
        (firstMatch sequence templates = none ↔ ∀ t ∈ sequence, t ∉ templates) := by
  refine ⟨fits_iff, fun _ _ => fits_tuple_iff, ⟨fits_refl, fits_symm, fits_trans⟩, ?_⟩
  intro sequence templates
  exact ⟨fun _ => firstMatch_isLeast_iff, firstMatch_eq_none_iff⟩

end NativeBindings.NativeType
