namespace NativeBindings

/-- A type of a native signature. A tuple is a window of types, used only to match several
positions at once. -/
inductive NativeType where
  | named (name : String)
  | pointer (base : NativeType)
  | tuple (elements : List NativeType)
  deriving Inhabited, Repr

namespace NativeType

def pointers : Nat → NativeType → NativeType
  | 0, t => t
  | depth + 1, t => pointer (pointers depth t)

def name? : NativeType → Option String
  | named name => some name
  | _ => none

def base? : NativeType → Option NativeType
  | pointer base => some base
  | _ => none

def baseName? (t : NativeType) : Option String :=
  t.base?.bind name?

def isPointer : NativeType → Bool
  | pointer _ => true
  | _ => false

theorem name?_eq_some {t : NativeType} {name : String} :
    t.name? = some name ↔ t = named name := by
  cases t <;> simp [name?]

theorem base?_eq_some {t base : NativeType} : t.base? = some base ↔ t = pointer base := by
  cases t <;> simp [base?]

theorem baseName?_eq_some {t : NativeType} {name : String} :
    t.baseName? = some name ↔ t = pointer (named name) := by
  cases t with
  | named n => simp [baseName?, base?]
  | tuple ts => simp [baseName?, base?]
  | pointer base => simp [baseName?, base?, name?_eq_some]

mutual

def text : NativeType → String
  | named name => name
  | pointer base => base.text ++ "*"
  | tuple elements => "(" ++ textAll elements ++ ")"

def textAll : List NativeType → String
  | [] => ""
  | [t] => t.text
  | t :: u :: rest => t.text ++ ", " ++ textAll (u :: rest)

end

mutual

/-- Whether `subject` has the shape of `template`: the same names under the same pointers and in
tuples of the same length. -/
def fits : NativeType → NativeType → Bool
  | named a, named b => a == b
  | pointer a, pointer b => fits a b
  | tuple xs, tuple ys => fitsAll xs ys
  | _, _ => false

def fitsAll : List NativeType → List NativeType → Bool
  | [], [] => true
  | x :: xs, y :: ys => fits x y && fitsAll xs ys
  | _, _ => false

end

mutual

theorem fits_iff : ∀ s t : NativeType, fits s t = true ↔ s = t
  | named a, named b => by simp [fits]
  | pointer a, pointer b => by simp [fits, fits_iff a b]
  | tuple xs, tuple ys => by simp [fits, fitsAll_iff xs ys]
  | named _, pointer _ | named _, tuple _ | pointer _, named _
  | pointer _, tuple _ | tuple _, named _ | tuple _, pointer _ => by simp [fits]

theorem fitsAll_iff : ∀ xs ys : List NativeType, fitsAll xs ys = true ↔ xs = ys
  | [], [] => by simp [fitsAll]
  | x :: xs, y :: ys => by simp [fitsAll, fits_iff x y, fitsAll_iff xs ys]
  | [], _ :: _ | _ :: _, [] => by simp [fitsAll]

end

instance : DecidableEq NativeType := fun s t => decidable_of_iff _ (fits_iff s t)

theorem fitsAll_eq (xs ys : List NativeType) :
    fitsAll xs ys = (xs.length == ys.length && (xs.zip ys).all fun p => p.1.fits p.2) := by
  induction xs generalizing ys with
  | nil => cases ys <;> simp [fitsAll]
  | cons x xs ih =>
    cases ys with
    | nil => simp [fitsAll]
    | cons y ys => simp [fitsAll, ih, Bool.and_left_comm]

theorem fits_tuple_iff {xs ys : List NativeType} :
    (tuple xs).fits (tuple ys) = true ↔
      xs.length = ys.length ∧ ∀ p ∈ xs.zip ys, p.1.fits p.2 = true := by
  rw [fits, fitsAll_eq, Bool.and_eq_true, beq_iff_eq, List.all_eq_true]

example : (∀ p ∈ [named "int"].zip [named "int", named "bool"], p.1.fits p.2 = true) ∧
    (tuple [named "int"]).fits (tuple [named "int", named "bool"]) = false := by decide

def firstMatch (sequence templates : List NativeType) : Option Nat :=
  sequence.findIdx? fun t => templates.any fun template => t.fits template

section FirstMatch

variable {t : NativeType} {sequence templates : List NativeType} {i : Nat}

theorem any_fits_iff : (templates.any fun template => t.fits template) = true ↔ t ∈ templates := by
  simp [fits_iff]

theorem firstMatch_eq_some_iff :
    firstMatch sequence templates = some i ↔
      ∃ h : i < sequence.length, sequence[i] ∈ templates ∧
        ∀ j (hj : j < i), sequence[j] ∉ templates := by
  simp only [firstMatch, List.findIdx?_eq_some_iff_getElem, any_fits_iff]

theorem firstMatch_eq_none_iff :
    firstMatch sequence templates = none ↔ ∀ t ∈ sequence, t ∉ templates := by
  simp only [firstMatch, List.findIdx?_eq_none_iff, ← Bool.not_eq_true, any_fits_iff]

end FirstMatch

end NativeType

end NativeBindings
