import NativeBindings.Decimal.Binary64

/-!
The shortest decimal text of a number: the fewest digits that read back as the number, the nearest
such digits, and of two that are equally near the larger. The text never uses an exponent and always
has a point.
-/

namespace NativeBindings.Decimal

/-- The reals around a number, over a common denominator: the number itself and the bounds of the
interval that rounds to it, which belong to it when `closed` holds. -/
structure Neighbourhood where
  low : Nat
  value : Nat
  high : Nat
  den : Nat
  closed : Bool

/-- A power of two is twice as near to the number below it as to the one above. -/
def neighbourhood (significand : Nat) (exponent : Int) : Neighbourhood :=
  let unit := if exponent < 2 then 1 else Nat.pow 2 (exponent - 2).toNat
  { low := (4 * significand - (if significand = Nat.pow 2 52 then 1 else 2)) * unit
    value := 4 * significand * unit
    high := (4 * significand + 2) * unit
    den := if exponent < 2 then Nat.pow 2 (2 - exponent).toNat else 1
    closed := significand % 2 == 0 }

namespace Neighbourhood

def contains (n : Neighbourhood) (num scale : Nat) : Bool :=
  if n.closed then n.low * scale ≤ num && num ≤ n.high * scale
  else n.low * scale < num && num < n.high * scale

def magnitude (n : Neighbourhood) : Int :=
  let exceeds (k : Int) : Bool :=
    if k < 0 then n.value * Nat.pow 10 (-k).toNat < n.den
    else n.value < n.den * Nat.pow 10 k.toNat
  (((List.range 640).map fun i : Nat => (i : Int) - 325).find? exceeds).getD 0

def onGrid (n : Neighbourhood) (power : Int) : Option Nat :=
  let scale := if power < 0 then Nat.pow 10 (-power).toNat else 1
  let step := if power < 0 then n.den else n.den * Nat.pow 10 power.toNat
  let down := n.value * scale / step
  let up := down + 1
  let nearDown := 2 * (n.value * scale) < (down + up) * step
  match n.contains (down * step) scale, n.contains (up * step) scale with
  | true, true => some (if nearDown then down else up)
  | true, false => some down
  | false, true => some up
  | false, false => none

def shortest (n : Neighbourhood) : Nat × Int :=
  let k := n.magnitude
  ((List.range 18).findSome? fun i =>
    let power := k - (i + 1 : Nat)
    (n.onGrid power).map fun d => (d, power)).getD (0, 0)

end Neighbourhood

def dropFinalZeros (digits : List Char) : List Char :=
  (digits.reverse.dropWhile (· == '0')).reverse

def positional (digits : Nat) (power : Int) : List Char :=
  let ds := Nat.toDigits 10 digits
  let (whole, part) :=
    if power < 0 then
      let places := (-power).toNat
      let padded := List.replicate (places + 1 - ds.length) '0' ++ ds
      (padded.take (padded.length - places), padded.drop (padded.length - places))
    else (ds ++ List.replicate power.toNat '0', [])
  let part := dropFinalZeros part
  whole ++ '.' :: (if part.isEmpty then ['0'] else part)

def Binary64.text : Binary64 → String
  | .nan => "NaN"
  | .infinite negative => if negative then "-inf" else "inf"
  | .finite negative m q =>
    let (digits, power) := if m = 0 then (0, 0) else (neighbourhood m q).shortest
    String.ofList ((if negative then ['-'] else []) ++ positional digits power)

end NativeBindings.Decimal
