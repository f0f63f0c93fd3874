namespace NativeBindings.Decimal

/-- A finite number is `significand * 2 ^ exponent` with its sign. -/
inductive Binary64 where
  | finite (negative : Bool) (significand : Nat) (exponent : Int)
  | infinite (negative : Bool)
  | nan
  deriving DecidableEq, Repr

def roundedDiv (num den : Nat) : Nat :=
  let q := num / den
  let twice := 2 * (num % den)
  if twice > den ∨ (twice = den ∧ q % 2 = 1) then q + 1 else q

def binaryExponent (num den : Nat) : Int :=
  let e : Int := (Nat.log2 num : Int) - Nat.log2 den
  let reached := if e < 0 then den ≤ num * Nat.pow 2 (-e).toNat
    else den * Nat.pow 2 e.toNat ≤ num
  if reached then e else e - 1

def nearest (negative : Bool) (num den : Nat) : Binary64 :=
  let q := max (-1074) (binaryExponent num den - 52)
  let m := if q < 0 then roundedDiv (num * Nat.pow 2 (-q).toNat) den
    else roundedDiv num (den * Nat.pow 2 q.toNat)
  let (m, q) := if m = Nat.pow 2 53 then (Nat.pow 2 52, q + 1) else (m, q)
  if q > 971 then .infinite negative else .finite negative m q

def ofDecimal (negative : Bool) (digits count : Nat) (exponent : Int) : Binary64 :=
  if digits = 0 ∨ exponent + count < -400 then .finite negative 0 0
  else if exponent > 400 then .infinite negative
  else if exponent < 0 then nearest negative digits (Nat.pow 10 (-exponent).toNat)
  else nearest negative (digits * Nat.pow 10 exponent.toNat) 1

end NativeBindings.Decimal
