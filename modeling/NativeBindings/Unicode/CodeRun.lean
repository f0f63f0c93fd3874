/-!
Sets of code points and maps on them, given by runs. A table holds only code points above the
seven-bit range; each predicate that uses one decides the seven-bit characters by itself.
-/

namespace NativeBindings.Unicode

def inRanges (ranges : List (Nat × Nat)) (n : Nat) : Bool :=
  ranges.any fun r => r.1 ≤ n && n ≤ r.2

structure CodeRun where
  first : Nat
  last : Nat
  step : Nat

def CodeRun.covers (run : CodeRun) (n : Nat) : Bool :=
  run.first ≤ n && n ≤ run.last && (n - run.first) % run.step == 0

/-- A run whose members move by one common distance: `first` goes to `image`. -/
structure CaseRun where
  domain : CodeRun
  image : Nat

def imageOf (runs : List CaseRun) (n : Nat) : Option Nat :=
  (runs.find? (·.domain.covers n)).map fun run => run.image + (n - run.domain.first)

end NativeBindings.Unicode
