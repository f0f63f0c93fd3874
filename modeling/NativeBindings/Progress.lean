import NativeBindings.Signature

namespace NativeBindings

structure Progress where
  signature : Signature
  index : Nat := 0
  returnTaken : Bool := false
  deriving DecidableEq, Repr

namespace Progress

def length (p : Progress) : Nat := p.signature.parameters.length

def remaining (p : Progress) : List Parameter := p.signature.parameters.drop p.index

def current? (p : Progress) : Option Parameter := p.signature.parameters[p.index]?

def next? (p : Progress) : Option Parameter := p.signature.parameters[p.index + 1]?

def hasParametersLeft (p : Progress) : Bool := p.index < p.length

def isComplete (p : Progress) : Bool := !p.hasParametersLeft && p.returnTaken

def takeParameters (p : Progress) (count : Nat) : Progress :=
  { p with index := min (p.index + count) p.length }

def takeReturn (p : Progress) : Progress := { p with returnTaken := true }

end Progress

end NativeBindings
