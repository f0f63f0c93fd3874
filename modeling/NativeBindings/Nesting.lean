namespace NativeBindings

/-- The depth of the next line before the call, which is also that of the call, and of the next line
after it, with the number of scopes entered and left. -/
structure Nesting where
  above : Nat := 0
  below : Nat := 0
  entered : Nat := 0
  exited : Nat := 0
  deriving DecidableEq, Repr

namespace Nesting

def enter (n : Nesting) : Nesting :=
  { above := n.above + 1, below := n.above + 1, entered := n.entered + 1, exited := n.exited }

def exit (n : Nesting) : Nesting :=
  { n with below := n.below - 1, exited := n.exited + 1 }

def isBalanced (n : Nesting) : Bool := n.entered == n.exited

end Nesting

end NativeBindings
