namespace NativeBindings

structure Span where
  start : Nat
  stop : Nat
  deriving DecidableEq, Repr

namespace Text

def width : List Char → Nat
  | [] => 0
  | c :: s => c.utf8Size + width s

theorem width_append (s t : List Char) : width (s ++ t) = width s + width t := by
  induction s with
  | nil => simp [width]
  | cons c s ih => simp [width, ih, Nat.add_assoc]

theorem width_eq_utf8ByteSize (s : List Char) : width s = (String.ofList s).utf8ByteSize := by
  induction s with
  | nil => rfl
  | cons c s ih =>
    rw [width, ih, String.ofList_cons, String.utf8ByteSize_append, String.utf8ByteSize_singleton]

end Text

end NativeBindings
