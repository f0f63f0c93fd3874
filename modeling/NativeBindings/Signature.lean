import NativeBindings.NativeType

namespace NativeBindings

structure Parameter where
  name : String
  type : NativeType
  deriving DecidableEq, Repr

/-- A native function. With a `receiver` its wrapper is a method of the class of that handle type;
without `wrapper` only the declarations are generated. -/
structure Signature where
  nativeName : String
  managedName : String
  parameters : List Parameter
  returns : NativeType
  receiver : Option String := none
  wrapper : Bool := true
  deriving DecidableEq, Repr

end NativeBindings
