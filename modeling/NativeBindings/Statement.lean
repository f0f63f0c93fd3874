import NativeBindings.Marshalling

namespace NativeBindings

inductive Argument where
  | var (name : String)
  | reference (name : String)
  | member (owner field : String)
  | pointer (holder : String)
  /-- The capacity of a buffer, cast to the unsigned pointer type on demand. -/
  | capacity (buffer : String) (unsigned : Bool)
  | verbatim (text : String)
  deriving DecidableEq, Repr

def Argument.text : Argument → String
  | .var name => name
  | .reference name => "ref " ++ name
  | .member owner field => owner ++ "." ++ field
  | .pointer holder => Marshalling.pointer holder
  | .capacity buffer false => Marshalling.capacity buffer
  | .capacity buffer true => "(UIntPtr)" ++ Marshalling.capacity buffer
  | .verbatim text => text

inductive Result where
  | var (name : String)
  | handle (className address : String)
  | textAt (address : String)
  deriving DecidableEq, Repr

def Result.text : Result → String
  | .var name => name
  | .handle className address => Marshalling.wrapHandle className address
  | .textAt address => Marshalling.textAt address

inductive Statement where
  | declare (type name : String)
  | openBuffer (name : String) (capacity : Nat)
  | openText (name argument : String)
  | openBlock
  | closeBlock
  /-- The header of a block that runs when a text of the given length does not fit the buffer. -/
  | ifFull (buffer length : String)
  | growBuffer (buffer length : String) (margin : Nat)
  /-- Reads the buffer into a variable, up to a length if one is given. -/
  | readBuffer (target buffer : String) (length : Option String)
  | check (method status : String)
  | giveBack (result : Result)
  | verbatim (text : String)
  deriving DecidableEq, Repr

def Statement.text : Statement → String
  | .declare type name => type ++ " " ++ name ++ ";"
  | .openBuffer name capacity => Marshalling.openBuffer name capacity
  | .openText name argument => Marshalling.openText name argument
  | .openBlock => "\x7b"
  | .closeBlock => "\x7d"
  | .ifFull buffer length => "if (" ++ Marshalling.capacity buffer ++ " <= " ++ length ++ ")"
  | .growBuffer buffer length margin =>
    Marshalling.growBuffer buffer (length ++ " + " ++ toString margin)
  | .readBuffer target buffer length => target ++ " = " ++ Marshalling.bufferText buffer length ++ ";"
  | .check method status => method ++ "(" ++ status ++ ");"
  | .giveBack result => "return " ++ result.text ++ ";"
  | .verbatim text => text

end NativeBindings
