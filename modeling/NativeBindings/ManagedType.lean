namespace NativeBindings

structure ManagedType where
  name : String
  byReference : Bool := false
  attributes : List String := []
  deriving DecidableEq, Repr

namespace ManagedType

def ofName (name : String) : ManagedType := { name }

def void : ManagedType := ofName "void"
def int : ManagedType := ofName "int"
def intPtr : ManagedType := ofName "IntPtr"
def uintPtr : ManagedType := ofName "UIntPtr"
def string : ManagedType := ofName "string"

/-- A truth value that crosses the boundary as one byte. -/
def bool : ManagedType := { name := "bool", attributes := ["MarshalAs(UnmanagedType.I1)"] }

def asReference (t : ManagedType) : ManagedType := { t with byReference := true }

def withAttribute (t : ManagedType) (text : String) : ManagedType :=
  { t with attributes := t.attributes ++ [text] }

def isVoid (t : ManagedType) : Bool := t.name == "void"

/-- The declaration of a parameter: attributes, `ref`, type, name. -/
def parameterText (t : ManagedType) (name : String) : String :=
  String.join (t.attributes.map fun a => "[" ++ a ++ "] ") ++
    (if t.byReference then "ref " else "") ++ t.name ++ " " ++ name

def returnAttributes (t : ManagedType) : Option String :=
  if t.attributes.isEmpty then none else some ("[return: " ++ ", ".intercalate t.attributes ++ "]")

end ManagedType

end NativeBindings
