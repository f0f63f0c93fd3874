import NativeBindings.ManagedType
import NativeBindings.NativeType
import NativeBindings.Settings

namespace NativeBindings

inductive Primitive where
  | bool
  | int
  | size
  deriving DecidableEq, Repr

namespace Primitive

def ofName? : String → Option Primitive
  | "bool" => some .bool
  | "int" => some .int
  | "size_t" => some .size
  | _ => none

def managedType : Primitive → ManagedType
  | .bool => .bool
  | .int => .int
  | .size => .uintPtr

end Primitive

namespace NativeType

def lengthTypes : List NativeType := [named "int", named "size_t"]

def isCString (t : NativeType) : Bool := t.baseName? == some "char"

def isVoid (t : NativeType) : Bool := t.name? == some "void"

theorem isCString_iff {t : NativeType} : t.isCString = true ↔ t = pointer (named "char") := by
  simp [isCString, baseName?_eq_some]

theorem isVoid_iff {t : NativeType} : t.isVoid = true ↔ t = named "void" := by
  simp [isVoid, name?_eq_some]

end NativeType

namespace Settings

def scalarNamed? (settings : Settings) (name : String) : Option ManagedType :=
  match Primitive.ofName? name with
  | some primitive => some primitive.managedType
  | none => (settings.enums.lookup name).map ManagedType.ofName

def scalar? (settings : Settings) (t : NativeType) : Option ManagedType :=
  t.name?.bind settings.scalarNamed?

/-- The managed type of a scalar that may be passed by reference: every scalar but `size_t`. -/
def referenceScalar? (settings : Settings) (t : NativeType) : Option ManagedType :=
  if t.name?.bind Primitive.ofName? = some .size then none else settings.scalar? t

def handleClass? (settings : Settings) (t : NativeType) : Option String :=
  t.baseName?.bind fun name => settings.handles.lookup name

def isStatusCode (settings : Settings) (t : NativeType) : Bool :=
  t.name? == some settings.errorType

theorem isStatusCode_iff {settings : Settings} {t : NativeType} :
    settings.isStatusCode t = true ↔ t = .named settings.errorType := by
  simp [isStatusCode, NativeType.name?_eq_some]

end Settings

end NativeBindings
