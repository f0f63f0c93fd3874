import NativeBindings.Settings
import NativeBindings.Toml.Document
import NativeBindings.Toml.Shape

namespace NativeBindings

open Toml

structure LibraryDeclaration where
  settings : Settings := {}
  indent : Nat := 8
  deriving DecidableEq, Repr

structure ParameterDeclaration where
  name : String
  type : Spelled
  deriving DecidableEq, Repr

structure FunctionDeclaration where
  native : String
  managed : Option String := none
  receiver : Option String := none
  wrapper : Bool := true
  returns : Option Spelled := none
  parameters : List ParameterDeclaration := []
  deriving DecidableEq, Repr

structure Declarations where
  library : LibraryDeclaration := {}
  enums : NameTable := []
  handles : NameTable := []
  functions : List (FunctionDeclaration × Span) := []
  deriving DecidableEq, Repr

def libraryRecord : Record LibraryDeclaration where
  name := "struct RawLibrary"
  initial := {}
  fields :=
    [.of "dll" .hasDefault readString fun l s => { l with settings := { l.settings with library := s } },
     .of "native_class" .hasDefault readString fun l s =>
      { l with settings := { l.settings with nativeClass := s } },
     .of "error_type" .hasDefault readString fun l s =>
      { l with settings := { l.settings with errorType := s } },
     .of "error_check" .hasDefault readString fun l s =>
      { l with settings := { l.settings with errorCheck := s } },
     .of "handle_field" .hasDefault readString fun l s =>
      { l with settings := { l.settings with handleField := s } },
     .of "indent" .hasDefault readNat fun l n => { l with indent := n }]

def parameterRecord : Record ParameterDeclaration where
  name := "struct RawParameter"
  initial := { name := "", type := ⟨"", ⟨0, 0⟩⟩ }
  fields :=
    [.of "name" .required readString fun p s => { p with name := s },
     .of "type" .required readSpelled fun p s => { p with type := s }]

def functionRecord : Record FunctionDeclaration where
  name := "struct RawFunction"
  initial := { native := "" }
  fields :=
    [.of "native" .required readString fun f s => { f with native := s },
     .of "managed" .absentInTable readString fun f s => { f with managed := some s },
     .of "receiver" .absentInTable readString fun f s => { f with receiver := some s },
     .of "wrapper" .hasDefault readBool fun f b => { f with wrapper := b },
     .of "returns" .absentInTable readSpelled fun f s => { f with returns := some s },
     .of "params" .hasDefault (readList parameterRecord.read) fun f ps => { f with parameters := ps }]

def fileRecord : Record Declarations where
  name := "struct RawBindings"
  initial := {}
  fields :=
    [.of "library" .hasDefault libraryRecord.read fun d l => { d with library := l },
     .of "enums" .hasDefault (readTable readString) fun d t => { d with enums := t },
     .of "handles" .hasDefault (readTable readString) fun d t => { d with handles := t },
     .of "functions" .hasDefault
      (readList fun span item => do return (← functionRecord.read span item, span))
      fun d fs => { d with functions := fs }]

inductive DeclarationError where
  | notToml
  | shape (error : ShapeError)
  deriving DecidableEq, Repr

def Declarations.ofText (text : String) : Except DeclarationError Declarations :=
  match parse text with
  | none => .error .notToml
  | some entries =>
    match fileRecord.readEntries ⟨0, text.utf8ByteSize⟩ entries with
    | .ok declarations => .ok declarations
    | .error e => .error (.shape e)

end NativeBindings
