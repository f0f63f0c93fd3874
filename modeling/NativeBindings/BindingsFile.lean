import NativeBindings.Declarations
import NativeBindings.MethodName
import NativeBindings.NativeType.Spelling
import NativeBindings.Signature

namespace NativeBindings

open Toml

structure FunctionEntry where
  signature : Signature
  span : Span
  deriving DecidableEq, Repr

structure BindingsFile where
  settings : Settings
  indent : Nat
  functions : List FunctionEntry
  deriving DecidableEq, Repr

structure InvalidType where
  function : String
  span : Span
  cause : SpellingError
  deriving DecidableEq, Repr

def InvalidType.message (e : InvalidType) : String :=
  "invalid type in `" ++ e.function ++ "`: " ++ e.cause.message

def Toml.Spelled.type (s : Spelled) (function : String) : Except InvalidType NativeType :=
  match NativeType.ofSpelling s.text with
  | .ok t => .ok t
  | .error cause => .error ⟨function, s.span, cause⟩

namespace FunctionDeclaration

def parameter (f : FunctionDeclaration) (p : ParameterDeclaration) :
    Except InvalidType Parameter := do
  return ⟨p.name, ← p.type.type f.native⟩

/-- The signature that a declaration stands for. A function without a return type returns nothing,
and a name that is not given is derived. -/
def signature (f : FunctionDeclaration) : Except InvalidType Signature := do
  let parameters ← f.parameters.mapM f.parameter
  let returns ← match f.returns with
    | some s => s.type f.native
    | none => .ok (.named "void")
  return {
    nativeName := f.native
    managedName := f.managed.getD (MethodName.derive f.native f.receiver)
    parameters := parameters
    returns := returns
    receiver := f.receiver
    wrapper := f.wrapper }

end FunctionDeclaration

namespace BindingsFile

def ofDeclarations (d : Declarations) : Except InvalidType BindingsFile := do
  let functions ← d.functions.mapM fun (f, span) => do
    return (⟨← f.signature, span⟩ : FunctionEntry)
  return {
    settings := { d.library.settings with enums := d.enums, handles := d.handles }
    indent := d.library.indent
    functions := functions }

def margin (b : BindingsFile) : String :=
  String.ofList (List.replicate b.indent ' ')

end BindingsFile

inductive LoadError where
  | declarations (error : DeclarationError)
  | invalidType (error : InvalidType)
  deriving DecidableEq, Repr

namespace LoadError

def message : LoadError → String
  | declarations .notToml => "invalid bindings file: no TOML document"
  | declarations (.shape e) => "invalid bindings file: " ++ e.problem.message
  | invalidType e => e.message

def span? : LoadError → Option Span
  | declarations .notToml => none
  | declarations (.shape e) => some e.span
  | invalidType e => some e.span

end LoadError

def BindingsFile.ofText (text : String) : Except LoadError BindingsFile :=
  match Declarations.ofText text with
  | .error e => .error (.declarations e)
  | .ok d =>
    match ofDeclarations d with
    | .error e => .error (.invalidType e)
    | .ok b => .ok b

end NativeBindings
