import NativeBindings.BindingsFile
import NativeBindings.Diagnostic
import NativeBindings.Outcome

namespace NativeBindings

structure GeneratedSource where
  delegates : String := ""
  imports : String := ""
  wrappers : String := ""
  bound : Nat := 0
  skipped : Nat := 0
  configurationFailed : Bool := false
  deriving DecidableEq, Repr

namespace GeneratedSource

def compose (g : GeneratedSource) : String :=
  "\n".intercalate ([g.delegates, g.imports, g.wrappers].filter fun s => !s.isEmpty)

def group (margin : String) (render : Outcome → String → String) (outcomes : List Outcome) :
    String :=
  "\n".intercalate (outcomes.map fun o => render o margin)

def ofOutcomes (margin : String) (outcomes : List Outcome) : GeneratedSource where
  delegates := group margin Outcome.delegateText outcomes
  imports := group margin Outcome.importText outcomes
  wrappers := group margin Outcome.wrapperText outcomes
  bound := outcomes.countP Outcome.isBound
  skipped := outcomes.length - outcomes.countP Outcome.isBound

end GeneratedSource

def FunctionEntry.warning? (f : FunctionEntry) (outcome : Outcome) : Option Diagnostic :=
  outcome.error?.map fun e =>
    { message := e.message, function := some outcome.nativeName, span := f.span,
      severity := .warning, phase := .binding }

namespace BindingsFile

def outcomes (b : BindingsFile) : List Outcome :=
  b.functions.map fun f => .ofSignature b.settings f.signature

def warnings (b : BindingsFile) : List Diagnostic :=
  (b.functions.zip b.outcomes).filterMap fun entry => entry.1.warning? entry.2

end BindingsFile

def LoadError.diagnostic (e : LoadError) : Diagnostic where
  message := e.message
  function := none
  span := e.span?.getD ⟨0, 0⟩
  severity := .error
  phase := .configuration

/-- What the text of a bindings file generates, with all diagnostics in the order of the file. -/
def generate (text : String) : GeneratedSource × List Diagnostic :=
  match BindingsFile.ofText text with
  | .error e => ({ configurationFailed := true }, [e.diagnostic])
  | .ok b => (.ofOutcomes b.margin b.outcomes, b.warnings)

end NativeBindings
