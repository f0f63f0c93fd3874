import NativeBindings.Text.Width

namespace NativeBindings

inductive Severity where
  | error
  | warning
  deriving DecidableEq, Repr

def Severity.text : Severity → String
  | error => "ERROR"
  | warning => "WARNING"

/-- What was being done: reading the file, or binding one of its functions. -/
inductive Phase where
  | configuration
  | binding
  deriving DecidableEq, Repr

inductive Color where
  | red
  | yellow
  deriving DecidableEq, Repr

def Phase.color : Phase → Color
  | configuration => .red
  | binding => .yellow

structure Diagnostic where
  message : String
  function : Option String
  span : Span
  severity : Severity
  phase : Phase
  deriving DecidableEq, Repr

def Span.nonempty (s : Span) : Span :=
  ⟨s.start, max s.stop (s.start + 1)⟩

def Diagnostic.summary (d : Diagnostic) : String :=
  match d.function with
  | some function => d.severity.text ++ " [" ++ function ++ "] " ++ d.message
  | none => d.severity.text ++ " " ++ d.message

end NativeBindings
