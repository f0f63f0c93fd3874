import NativeBindings.CommandLine.Help
import NativeBindings.GeneratedSource

namespace NativeBindings.CommandLine

/-- Access to files: reading fails without a text, and writing tells whether it succeeded. -/
structure FileAccess (m : Type → Type) where
  read : String → m (Option String)
  write : String → String → m Bool

structure Report where
  exitCode : Nat
  output : String := ""
  messages : String := ""
  deriving DecidableEq, Repr

def summaries (diagnostics : List Diagnostic) : String :=
  String.join (diagnostics.map fun d => d.summary ++ "\n")

def countLine (g : GeneratedSource) : String :=
  toString g.bound ++ " translated, " ++ toString g.skipped ++ " skipped\n"

def checkText (text : String) : Report :=
  let (g, diagnostics) := generate text
  { exitCode := if g.configurationFailed || 0 < g.skipped then 1 else 0
    output := summaries diagnostics ++ countLine g }

def sourceOf (text : String) : Option String × String :=
  let (g, diagnostics) := generate text
  (if g.configurationFailed then none else some g.compose, summaries diagnostics)

def failure (before message : String) : Report where
  exitCode := 1
  messages := before ++ "Error: " ++ message ++ "\n"

namespace Command

/-- Without a bindings file nothing is shown or written; skipped functions are no failure. -/
def run {m : Type → Type} [Monad m] (files : FileAccess m) : Command → m Report
  | generate file output => do
    match ← files.read file with
    | none => return failure "" ("cannot read " ++ file)
    | some text =>
      match sourceOf text, output with
      | (none, messages), _ => return { exitCode := 1, messages := messages }
      | (some source, messages), none =>
        return { exitCode := 0, output := source, messages := messages }
      | (some source, messages), some path =>
        if ← files.write path source then return { exitCode := 0, messages := messages }
        else return failure messages ("cannot write " ++ path)
  | check file => do
    match ← files.read file with
    | none => return failure "" ("cannot read " ++ file)
    | some text => return checkText text

end Command

def run {m : Type → Type} [Monad m] (files : FileAccess m) (arguments : List String) : m Report :=
  match readArguments false arguments with
  | .ok command => command.run files
  | .error (.help topic) => return { exitCode := 0, output := topic.text }
  | .error (.misuse error) =>
    return {
      exitCode := 2
      messages := "error: " ++ error.message ++ "\n\n" ++ Topic.program.usage ++ "\n" }

end NativeBindings.CommandLine
