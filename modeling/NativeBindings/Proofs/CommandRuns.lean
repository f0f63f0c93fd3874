import Mathlib.Logic.Function.Basic
import NativeBindings.CommandLine
import NativeBindings.Proofs.LoadedFile
import NativeBindings.Proofs.Run

namespace NativeBindings

variable {settings : Settings} {s : Signature}

def FunctionEntry.isSkipped (settings : Settings) (f : FunctionEntry) : Bool :=
  !(bindFunction settings f.signature).isOk

namespace FunctionEntry

theorem isBound_eq (settings : Settings) (f : FunctionEntry) :
    (Outcome.ofSignature settings f.signature).isBound = !f.isSkipped settings := by
  rw [isSkipped, Outcome.ofSignature]
  cases bindFunction settings f.signature <;> rfl

end FunctionEntry

section Generate

variable {b : BindingsFile} {text : String}

theorem BindingsFile.counts (b : BindingsFile) :
    let source := GeneratedSource.ofOutcomes b.margin b.outcomes
    source.bound + source.skipped = b.functions.length ∧
      source.skipped = b.functions.countP (FunctionEntry.isSkipped b.settings) := by
  have hbound : b.outcomes.countP Outcome.isBound =
      b.functions.countP fun f => !f.isSkipped b.settings := by
    rw [outcomes, List.countP_map]
    congr 1
    funext f
    exact f.isBound_eq b.settings
  have hlength : b.outcomes.length = b.functions.length := List.length_map _
  have hsplit := List.length_eq_countP_add_countP (FunctionEntry.isSkipped b.settings)
    (l := b.functions)
  simp only [decide_not, Bool.decide_eq_true] at hsplit
  simp only [GeneratedSource.ofOutcomes, hbound, hlength]
  omega

end Generate

namespace CommandLine

section Texts

variable {b : BindingsFile} {text : String}

end Texts

namespace Command

variable {canWrite : String → Bool} {files : Files} {file text : String} {source messages : String}

end Command

end CommandLine

end NativeBindings
