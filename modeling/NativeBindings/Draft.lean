import NativeBindings.ManagedType
import NativeBindings.Nesting
import NativeBindings.Settings
import NativeBindings.Signature
import NativeBindings.Statement

/-!
Drafts of generated functions. A draft collects what the edits of several batches say about the
native declaration, the managed declaration and the body of the wrapper. The body stands around one
native call: declarations and preparations come before it in the order of the edits; what follows it
is grouped by batch, the latest batch first, so that what was acquired last is released first.
-/

namespace NativeBindings

structure NativeParameter where
  name : String
  type : ManagedType
  argument : Argument
  deriving DecidableEq, Repr

structure ManagedParameter where
  name : String
  type : ManagedType
  deriving DecidableEq, Repr

inductive Edit where
  | nativeParameter (parameter : NativeParameter)
  | managedParameter (parameter : ManagedParameter)
  | top (statement : Statement)
  | beforeCall (statement : Statement)
  /-- A statement after the call, some levels inside the depth that holds there. -/
  | afterCall (statement : Statement) (nested : Nat)
  | recall
  | bottom (statement : Statement)
  | enterScope
  | exitScope
  /-- The type of the native call, and the variable that it is assigned to. -/
  | nativeReturn (type : ManagedType) (target : Option String)
  | managedReturn (type : ManagedType)
  | instanceMethod
  deriving DecidableEq, Repr

inductive LineContent where
  | statement (statement : Statement)
  | nativeCall
  deriving DecidableEq, Repr

structure Line where
  depth : Nat
  content : LineContent
  deriving DecidableEq, Repr

structure Draft where
  nativeName : String
  managedName : String
  library : String
  nativeClass : String
  wrapper : Bool
  nativeParameters : List NativeParameter := []
  managedParameters : List ManagedParameter := []
  top : List Line := []
  above : List Line := []
  below : List Line := []
  bottom : List Line := []
  nesting : Nesting := {}
  nativeReturn : ManagedType := .void
  returnVariable : Option String := none
  managedReturn : ManagedType := .void
  isInstance : Bool := false
  deriving DecidableEq, Repr

/-- A draft with the lines after the call that the running batch has added so far. -/
structure Batch where
  draft : Draft
  below : List Line := []
  bottom : List Line := []

namespace Batch

def add (b : Batch) : Edit → Batch
  | .nativeParameter p =>
    { b with draft := { b.draft with nativeParameters := b.draft.nativeParameters ++ [p] } }
  | .managedParameter p =>
    { b with draft := { b.draft with managedParameters := b.draft.managedParameters ++ [p] } }
  | .top s => { b with draft := { b.draft with top := b.draft.top ++ [⟨0, .statement s⟩] } }
  | .beforeCall s =>
    { b with draft := { b.draft with
        above := b.draft.above ++ [⟨b.draft.nesting.above, .statement s⟩] } }
  | .afterCall s nested =>
    { b with below := b.below ++ [⟨b.draft.nesting.below + nested, .statement s⟩] }
  | .recall => { b with below := b.below ++ [⟨b.draft.nesting.below, .nativeCall⟩] }
  | .bottom s => { b with bottom := b.bottom ++ [⟨0, .statement s⟩] }
  | .enterScope => { b with draft := { b.draft with nesting := b.draft.nesting.enter } }
  | .exitScope => { b with draft := { b.draft with nesting := b.draft.nesting.exit } }
  | .nativeReturn type target =>
    { b with draft := { b.draft with nativeReturn := type, returnVariable := target } }
  | .managedReturn type => { b with draft := { b.draft with managedReturn := type } }
  | .instanceMethod => { b with draft := { b.draft with isInstance := true } }

/-- Ends the batch: its lines after the call go before those of the batches before it. -/
def close (b : Batch) : Draft :=
  { b.draft with below := b.below ++ b.draft.below, bottom := b.bottom ++ b.draft.bottom }

end Batch

namespace Draft

def start (settings : Settings) (s : Signature) : Draft where
  nativeName := s.nativeName
  managedName := s.managedName
  library := settings.library
  nativeClass := settings.nativeClass
  wrapper := s.wrapper

def apply (d : Draft) (edits : List Edit) : Draft :=
  (edits.foldl Batch.add { draft := d }).close

def body (d : Draft) : List Line :=
  d.top ++ d.above ++ ⟨d.nesting.above, .nativeCall⟩ :: (d.below ++ d.bottom)

end Draft

end NativeBindings
