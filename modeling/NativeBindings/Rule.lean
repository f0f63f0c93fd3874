import NativeBindings.Draft
import NativeBindings.Progress

/-!
Rules and their application. A rule looks at the progress over a signature and proposes actions. Of
a list of rules the first that accepts is carried out; the proposals of those before it leave no
trace.
-/

namespace NativeBindings

inductive Action where
  | edit (edit : Edit)
  | takeParameter
  | takeReturn
  deriving DecidableEq, Repr

structure Proposal where
  actions : List Action
  accepted : Bool
  deriving DecidableEq, Repr

structure Rule where
  name : String
  propose : Settings → Progress → Proposal

def Rule.ofOption (name : String) (propose : Settings → Progress → Option (List Action)) : Rule where
  name := name
  propose settings p :=
    match propose settings p with
    | some actions => { actions := actions, accepted := true }
    | none => { actions := [], accepted := false }

/-- The effect of actions before it is carried out. Each attempt to take a parameter yields its type,
or nothing when none is left. -/
structure Staged where
  edits : List Edit := []
  parameters : Nat := 0
  takesReturn : Bool := false
  yields : List (Option NativeType) := []
  deriving DecidableEq, Repr

namespace Staged

def add (p : Progress) (s : Staged) : Action → Staged
  | .edit e => { s with edits := s.edits ++ [e] }
  | .takeParameter =>
    match p.remaining[s.parameters]? with
    | some parameter =>
      { s with parameters := s.parameters + 1, yields := s.yields ++ [some parameter.type] }
    | none => { s with yields := s.yields ++ [none] }
  | .takeReturn => { s with takesReturn := true }

def ofActions (p : Progress) (actions : List Action) : Staged :=
  actions.foldl (add p) {}

end Staged

structure Work where
  progress : Progress
  draft : Draft
  deriving DecidableEq, Repr

namespace Work

def start (settings : Settings) (s : Signature) : Work :=
  { progress := { signature := s }, draft := .start settings s }

def perform (w : Work) (actions : List Action) : Work :=
  let staged := Staged.ofActions w.progress actions
  let taken := w.progress.takeParameters staged.parameters
  { progress := if staged.takesReturn then taken.takeReturn else taken
    draft := w.draft.apply staged.edits }

/-- Carries out the first rule that accepts and gives its name with the outcome. -/
def applyFirst (settings : Settings) : List Rule → Work → Option (String × Work)
  | [], _ => none
  | rule :: rules, w =>
    let proposal := rule.propose settings w.progress
    if proposal.accepted then some (rule.name, w.perform proposal.actions)
    else applyFirst settings rules w

def yields (settings : Settings) : List Rule → Work → List (List (Option NativeType))
  | [], _ => []
  | rule :: rules, w =>
    let proposal := rule.propose settings w.progress
    (Staged.ofActions w.progress proposal.actions).yields ::
      (if proposal.accepted then rules.map fun _ => [] else yields settings rules w)

end Work

end NativeBindings
