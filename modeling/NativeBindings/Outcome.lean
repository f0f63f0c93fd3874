import NativeBindings.Draft.Fragments
import NativeBindings.Rule.Catalogue

namespace NativeBindings

inductive BindError where
  | noParameterRule (function : String) (index : Nat) (parameter : String) (type : NativeType)
  | noReturnRule (function : String) (type : NativeType)
  /-- The rules stopped before everything was used up. -/
  | incomplete (function : String) (consumed total : Nat)
  deriving DecidableEq, Repr

namespace BindError

def message : BindError → String
  | noParameterRule function index parameter type =>
    "no rule for parameter `" ++ parameter ++ "` (" ++ type.text ++ ") at index " ++
      toString index ++ " of `" ++ function ++ "`"
  | noReturnRule function type =>
    "no rule for return type " ++ type.text ++ " of `" ++ function ++ "`"
  | incomplete function consumed total =>
    "`" ++ function ++ "` left unconsumed: " ++ toString consumed ++ " of " ++ toString total ++
      " parameters"

def reason : BindError → String
  | noParameterRule _ _ parameter type =>
    "no rule for parameter `" ++ parameter ++ "` of type " ++ type.text
  | noReturnRule _ type => "no rule for return type " ++ type.text
  | incomplete _ consumed total =>
    toString consumed ++ " of " ++ toString total ++ " parameters consumed"

def function : BindError → String
  | noParameterRule function _ _ _ => function
  | noReturnRule function _ => function
  | incomplete function _ _ => function

end BindError

namespace Work

def incomplete (w : Work) : BindError :=
  .incomplete w.progress.signature.nativeName w.progress.index w.progress.length

def left (w : Work) : Nat := w.progress.length - w.progress.index

def bindParameters (settings : Settings) (w : Work) : Except BindError Work :=
  match w.progress.current? with
  | none => .ok w
  | some parameter =>
    match w.applyFirst settings (ParameterRule.priority.map ParameterRule.rule) with
    | none =>
      .error (.noParameterRule w.progress.signature.nativeName w.progress.index parameter.name
        parameter.type)
    | some (_, next) =>
      if next.left < w.left then bindParameters settings next else .error next.incomplete
termination_by w.left

/-- Applies a return rule, unless a parameter rule has taken the return value already. -/
def bindReturn (settings : Settings) (w : Work) : Except BindError Work :=
  if w.progress.returnTaken then .ok w
  else
    match w.applyFirst settings (ReturnRule.priority.map ReturnRule.rule) with
    | none =>
      .error (.noReturnRule w.progress.signature.nativeName w.progress.signature.returns)
    | some (_, next) => .ok next

end Work

def bindFunction (settings : Settings) (s : Signature) : Except BindError Draft := do
  let w ← (Work.start settings s).bindParameters settings
  let w ← w.bindReturn settings
  if w.progress.isComplete then .ok w.draft else .error w.incomplete

inductive Outcome where
  | bound (draft : Draft)
  | skipped (nativeName : String) (error : BindError)
  deriving DecidableEq, Repr

namespace Outcome

def ofSignature (settings : Settings) (s : Signature) : Outcome :=
  match bindFunction settings s with
  | .ok draft => .bound draft
  | .error e => .skipped s.nativeName e

def nativeName : Outcome → String
  | bound draft => draft.nativeName
  | skipped nativeName _ => nativeName

def error? : Outcome → Option BindError
  | bound _ => none
  | skipped _ e => some e

def isBound : Outcome → Bool
  | bound _ => true
  | skipped _ _ => false

def skipText (nativeName : String) (e : BindError) (margin : String) : String :=
  margin ++ "// " ++ nativeName ++ ": skipped (" ++ e.reason ++ ")\n"

def delegateText : Outcome → String → String
  | bound draft => draft.delegateText
  | skipped nativeName e => skipText nativeName e

def importText : Outcome → String → String
  | bound draft => draft.importText
  | skipped nativeName e => skipText nativeName e

def wrapperText : Outcome → String → String
  | bound draft => draft.wrapperText
  | skipped nativeName e => skipText nativeName e

section Lines

variable (o : Outcome) (margin : String)

def skipLine (nativeName : String) (e : BindError) : String :=
  "// " ++ nativeName ++ ": skipped (" ++ e.reason ++ ")"

def delegateLines : Outcome → List String
  | bound draft => draft.delegateLines
  | skipped nativeName e => [skipLine nativeName e]

def importLines : Outcome → List String
  | bound draft => draft.importLines
  | skipped nativeName e => [skipLine nativeName e]

def wrapperLines : Outcome → List String
  | bound draft => draft.wrapperLines
  | skipped nativeName e => [skipLine nativeName e]

theorem skipText_eq (nativeName : String) (e : BindError) :
    skipText nativeName e margin = fragment margin [skipLine nativeName e] := by
  simp [skipText, skipLine, fragment, String.append_assoc]

theorem delegateText_eq : o.delegateText margin = fragment margin o.delegateLines := by
  cases o with
  | bound draft => exact draft.delegateText_eq margin
  | skipped nativeName e => exact skipText_eq margin nativeName e

theorem importText_eq : o.importText margin = fragment margin o.importLines := by
  cases o with
  | bound draft => exact draft.importText_eq margin
  | skipped nativeName e => exact skipText_eq margin nativeName e

theorem wrapperText_eq : o.wrapperText margin = fragment margin o.wrapperLines := by
  cases o with
  | bound draft => exact draft.wrapperText_eq margin
  | skipped nativeName e => exact skipText_eq margin nativeName e

end Lines

end Outcome

end NativeBindings
