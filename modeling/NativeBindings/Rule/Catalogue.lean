import NativeBindings.Rule.OutputText
import NativeBindings.Rule.Passing
import NativeBindings.Rule.Returning

namespace NativeBindings

inductive ParameterRule where
  | scalar
  | receiver
  | handle
  | growableText
  | fixedText
  | text
  | reference
  deriving DecidableEq, Repr

namespace ParameterRule

/-- The receiver comes before the handle that it also is, and output texts before plain texts. -/
def priority : List ParameterRule :=
  [scalar, receiver, handle, growableText, fixedText, text, reference]

def name : ParameterRule → String
  | scalar => "scalar"
  | receiver => "receiver"
  | handle => "handle"
  | growableText => "growable-string"
  | fixedText => "fixed-string"
  | text => "string-in"
  | reference => "by-reference"

def propose : ParameterRule → Settings → Progress → Option (List Action)
  | scalar => Rule.passScalar
  | receiver => Rule.passReceiver
  | handle => Rule.passHandle
  | growableText => Rule.growableText
  | fixedText => Rule.fixedText
  | text => Rule.passText
  | reference => Rule.passReference

def rule (r : ParameterRule) : Rule := .ofOption r.name r.propose

end ParameterRule

inductive ReturnRule where
  | status
  | scalar
  | handle
  | nothing
  | text
  deriving DecidableEq, Repr

namespace ReturnRule

/-- A status code comes before the scalar that it also is. -/
def priority : List ReturnRule := [status, scalar, handle, nothing, text]

def name : ReturnRule → String
  | status => "status-code"
  | scalar => "scalar-return"
  | handle => "handle-return"
  | nothing => "void-return"
  | text => "c-string-return"

def propose : ReturnRule → Settings → Progress → Option (List Action)
  | status => Rule.returnStatus
  | scalar => Rule.returnScalar
  | handle => Rule.returnHandle
  | nothing => Rule.returnNothing
  | text => Rule.returnText

def rule (r : ReturnRule) : Rule := .ofOption r.name r.propose

end ReturnRule

end NativeBindings
