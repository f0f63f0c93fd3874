import NativeBindings.Outcome

/-!
What the rules do, in one closed form for each. A commit is a rule that was carried out, with the
parameters it used up and the types it found. It adds declarations to a draft, and at most one scope
around the native call.
-/

namespace NativeBindings

/-- A scope around the native call: the header that opens it, and what follows the call in it, with
depths counted from that of the call. -/
structure Scope where
  header : Statement
  inner : List Line := []

inductive Commit where
  | scalar (parameter : Parameter) (type : ManagedType)
  | receiver (parameter : Parameter)
  | handle (parameter : Parameter) (className : String)
  | growableText (buffer size : Parameter) (length : ManagedType)
  | fixedText (buffer size : Parameter) (ignored : Option ManagedType)
  | text (parameter : Parameter)
  | reference (parameter : Parameter) (type : ManagedType)
  | returnStatus (type : ManagedType)
  | returnScalar (type : ManagedType)
  | returnHandle (className : String)
  | returnNothing
  | returnText

namespace Commit

def rule : Commit → ParameterRule ⊕ ReturnRule
  | scalar _ _ => .inl .scalar
  | receiver _ => .inl .receiver
  | handle _ _ => .inl .handle
  | growableText _ _ _ => .inl .growableText
  | fixedText _ _ _ => .inl .fixedText
  | text _ => .inl .text
  | reference _ _ => .inl .reference
  | returnStatus _ => .inr .status
  | returnScalar _ => .inr .scalar
  | returnHandle _ => .inr .handle
  | returnNothing => .inr .nothing
  | returnText => .inr .text

def name (c : Commit) : String := c.rule.elim ParameterRule.name ReturnRule.name

def parameters : Commit → List Parameter
  | scalar q _ | receiver q | handle q _ | text q | reference q _ => [q]
  | growableText buffer size _ | fixedText buffer size _ => [buffer, size]
  | _ => []

def takesReturn : Commit → Bool
  | growableText _ _ _ => true
  | fixedText _ _ ignored => ignored.isSome
  | c => c.rule.isRight

def isReceiver : Commit → Bool
  | receiver _ => true
  | _ => false

/-- What a rule asks of the progress so far, apart from the rules before it. -/
def Fits (settings : Settings) (p : Progress) : Commit → Prop
  | scalar q type => p.current? = some q ∧ settings.scalar? q.type = some type
  | receiver q => p.current? = some q ∧ p.index = 0 ∧
      ∃ name, p.signature.receiver = some name ∧ q.type = .pointer (.named name)
  | handle q className => p.current? = some q ∧ settings.handleClass? q.type = some className
  | growableText buffer size length => p.current? = some buffer ∧ p.next? = some size ∧
      buffer.type = .pointer (.named "char") ∧
      (size.type = .named "int" ∨ size.type = .named "size_t") ∧ p.index + 2 = p.length ∧
      p.returnTaken = false ∧ p.signature.returns = .named "int" ∧
      settings.scalar? size.type = some length
  | fixedText buffer size ignored => p.current? = some buffer ∧ p.next? = some size ∧
      buffer.name = "buffer" ∧ size.name = "buffer_size" ∧
      buffer.type = .pointer (.named "char") ∧ size.type = .named "int" ∧
      ignored = if p.returnTaken then none else Rule.ignoredReturn? settings p.signature.returns
  | text q => p.current? = some q ∧ q.type = .pointer (.named "char")
  | reference q type => p.current? = some q ∧
      ∃ base, q.type = .pointer base ∧ settings.referenceScalar? base = some type
  | returnStatus type => settings.scalar? p.signature.returns = some type ∧
      p.signature.returns = .named settings.errorType
  | returnScalar type => settings.scalar? p.signature.returns = some type
  | returnHandle className => settings.handleClass? p.signature.returns = some className
  | returnNothing => p.signature.returns = .named "void"
  | returnText => p.signature.returns = .pointer (.named "char")

def nativeParameters (settings : Settings) : Commit → List NativeParameter
  | scalar q type => [⟨Identifier.escape q.name, type, .var (Identifier.escape q.name)⟩]
  | receiver q => [⟨Identifier.escape q.name, .intPtr, .member "this" settings.handleField⟩]
  | handle q _ => [⟨Identifier.escape q.name, .intPtr,
      .member (Identifier.escape q.name) settings.handleField⟩]
  | growableText buffer size length =>
    [⟨Identifier.escape buffer.name, .intPtr, .pointer (Marshalling.outputLocal buffer.name)⟩,
     ⟨Identifier.escape size.name, length,
      .capacity (Marshalling.outputLocal buffer.name) (length == .uintPtr)⟩]
  | fixedText buffer _ _ =>
    [⟨"buffer", .intPtr, .pointer (Marshalling.outputLocal buffer.name)⟩,
     ⟨"buffer_size", .int, .capacity (Marshalling.outputLocal buffer.name) false⟩]
  | text q => [⟨Identifier.escape q.name, .intPtr, .pointer (Marshalling.inputLocal q.name)⟩]
  | reference q type => [⟨Identifier.escape q.name, type.asReference,
      .reference (Identifier.escape q.name)⟩]
  | _ => []

def managedParameters : Commit → List ManagedParameter
  | scalar q type => [⟨Identifier.escape q.name, type⟩]
  | handle q className => [⟨Identifier.escape q.name, .ofName className⟩]
  | text q => [⟨Identifier.escape q.name, .string⟩]
  | reference q type => [⟨Identifier.escape q.name, type.asReference⟩]
  | _ => []

def declarations : Commit → List Statement
  | growableText _ _ _ =>
    [.declare "string" Rule.textVariable, .declare "int" Rule.lengthVariable]
  | fixedText _ _ _ => [.declare "string" Rule.textVariable]
  | returnStatus type => [.declare type.name "ret_status"]
  | returnScalar type => [.declare type.name "ret_value"]
  | returnHandle _ => [.declare "IntPtr" "ret_handle"]
  | returnText => [.declare "IntPtr" "ret_string"]
  | _ => []

def growthLines (holder : String) : List Line :=
  [⟨0, .statement (.ifFull holder Rule.lengthVariable)⟩, ⟨0, .statement .openBlock⟩,
   ⟨1, .statement (.growBuffer holder Rule.lengthVariable Rule.terminatorSize)⟩,
   ⟨0, .statement .closeBlock⟩, ⟨0, .nativeCall⟩,
   ⟨0, .statement (.readBuffer Rule.textVariable holder (some Rule.lengthVariable))⟩]

def scope? : Commit → Option Scope
  | growableText buffer _ _ => some {
      header := .openBuffer (Marshalling.outputLocal buffer.name) Rule.bufferCapacity
      inner := growthLines (Marshalling.outputLocal buffer.name) }
  | fixedText buffer _ _ => some {
      header := .openBuffer (Marshalling.outputLocal buffer.name) Rule.bufferCapacity
      inner := [⟨0, .statement
        (.readBuffer Rule.textVariable (Marshalling.outputLocal buffer.name) none)⟩] }
  | text q => some {
      header := .openText (Marshalling.inputLocal q.name) (Identifier.escape q.name) }
  | _ => none

def results (settings : Settings) : Commit → List Statement
  | growableText _ _ _ | fixedText _ _ _ => [.giveBack (.var Rule.textVariable)]
  | returnStatus _ => [.check settings.errorCheck "ret_status"]
  | returnScalar _ => [.giveBack (.var "ret_value")]
  | returnHandle className => [.giveBack (.handle className "ret_handle")]
  | returnText => [.giveBack (.textAt "ret_string")]
  | _ => []

def nativeReturn? : Commit → Option (ManagedType × Option String)
  | growableText _ _ _ => some (.int, some Rule.lengthVariable)
  | fixedText _ _ ignored => ignored.map (·, none)
  | returnStatus type => some (type, some "ret_status")
  | returnScalar type => some (type, some "ret_value")
  | returnHandle _ => some (.intPtr, some "ret_handle")
  | returnText => some (.intPtr, some "ret_string")
  | _ => none

def managedReturn? : Commit → Option ManagedType
  | growableText _ _ _ | fixedText _ _ _ | returnText => some .string
  | returnScalar type => some type
  | returnHandle className => some (.ofName className)
  | _ => none

end Commit

def Line.outermost (statements : List Statement) : List Line :=
  statements.map fun s => ⟨0, .statement s⟩

def Line.deepen (depth : Nat) (line : Line) : Line :=
  { line with depth := depth + line.depth }

namespace Scope

def opening (depth : Nat) (scope : Scope) : List Line :=
  [⟨depth, .statement scope.header⟩, ⟨depth, .statement .openBlock⟩]

def closing (depth : Nat) (scope : Scope) : List Line :=
  scope.inner.map (Line.deepen (depth + 1)) ++ [⟨depth, .statement .closeBlock⟩]

end Scope

def Draft.extend (settings : Settings) (d : Draft) (c : Commit) : Draft :=
  { d with
    nativeParameters := d.nativeParameters ++ c.nativeParameters settings
    managedParameters := d.managedParameters ++ c.managedParameters
    top := d.top ++ Line.outermost c.declarations
    above := d.above ++ c.scope?.elim [] (Scope.opening d.nesting.above)
    below := c.scope?.elim [] (Scope.closing d.nesting.above) ++ d.below
    bottom := Line.outermost (c.results settings) ++ d.bottom
    nesting := if c.scope?.isSome then d.nesting.enter.exit else d.nesting
    nativeReturn := c.nativeReturn?.elim d.nativeReturn (·.1)
    returnVariable := c.nativeReturn?.elim d.returnVariable (·.2)
    managedReturn := c.managedReturn?.getD d.managedReturn
    isInstance := d.isInstance || c.isReceiver }

def Progress.after (p : Progress) (c : Commit) : Progress :=
  { p with
    index := p.index + c.parameters.length
    returnTaken := p.returnTaken || c.takesReturn }

def Work.commit (settings : Settings) (w : Work) (c : Commit) : Work :=
  { progress := w.progress.after c, draft := w.draft.extend settings c }

end NativeBindings
