import NativeBindings.Classification
import NativeBindings.Identifier
import NativeBindings.Rule

namespace NativeBindings.Rule

def bufferCapacity : Nat := 256

def terminatorSize : Nat := 1

def textVariable : String := "managed_string"

def lengthVariable : String := "ret_length"

/-- The last two parameters are a buffer and its length, and the function returns the length of the
whole text. -/
def growableText (settings : Settings) (p : Progress) : Option (List Action) := do
  let buffer ← p.current?
  let size ← p.next?
  if buffer.type.isCString ∧
      NativeType.firstMatch ((p.remaining.drop 1).map (·.type)) NativeType.lengthTypes = some 0 ∧
      p.index + 2 = p.length ∧ p.returnTaken = false ∧
      p.signature.returns.name? = some "int" then
    let length ← settings.scalar? size.type
    let holder := Marshalling.outputLocal buffer.name
    return [.edit (.nativeParameter ⟨Identifier.escape buffer.name, .intPtr, .pointer holder⟩),
      .edit (.nativeParameter ⟨Identifier.escape size.name, length,
        .capacity holder (length == .uintPtr)⟩),
      .edit (.nativeReturn .int (some lengthVariable)),
      .edit (.managedReturn .string),
      .edit (.top (.declare "string" textVariable)),
      .edit (.top (.declare "int" lengthVariable)),
      .edit (.beforeCall (.openBuffer holder bufferCapacity)),
      .edit (.beforeCall .openBlock),
      .edit .enterScope,
      .edit (.afterCall (.ifFull holder lengthVariable) 0),
      .edit (.afterCall .openBlock 0),
      .edit (.afterCall (.growBuffer holder lengthVariable terminatorSize) 1),
      .edit (.afterCall .closeBlock 0),
      .edit .recall,
      .edit (.afterCall (.readBuffer textVariable holder (some lengthVariable)) 0),
      .edit .exitScope,
      .edit (.afterCall .closeBlock 0),
      .edit (.bottom (.giveBack (.var textVariable))),
      .takeParameter, .takeParameter, .takeReturn]
  else none

/-- The native type of a return value that a fixed buffer makes superfluous. A status code is left
to the rules for return values, and so is a type that has no place. -/
def ignoredReturn? (settings : Settings) (t : NativeType) : Option ManagedType :=
  if settings.isStatusCode t then none
  else if t.isCString ∨ (settings.handleClass? t).isSome then some .intPtr
  else if t.isVoid then some .void
  else settings.scalar? t

def fixedText (settings : Settings) (p : Progress) : Option (List Action) := do
  let buffer ← p.current?
  let size ← p.next?
  if buffer.name = "buffer" ∧ size.name = "buffer_size" ∧ buffer.type.isCString ∧
      size.type = .named "int" then
    let ignored := if p.returnTaken then none else ignoredReturn? settings p.signature.returns
    let holder := Marshalling.outputLocal buffer.name
    return [.edit (.nativeParameter ⟨"buffer", .intPtr, .pointer holder⟩),
      .edit (.nativeParameter ⟨"buffer_size", .int, .capacity holder false⟩),
      .edit (.managedReturn .string),
      .edit (.top (.declare "string" textVariable)),
      .edit (.beforeCall (.openBuffer holder bufferCapacity)),
      .edit (.beforeCall .openBlock),
      .edit .enterScope,
      .edit (.afterCall (.readBuffer textVariable holder none) 0),
      .edit .exitScope,
      .edit (.afterCall .closeBlock 0),
      .edit (.bottom (.giveBack (.var textVariable))),
      .takeParameter, .takeParameter] ++
      (match ignored with
      | some type => [.edit (.nativeReturn type none), .takeReturn]
      | none => [])
  else none

end NativeBindings.Rule
