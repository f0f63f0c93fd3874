import NativeBindings.Classification
import NativeBindings.Identifier
import NativeBindings.Rule

namespace NativeBindings.Rule

def passScalar (settings : Settings) (p : Progress) : Option (List Action) := do
  let parameter ← p.current?
  let type ← settings.scalar? parameter.type
  let name := Identifier.escape parameter.name
  return [.edit (.nativeParameter ⟨name, type, .var name⟩),
    .edit (.managedParameter ⟨name, type⟩), .takeParameter]

/-- The handle of the receiver, at the first position, is that of the object itself. -/
def passReceiver (settings : Settings) (p : Progress) : Option (List Action) := do
  let receiver ← p.signature.receiver
  let parameter ← p.current?
  if p.index = 0 ∧ parameter.type.fits (.pointer (.named receiver)) then
    return [.edit (.nativeParameter
        ⟨Identifier.escape parameter.name, .intPtr, .member "this" settings.handleField⟩),
      .edit .instanceMethod, .takeParameter]
  else none

def passHandle (settings : Settings) (p : Progress) : Option (List Action) := do
  let parameter ← p.current?
  let className ← settings.handleClass? parameter.type
  let name := Identifier.escape parameter.name
  return [.edit (.nativeParameter ⟨name, .intPtr, .member name settings.handleField⟩),
    .edit (.managedParameter ⟨name, .ofName className⟩), .takeParameter]

/-- A C string is taken as a managed string that is encoded for the time of the call. -/
def passText (_ : Settings) (p : Progress) : Option (List Action) := do
  let parameter ← p.current?
  if parameter.type.isCString then
    let name := Identifier.escape parameter.name
    let holder := Marshalling.inputLocal parameter.name
    return [.edit (.nativeParameter ⟨name, .intPtr, .pointer holder⟩),
      .edit (.managedParameter ⟨name, .string⟩),
      .edit (.beforeCall (.openText holder name)), .edit (.beforeCall .openBlock),
      .edit .enterScope, .edit .exitScope, .edit (.afterCall .closeBlock 0), .takeParameter]
  else none

def passReference (settings : Settings) (p : Progress) : Option (List Action) := do
  let parameter ← p.current?
  let base ← parameter.type.base?
  let type ← settings.referenceScalar? base
  let name := Identifier.escape parameter.name
  return [.edit (.nativeParameter ⟨name, type.asReference, .reference name⟩),
    .edit (.managedParameter ⟨name, type.asReference⟩), .takeParameter]

end NativeBindings.Rule
