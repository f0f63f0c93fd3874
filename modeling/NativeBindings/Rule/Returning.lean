import NativeBindings.Classification
import NativeBindings.Rule

namespace NativeBindings.Rule

def returnStatus (settings : Settings) (p : Progress) : Option (List Action) := do
  let type ← settings.scalar? p.signature.returns
  if settings.isStatusCode p.signature.returns then
    return [.edit (.top (.declare type.name "ret_status")),
      .edit (.nativeReturn type (some "ret_status")),
      .edit (.bottom (.check settings.errorCheck "ret_status")), .takeReturn]
  else none

def returnScalar (settings : Settings) (p : Progress) : Option (List Action) := do
  let type ← settings.scalar? p.signature.returns
  return [.edit (.top (.declare type.name "ret_value")),
    .edit (.nativeReturn type (some "ret_value")), .edit (.managedReturn type),
    .edit (.bottom (.giveBack (.var "ret_value"))), .takeReturn]

def returnHandle (settings : Settings) (p : Progress) : Option (List Action) := do
  let className ← settings.handleClass? p.signature.returns
  return [.edit (.top (.declare "IntPtr" "ret_handle")),
    .edit (.nativeReturn .intPtr (some "ret_handle")),
    .edit (.managedReturn (.ofName className)),
    .edit (.bottom (.giveBack (.handle className "ret_handle"))), .takeReturn]

def returnNothing (_ : Settings) (p : Progress) : Option (List Action) :=
  if p.signature.returns.isVoid then some [.takeReturn] else none

def returnText (_ : Settings) (p : Progress) : Option (List Action) :=
  if p.signature.returns.isCString then
    some [.edit (.top (.declare "IntPtr" "ret_string")),
      .edit (.nativeReturn .intPtr (some "ret_string")), .edit (.managedReturn .string),
      .edit (.bottom (.giveBack (.textAt "ret_string"))), .takeReturn]
  else none

end NativeBindings.Rule
