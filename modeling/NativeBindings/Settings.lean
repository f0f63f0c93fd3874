namespace NativeBindings

abbrev NameTable := List (String × String)

structure Settings where
  library : String := "native"
  nativeClass : String := "NativeMethods"
  errorType : String := "sp_error"
  errorCheck : String := "SpotifyException.Check"
  handleField : String := "_handle"
  enums : NameTable := []
  handles : NameTable := []
  deriving DecidableEq, Repr

end NativeBindings
