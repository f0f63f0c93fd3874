namespace NativeBindings.Marshalling

def openBuffer (name : String) (capacity : Nat) : String :=
  "using (Utf8Buffer " ++ name ++ " = Utf8Buffer.Allocate(" ++ toString capacity ++ "))"

def growBuffer (name length : String) : String :=
  name ++ ".Reallocate(" ++ length ++ ");"

def pointer (name : String) : String :=
  name ++ ".IntPtr"

def capacity (name : String) : String :=
  name ++ ".Capacity"

def bufferText (name : String) (length : Option String) : String :=
  name ++ ".GetString(" ++ length.getD "" ++ ")"

def openText (name argument : String) : String :=
  "using (Utf8String " ++ name ++ " = SpotifyMarshalling.StringToUtf8(" ++ argument ++ "))"

def textAt (address : String) : String :=
  "SpotifyMarshalling.Utf8ToString(" ++ address ++ ")"

def wrapHandle (className address : String) : String :=
  "new " ++ className ++ "(" ++ address ++ ")"

def inputLocal (parameter : String) : String :=
  "utf8_" ++ parameter

def outputLocal (parameter : String) : String :=
  "out_" ++ parameter

end NativeBindings.Marshalling
