import NativeBindings.Draft

namespace NativeBindings

def indentation (depth : Nat) : String :=
  String.ofList (List.replicate (4 * (depth + 1)) ' ')

def ManagedType.returnText (t : ManagedType) (margin : String) : String :=
  match t.returnAttributes with
  | some attributes => margin ++ attributes ++ "\n"
  | none => ""

namespace Draft

def nativeParameterText (d : Draft) : String :=
  ", ".intercalate (d.nativeParameters.map fun p => p.type.parameterText p.name)

def managedParameterText (d : Draft) : String :=
  ", ".intercalate (d.managedParameters.map fun p => p.type.parameterText p.name)

def callText (d : Draft) : String :=
  let call := d.nativeClass ++ "." ++ d.nativeName ++ "(" ++
    ", ".intercalate (d.nativeParameters.map fun p => p.argument.text) ++ ");"
  match d.returnVariable with
  | some target => target ++ " = " ++ call
  | none => call

def lineText (d : Draft) (line : Line) : String :=
  match line.content with
  | .statement s => s.text
  | .nativeCall => d.callText

def delegateText (d : Draft) (margin : String) : String :=
  d.nativeReturn.returnText margin ++
    margin ++ "internal delegate " ++ d.nativeReturn.name ++ " " ++ d.nativeName ++ "_delegate(" ++
      d.nativeParameterText ++ ");\n"

def importText (d : Draft) (margin : String) : String :=
  margin ++ "[DllImport(\"" ++ d.library ++ "\")]\n" ++ d.nativeReturn.returnText margin ++
    margin ++ "internal static extern " ++ d.nativeReturn.name ++ " " ++ d.nativeName ++ "(" ++
      d.nativeParameterText ++ ");\n"

def headerLine (d : Draft) : String :=
  "public " ++ (if d.isInstance then "" else "static ") ++ d.managedReturn.name ++ " " ++
    d.managedName ++ "(" ++ d.managedParameterText ++ ")"

def bodyText (d : Draft) (margin : String) : String :=
  String.join (d.body.map fun line =>
    margin ++ indentation line.depth ++ d.lineText line ++ "\n")

def wrapperText (d : Draft) (margin : String) : String :=
  if d.wrapper then
    d.managedReturn.returnText margin ++ margin ++ d.headerLine ++ "\n" ++ margin ++ "\x7b\n" ++
      d.bodyText margin ++ margin ++ "\x7d\n"
  else margin ++ "// " ++ d.nativeName ++ ": no wrapper generated\n"

end Draft

/-- Lines with a margin before each. -/
def fragment (margin : String) (lines : List String) : String :=
  String.join (lines.map fun line => margin ++ line ++ "\n")

section Lines

variable {margin line : String} {lines more : List String}

theorem fragment_cons :
    fragment margin (line :: lines) = margin ++ line ++ "\n" ++ fragment margin lines := by
  simp [fragment]

theorem fragment_append :
    fragment margin (lines ++ more) = fragment margin lines ++ fragment margin more := by
  simp [fragment]

theorem ManagedType.returnText_eq (t : ManagedType) (margin : String) :
    t.returnText margin = fragment margin t.returnAttributes.toList := by
  rw [returnText]
  cases t.returnAttributes <;> simp [fragment]

namespace Draft

variable (d : Draft) (margin : String)

def delegateLines : List String :=
  d.nativeReturn.returnAttributes.toList ++
    ["internal delegate " ++ d.nativeReturn.name ++ " " ++ d.nativeName ++ "_delegate(" ++
      d.nativeParameterText ++ ");"]

def importLines : List String :=
  ["[DllImport(\"" ++ d.library ++ "\")]"] ++ d.nativeReturn.returnAttributes.toList ++
    ["internal static extern " ++ d.nativeReturn.name ++ " " ++ d.nativeName ++ "(" ++
      d.nativeParameterText ++ ");"]

def wrapperLines : List String :=
  if d.wrapper then
    d.managedReturn.returnAttributes.toList ++ [d.headerLine, "\x7b"] ++
      d.body.map (fun line => indentation line.depth ++ d.lineText line) ++ ["\x7d"]
  else ["// " ++ d.nativeName ++ ": no wrapper generated"]

theorem delegateText_eq : d.delegateText margin = fragment margin d.delegateLines := by
  rw [delegateText, delegateLines, fragment_append, ManagedType.returnText_eq]
  simp [fragment, String.append_assoc]

theorem importText_eq : d.importText margin = fragment margin d.importLines := by
  rw [importText, importLines, fragment_append, fragment_append, ManagedType.returnText_eq]
  simp [fragment, String.append_assoc]

theorem bodyText_eq : d.bodyText margin =
    fragment margin (d.body.map fun line => indentation line.depth ++ d.lineText line) := by
  rw [bodyText, fragment, List.map_map]
  congr 2
  funext line
  simp [String.append_assoc]

theorem wrapperText_eq : d.wrapperText margin = fragment margin d.wrapperLines := by
  rw [wrapperText, wrapperLines]
  split
  · rw [fragment_append, fragment_append, fragment_append, ManagedType.returnText_eq, bodyText_eq]
    simp [fragment, String.append_assoc]
  · simp [fragment, String.append_assoc]

end Draft

end Lines

end NativeBindings
