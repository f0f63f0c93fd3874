import NativeBindings.CommandLine

open NativeBindings.CommandLine

/-- The files of the system. A file that is not well-formed text is not readable. -/
def systemFiles : FileAccess IO where
  read path := try return some (← IO.FS.readFile path) catch _ => return none
  write path text := try IO.FS.writeFile path text; return true catch _ => return false

def main (arguments : List String) : IO UInt32 := do
  let report ← run systemFiles arguments
  (← IO.getStderr).putStr report.messages
  (← IO.getStdout).putStr report.output
  return report.exitCode.toUInt32
