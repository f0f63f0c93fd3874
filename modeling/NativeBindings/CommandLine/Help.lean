import NativeBindings.CommandLine.Arguments

namespace NativeBindings.CommandLine

def programName : String := "strand"

def Topic.usage : Topic → String
  | program => "Usage: " ++ programName ++ " [OPTIONS] <COMMAND>"
  | subcommand .generate => "Usage: " ++ programName ++ " generate [OPTIONS] <BINDINGS>"
  | subcommand .check => "Usage: " ++ programName ++ " check [OPTIONS] <BINDINGS>"
  | help => "Usage: " ++ programName ++ " help [COMMAND]..."

def Topic.lines : Topic → List String
  | program =>
    ["C# P/Invoke binding generator for native libraries",
      "",
      Topic.program.usage,
      "",
      "Commands:",
      "  generate  Generate bindings from a bindings file",
      "  check     Translate without writing output and report skipped functions",
      "  help      Print this message or the help of the given subcommand(s)",
      "",
      "Options:",
      "  -v, --verbose  Log rule decisions (overrides the default `STRAND_LOG` level)",
      "  -h, --help     Print help"]
  | subcommand .generate =>
    ["Generate bindings from a bindings file",
      "",
      (Topic.subcommand .generate).usage,
      "",
      "Arguments:",
      "  <BINDINGS>  Bindings file (TOML)",
      "",
      "Options:",
      "  -o, --output <OUTPUT>  Write the generated source here instead of stdout",
      "  -v, --verbose          Log rule decisions (overrides the default `STRAND_LOG` level)",
      "  -h, --help             Print help"]
  | subcommand .check =>
    ["Translate without writing output and report skipped functions",
      "",
      (Topic.subcommand .check).usage,
      "",
      "Arguments:",
      "  <BINDINGS>  Bindings file (TOML)",
      "",
      "Options:",
      "  -v, --verbose  Log rule decisions (overrides the default `STRAND_LOG` level)",
      "  -h, --help     Print help"]
  | help =>
    ["Print this message or the help of the given subcommand(s)",
      "",
      Topic.help.usage,
      "",
      "Arguments:",
      "  [COMMAND]...  Print help for the subcommand(s)"]

def Topic.text (t : Topic) : String :=
  String.join (t.lines.map fun line => line ++ "\n")

def UsageError.message : UsageError → String
  | noSubcommand => "a subcommand is required"
  | unknownSubcommand text => "unrecognized subcommand '" ++ text ++ "'"
  | unknownOption text => "unexpected argument '" ++ text ++ "' found"
  | unexpectedArgument text => "unexpected argument '" ++ text ++ "' found"
  | unexpectedValue option => "unexpected value for '" ++ option ++ "'"
  | repeated option => "the argument '" ++ option ++ "' cannot be used multiple times"
  | noFile => "a bindings file is required"
  | noOutput => "a value is required for '--output <OUTPUT>'"

end NativeBindings.CommandLine
