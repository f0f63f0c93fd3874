namespace NativeBindings.CommandLine

inductive Subcommand where
  | generate
  | check
  deriving DecidableEq, Repr

inductive Command where
  /-- The generated source goes to a file or to the standard output. -/
  | generate (file : String) (output : Option String)
  | check (file : String)
  deriving DecidableEq, Repr

inductive Topic where
  | program
  | subcommand (s : Subcommand)
  | help
  deriving DecidableEq, Repr

inductive UsageError where
  | noSubcommand
  | unknownSubcommand (text : String)
  | unknownOption (text : String)
  | unexpectedArgument (text : String)
  | unexpectedValue (option : String)
  | repeated (option : String)
  | noFile
  | noOutput
  deriving DecidableEq, Repr

inductive Stop where
  | help (topic : Topic)
  | misuse (error : UsageError)
  deriving DecidableEq, Repr

inductive Word where
  | plain (text : String)
  | short (letters : List Char)
  | long (name : String) (value : Option String)
  | endOfOptions
  deriving DecidableEq, Repr

def Word.ofText (text : String) : Word :=
  match text.toList with
  | ['-', '-'] => .endOfOptions
  | '-' :: '-' :: rest =>
    let name := rest.takeWhile (· != '=')
    match rest.drop name.length with
    | [] => .long (String.ofList name) none
    | _ :: value => .long (String.ofList name) (some (String.ofList value))
  | '-' :: letter :: letters => .short (letter :: letters)
  | _ => .plain text

structure Options where
  file : Option String := none
  output : Option String := none
  /-- Whether more messages are asked for; the results are the same. -/
  verbose : Bool := false
  awaitsOutput : Bool := false
  ended : Bool := false
  deriving DecidableEq, Repr

namespace Options

def setVerbose (o : Options) : Except Stop Options :=
  if o.verbose then .error (.misuse (.repeated "--verbose")) else .ok { o with verbose := true }

def setFile (o : Options) (text : String) : Except Stop Options :=
  if o.file.isSome then .error (.misuse (.unexpectedArgument text))
  else if text.isEmpty then .error (.misuse .noFile)
  else .ok { o with file := some text }

def setOutput (o : Options) (text : String) : Except Stop Options :=
  if o.output.isSome then .error (.misuse (.repeated "--output"))
  else if text.isEmpty then .error (.misuse .noOutput)
  else .ok { o with output := some text, awaitsOutput := false }

/-- Reads the letters of one argument. An option with a value takes the letters after it, without
the `=` they may begin with, and the next argument if there are none. -/
def readLetters (s : Subcommand) (o : Options) : List Char → Except Stop Options
  | [] => .ok o
  | 'v' :: rest => do readLetters s (← o.setVerbose) rest
  | 'h' :: _ => .error (.help (.subcommand s))
  | letter :: rest =>
    match s, letter, rest with
    | .generate, 'o', [] => .ok { o with awaitsOutput := true }
    | .generate, 'o', '=' :: value => o.setOutput (String.ofList value)
    | .generate, 'o', value => o.setOutput (String.ofList value)
    | _, _, _ => .error (.misuse (.unknownOption ("-" ++ String.singleton letter)))

def readLong (s : Subcommand) (o : Options) (name : String) :
    Option String → Except Stop Options
  | none =>
    match s, name with
    | _, "verbose" => o.setVerbose
    | _, "help" => .error (.help (.subcommand s))
    | .generate, "output" => .ok { o with awaitsOutput := true }
    | _, _ => .error (.misuse (.unknownOption ("--" ++ name)))
  | some value =>
    match s, name with
    | _, "verbose" => .error (.misuse (.unexpectedValue "--verbose"))
    | _, "help" => .error (.misuse (.unexpectedValue "--help"))
    | .generate, "output" => o.setOutput value
    | _, _ => .error (.misuse (.unknownOption ("--" ++ name)))

def readWord (s : Subcommand) (o : Options) (text : String) : Except Stop Options :=
  if o.ended then o.setFile text
  else
    match Word.ofText text, o.awaitsOutput with
    | .plain text, true => o.setOutput text
    | _, true => .error (.misuse .noOutput)
    | .plain text, false => o.setFile text
    | .endOfOptions, false => .ok { o with ended := true }
    | .short letters, false => o.readLetters s letters
    | .long name value, false => o.readLong s name value

def command (s : Subcommand) (o : Options) : Except Stop Command :=
  if o.awaitsOutput then .error (.misuse .noOutput)
  else
    match s, o.file with
    | _, none => .error (.misuse .noFile)
    | .generate, some file => .ok (.generate file o.output)
    | .check, some file => .ok (.check file)

end Options

def Subcommand.ofName? : String → Option Subcommand
  | "generate" => some .generate
  | "check" => some .check
  | _ => none

/-- A help text is asked for by the name of a subcommand, or by none. -/
def helpTopic : List String → Stop
  | [] => .help .program
  | ["help"] => .help .help
  | "help" :: text :: _ => .misuse (.unknownSubcommand text)
  | name :: rest =>
    match Subcommand.ofName? name, rest with
    | none, _ => .misuse (.unknownSubcommand name)
    | some s, [] => .help (.subcommand s)
    | some _, text :: _ => .misuse (.unknownSubcommand text)

/-- Reads the letters of an argument before the subcommand; the flag tells whether more messages were
asked for there. -/
def readLetters (verbose : Bool) : List Char → Except Stop Bool
  | [] => .ok verbose
  | 'v' :: rest =>
    if verbose then .error (.misuse (.repeated "--verbose")) else readLetters true rest
  | 'h' :: _ => .error (.help .program)
  | letter :: _ => .error (.misuse (.unknownOption ("-" ++ String.singleton letter)))

def readArguments (verbose : Bool) : List String → Except Stop Command
  | [] => .error (.misuse .noSubcommand)
  | text :: rest =>
    match Word.ofText text with
    | .plain "help" => .error (helpTopic rest)
    | .plain name =>
      match Subcommand.ofName? name with
      | some s => do (← rest.foldlM (Options.readWord s) {}).command s
      | none => .error (.misuse (.unknownSubcommand name))
    | .short letters => do readArguments (← readLetters verbose letters) rest
    | .long "verbose" none =>
      if verbose then .error (.misuse (.repeated "--verbose")) else readArguments true rest
    | .long "help" none => .error (.help .program)
    | .long name _ => .error (.misuse (.unknownOption ("--" ++ name)))
    | .endOfOptions =>
      match rest with
      | [] => .error (.misuse .noSubcommand)
      | text :: _ => .error (.misuse (.unexpectedArgument text))

end NativeBindings.CommandLine
