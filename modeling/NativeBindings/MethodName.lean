import NativeBindings.Unicode.Alphanumeric
import NativeBindings.Unicode.CaseMapping
import NativeBindings.Unicode.LetterCase

namespace NativeBindings.MethodName

open Unicode

def pieces : List Char → List (List Char)
  | [] => [[]]
  | c :: s =>
    match isAlphanumeric c, pieces s with
    | true, p :: rest => (c :: p) :: rest
    | true, [] => [[c]]
    | false, rest => [] :: rest

/-- The case of the letters of a word so far: none yet, or that of the last cased letter. -/
inductive Mode where
  | start
  | lower
  | upper
  deriving DecidableEq, Repr

def Mode.after (mode : Mode) (c : Char) : Mode :=
  if isLowercase c then .lower else if isUppercase c then .upper else mode

/-- Cuts a piece into words. A word ends after a lowercase letter before an uppercase one, and a run
of uppercase letters gives its last letter to the lowercase letters that follow. -/
def cut : Mode → List Char → List Char → List (List Char)
  | _, _, [] => []
  | _, word, [c] => [word ++ [c]]
  | mode, word, c :: next :: s =>
    if mode.after c = .lower ∧ isUppercase next then
      (word ++ [c]) :: cut .start [] (next :: s)
    else if mode = .upper ∧ isUppercase c ∧ isLowercase next then
      word :: cut .start [c] (next :: s)
    else cut (mode.after c) (word ++ [c]) (next :: s)

def words (s : List Char) : List (List Char) :=
  (pieces s).flatMap (cut .start [])

def lowerTail : List Char → List Char
  | [] => []
  | [c] => if c = 'Σ' then ['ς'] else lowercase c
  | c :: d :: s => lowercase c ++ lowerTail (d :: s)

def capitalize : List Char → List Char
  | [] => []
  | c :: s => uppercase c ++ lowerTail s

def pascalCase (s : List Char) : List Char :=
  (words s).flatMap capitalize

def afterReceiver? (native receiver : List Char) : Option (List Char) :=
  match receiver.isPrefixOf? native with
  | some ('_' :: c :: rest) => some (c :: rest)
  | _ => none

def afterUnderscore? (native : List Char) : Option (List Char) :=
  match native.dropWhile (· ≠ '_') with
  | _ :: c :: rest => some (c :: rest)
  | _ => none

def stem (native : List Char) (receiver : Option (List Char)) : List Char :=
  match receiver.bind (afterReceiver? native) with
  | some rest => rest
  | none => (afterUnderscore? native).getD native

def derive (native : String) (receiver : Option String) : String :=
  String.ofList (pascalCase (stem native.toList (receiver.map String.toList)))

end NativeBindings.MethodName
