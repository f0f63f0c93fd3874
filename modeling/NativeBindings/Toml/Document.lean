import NativeBindings.Toml.Quotation
import NativeBindings.Toml.Table

/-!
The grammar of TOML 1.0 documents. Reading works on the rest of the document and the offset, in
bytes, at which that rest begins. A text that is no document has no entries at all.
-/

namespace NativeBindings.Toml

open Text

structure Input where
  rest : List Char
  offset : Nat

namespace Input

def advance (i : Input) (count : Nat) : Input :=
  { rest := i.rest.drop count, offset := i.offset + width (i.rest.take count) }

def skipWhite (i : Input) : Input := i.advance (i.rest.takeWhile isWhite).length

def symbol? (i : Input) (c : Char) : Option Input :=
  match i.rest with
  | d :: _ => if d = c then some (i.advance 1) else none
  | [] => none

def token? {α : Type} (i : Input) (read : List Char → Option (α × Nat)) :
    Option (α × Span × Input) :=
  (read i.rest).map fun (a, count) =>
    let next := i.advance count
    (a, ⟨i.offset, next.offset⟩, next)

end Input

/-- Counts the blanks, line ends and comments at the start of a text. The flag tells that a comment
is being read, and `n` counts what was read before. -/
def triviaLength : Bool → Nat → List Char → Option Nat
  | _, n, [] => some n
  | inComment, n, c :: s =>
    if c = '\n' then triviaLength false (n + 1) s
    else if c = '\r' ∧ s.head? = some '\n' then triviaLength false (n + 1) s
    else if inComment then (if isPlain c then triviaLength true (n + 1) s else none)
    else if isWhite c then triviaLength false (n + 1) s
    else if c = '#' then triviaLength true (n + 1) s
    else some n

def Input.skipTrivia (i : Input) : Option Input := (triviaLength false 0 i.rest).map i.advance

def Input.endsLine (i : Input) : Bool :=
  let rest := i.rest.dropWhile isWhite
  rest.isEmpty || startsLine rest || rest.head? == some '#'

def isBareKeyChar (c : Char) : Bool := c.isAlphanum || c == '-' || c == '_'

def simpleKey? : List Char → Option Written
  | '"' :: s => (basicLine 0 s).map (.skip 1)
  | '\'' :: s => (literalLine s).map (.skip 1)
  | s =>
    let word := s.takeWhile isBareKeyChar
    if word.isEmpty then none else some (word, word.length)

/-- How many keys a path may have, and how deep values may be nested. -/
def depthLimit : Nat := 79

def keyPath : Nat → Input → Option (List Key × Key × Input)
  | 0, _ => none
  | limit + 1, i => do
    let (name, span, i) ← i.skipWhite.token? simpleKey?
    let key : Key := ⟨String.ofList name, span⟩
    let i := i.skipWhite
    match i.symbol? '.' with
    | none => return ([], key, i)
    | some i => do
      let (path, last, i) ← keyPath limit i
      return (key :: path, last, i)

def isWordChar (c : Char) : Bool :=
  c.isAlphanum || c == '+' || c == '-' || c == '.' || c == '_' || c == ':'

def wordScalar? (s : List Char) : Option (Scalar × Nat) :=
  let word := s.takeWhile isWordChar
  let counted (word : List Char) : Option (Scalar × Nat) :=
    (Scalar.ofWord? word).map fun v => (v, word.length)
  match date? word, s.dropWhile isWordChar with
  | some (_, []), ' ' :: c :: t =>
    if c.isDigit then counted (word ++ 'T' :: (c :: t).takeWhile isWordChar) else counted word
  | _, _ => counted word

def scalar? (s : List Char) : Option (Scalar × Nat) :=
  match quotation? s with
  | some (text, count) => some (.string (String.ofList text), count)
  | none => wordScalar? s

def arrayItems (element : Input → Option (Item × Input)) : Nat → Input → Option (List Item × Input)
  | 0, _ => none
  | bound + 1, i => do
    let i ← i.skipTrivia
    match i.symbol? ']' with
    | some i => return ([], i)
    | none => do
      let (item, i) ← element i
      let i ← i.skipTrivia
      match i.symbol? ',' with
      | some i => do
        let (items, i) ← arrayItems element bound i
        return (item :: items, i)
      | none => do
        let i ← i.symbol? ']'
        return ([item], i)

def assignment? (value : Input → Option (Item × Input)) (i : Input) :
    Option (Assignment × Input) := do
  let (path, key, i) ← keyPath depthLimit i
  let i ← i.symbol? '='
  let (item, i) ← value i.skipWhite
  return (⟨path, key, item⟩, i)

def bracesItems (value : Input → Option (Item × Input)) :
    Nat → Input → Option (List Assignment × Input)
  | 0, _ => none
  | bound + 1, i => do
    let (a, i) ← assignment? value i
    let i := i.skipWhite
    match i.symbol? ',' with
    | some i => do
      let (as, i) ← bracesItems value bound i
      return (a :: as, i)
    | none => do
      let i ← i.symbol? '}'
      return ([a], i)

/-- A value. Arrays and tables have at most `bound` members, and the next argument tells how deep
they may still be nested. -/
def value? (bound : Nat) : Nat → Input → Option (Item × Input)
  | 0, i => (i.token? scalar?).map fun (v, span, i) => (.scalar span v, i)
  | depth + 1, i =>
    match i.rest.head? with
    | some '[' => do
      let (items, next) ← arrayItems (value? bound depth) bound (i.advance 1)
      return (.array ⟨i.offset, next.offset⟩ items, next)
    | some '{' => do
      let inner := (i.advance 1).skipWhite
      let (as, next) ← match inner.symbol? '}' with
        | some next => some ([], next)
        | none => bracesItems (value? bound depth) bound inner
      return (← bracesTable ⟨i.offset, next.offset⟩ as, next)
    | _ => (i.token? scalar?).map fun (v, span, i) => (.scalar span v, i)

def header? (i : Input) : Option (Header × Input) := do
  let start := i.offset
  let i ← i.symbol? '['
  match i.symbol? '[' with
  | some i => do
    let (path, key, i) ← keyPath depthLimit i
    let i ← (← i.symbol? ']').symbol? ']'
    return (⟨true, path, key, ⟨start, i.offset⟩⟩, i)
  | none => do
    let (path, key, i) ← keyPath depthLimit i
    let i ← i.symbol? ']'
    return (⟨false, path, key, ⟨start, i.offset⟩⟩, i)

def line? (bound : Nat) (i : Input) : Option (Line × Input) := do
  let (line, i) ←
    if i.rest.head? = some '[' then (header? i).map fun (h, i) => (Line.header h, i)
    else
      (assignment? (value? bound depthLimit) i).map fun (a, i) => (Line.assignment a, i)
  if i.endsLine then return (line, i) else none

def lines? (bound : Nat) : Nat → Input → Option (List Line)
  | 0, _ => none
  | count + 1, i => do
    let i ← i.skipTrivia
    if i.rest.isEmpty then return []
    let (line, i) ← line? bound i
    return line :: (← lines? bound count i)

def start (text : List Char) : Input :=
  let i : Input := ⟨text, 0⟩
  (i.symbol? '\ufeff').getD i

def parse (text : String) : Option Entries := do
  let i := start text.toList
  let bound := i.rest.length + 1
  entriesOf (← lines? bound bound i)

end NativeBindings.Toml
