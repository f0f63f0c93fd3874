namespace NativeBindings.Toml

def isPlain (c : Char) : Bool :=
  c == '\t' || (0x20 ≤ c.toNat && c.toNat != 0x7F)

def isWhite (c : Char) : Bool :=
  c == ' ' || c == '\t'

def hexNibble? (c : Char) : Option Nat :=
  if c.isDigit then some (c.toNat - '0'.toNat)
  else if 'a' ≤ c ∧ c ≤ 'f' then some (c.toNat - 'a'.toNat + 10)
  else if 'A' ≤ c ∧ c ≤ 'F' then some (c.toNat - 'A'.toNat + 10)
  else none

def numbered? (count : Nat) (s : List Char) : Option Char := do
  let digits := s.take count
  let values ← digits.mapM hexNibble?
  let n := values.foldl (fun n d => 16 * n + d) 0
  if digits.length = count ∧ n.isValidChar then return Char.ofNat n else none

/-- What follows a backslash: the character that is meant, and how many characters write it. -/
def escape? : List Char → Option (Char × Nat)
  | 'b' :: _ => some ('\x08', 1)
  | 't' :: _ => some ('\t', 1)
  | 'n' :: _ => some ('\n', 1)
  | 'f' :: _ => some ('\x0c', 1)
  | 'r' :: _ => some ('\r', 1)
  | '"' :: _ => some ('"', 1)
  | '\\' :: _ => some ('\\', 1)
  | 'u' :: s => (numbered? 4 s).map fun c => (c, 5)
  | 'U' :: s => (numbered? 8 s).map fun c => (c, 9)
  | _ => none

def gapLength : List Char → Nat
  | '\r' :: '\n' :: s => gapLength s + 2
  | c :: s => if isWhite c || c == '\n' then gapLength s + 1 else 0
  | [] => 0

def startsLine : List Char → Bool
  | '\n' :: _ => true
  | '\r' :: '\n' :: _ => true
  | _ => false

def continuation? (s : List Char) : Option Nat :=
  if startsLine (s.dropWhile isWhite) then some (gapLength s) else none

abbrev Written := List Char × Nat

namespace Written

def keep (c : Char) (w : Written) : Written := (c :: w.1, w.2 + 1)

def skip (count : Nat) (w : Written) : Written := (w.1, w.2 + count)

end Written

def basicLine : Nat → List Char → Option Written
  | _, [] => none
  | k + 1, _ :: s => (basicLine k s).map (.skip 1)
  | 0, c :: s =>
    if c = '"' then some ([], 1)
    else if c = '\\' then
      match escape? s with
      | some (d, k) => (basicLine k s).map (.keep d)
      | none => none
    else if isPlain c then (basicLine 0 s).map (.keep c)
    else none

def literalLine : List Char → Option Written
  | [] => none
  | c :: s =>
    if c = '\'' then some ([], 1)
    else if isPlain c then (literalLine s).map (.keep c)
    else none

/-- Three quotes close a text on several lines; up to two before them belong to it. Here `s` follows
the first quote. -/
def closing? (quote : Char) (s : List Char) : Option Written :=
  let count := (s.takeWhile (· == quote)).length + 1
  if count < 3 then none
  else
    let extra := min (count - 3) 2
    some (List.replicate extra quote, extra + 3)

def basicLines : Nat → List Char → Option Written
  | _, [] => none
  | k + 1, _ :: s => (basicLines k s).map (.skip 1)
  | 0, c :: s =>
    if c = '"' then
      match closing? c s with
      | some w => some w
      | none => (basicLines 0 s).map (.keep c)
    else if c = '\\' then
      match escape? s, continuation? s with
      | some (d, k), _ => (basicLines k s).map (.keep d)
      | none, some k => (basicLines k s).map (.skip 1)
      | none, none => none
    else if c = '\n' ∨ isPlain c then (basicLines 0 s).map (.keep c)
    else if c = '\r' ∧ s.head? = some '\n' then (basicLines 0 s).map (.skip 1)
    else none

def literalLines : List Char → Option Written
  | [] => none
  | c :: s =>
    if c = '\'' then
      match closing? c s with
      | some w => some w
      | none => (literalLines s).map (.keep c)
    else if c = '\n' ∨ isPlain c then (literalLines s).map (.keep c)
    else if c = '\r' ∧ s.head? = some '\n' then (literalLines s).map (.skip 1)
    else none

def lineEndLength : List Char → Nat
  | '\n' :: _ => 1
  | '\r' :: '\n' :: _ => 2
  | _ => 0

def quotation? : List Char → Option Written
  | '"' :: '"' :: '"' :: s => (basicLines (lineEndLength s) s).map (.skip 3)
  | '"' :: s => (basicLine 0 s).map (.skip 1)
  | '\'' :: '\'' :: '\'' :: s =>
    (literalLines (s.drop (lineEndLength s))).map (.skip (lineEndLength s + 3))
  | '\'' :: s => (literalLine s).map (.skip 1)
  | _ => none

end NativeBindings.Toml
