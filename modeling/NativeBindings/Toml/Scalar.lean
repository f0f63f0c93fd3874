import NativeBindings.Decimal.Shortest
import NativeBindings.Toml.DateTime

namespace NativeBindings.Toml

open Decimal

inductive Scalar where
  | string (text : String)
  | integer (value : Int)
  | float (value : Binary64)
  | boolean (value : Bool)
  | dateTime (value : DateTime)
  deriving DecidableEq, Repr

def digits? (isDigit : Char → Bool) : List Char → Option (List Char)
  | [] => none
  | [c] => if isDigit c then some [c] else none
  | c :: '_' :: s => if isDigit c then (digits? isDigit s).map (c :: ·) else none
  | c :: d :: s => if isDigit c then (digits? isDigit (d :: s)).map (c :: ·) else none

def isHexDigit (c : Char) : Bool :=
  c.isDigit || ('a' ≤ c && c ≤ 'f') || ('A' ≤ c && c ≤ 'F')

def digitValue (c : Char) : Nat :=
  if c.isDigit then c.toNat - '0'.toNat else c.toLower.toNat - 'a'.toNat + 10

def valueOf (base : Nat) (digits : List Char) : Nat :=
  digits.foldl (fun n c => base * n + digitValue c) 0

def decimalDigits? (s : List Char) : Option (List Char) :=
  match digits? Char.isDigit s with
  | some ('0' :: _ :: _) => none
  | digits => digits

def splitSign : List Char → Bool × List Char
  | '-' :: s => (true, s)
  | '+' :: s => (false, s)
  | s => (false, s)

def inRange (n : Int) : Option Int :=
  if -9223372036854775808 ≤ n ∧ n ≤ 9223372036854775807 then some n else none

def integer? : List Char → Option Int
  | '0' :: 'x' :: s => (digits? isHexDigit s).bind fun ds => inRange (valueOf 16 ds)
  | '0' :: 'o' :: s =>
    (digits? (fun c => '0' ≤ c && c ≤ '7') s).bind fun ds => inRange (valueOf 8 ds)
  | '0' :: 'b' :: s =>
    (digits? (fun c => c == '0' || c == '1') s).bind fun ds => inRange (valueOf 2 ds)
  | s =>
    let (negative, s) := splitSign s
    (decimalDigits? s).bind fun ds =>
      inRange (if negative then -(valueOf 10 ds : Int) else valueOf 10 ds)

def exponent? : List Char → Option Int
  | [] => some 0
  | c :: s =>
    if c = 'e' ∨ c = 'E' then
      let (negative, s) := splitSign s
      (digits? Char.isDigit s).map fun ds =>
        if negative then -(valueOf 10 ds : Int) else valueOf 10 ds
    else none

/-- A float has a fraction or an exponent, or is one of the special words. One that is too large is
refused. -/
def float? (word : List Char) : Option Binary64 :=
  let (negative, s) := splitSign word
  if s = ['i', 'n', 'f'] then some (.infinite negative)
  else if s = ['n', 'a', 'n'] then some .nan
  else do
    let isPart := fun c : Char => c.isDigit || c == '_'
    let whole ← decimalDigits? (s.takeWhile isPart)
    let (part, rest) ← match s.dropWhile isPart with
      | '.' :: t => (digits? Char.isDigit (t.takeWhile isPart)).map fun ds => (ds, t.dropWhile isPart)
      | [] => none
      | t => some ([], t)
    let exponent ← exponent? rest
    let digits := whole ++ part
    let x := ofDecimal negative (valueOf 10 digits) digits.length (exponent - part.length)
    if x = .infinite false then none else return x

def Scalar.ofWord? (word : List Char) : Option Scalar :=
  if word = ['t', 'r', 'u', 'e'] then some (.boolean true)
  else if word = ['f', 'a', 'l', 's', 'e'] then some (.boolean false)
  else
    match DateTime.ofWord? word, integer? word with
    | some d, _ => some (.dateTime d)
    | none, some n => some (.integer n)
    | none, none => (float? word).map .float

end NativeBindings.Toml
