namespace NativeBindings.Toml

structure Date where
  year : Nat
  month : Nat
  day : Nat
  deriving DecidableEq, Repr

/-- A time of day; the fraction of the second is counted in billionths. -/
structure Time where
  hour : Nat
  minute : Nat
  second : Nat
  nanosecond : Nat
  deriving DecidableEq, Repr

inductive Offset where
  | zulu
  | custom (negative : Bool) (hour minute : Nat)
  deriving DecidableEq, Repr

structure DateTime where
  date : Option Date := none
  time : Option Time := none
  offset : Option Offset := none
  deriving DecidableEq, Repr

def number? (digits : List Char) : Option Nat :=
  if digits.all Char.isDigit then some (digits.foldl (fun n c => 10 * n + (c.toNat - '0'.toNat)) 0)
  else none

def isLeapYear (year : Nat) : Bool :=
  year % 4 == 0 && (year % 100 != 0 || year % 400 == 0)

def daysInMonth (year month : Nat) : Nat :=
  if month = 2 then (if isLeapYear year then 29 else 28)
  else if month = 4 ∨ month = 6 ∨ month = 9 ∨ month = 11 then 30
  else 31

def date? : List Char → Option (Date × List Char)
  | y₁ :: y₂ :: y₃ :: y₄ :: '-' :: m₁ :: m₂ :: '-' :: d₁ :: d₂ :: rest => do
    let year ← number? [y₁, y₂, y₃, y₄]
    let month ← number? [m₁, m₂]
    let day ← number? [d₁, d₂]
    if 1 ≤ month ∧ month ≤ 12 ∧ 1 ≤ day ∧ day ≤ daysInMonth year month then
      return (⟨year, month, day⟩, rest)
    else none
  | _ => none

def fraction? : List Char → Option (Nat × List Char)
  | '.' :: rest =>
    let digits := rest.takeWhile Char.isDigit
    if digits.isEmpty then none
    else (number? ((digits ++ List.replicate 9 '0').take 9)).map fun n =>
      (n, rest.dropWhile Char.isDigit)
  | rest => some (0, rest)

def time? : List Char → Option (Time × List Char)
  | h₁ :: h₂ :: ':' :: m₁ :: m₂ :: ':' :: s₁ :: s₂ :: rest => do
    let hour ← number? [h₁, h₂]
    let minute ← number? [m₁, m₂]
    let second ← number? [s₁, s₂]
    let (nanosecond, rest) ← fraction? rest
    if hour ≤ 23 ∧ minute ≤ 59 ∧ second ≤ 60 then
      return (⟨hour, minute, second, nanosecond⟩, rest)
    else none
  | _ => none

def customOffset? (negative : Bool) : List Char → Option Offset
  | [h₁, h₂, ':', m₁, m₂] => do
    let hour ← number? [h₁, h₂]
    let minute ← number? [m₁, m₂]
    if hour ≤ 23 ∧ minute ≤ 59 then return .custom negative hour minute else none
  | _ => none

def offset? : List Char → Option (Option Offset)
  | [] => some none
  | ['Z'] | ['z'] => some (some .zulu)
  | '+' :: rest => (customOffset? false rest).map some
  | '-' :: rest => (customOffset? true rest).map some
  | _ => none

def DateTime.ofWord? (word : List Char) : Option DateTime :=
  match date? word with
  | some (date, []) => some { date }
  | some (date, mark :: rest) =>
    if mark = 'T' ∨ mark = 't' then do
      let (time, rest) ← time? rest
      let offset ← offset? rest
      return { date, time, offset }
    else none
  | none =>
    match time? word with
    | some (time, []) => some { time }
    | _ => none

def padded (count n : Nat) : List Char :=
  let digits := Nat.toDigits 10 n
  List.replicate (count - digits.length) '0' ++ digits

def Date.text (d : Date) : List Char :=
  padded 4 d.year ++ '-' :: padded 2 d.month ++ '-' :: padded 2 d.day

def Time.text (t : Time) : List Char :=
  padded 2 t.hour ++ ':' :: padded 2 t.minute ++ ':' :: padded 2 t.second ++
    (if t.nanosecond = 0 then []
    else '.' :: ((padded 9 t.nanosecond).reverse.dropWhile (· == '0')).reverse)

def Offset.text : Offset → List Char
  | .zulu => ['Z']
  | .custom negative hour minute =>
    (if negative ∧ (hour ≠ 0 ∨ minute ≠ 0) then '-' else '+') :: padded 2 hour ++
      ':' :: padded 2 minute

def DateTime.text (d : DateTime) : String :=
  String.ofList <|
    (d.date.map Date.text).getD [] ++
    (if d.date.isSome ∧ d.time.isSome then ['T'] else []) ++
    (d.time.map Time.text).getD [] ++ (d.offset.map Offset.text).getD []

end NativeBindings.Toml
