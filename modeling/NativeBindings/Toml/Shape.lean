import NativeBindings.Text.Quoted
import NativeBindings.Toml.Item

namespace NativeBindings.Toml

inductive ShapeProblem where
  | unknownField (name : String) (fields : List String)
  | missingField (name : String)
  | wrongType (found wanted : String)
  | wrongValue (found wanted : String)
  | wrongLength (length : Nat) (wanted : String)
  deriving DecidableEq, Repr

def alternatives : List String → String
  | [a, b] => "`" ++ a ++ "` or `" ++ b ++ "`"
  | names => "one of " ++ ", ".intercalate (names.map fun name => "`" ++ name ++ "`")

def ShapeProblem.message : ShapeProblem → String
  | unknownField name fields => "unknown field `" ++ name ++ "`, expected " ++ alternatives fields
  | missingField name => "missing field `" ++ name ++ "`"
  | wrongType found wanted => "invalid type: " ++ found ++ ", expected " ++ wanted
  | wrongValue found wanted => "invalid value: " ++ found ++ ", expected " ++ wanted
  | wrongLength length wanted => "invalid length " ++ toString length ++ ", expected " ++ wanted

structure ShapeError where
  problem : ShapeProblem
  span : Span
  deriving DecidableEq, Repr

abbrev Shaped (α : Type) := Except ShapeError α

/-- Reads an item. The place is that of the item or, failing that, of its key. -/
abbrev Reader (α : Type) := Span → Item → Shaped α

def fail {α : Type} (span : Span) (problem : ShapeProblem) : Shaped α := .error ⟨problem, span⟩

def Item.description : Item → String
  | .scalar _ (.string text) => "string " ++ Text.quote text
  | .scalar _ (.integer n) => "integer `" ++ toString n ++ "`"
  | .scalar _ (.float x) => "floating point `" ++ x.text ++ "`"
  | .scalar _ (.boolean b) => "boolean `" ++ (if b then "true" else "false") ++ "`"
  | .scalar _ (.dateTime _) => "map"
  | .array _ _ => "sequence"
  | .tables _ => "sequence"
  | .table _ _ _ => "map"

def mismatch {α : Type} (wanted : String) (span : Span) (item : Item) : Shaped α :=
  fail span (.wrongType item.description wanted)

def readString : Reader String
  | _, .scalar _ (.string text) => .ok text
  | span, item => mismatch "a string" span item

def readBool : Reader Bool
  | _, .scalar _ (.boolean b) => .ok b
  | span, item => mismatch "a boolean" span item

def readNat : Reader Nat
  | span, .scalar _ (.integer n) =>
    if 0 ≤ n then .ok n.toNat
    else fail span (.wrongValue ("integer `" ++ toString n ++ "`") "usize")
  | span, item => mismatch "usize" span item

structure Spelled where
  text : String
  span : Span
  deriving DecidableEq, Repr

/-- A text whose place is wanted too. In a table that has no place the first key is taken for the
mark of a place. -/
def readSpelled : Reader Spelled
  | _, .scalar span (.string text) => .ok ⟨text, span⟩
  | _, .table _ none ((key, _) :: _) =>
    fail key.span (.wrongType ("string " ++ Text.quote key.name) "a borrowed string")
  | span, item => mismatch "a string" span item

def dateTimeKey : String := "$__toml_private_datetime"

def readTable {α : Type} (read : Reader α) : Reader (List (String × α))
  | _, .table _ _ entries =>
    entries.mapM fun (key, item) => do
      return (key.name, ← read ((item.span?).getD key.span) item)
  | span, .scalar place (.dateTime d) => do
    return [(dateTimeKey, ← read span (.scalar place (.string d.text)))]
  | span, item => mismatch "a map" span item

def readList {α : Type} (read : Reader α) : Reader (List α)
  | span, .array _ items => items.mapM fun item => read ((item.span?).getD span) item
  | span, .tables items => items.mapM fun item => read ((item.span?).getD span) item
  | span, item => mismatch "a sequence" span item

/-- Whether a record may lack a field: never, in a table only, or in a table and in an array. -/
inductive Need where
  | required
  | absentInTable
  | hasDefault
  deriving DecidableEq, Repr

structure Field (α : Type) where
  name : String
  need : Need
  read : α → Reader α

def Field.of {α β : Type} (name : String) (need : Need) (read : Reader β) (set : α → β → α) :
    Field α where
  name := name
  need := need
  read record span item := (read span item).map (set record)

structure Record (α : Type) where
  name : String
  fields : List (Field α)
  initial : α

namespace Record

variable {α : Type}

def readEntry (r : Record α) (record : α) (entry : Key × Item) : Shaped α :=
  match r.fields.find? (·.name == entry.1.name) with
  | some field => field.read record ((entry.2.span?).getD entry.1.span) entry.2
  | none => fail entry.1.span (.unknownField entry.1.name (r.fields.map (·.name)))

def readEntries (r : Record α) (span : Span) (entries : Entries) : Shaped α := do
  let record ← entries.foldlM r.readEntry r.initial
  match r.fields.find? fun f => f.need == .required && (entries.find? f.name).isNone with
  | some field => fail span (.missingField field.name)
  | none => return record

def arrayShape (r : Record α) : String :=
  r.name ++ " with " ++ toString r.fields.length ++
    (if r.fields.length = 1 then " element" else " elements")

def readElements (r : Record α) (span : Span) :
    Nat → List (Field α) → List Item → α → Shaped α
  | _, [], _, record => .ok record
  | n, field :: fields, item :: items, record => do
    readElements r span (n + 1) fields items
      (← field.read record ((item.span?).getD span) item)
  | n, field :: fields, [], record =>
    if field.need = .hasDefault then readElements r span (n + 1) fields [] record
    else fail span (.wrongLength n r.arrayShape)

def read (r : Record α) : Reader α
  | span, .table _ _ entries => r.readEntries span entries
  | span, .array _ items => readElements r span 0 r.fields items r.initial
  | span, .tables items => readElements r span 0 r.fields items r.initial
  | span, .scalar _ (.dateTime _) =>
    fail span (.unknownField dateTimeKey (r.fields.map (·.name)))
  | span, item => mismatch r.name span item

end Record

end NativeBindings.Toml
