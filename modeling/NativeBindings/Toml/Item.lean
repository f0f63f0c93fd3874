import NativeBindings.Text.Width
import NativeBindings.Toml.Scalar

namespace NativeBindings.Toml

structure Key where
  name : String
  span : Span
  deriving DecidableEq, Repr

/-- How a table came to be: by a header of its own or as the whole document, on the way of a header
to a table inside it, by a dotted key, or between braces. -/
inductive TableKind where
  | header
  | passage
  | dotted
  | braces
  deriving DecidableEq, Repr

inductive Item where
  | scalar (span : Span) (value : Scalar)
  | array (span : Span) (items : List Item)
  /-- The tables of the headers in double brackets with one name. -/
  | tables (items : List Item)
  /-- Only a table with a header or with braces has a place of its own. -/
  | table (kind : TableKind) (span : Option Span) (entries : List (Key × Item))
  deriving Repr

abbrev Entries := List (Key × Item)

namespace Item

def ownSpan? : Item → Option Span
  | scalar span _ => some span
  | array span _ => some span
  | tables _ => none
  | table _ span _ => span

/-- An array of tables reaches from its first table to its last. -/
def span? : Item → Option Span
  | tables items => do
    let first ← (← items.head?).ownSpan?
    let last ← (← items.getLast?).ownSpan?
    return ⟨first.start, last.stop⟩
  | item => item.ownSpan?

end Item

namespace Entries

def find? (entries : Entries) (name : String) : Option Item :=
  (List.find? (fun e => e.1.name == name) entries).map (·.2)

def replace (entries : Entries) (name : String) (item : Item) : Entries :=
  entries.map fun e => if e.1.name == name then (e.1, item) else e

def erase (entries : Entries) (name : String) : Entries :=
  List.filter (fun e => e.1.name != name) entries

def add (entries : Entries) (key : Key) (item : Item) : Option Entries :=
  if (entries.find? key.name).isSome then none else some (entries ++ [(key, item)])

end Entries

end NativeBindings.Toml
