import NativeBindings.Toml.Item

/-!
How the lines of a TOML document make up its tables. A name is given to one value only: a dotted key
may extend only tables that have no header of their own, and a header may name only a table that was
so far passed through.
-/

namespace NativeBindings.Toml

structure Assignment where
  path : List Key
  key : Key
  value : Item

structure Header where
  isElement : Bool
  path : List Key
  key : Key
  span : Span

inductive Line where
  | assignment (assignment : Assignment)
  | header (header : Header)

structure Section where
  header : Header
  assignments : List Assignment

/-- Whether a path may lead through a table; `via` is the kind of the tables that it creates. -/
def admits (via kind : TableKind) : Bool :=
  match via with
  | .dotted => kind == .passage || kind == .dotted
  | _ => kind != .braces

/-- Changes the table at the end of a path. Tables that are missing on the way are created; an array
of tables leads to its last element. -/
def change (via : TableKind) (f : TableKind → Entries → Option Entries) :
    List Key → TableKind → Entries → Option Entries
  | [], kind, entries => f kind entries
  | k :: path, _, entries =>
    match entries.find? k.name with
    | none => do return entries ++ [(k, .table via none (← change via f path via []))]
    | some (.table kind span inner) =>
      if admits via kind then do
        return entries.replace k.name (.table kind span (← change via f path kind inner))
      else none
    | some (.tables items) =>
      match items.getLast? with
      | some (.table kind span inner) => do
        let last := Item.table kind span (← change via f path kind inner)
        return entries.replace k.name (.tables (items.dropLast ++ [last]))
      | _ => none
    | some _ => none

def assign (kind : TableKind) (entries : Entries) (a : Assignment) : Option Entries :=
  change .dotted
    (fun kind inner =>
      if (kind == .dotted) = a.path.isEmpty then none else Entries.add inner a.key a.value)
    a.path kind entries

def assignAll (kind : TableKind) (entries : Entries) (as : List Assignment) : Option Entries :=
  as.foldlM (assign kind) entries

def Section.span (s : Section) : Span :=
  match s.assignments.getLast?.bind fun a => a.value.span? with
  | some span => ⟨s.header.span.start, span.stop⟩
  | none => s.header.span

def Section.table (s : Section) (entries : Entries) : Option Item := do
  return .table .header (some s.span) (← assignAll .header entries s.assignments)

def Section.place (s : Section) (entries : Entries) : Option Entries :=
  let key := s.header.key
  match s.header.isElement, Entries.find? entries key.name with
  | true, none => do return entries ++ [(key, .tables [← s.table []])]
  | true, some (.tables items) => do
    return Entries.replace entries key.name (.tables (items ++ [← s.table []]))
  | false, none => do return entries ++ [(key, ← s.table [])]
  | false, some (.table .passage _ inner) => do
    return Entries.erase entries key.name ++ [(key, ← s.table inner)]
  | _, _ => none

def addSection (entries : Entries) (s : Section) : Option Entries :=
  change .passage (fun _ inner => s.place inner) s.header.path .header entries

def sections (lines : List Line) : List Assignment × List Section :=
  lines.foldr
    (fun line (as, ss) =>
      match line with
      | .assignment a => (a :: as, ss)
      | .header h => ([], ⟨h, as⟩ :: ss))
    ([], [])

def entriesOf (lines : List Line) : Option Entries := do
  let (as, ss) := sections lines
  ss.foldlM addSection (← assignAll .header [] as)

def bracesTable (span : Span) (as : List Assignment) : Option Item := do
  return .table .braces (some span) (← assignAll .braces [] as)

end NativeBindings.Toml
