import NativeBindings.Proofs.Body

/-!
Execution of a wrapper body against a native function that writes a text. The function is given a
buffer and its capacity in its last two parameters, writes as much of the text as the buffer takes
besides a terminator, and returns the length of the whole text.
-/

namespace NativeBindings

abbrev Bytes := List UInt8

inductive Owned where
  | nothing
  | text (name : String)
  | buffer (name : String) (capacity : Nat) (content : Bytes)
  deriving DecidableEq, Repr

inductive Value where
  | length (n : Nat)
  | text (bytes : Bytes)
  deriving DecidableEq, Repr

namespace Owned

def name? : Owned → Option String
  | nothing => none
  | text name | buffer name _ _ => some name

def buffer? (name : String) : List Owned → Option (Nat × Bytes)
  | [] => none
  | buffer other capacity content :: blocks =>
    if other = name then some (capacity, content) else buffer? name blocks
  | _ :: blocks => buffer? name blocks

def setBuffer (name : String) (capacity : Nat) (content : Bytes) : List Owned → List Owned
  | [] => []
  | buffer other capacity' content' :: blocks =>
    if other = name then buffer name capacity content :: blocks
    else buffer other capacity' content' :: setBuffer name capacity content blocks
  | block :: blocks => block :: setBuffer name capacity content blocks

theorem buffer?_head {holder : String} {capacity : Nat} {content : Bytes}
    {blocks : List Owned} :
    buffer? holder (.buffer holder capacity content :: blocks) = some (capacity, content) :=
  if_pos rfl

theorem setBuffer_head {holder : String} {capacity capacity' : Nat} {content written : Bytes}
    {blocks : List Owned} :
    setBuffer holder capacity' written (.buffer holder capacity content :: blocks) =
      .buffer holder capacity' written :: blocks :=
  if_pos rfl

end Owned

/-- A body between two of its lines. A header leaves what its block will own, or that its block is
skipped; of a skipped block, the braces that are open are counted. -/
structure Execution where
  blocks : List Owned := []
  pending : Option Owned := none
  skipping : Option Nat := none
  locals : List (String × Option Value) := []
  calls : List Nat := []
  reallocations : List Nat := []
  returned : Option Bytes := none
  deriving DecidableEq, Repr

namespace Execution

def value? (e : Execution) (name : String) : Option Value :=
  (e.locals.lookup name).join

def length? (e : Execution) (name : String) : Option Nat :=
  match e.value? name with
  | some (.length n) => some n
  | _ => none

def assign (e : Execution) (name : String) (value : Value) : Option Execution :=
  if (e.locals.lookup name).isSome then
    some { e with
      locals := e.locals.map fun v => if v.1 = name then (name, some value) else v }
  else none

def canPass (d : Draft) (e : Execution) (a : Argument) : Bool :=
  a.refersTo d.hasParameter (fun holder => e.blocks.any (·.name? == some holder))
    fun buffer => (Owned.buffer? buffer e.blocks).isSome

def call (d : Draft) (text : Bytes) (e : Execution) : Option Execution :=
  let arguments := d.nativeParameters.map (·.argument)
  if arguments.all (e.canPass d) then
    match arguments.reverse, d.returnVariable with
    | .capacity measured _ :: .pointer holder :: _, some target => do
      let (capacity, _) ← Owned.buffer? measured e.blocks
      let (room, _) ← Owned.buffer? holder e.blocks
      if capacity ≤ room then
        let written := text.take (capacity - 1)
        let e := { e with
          blocks := Owned.setBuffer holder room written e.blocks
          calls := e.calls ++ [capacity] }
        e.assign target (.length text.length)
      else none
    | _, _ => none
  else none

def skip (e : Execution) (braces : Nat) : LineContent → Option Execution
  | .statement .openBlock => some { e with skipping := some (braces + 1) }
  | .statement .closeBlock =>
    match braces with
    | 0 => none
    | 1 => some { e with skipping := none }
    | braces + 2 => some { e with skipping := some (braces + 1) }
  | _ => if braces = 0 then none else some e

def perform (d : Draft) (e : Execution) : Statement → Option Execution
  | .declare _ name => some { e with locals := (name, none) :: e.locals }
  | .openBuffer name capacity => some { e with pending := some (.buffer name capacity []) }
  | .openText name argument =>
    if d.hasParameter argument then some { e with pending := some (.text name) } else none
  | .closeBlock =>
    match e.blocks with
    | [] => none
    | _ :: blocks => some { e with blocks := blocks }
  | .ifFull buffer length => do
    let (capacity, _) ← Owned.buffer? buffer e.blocks
    let n ← e.length? length
    if capacity ≤ n then some { e with pending := some .nothing }
    else some { e with skipping := some 0 }
  | .growBuffer buffer length margin => do
    let _ ← Owned.buffer? buffer e.blocks
    let n ← e.length? length
    some { e with
      blocks := Owned.setBuffer buffer (n + margin) [] e.blocks
      reallocations := e.reallocations ++ [n + margin] }
  | .readBuffer target buffer length => do
    let (_, content) ← Owned.buffer? buffer e.blocks
    match length with
    | none => e.assign target (.text content)
    | some length => do
      let n ← e.length? length
      e.assign target (.text (content.take n))
  | .giveBack (.var name) =>
    match e.value? name with
    | some (.text bytes) => some { e with returned := some bytes }
    | _ => none
  | _ => none

/-- Executes one line. A line that cannot be executed gives nothing, and neither does one after the
value was given back. -/
def step (d : Draft) (text : Bytes) (e : Execution) (line : Line) : Option Execution :=
  match e.skipping, e.pending with
  | some braces, _ => e.skip braces line.content
  | none, some owned =>
    if line.content = .statement .openBlock then
      some { e with blocks := owned :: e.blocks, pending := none }
    else none
  | none, none =>
    if e.returned.isSome then none
    else
      match line.content with
      | .nativeCall => e.call d text
      | .statement s => e.perform d s

def run (d : Draft) (text : Bytes) : Option Execution :=
  d.body.foldlM (step d text) {}

section Lines

variable {d : Draft} {text : Bytes} {depth : Nat} {blocks : List Owned}
  {locals : List (String × Option Value)} {calls reallocations : List Nat}

def between (blocks : List Owned) (locals : List (String × Option Value))
    (calls reallocations : List Nat) : Execution where
  blocks := blocks
  locals := locals
  calls := calls
  reallocations := reallocations

theorem step_statement {s : Statement} :
    step d text (between blocks locals calls reallocations) ⟨depth, .statement s⟩ =
      perform d (between blocks locals calls reallocations) s := rfl

theorem step_closeBlock {block : Owned} :
    step d text (between (block :: blocks) locals calls reallocations)
        ⟨depth, .statement .closeBlock⟩ =
      some (between blocks locals calls reallocations) := rfl

end Lines

end Execution

end NativeBindings
