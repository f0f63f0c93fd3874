import NativeBindings.Proofs.LocalNames

namespace NativeBindings

def Argument.root : Argument → String
  | .var name | .reference name | .member name _ | .pointer name | .capacity name _ => name
  | .verbatim text => text

def Result.source : Result → String
  | .var name | .handle _ name | .textAt name => name

def Statement.argument? : Statement → Option String
  | .openText _ argument => some argument
  | _ => none

inductive Meaning where
  | declared
  | holder
  deriving DecidableEq, Repr

/-- An open block, with what was assigned before it if it may be skipped. -/
structure Block where
  owner : Option String := none
  declared : List String := []
  skipped : Option (List String) := none
  deriving DecidableEq, Repr

def Block.meaning? (block : Block) (name : String) : Option Meaning :=
  if name ∈ block.declared then some .declared
  else if block.owner = some name then some .holder
  else none

/-- A body between two of its lines: the open blocks, innermost first, the locals that are assigned on
every path, and the block that a header has left to open. -/
structure Scoping where
  blocks : List Block := [{}]
  assigned : List String := []
  pending : Option Block := none
  deriving DecidableEq, Repr

namespace Scoping

def meaning? (e : Scoping) (name : String) : Option Meaning :=
  e.blocks.findSome? (·.meaning? name)

def holds (e : Scoping) (name : String) : Bool := e.meaning? name == some .holder

def canRead (e : Scoping) (name : String) : Bool :=
  e.meaning? name == some .declared && e.assigned.contains name

/-- A name that no block declares is that of a parameter. A variable is passed to no call. -/
def canPass (d : Draft) (e : Scoping) (name : String) : Bool :=
  match e.meaning? name with
  | some .declared => false
  | some .holder => true
  | none => d.hasParameter name

def assign (e : Scoping) (name : String) : Option Scoping :=
  if e.meaning? name = some .declared then some { e with assigned := name :: e.assigned } else none

def call (d : Draft) (e : Scoping) : Option Scoping :=
  if d.nativeParameters.all (fun p => p.argument.refersTo (e.canPass d) e.holds e.holds) then
    match d.returnVariable with
    | some target => e.assign target
    | none => some e
  else none

def perform (d : Draft) (e : Scoping) : Statement → Option Scoping
  | .declare _ name =>
    match e.blocks with
    | [] => none
    | block :: blocks => some { e with
        blocks := { block with declared := block.declared ++ [name] } :: blocks
        assigned := e.assigned.filter (· ≠ name) }
  | .openBuffer name _ => some { e with pending := some { owner := some name } }
  | .openText name argument =>
    if e.canPass d argument then some { e with pending := some { owner := some name } } else none
  | .closeBlock =>
    match e.blocks with
    | [] => none
    | block :: blocks => some { e with
        blocks := blocks
        assigned := (block.skipped.getD e.assigned).filter (· ∉ block.declared) }
  | .ifFull buffer length =>
    if e.holds buffer && e.canRead length then
      some { e with pending := some { skipped := some e.assigned } }
    else none
  | .growBuffer buffer length _ => if e.holds buffer && e.canRead length then some e else none
  | .readBuffer target buffer length =>
    if e.holds buffer && length.all e.canRead then e.assign target else none
  | .check _ status => if e.canRead status then some e else none
  | .giveBack result => if e.canRead result.source then some e else none
  | .openBlock | .verbatim _ => none

def step (d : Draft) (e : Scoping) (line : Line) : Option Scoping :=
  match e.pending, line.content with
  | some block, .statement .openBlock =>
    some { e with blocks := block :: e.blocks, pending := none }
  | some _, _ => none
  | none, .nativeCall => e.call d
  | none, .statement s => e.perform d s

end Scoping

structure Block.Within (vars : List String) (block : Block) : Prop where
  declared : ∀ name ∈ block.declared, name ∈ vars
  owner : ∀ name ∈ block.owner, name ∉ vars

theorem Block.within_header {vars : List String} {owner : Option String}
    (h : ∀ name ∈ owner, name ∉ vars) : Block.Within vars { owner := owner } :=
  ⟨nofun, h⟩

namespace Scoping

variable {d : Draft} {blocks : List Block} {assigned vars : List String} {name : String}

section Meaning

variable {pending : Option Block} (hwithin : ∀ block ∈ blocks, block.Within vars)
include hwithin

theorem meaning?_declared (h : ∃ block ∈ blocks, name ∈ block.declared) :
    meaning? ⟨blocks, assigned, pending⟩ name = some .declared := by
  obtain ⟨block, hblock, hname⟩ := h
  have hvariable := (hwithin block hblock).declared name hname
  obtain ⟨front, rest, rfl⟩ := List.append_of_mem hblock
  rw [meaning?, List.findSome?_append, List.findSome?_cons, Block.meaning?, if_pos hname]
  cases hfront : front.findSome? (·.meaning? name) with
  | none => rfl
  | some m =>
    -- A block further inside declares the name as a variable too, if at all.
    obtain ⟨inside, hinside, hm⟩ := List.exists_of_findSome?_eq_some hfront
    rw [Block.meaning?] at hm
    split_ifs at hm with hdeclared howner
    · rw [← hm]
      rfl
    · exact absurd hvariable ((hwithin inside (List.mem_append_left _ hinside)).owner name howner)

theorem meaning?_holder (h : ∃ block ∈ blocks, block.owner = some name) :
    meaning? ⟨blocks, assigned, pending⟩ name = some .holder := by
  obtain ⟨block, hblock, howner⟩ := h
  have hvariable : name ∉ vars := (hwithin block hblock).owner name howner
  have hdeclared : ∀ block ∈ blocks, name ∉ block.declared := fun block hblock hname =>
    hvariable ((hwithin block hblock).declared name hname)
  cases hm : meaning? ⟨blocks, assigned, pending⟩ name with
  | none =>
    have hnone := List.findSome?_eq_none_iff.mp hm block hblock
    rw [Block.meaning?, if_neg (hdeclared block hblock), if_pos howner] at hnone
    cases hnone
  | some m =>
    obtain ⟨block', hblock', hm'⟩ := List.exists_of_findSome?_eq_some hm
    rw [Block.meaning?, if_neg (hdeclared block' hblock')] at hm'
    split_ifs at hm'
    exact hm'.symm

theorem canPass_of_parameter (hname : name ∉ vars) (h : d.hasParameter name = true) :
    canPass d ⟨blocks, assigned, pending⟩ name = true := by
  rw [canPass]
  split
  case h_1 hm =>
    obtain ⟨block, hblock, hm⟩ := List.exists_of_findSome?_eq_some hm
    rw [Block.meaning?] at hm
    split_ifs at hm with hdeclared howner
    · exact absurd ((hwithin block hblock).declared name hdeclared) hname
    · cases hm
  case h_2 => rfl
  case h_3 => exact h

theorem canPass_declared (h : ∃ block ∈ blocks, name ∈ block.declared) :
    canPass d ⟨blocks, assigned, pending⟩ name = false := by
  rw [canPass, meaning?_declared hwithin h]

theorem holds_of_mem (h : ∃ block ∈ blocks, block.owner = some name) :
    holds ⟨blocks, assigned, pending⟩ name = true := by
  rw [holds, meaning?_holder hwithin h]
  rfl

theorem canRead_of_mem (h : ∃ block ∈ blocks, name ∈ block.declared) (hassigned : name ∈ assigned) :
    canRead ⟨blocks, assigned, pending⟩ name = true := by
  rw [canRead, meaning?_declared hwithin h, List.contains_iff_mem.mpr hassigned]
  rfl

theorem assign_of_mem (h : ∃ block ∈ blocks, name ∈ block.declared) :
    assign ⟨blocks, assigned, pending⟩ name = some ⟨blocks, name :: assigned, pending⟩ :=
  if_pos (meaning?_declared hwithin h)

end Meaning

section Steps

variable (hwithin : ∀ block ∈ blocks, block.Within vars)
include hwithin

theorem step_readBuffer {depth : Nat} {target holder : String} {length : Option String}
    (howner : ∃ block ∈ blocks, block.owner = some holder)
    (hlength : ∀ name ∈ length, canRead ⟨blocks, assigned, none⟩ name = true)
    (htarget : ∃ block ∈ blocks, target ∈ block.declared) :
    step d ⟨blocks, assigned, none⟩ ⟨depth, .statement (.readBuffer target holder length)⟩ =
      some ⟨blocks, target :: assigned, none⟩ := by
  have hholds : holds ⟨blocks, assigned, none⟩ holder = true := holds_of_mem hwithin howner
  have hread : length.all (canRead ⟨blocks, assigned, none⟩) = true := by
    rw [Option.all_eq_true]
    exact fun name hname => hlength name hname
  have hassign : assign ⟨blocks, assigned, none⟩ target = _ := assign_of_mem hwithin htarget
  change (if holds ⟨blocks, assigned, none⟩ holder && length.all (canRead ⟨blocks, assigned, none⟩)
    then assign ⟨blocks, assigned, none⟩ target else none) = _
  rw [hholds, hread, hassign]
  rfl

theorem step_ifFull {depth : Nat} {holder length : String}
    (howner : ∃ block ∈ blocks, block.owner = some holder)
    (hlength : canRead ⟨blocks, assigned, none⟩ length = true) :
    step d ⟨blocks, assigned, none⟩ ⟨depth, .statement (.ifFull holder length)⟩ =
      some ⟨blocks, assigned, some { skipped := some assigned }⟩ := by
  have hholds : holds ⟨blocks, assigned, none⟩ holder = true := holds_of_mem hwithin howner
  apply if_pos
  rw [hholds, hlength]
  rfl

theorem step_growBuffer {depth margin : Nat} {holder length : String}
    (howner : ∃ block ∈ blocks, block.owner = some holder)
    (hlength : canRead ⟨blocks, assigned, none⟩ length = true) :
    step d ⟨blocks, assigned, none⟩ ⟨depth, .statement (.growBuffer holder length margin)⟩ =
      some ⟨blocks, assigned, none⟩ := by
  have hholds : holds ⟨blocks, assigned, none⟩ holder = true := holds_of_mem hwithin howner
  apply if_pos
  rw [hholds, hlength]
  rfl

end Steps

theorem foldlM_fixed {e : Scoping} {lines : List Line}
    (h : ∀ line ∈ lines, step d e line = some e) : lines.foldlM (step d) e = some e := by
  induction lines with
  | nil => rfl
  | cons line lines ih =>
    rw [List.foldlM_cons, h line List.mem_cons_self]
    exact ih fun line' hline' => h line' (List.mem_cons_of_mem line hline')

theorem foldlM_declarations {statements : List Statement} {declared : List String}
    (h : ∀ st ∈ statements, ∃ type name, st = .declare type name) :
    (Line.outermost statements).foldlM (step d) ⟨[{ declared := declared }], [], none⟩ =
      some ⟨[{ declared := declared ++ statements.filterMap Statement.declared? }], [], none⟩ := by
  induction statements generalizing declared with
  | nil => simp [Line.outermost]
  | cons st statements ih =>
    obtain ⟨type, name, rfl⟩ := h st List.mem_cons_self
    have hrest : (Line.outermost statements).foldlM (step d)
        ⟨[{ declared := declared ++ [name] }], [], none⟩ = _ :=
      ih fun st' hst' => h st' (List.mem_cons_of_mem _ hst')
    rw [List.append_assoc] at hrest
    exact hrest

theorem step_closeBlock {depth : Nat} {owner : Option String} :
    step d ⟨{ owner := owner } :: blocks, assigned, none⟩ ⟨depth, .statement .closeBlock⟩ =
      some ⟨blocks, assigned, none⟩ := by
  have hkeep : assigned.filter (· ∉ ([] : List String)) = assigned := by simp
  change some (⟨blocks, assigned.filter (· ∉ ([] : List String)), none⟩ : Scoping) = _
  rw [hkeep]

theorem step_openBlock {depth : Nat} {block : Block} :
    step d ⟨blocks, assigned, some block⟩ ⟨depth, .statement .openBlock⟩ =
      some ⟨block :: blocks, assigned, none⟩ := rfl

theorem step_closeBlock_skipped {depth : Nat} {before : List String} :
    step d ⟨{ skipped := some before } :: blocks, assigned, none⟩ ⟨depth, .statement .closeBlock⟩ =
      some ⟨blocks, before, none⟩ := by
  have hkeep : before.filter (· ∉ ([] : List String)) = before := by simp
  change some (⟨blocks, before.filter (· ∉ ([] : List String)), none⟩ : Scoping) = _
  rw [hkeep]

theorem foldlM_growthLines {holder : String} {depth : Nat}
    (hwithin : ∀ block ∈ blocks, block.Within vars) (hholder : holder ∉ vars)
    (hcall : ∀ depth assigned, step d ⟨{ owner := some holder } :: blocks, assigned, none⟩
      ⟨depth, .nativeCall⟩ =
        some ⟨{ owner := some holder } :: blocks, Rule.lengthVariable :: assigned, none⟩)
    (htext : ∃ block ∈ blocks, Rule.textVariable ∈ block.declared)
    (hlength : ∃ block ∈ blocks, Rule.lengthVariable ∈ block.declared) :
    ((Commit.growthLines holder).map (Line.deepen depth)).foldlM (step d)
        ⟨{ owner := some holder } :: blocks, Rule.lengthVariable :: assigned, none⟩ =
      some ⟨{ owner := some holder } :: blocks,
        Rule.textVariable :: Rule.lengthVariable :: Rule.lengthVariable :: assigned, none⟩ := by
  have hwithin : ∀ block ∈ ({ owner := some holder } :: blocks : List Block), block.Within vars :=
    List.forall_mem_cons.mpr ⟨Block.within_header (by simpa using hholder), hwithin⟩
  have hwithinInside : ∀ block ∈ ({ skipped := some (Rule.lengthVariable :: assigned) } ::
      { owner := some holder } :: blocks : List Block), block.Within vars :=
    List.forall_mem_cons.mpr ⟨⟨nofun, nofun⟩, hwithin⟩
  have hinside : ∀ {block : Block} {blocks : List Block} {name : String},
      (∃ b ∈ blocks, name ∈ b.declared) → ∃ b ∈ block :: blocks, name ∈ b.declared := by
    rintro block blocks name ⟨b, hb, hname⟩
    exact ⟨b, List.mem_cons_of_mem _ hb, hname⟩
  have hread : ∀ {assigned : List String}, canRead
      ⟨{ owner := some holder } :: blocks, Rule.lengthVariable :: assigned, none⟩
      Rule.lengthVariable = true := canRead_of_mem hwithin (hinside hlength) List.mem_cons_self
  have hreadInside : canRead ⟨{ skipped := some (Rule.lengthVariable :: assigned) } ::
      { owner := some holder } :: blocks, Rule.lengthVariable :: assigned, none⟩
      Rule.lengthVariable = true :=
    canRead_of_mem hwithinInside (hinside (hinside hlength)) List.mem_cons_self
  simp only [Commit.growthLines, List.map_cons, List.map_nil, Line.deepen, List.foldlM_cons,
    List.foldlM_nil, Option.bind_eq_bind, Option.pure_def]
  rw [step_ifFull hwithin ⟨_, List.mem_cons_self, rfl⟩ hread]
  simp only [Option.bind_some, step_openBlock]
  rw [step_growBuffer hwithinInside ⟨_, List.mem_cons_of_mem _ List.mem_cons_self, rfl⟩ hreadInside]
  simp only [Option.bind_some, step_closeBlock_skipped, hcall]
  rw [step_readBuffer hwithin ⟨_, List.mem_cons_self, rfl⟩ ?_ (hinside htext)]
  · rfl
  · rintro name hname
    cases hname
    exact hread

end Scoping

namespace Scope

def block (scope : Scope) : Block where
  owner := scope.header.owner?

def targets (scope : Scope) : List String :=
  scope.inner.filterMap fun line =>
    match line.content with
    | .statement (.readBuffer target _ _) => some target
    | _ => none

theorem within_block {scope : Scope} {vars : List String}
    (h : ∀ name ∈ scope.header.owner?, name ∉ vars) : scope.block.Within vars :=
  Block.within_header h

theorem step_header {scope : Scope} {d : Draft} (h : scope.header.owner?.isSome = true) (depth : Nat)
    (blocks : List Block) (assigned : List String) :
    Scoping.step d ⟨blocks, assigned, none⟩ ⟨depth, .statement scope.header⟩ =
      if scope.header.argument?.all (Scoping.canPass d ⟨blocks, assigned, none⟩) then
        some ⟨blocks, assigned, some scope.block⟩
      else none := by
  obtain ⟨header, inner⟩ := scope
  cases header with
  | openBuffer | openText => rfl
  | _ => cases h

structure Supported (d : Draft) (vars : List String) (scope : Scope) : Prop where
  holds : scope.header.owner?.isSome = true
  owner : ∀ name ∈ scope.header.owner?, name ∉ vars
  argument : ∀ name ∈ scope.header.argument?, name ∉ vars ∧ d.hasParameter name = true
  follows : ∀ depth blocks assigned, (∀ block ∈ blocks, block.Within vars) →
    (∀ target ∈ scope.targets, ∃ block ∈ blocks, target ∈ block.declared) →
    (scope.inner.map (Line.deepen depth)).foldlM (Scoping.step d)
        ⟨scope.block :: blocks, assigned, none⟩ =
      some ⟨scope.block :: blocks, scope.targets ++ assigned, none⟩

theorem foldlM_wrap {d : Draft} {vars : List String} {scopes : List Scope}
    (hscopes : ∀ scope ∈ scopes, scope.Supported d vars)
    {depth : Nat} {inner : List Line} {blocks : List Block} {before after : List String}
    (hwithin : ∀ block ∈ blocks, block.Within vars)
    (hdeclared : ∀ scope ∈ scopes, ∀ target ∈ scope.targets,
      ∃ block ∈ blocks, target ∈ block.declared)
    (hinner : inner.foldlM (Scoping.step d)
        ⟨(scopes.map block).reverse ++ blocks, before, none⟩ =
      some ⟨(scopes.map block).reverse ++ blocks, after, none⟩) :
    (wrap depth scopes inner).foldlM (Scoping.step d) ⟨blocks, before, none⟩ =
      some ⟨blocks, scopes.flatMap targets ++ after, none⟩ := by
  induction scopes generalizing depth blocks with
  | nil => exact hinner
  | cons scope scopes ih =>
    -- The outermost scope is opened first, and its own lines after the call come last.
    have hscope := hscopes scope List.mem_cons_self
    have hopening : (scope.opening depth).foldlM (Scoping.step d) ⟨blocks, before, none⟩ =
        some ⟨scope.block :: blocks, before, none⟩ := by
      have hpass : scope.header.argument?.all (Scoping.canPass d ⟨blocks, before, none⟩) = true := by
        rw [Option.all_eq_true]
        intro name hname
        obtain ⟨hvariable, hparameter⟩ := hscope.argument name hname
        exact Scoping.canPass_of_parameter hwithin hvariable hparameter
      rw [opening, List.foldlM_cons, step_header hscope.holds, if_pos hpass]
      rfl
    rw [List.map_cons, List.reverse_cons, List.append_assoc] at hinner
    have hwrap : (wrap (depth + 1) scopes inner).foldlM (Scoping.step d)
        ⟨scope.block :: blocks, before, none⟩ = _ :=
      ih (fun scope' h => hscopes scope' (List.mem_cons_of_mem scope h))
        (List.forall_mem_cons.mpr ⟨within_block hscope.owner, hwithin⟩)
        (fun scope' h target htarget => by
          obtain ⟨block, hblock, hmem⟩ :=
            hdeclared scope' (List.mem_cons_of_mem scope h) target htarget
          exact ⟨block, List.mem_cons_of_mem _ hblock, hmem⟩)
        hinner
    have hclosing (assigned : List String) : (scope.closing depth).foldlM (Scoping.step d)
        ⟨scope.block :: blocks, assigned, none⟩ = some ⟨blocks, scope.targets ++ assigned, none⟩ := by
      have hclose : Scoping.step d ⟨scope.block :: blocks, scope.targets ++ assigned, none⟩
          ⟨depth, .statement .closeBlock⟩ = _ := Scoping.step_closeBlock
      rw [closing, List.foldlM_append,
        hscope.follows _ _ _ hwithin (hdeclared scope List.mem_cons_self)]
      exact hclose
    rw [wrap, List.foldlM_append, List.foldlM_append, hopening]
    simp only [Option.bind_eq_bind, Option.bind_some]
    rw [hwrap, List.flatMap_cons, List.append_assoc]
    exact hclosing _

theorem reads_of_wrap {d : Draft} {vars : List String} {scopes : List Scope}
    (hscopes : ∀ scope ∈ scopes, scope.header.owner?.isSome = true ∧
      ∀ name ∈ scope.header.owner?, name ∉ vars)
    {depth : Nat} {inner : List Line} {blocks : List Block} {before : List String} {e : Scoping}
    (hwithin : ∀ block ∈ blocks, block.Within vars) (hvars : { declared := vars } ∈ blocks)
    (h : (wrap depth scopes inner).foldlM (Scoping.step d) ⟨blocks, before, none⟩ = some e) :
    (∀ scope ∈ scopes, ∀ name ∈ scope.header.argument?, name ∉ vars) ∧
    ∃ e', inner.foldlM (Scoping.step d) ⟨(scopes.map block).reverse ++ blocks, before, none⟩ =
      some e' := by
  induction scopes generalizing depth blocks e with
  | nil => exact ⟨nofun, e, h⟩
  | cons scope scopes ih =>
    obtain ⟨hheader, howner⟩ := hscopes scope List.mem_cons_self
    rw [wrap, List.append_assoc, List.foldlM_append, opening, List.foldlM_cons,
      step_header hheader] at h
    obtain ⟨e₁, hopening, h⟩ := Option.bind_eq_some_iff.mp h
    split_ifs at hopening with hpass
    · obtain rfl := Option.some.inj hopening
      rw [List.foldlM_append] at h
      obtain ⟨e₂, hwrap, -⟩ := Option.bind_eq_some_iff.mp h
      obtain ⟨harguments, e', he'⟩ := ih
        (fun scope' h => hscopes scope' (List.mem_cons_of_mem scope h))
        (List.forall_mem_cons.mpr ⟨within_block howner, hwithin⟩)
        (List.mem_cons_of_mem _ hvars) hwrap
      refine ⟨List.forall_mem_cons.mpr ⟨fun name hname hvariable => ?_, harguments⟩, e', ?_⟩
      · have hread := (Option.all_eq_true _ _).mp hpass name hname
        rw [Scoping.canPass_declared hwithin ⟨_, hvars, hvariable⟩] at hread
        cases hread
      · rw [List.map_cons, List.reverse_cons, List.append_assoc]
        exact he'
    · cases hopening

theorem foldlM_growth {d : Draft} {vars : List String} {scope : Scope} {holder : String}
    {capacity : Nat} {blocks : List Block} (hheader : scope.header = .openBuffer holder capacity)
    (hinner : scope.inner = Commit.growthLines holder)
    (hwithin : ∀ block ∈ blocks, block.Within vars) (hholder : holder ∉ vars)
    (hcall : ∀ depth assigned, Scoping.step d ⟨scope.block :: blocks, assigned, none⟩
      ⟨depth, .nativeCall⟩ =
        some ⟨scope.block :: blocks, Rule.lengthVariable :: assigned, none⟩)
    (htext : ∃ block ∈ blocks, Rule.textVariable ∈ block.declared)
    (hlength : ∃ block ∈ blocks, Rule.lengthVariable ∈ block.declared) (depth callDepth : Nat) :
    (scope.opening depth ++ [Line.mk callDepth .nativeCall] ++ scope.closing depth).foldlM
        (Scoping.step d) ⟨blocks, [], none⟩ =
      some ⟨blocks, [Rule.textVariable, Rule.lengthVariable, Rule.lengthVariable], none⟩ := by
  have hblock : scope.block = { owner := some holder } := by
    rw [block, hheader]
    rfl
  have hopening : (scope.opening depth).foldlM (Scoping.step d) ⟨blocks, [], none⟩ =
      some ⟨scope.block :: blocks, [], none⟩ := by
    rw [opening, block, hheader]
    rfl
  rw [List.foldlM_append, List.foldlM_append, hopening]
  simp only [Option.bind_eq_bind, Option.bind_some, List.foldlM_cons, List.foldlM_nil, hcall,
    Option.pure_def, closing, List.foldlM_append, hinner]
  rw [hblock] at hcall ⊢
  rw [Scoping.foldlM_growthLines hwithin hholder hcall htext hlength]
  simp only [Option.bind_some, Scoping.step_closeBlock]

end Scope

end NativeBindings
