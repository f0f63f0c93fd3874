import NativeBindings.Proofs.LoadedFile

namespace NativeBindings

section Except

variable {α β ε : Type}

def failure? : Except ε α → Option ε
  | .ok _ => none
  | .error e => some e

theorem failure?_eq_some {x : Except ε α} {e : ε} : failure? x = some e ↔ x = .error e := by
  cases x <;> simp [failure?]

theorem failure?_eq_none {x : Except ε α} : failure? x = none ↔ ∃ a, x = .ok a := by
  cases x <;> simp [failure?]

theorem failure?_bind {x : Except ε α} {f : α → Except ε β} {next : Option ε}
    (h : ∀ a, failure? (f a) = next) : failure? (x >>= f) = (failure? x).or next := by
  cases x with
  | ok a => exact (h a).trans (Option.none_or).symm
  | error e => rfl

theorem failure?_bind_pure {x : Except ε α} {g : α → β} :
    failure? (x >>= fun a => pure (g a)) = failure? x := by
  cases x <;> rfl

theorem failure?_mapM {f : α → Except ε β} {l : List α} :
    failure? (l.mapM f) = l.findSome? fun a => failure? (f a) := by
  induction l with
  | nil => rfl
  | cons a l ih =>
    have hrest (b : β) : failure? (l.mapM f >>= fun bs => pure (b :: bs)) =
        l.findSome? fun a => failure? (f a) := by
      rw [failure?_bind_pure, ih]
    rw [List.mapM_cons, failure?_bind hrest, List.findSome?_cons]
    cases failure? (f a) <;> rfl

theorem findSome?_flatMap {l : List α} {f : α → List β} {p : β → Option ε} :
    (l.flatMap f).findSome? p = l.findSome? fun a => (f a).findSome? p := by
  induction l with
  | nil => rfl
  | cons a l ih =>
    rw [List.flatMap_cons, List.findSome?_append, ih, List.findSome?_cons]
    cases (f a).findSome? p <;> rfl

end Except

theorem NativeType.text_of_ofSpelling_error {text : String} {cause : SpellingError}
    (h : ofSpelling text = .error cause) : cause.text = text := by
  rw [ofSpelling] at h
  split at h <;> cases h
  rfl

namespace Toml.Spelled

def IsType (s : Spelled) : Prop := ∃ t, NativeType.ofSpelling s.text = .ok t

theorem failure?_type_eq_some {s : Spelled} {function : String} {e : InvalidType} :
    failure? (s.type function) = some e ↔
      ∃ cause, NativeType.ofSpelling s.text = .error cause ∧ e = ⟨function, s.span, cause⟩ := by
  rw [failure?_eq_some, type]
  cases NativeType.ofSpelling s.text with
  | ok t => simp
  | error cause => simp [eq_comm]

theorem failure?_type_eq_none {s : Spelled} {function : String} :
    failure? (s.type function) = none ↔ s.IsType := by
  simp only [failure?_eq_none, type_ok_iff, IsType]

end Toml.Spelled

open Toml

def FunctionDeclaration.spellings (f : FunctionDeclaration) : List Spelled :=
  f.parameters.map (·.type) ++ f.returns.toList

def Declarations.spellings (d : Declarations) : List (String × Spelled) :=
  d.functions.flatMap fun f => f.1.spellings.map fun s => (f.1.native, s)

theorem FunctionDeclaration.failure?_signature (f : FunctionDeclaration) :
    failure? f.signature = f.spellings.findSome? fun s => failure? (s.type f.native) := by
  have hparameters : failure? (f.parameters.mapM f.parameter) =
      (f.parameters.map (·.type)).findSome? fun s => failure? (s.type f.native) := by
    rw [failure?_mapM, List.findSome?_map]
    congr 1
    funext p
    exact failure?_bind_pure
  rw [spellings, List.findSome?_append, ← hparameters]
  refine failure?_bind fun parameters => ?_
  cases f.returns with
  | none => rfl
  | some s =>
    rw [Option.toList_some, List.findSome?_singleton]
    exact failure?_bind_pure

namespace BindingsFile

variable {d : Declarations} {b : BindingsFile} {text : String}

theorem failure?_ofDeclarations (d : Declarations) :
    failure? (ofDeclarations d) = d.spellings.findSome? fun x => failure? (x.2.type x.1) := by
  have hfunctions : failure? (ofDeclarations d) =
      d.functions.findSome? fun f => failure? f.1.signature := by
    rw [ofDeclarations, failure?_bind_pure, failure?_mapM]
    congr 1
    funext f
    exact failure?_bind_pure
  rw [hfunctions, Declarations.spellings, findSome?_flatMap]
  congr 1
  funext f
  rw [f.1.failure?_signature, List.findSome?_map]
  rfl

theorem ofDeclarations_error_iff {e : InvalidType} :
    ofDeclarations d = .error e ↔
      ∃ before function spelled after cause,
        d.spellings = before ++ (function, spelled) :: after ∧ (∀ x ∈ before, x.2.IsType) ∧
          NativeType.ofSpelling spelled.text = .error cause ∧
          e = ⟨function, spelled.span, cause⟩ := by
  rw [← failure?_eq_some, failure?_ofDeclarations, List.findSome?_eq_some_iff]
  simp only [Spelled.failure?_type_eq_some, Spelled.failure?_type_eq_none]
  constructor
  · rintro ⟨before, ⟨function, spelled⟩, after, hspellings, ⟨cause, hcause, he⟩, hbefore⟩
    exact ⟨before, function, spelled, after, cause, hspellings, hbefore, hcause, he⟩
  · rintro ⟨before, function, spelled, after, cause, hspellings, hbefore, hcause, he⟩
    exact ⟨before, (function, spelled), after, hspellings, ⟨cause, hcause, he⟩, hbefore⟩

theorem exists_ofDeclarations_iff :
    (∃ b, ofDeclarations d = .ok b) ↔
      ∀ f ∈ d.functions, (∀ p ∈ f.1.parameters, p.type.IsType) ∧ ∀ r ∈ f.1.returns, r.IsType := by
  rw [← failure?_eq_none, failure?_ofDeclarations, List.findSome?_eq_none_iff]
  simp only [Spelled.failure?_type_eq_none, Declarations.spellings, List.forall_mem_flatMap,
    List.forall_mem_map, FunctionDeclaration.spellings, List.forall_mem_append, Option.mem_toList,
    Option.mem_def]

theorem ofText_of_declarations (hd : Declarations.ofText text = .ok d) :
    ofText text = (ofDeclarations d).mapError .invalidType := by
  rw [ofText, hd]
  cases hb : ofDeclarations d <;> simp [hb, Except.mapError]

theorem ofText_error_iff (hd : Declarations.ofText text = .ok d) {e : LoadError} :
    ofText text = .error e ↔ ∃ invalid, ofDeclarations d = .error invalid ∧ e = .invalidType invalid := by
  rw [ofText_of_declarations hd]
  cases ofDeclarations d <;> simp [Except.mapError, eq_comm]

end BindingsFile

/-- A text loads exactly when its declarations spell nothing but types, and then its functions are
those declared, in their order. Otherwise the first spelling that is no type is reported; but a text
without declarations is refused before any spelling is read. -/
theorem loads_or_first_invalid (text : String) :
    (∀ e, Declarations.ofText text = .error e →
      BindingsFile.ofText text = .error (.declarations e)) ∧
    ∀ d, Declarations.ofText text = .ok d →
      ((∃ b, BindingsFile.ofText text = .ok b) ↔
        ∀ f ∈ d.functions, (∀ p ∈ f.1.parameters, p.type.IsType) ∧ ∀ r ∈ f.1.returns, r.IsType) ∧
      (∀ b, BindingsFile.ofText text = .ok b →
        b.settings = { d.library.settings with enums := d.enums, handles := d.handles } ∧
        b.indent = d.library.indent ∧
        List.Forall₂ (fun f e => f.1.Gives e.signature ∧ e.span = f.2) d.functions b.functions) ∧
      ∀ e, BindingsFile.ofText text = .error e ↔
        ∃ before function spelled after cause,
          d.spellings = before ++ (function, spelled) :: after ∧ (∀ x ∈ before, x.2.IsType) ∧
            NativeType.ofSpelling spelled.text = .error cause ∧ cause.text = spelled.text ∧
            e = .invalidType ⟨function, spelled.span, cause⟩ := by
  refine ⟨fun e he => by rw [BindingsFile.ofText, he], fun d hd => ⟨?_, ?_, fun e => ?_⟩⟩
  · rw [← BindingsFile.exists_ofDeclarations_iff]
    refine exists_congr fun b => BindingsFile.ofText_ok_iff.trans ⟨?_, fun hb => ⟨d, hd, hb⟩⟩
    rintro ⟨d', hd', hb⟩
    rw [hd] at hd'
    cases hd'
    exact hb
  · intro b hb
    obtain ⟨d', hd', hloaded⟩ := BindingsFile.ofText_ok_iff.mp hb
    rw [hd] at hd'
    cases hd'
    exact BindingsFile.of_ofDeclarations hloaded
  · rw [BindingsFile.ofText_error_iff hd]
    simp only [BindingsFile.ofDeclarations_error_iff]
    constructor
    · rintro ⟨_, ⟨before, function, spelled, after, cause, hspellings, hbefore, hcause, rfl⟩, rfl⟩
      exact ⟨before, function, spelled, after, cause, hspellings, hbefore, hcause,
        NativeType.text_of_ofSpelling_error hcause, rfl⟩
    · rintro ⟨before, function, spelled, after, cause, hspellings, hbefore, hcause, -, rfl⟩
      exact ⟨_, ⟨before, function, spelled, after, cause, hspellings, hbefore, hcause, rfl⟩, rfl⟩

def misspeltText : String :=
  "[[functions]]\nnative = \"sp_f\"\nreturns = \"int\"\n\n" ++
    "[[functions]]\nnative = \"sp_g\"\nreturns = \"*\"\n" ++
    "params = [\x7b name = \"x\", type = \"int )\" \x7d]\n"

def misspeltDeclarations : Declarations where
  functions :=
    [({ native := "sp_f", returns := some ⟨"int", ⟨40, 45⟩⟩ }, ⟨0, 45⟩),
      ({ native := "sp_g", returns := some ⟨"*", ⟨87, 90⟩⟩,
         parameters := [⟨"x", ⟨"int )", ⟨122, 129⟩⟩⟩] }, ⟨47, 132⟩)]

theorem loads_or_first_invalid_misspelt :
    Declarations.ofText misspeltText = .ok misspeltDeclarations ∧
      BindingsFile.ofText misspeltText =
        .error (.invalidType ⟨"sp_g", ⟨122, 129⟩, ⟨"int )", 4⟩⟩) := by
  have hd : Declarations.ofText misspeltText = .ok misspeltDeclarations := by decide +kernel
  obtain ⟨-, -, herror⟩ := (loads_or_first_invalid misspeltText).2 misspeltDeclarations hd
  refine ⟨hd, (herror _).mpr ⟨[("sp_f", ⟨"int", ⟨40, 45⟩⟩)], "sp_g", ⟨"int )", ⟨122, 129⟩⟩,
    [("sp_g", ⟨"*", ⟨87, 90⟩⟩)], ⟨"int )", 4⟩, rfl, ?_, by decide +kernel, rfl, rfl⟩⟩
  intro x hx
  rw [List.mem_singleton.mp hx]
  exact ⟨.named "int", by decide +kernel⟩

end NativeBindings
