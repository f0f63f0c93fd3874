import Mathlib.Data.List.Forall2
import NativeBindings.BindingsFile
import NativeBindings.Proofs.DerivedName
import NativeBindings.Proofs.FragmentLines
import NativeBindings.Proofs.SpellingText

namespace NativeBindings

section Except

variable {α β ε : Type}

theorem bind_ok_iff {x : Except ε α} {f : α → Except ε β} {b : β} :
    (x >>= f) = .ok b ↔ ∃ a, x = .ok a ∧ f a = .ok b := by
  cases x with
  | ok a => simp [bind, Except.bind]
  | error e => simp [bind, Except.bind]

theorem mapM_ok_iff {f : α → Except ε β} {l : List α} {r : List β} :
    l.mapM f = .ok r ↔ List.Forall₂ (fun a b => f a = .ok b) l r := by
  induction l generalizing r with
  | nil => simp [pure, Except.pure, eq_comm]
  | cons a l ih =>
    rw [List.mapM_cons, bind_ok_iff, List.forall₂_cons_left_iff]
    constructor
    · rintro ⟨b, hb, hrest⟩
      obtain ⟨bs, hbs, heq⟩ := bind_ok_iff.mp hrest
      exact ⟨b, bs, hb, ih.mp hbs, (Except.ok.inj heq).symm⟩
    · rintro ⟨b, bs, hb, hbs, rfl⟩
      exact ⟨b, hb, bind_ok_iff.mpr ⟨bs, ih.mpr hbs, rfl⟩⟩

theorem exists_of_mem_forall₂ {R : α → β → Prop} {l : List α} {r : List β}
    (h : List.Forall₂ R l r) {b : β} (hb : b ∈ r) : ∃ a ∈ l, R a b := by
  induction h with
  | nil => cases hb
  | @cons a b' l r hfirst _ ih =>
    rcases List.mem_cons.mp hb with rfl | hb
    · exact ⟨a, List.mem_cons_self, hfirst⟩
    · obtain ⟨a', ha', hrest⟩ := ih hb
      exact ⟨a', List.mem_cons_of_mem a ha', hrest⟩

end Except

theorem Toml.Spelled.type_ok_iff {s : Toml.Spelled} {function : String} {t : NativeType} :
    s.type function = .ok t ↔ NativeType.ofSpelling s.text = .ok t := by
  rw [Toml.Spelled.type]
  split <;> simp_all

namespace FunctionDeclaration

variable {f : FunctionDeclaration} {s : Signature}

theorem parameter_ok_iff {p : ParameterDeclaration} {q : Parameter} :
    f.parameter p = .ok q ↔ q.name = p.name ∧ NativeType.ofSpelling p.type.text = .ok q.type := by
  rw [parameter, bind_ok_iff]
  constructor
  · rintro ⟨t, ht, heq⟩
    cases heq
    exact ⟨rfl, Toml.Spelled.type_ok_iff.mp ht⟩
  · rintro ⟨hname, ht⟩
    refine ⟨q.type, Toml.Spelled.type_ok_iff.mpr ht, ?_⟩
    rw [← hname]
    rfl

structure Gives (f : FunctionDeclaration) (s : Signature) : Prop where
  native : s.nativeName = f.native
  managed : s.managedName = f.managed.getD (MethodName.derive f.native f.receiver)
  receiver : s.receiver = f.receiver
  wrapper : s.wrapper = f.wrapper
  parameters : List.Forall₂
    (fun p q => q.name = p.name ∧ NativeType.ofSpelling p.type.text = .ok q.type)
    f.parameters s.parameters
  returns : f.returns = none ∧ s.returns = .named "void" ∨
    ∃ spelled, f.returns = some spelled ∧ NativeType.ofSpelling spelled.text = .ok s.returns

theorem gives_of_signature (h : f.signature = .ok s) : f.Gives s := by
  obtain ⟨parameters, hparameters, hrest⟩ := bind_ok_iff.mp h
  have htypes : List.Forall₂
      (fun p q => q.name = p.name ∧ NativeType.ofSpelling p.type.text = .ok q.type)
      f.parameters parameters :=
    (mapM_ok_iff.mp hparameters).imp fun _ _ => parameter_ok_iff.mp
  cases hspelled : f.returns with
  | none =>
    rw [hspelled] at hrest
    cases hrest
    exact ⟨rfl, rfl, rfl, rfl, htypes, .inl ⟨hspelled, rfl⟩⟩
  | some spelled =>
    rw [hspelled] at hrest
    obtain ⟨returns, hreturns, heq⟩ := bind_ok_iff.mp hrest
    cases heq
    have hreturns := Toml.Spelled.type_ok_iff.mp hreturns
    exact ⟨rfl, rfl, rfl, rfl, htypes, .inr ⟨spelled, hspelled, hreturns⟩⟩

def strings (f : FunctionDeclaration) : List String :=
  f.native :: (f.managed.toList ++ f.receiver.toList ++ (f.returns.map (·.text)).toList ++
    f.parameters.flatMap fun p => [p.name, p.type.text])

end FunctionDeclaration

def LibraryDeclaration.strings (l : LibraryDeclaration) : List String :=
  [l.settings.library, l.settings.nativeClass, l.settings.errorType, l.settings.errorCheck,
    l.settings.handleField]

def Declarations.strings (d : Declarations) : List String :=
  d.library.strings ++ d.enums.map Prod.snd ++ d.handles.map Prod.snd ++
    d.functions.flatMap fun f => f.1.strings

namespace BindingsFile

variable {d : Declarations} {b : BindingsFile}

theorem ofText_ok_iff {text : String} :
    ofText text = .ok b ↔ ∃ d, Declarations.ofText text = .ok d ∧ ofDeclarations d = .ok b := by
  rw [ofText]
  cases Declarations.ofText text with
  | error e => simp
  | ok d => cases hd : ofDeclarations d <;> simp [hd]

theorem of_ofDeclarations (h : ofDeclarations d = .ok b) :
    b.settings = { d.library.settings with enums := d.enums, handles := d.handles } ∧
      b.indent = d.library.indent ∧
      List.Forall₂ (fun f e => f.1.Gives e.signature ∧ e.span = f.2) d.functions b.functions := by
  obtain ⟨functions, hfunctions, heq⟩ := bind_ok_iff.mp h
  cases heq
  refine ⟨rfl, rfl, (mapM_ok_iff.mp hfunctions).imp fun f e he => ?_⟩
  obtain ⟨s, hs, heq⟩ := bind_ok_iff.mp he
  cases heq
  exact ⟨FunctionDeclaration.gives_of_signature hs, rfl⟩

end BindingsFile

theorem NativeType.HasSpelling.oneLine_text {t : NativeType} (h : t.HasSpelling) :
    OneLine t.text := by
  obtain ⟨depth, ws, -, -, rfl⟩ := h
  have hwords : OneLine (Spelling.spaced ws) := by
    apply OneLine.intercalate (by decide)
    intro text htext
    obtain ⟨w, -, rfl⟩ := List.mem_map.mp htext
    rw [OneLine, String.toList_ofList]
    intro hmem
    have hpart : Spelling.isWordPart '\n' = true := by
      rw [Spelling.isWordPart_iff]
      rcases List.mem_cons.mp hmem with hfirst | hrest
      · exact .inl (hfirst ▸ w.first_letter)
      · exact w.rest_letters _ hrest
    cases hpart
  rw [OneLine, text_pointers, List.mem_append, text]
  rintro (hmem | hmem)
  · exact hwords hmem
  · cases List.eq_of_mem_replicate hmem

theorem NativeType.oneLine_text_of_ofSpelling {text : String} {t : NativeType}
    (h : ofSpelling text = .ok t) : OneLine t.text :=
  (HasSpelling.of_ofSpelling h).oneLine_text

section Strings

variable {d : Declarations} {b : BindingsFile}

theorem FunctionDeclaration.Gives.noBreaks {f : FunctionDeclaration} {s : Signature}
    (h : f.Gives s) (hstrings : ∀ x ∈ f.strings, OneLine x) : s.NoBreaks where
  nativeName := h.native ▸ hstrings f.native List.mem_cons_self
  managedName := by
    rw [h.managed]
    cases hmanaged : f.managed with
    | none => exact MethodName.oneLine_derive _ _
    | some name => exact hstrings name (by simp [strings, hmanaged])
  parameters := by
    intro q hq
    obtain ⟨p, hp, hname, htype⟩ := exists_of_mem_forall₂ h.parameters hq
    refine ⟨?_, NativeType.oneLine_text_of_ofSpelling htype⟩
    rw [hname]
    refine hstrings p.name (List.mem_cons_of_mem _ (List.mem_append_right _ ?_))
    exact List.mem_flatMap.mpr ⟨p, hp, List.mem_cons_self⟩
  returns := by
    rcases h.returns with ⟨-, hvoid⟩ | ⟨spelled, -, htype⟩
    · rw [hvoid]
      decide
    · exact NativeType.oneLine_text_of_ofSpelling htype

theorem BindingsFile.noBreaks (h : ofDeclarations d = .ok b)
    (hstrings : ∀ x ∈ d.strings, OneLine x) :
    b.settings.NoBreaks ∧ ∀ f ∈ b.functions, f.signature.NoBreaks := by
  obtain ⟨hsettings, -, hfunctions⟩ := of_ofDeclarations h
  simp only [Declarations.strings, List.forall_mem_append, List.forall_mem_map,
    List.forall_mem_flatMap] at hstrings
  obtain ⟨⟨⟨hlibrary, henums⟩, hhandles⟩, hdeclared⟩ := hstrings
  constructor
  · simp only [LibraryDeclaration.strings, List.forall_mem_cons] at hlibrary
    obtain ⟨hname, hclass, -, hcheck, hfield, -⟩ := hlibrary
    rw [hsettings]
    exact ⟨hname, hclass, hcheck, hfield, henums, hhandles⟩
  · intro e he
    obtain ⟨f, hf, hgives, -⟩ := exists_of_mem_forall₂ hfunctions he
    exact hgives.noBreaks (hdeclared f hf)

end Strings

end NativeBindings
