import NativeBindings.Proofs.Run

namespace NativeBindings

namespace Settings

def IsEnum (settings : Settings) (name : String) : Prop :=
  name ∈ settings.enums.map Prod.fst

def IsHandle (settings : Settings) (name : String) : Prop :=
  name ∈ settings.handles.map Prod.fst

def IsScalar (settings : Settings) (name : String) : Prop :=
  name = "bool" ∨ name = "int" ∨ name = "size_t" ∨ settings.IsEnum name

def IsReferable (settings : Settings) (name : String) : Prop :=
  name = "bool" ∨ name = "int" ∨ name ≠ "size_t" ∧ settings.IsEnum name

end Settings

def Acceptable (settings : Settings) (s : Signature) (i : Nat) : NativeType → Prop
  | .named name => settings.IsScalar name
  | .pointer (.named name) => i = 0 ∧ s.receiver = some name ∨ settings.IsHandle name ∨
      name = "char" ∨ settings.IsReferable name
  | _ => False

def AcceptableReturn (settings : Settings) : NativeType → Prop
  | .named name => name = "void" ∨ settings.IsScalar name
  | .pointer (.named name) => settings.IsHandle name ∨ name = "char"
  | _ => False

def AcceptableBefore (settings : Settings) (s : Signature) (stop : Nat) : Prop :=
  ∀ i q, i < stop → s.parameters[i]? = some q → Acceptable settings s i q.type

variable {settings : Settings} {s : Signature} {p : Progress} {q : Parameter} {c : Commit}
  {commits : List Commit} {w : Work}

theorem NameTable.lookup_isSome_iff {table : NameTable} {name : String} :
    (table.lookup name).isSome ↔ name ∈ table.map Prod.fst := by
  rw [List.lookup_isSome_iff]
  simp

theorem NameTable.mem_of_lookup {table : NameTable} {name value : String}
    (h : table.lookup name = some value) : (name, value) ∈ table := by
  obtain ⟨before, after, rfl, -⟩ := List.lookup_eq_some_iff.mp h
  exact List.mem_append_right _ List.mem_cons_self

namespace Primitive

theorem ofName?_eq_none_iff {name : String} :
    ofName? name = none ↔ name ≠ "bool" ∧ name ≠ "int" ∧ name ≠ "size_t" := by
  unfold ofName?
  split <;> simp_all

theorem ofName?_eq_size_iff {name : String} : ofName? name = some .size ↔ name = "size_t" := by
  unfold ofName?
  split <;> simp_all

end Primitive

namespace Settings

theorem scalarNamed?_isSome_iff {name : String} :
    (settings.scalarNamed? name).isSome ↔ settings.IsScalar name := by
  rw [scalarNamed?, IsScalar, IsEnum, ← NameTable.lookup_isSome_iff]
  cases h : Primitive.ofName? name with
  | none =>
    obtain ⟨hbool, hint, hsize⟩ := Primitive.ofName?_eq_none_iff.mp h
    simp [hbool, hint, hsize]
  | some primitive =>
    have hname : ¬ (name ≠ "bool" ∧ name ≠ "int" ∧ name ≠ "size_t") := fun hname => by
      rw [Primitive.ofName?_eq_none_iff.mpr hname] at h
      cases h
    simp only [Option.isSome_some, true_iff]
    grind

theorem scalar?_cases {t : NativeType} {type : ManagedType} (h : settings.scalar? t = some type) :
    (∃ primitive : Primitive, type = primitive.managedType) ∨
      ∃ e ∈ settings.enums, type = .ofName e.2 := by
  obtain ⟨name, -, hname⟩ := Option.bind_eq_some_iff.mp h
  rw [scalarNamed?] at hname
  split at hname
  case h_1 primitive _ => exact .inl ⟨primitive, (Option.some.inj hname).symm⟩
  case h_2 =>
    obtain ⟨managed, hmanaged, rfl⟩ := Option.map_eq_some_iff.mp hname
    exact .inr ⟨(name, managed), NameTable.mem_of_lookup hmanaged, rfl⟩

theorem scalar?_isSome_iff {t : NativeType} :
    (settings.scalar? t).isSome ↔ ∃ name, t = .named name ∧ settings.IsScalar name := by
  cases t <;> simp [scalar?, NativeType.name?, scalarNamed?_isSome_iff]

theorem referenceScalar?_isSome_iff {t : NativeType} :
    (settings.referenceScalar? t).isSome ↔ ∃ name, t = .named name ∧ settings.IsReferable name := by
  cases t with
  | named name =>
    simp only [referenceScalar?, NativeType.name?, Option.bind_some, Primitive.ofName?_eq_size_iff]
    by_cases h : name = "size_t"
    · simp [h, IsReferable]
    · simp [h, IsReferable, scalar?_isSome_iff, IsScalar]
  | pointer | tuple => simp [referenceScalar?, scalar?, NativeType.name?]

theorem handleClass?_isSome_iff {t : NativeType} :
    (settings.handleClass? t).isSome ↔
      ∃ name, t = .pointer (.named name) ∧ settings.IsHandle name := by
  simp only [handleClass?, Option.isSome_iff_exists, Option.bind_eq_some_iff,
    NativeType.baseName?_eq_some, IsHandle, ← NameTable.lookup_isSome_iff]
  grind

end Settings

theorem acceptable_iff {i : Nat} {t : NativeType} :
    Acceptable settings s i t ↔ (settings.scalar? t).isSome ∨
      (i = 0 ∧ ∃ name, s.receiver = some name ∧ t = .pointer (.named name)) ∨
      (settings.handleClass? t).isSome ∨ t = .pointer (.named "char") ∨
      ∃ base, t = .pointer base ∧ (settings.referenceScalar? base).isSome := by
  rw [Settings.scalar?_isSome_iff, Settings.handleClass?_isSome_iff]
  simp only [Settings.referenceScalar?_isSome_iff]
  match t with
  | .named name => simp [Acceptable]
  | .pointer (.named name) => simp [Acceptable]
  | .pointer (.pointer base) => simp [Acceptable]
  | .pointer (.tuple elements) => simp [Acceptable]
  | .tuple elements => simp [Acceptable]

theorem acceptableReturn_iff {t : NativeType} :
    AcceptableReturn settings t ↔ t = .named "void" ∨ (settings.scalar? t).isSome ∨
      (settings.handleClass? t).isSome ∨ t = .pointer (.named "char") := by
  rw [Settings.scalar?_isSome_iff, Settings.handleClass?_isSome_iff]
  match t with
  | .named name => simp [AcceptableReturn]
  | .pointer (.named name) => simp [AcceptableReturn]
  | .pointer (.pointer base) => simp [AcceptableReturn]
  | .pointer (.tuple elements) => simp [AcceptableReturn]
  | .tuple elements => simp [AcceptableReturn]

theorem acceptableReturn_of_ignoredReturn {t : NativeType} {type : ManagedType}
    (h : Rule.ignoredReturn? settings t = some type) : AcceptableReturn settings t := by
  rw [Rule.ignoredReturn?] at h
  rw [acceptableReturn_iff]
  split at h
  · cases h
  split at h
  case isTrue hpointer =>
    rcases hpointer with hc | hhandle
    · exact .inr (.inr (.inr (NativeType.isCString_iff.mp hc)))
    · exact .inr (.inr (.inl hhandle))
  split at h
  case isTrue hvoid => exact .inl (NativeType.isVoid_iff.mp hvoid)
  case isFalse => exact .inr (.inl (Option.isSome_of_eq_some h))

namespace Commit

theorem exists_fits_iff (hq : p.current? = some q) :
    (∃ (c : Commit) (r : ParameterRule), c.rule = .inl r ∧ c.Fits settings p) ↔
      Acceptable settings p.signature p.index q.type := by
  rw [acceptable_iff]
  constructor
  · rintro ⟨c, r, hr, hfits⟩
    have same {q' : Parameter} (h : p.current? = some q') : q' = q :=
      Option.some.inj (h.symm.trans hq)
    cases c with
    | scalar q' type =>
      obtain ⟨hq', htype⟩ := hfits
      rw [← same hq']
      exact .inl (Option.isSome_of_eq_some htype)
    | receiver q' =>
      obtain ⟨hq', hindex, name, hreceiver, hname⟩ := hfits
      rw [← same hq']
      exact .inr (.inl ⟨hindex, name, hreceiver, hname⟩)
    | handle q' className =>
      obtain ⟨hq', hclass⟩ := hfits
      rw [← same hq']
      exact .inr (.inr (.inl (Option.isSome_of_eq_some hclass)))
    | growableText buffer size length =>
      rw [← same hfits.1]
      exact .inr (.inr (.inr (.inl hfits.2.2.1)))
    | fixedText buffer size ignored =>
      rw [← same hfits.1]
      exact .inr (.inr (.inr (.inl hfits.2.2.2.2.1)))
    | text q' =>
      rw [← same hfits.1]
      exact .inr (.inr (.inr (.inl hfits.2)))
    | reference q' type =>
      obtain ⟨hq', base, hbase, htype⟩ := hfits
      rw [← same hq']
      exact .inr (.inr (.inr (.inr ⟨base, hbase, Option.isSome_of_eq_some htype⟩)))
    | _ => cases hr
  · simp only [Option.isSome_iff_exists]
    rintro (⟨type, htype⟩ | ⟨hindex, name, hreceiver, hname⟩ | ⟨className, hclass⟩ | hc |
      ⟨base, hbase, type, htype⟩)
    · exact ⟨.scalar q type, _, rfl, hq, htype⟩
    · exact ⟨.receiver q, _, rfl, hq, hindex, name, hreceiver, hname⟩
    · exact ⟨.handle q className, _, rfl, hq, hclass⟩
    · exact ⟨.text q, _, rfl, hq, hc⟩
    · exact ⟨.reference q type, _, rfl, hq, base, hbase, htype⟩

theorem exists_return_fits_iff :
    (∃ (c : Commit) (r : ReturnRule), c.rule = .inr r ∧ c.Fits settings p) ↔
      AcceptableReturn settings p.signature.returns := by
  rw [acceptableReturn_iff]
  constructor
  · rintro ⟨c, r, hr, hfits⟩
    cases c with
    | returnStatus type => exact .inr (.inl (Option.isSome_of_eq_some hfits.1))
    | returnScalar type => exact .inr (.inl (Option.isSome_of_eq_some hfits))
    | returnHandle className => exact .inr (.inr (.inl (Option.isSome_of_eq_some hfits)))
    | returnNothing => exact .inl hfits
    | returnText => exact .inr (.inr (.inr hfits))
    | _ => cases hr
  · simp only [Option.isSome_iff_exists]
    rintro (hvoid | ⟨type, htype⟩ | ⟨className, hclass⟩ | hc)
    · exact ⟨.returnNothing, _, rfl, hvoid⟩
    · exact ⟨.returnScalar type, _, rfl, htype⟩
    · exact ⟨.returnHandle className, _, rfl, hclass⟩
    · exact ⟨.returnText, _, rfl, hc⟩

theorem Fits.acceptable (h : c.Fits settings p) {k : Nat} (hq : c.parameters[k]? = some q) :
    Acceptable settings p.signature (p.index + k) q.type := by
  match k with
  | 0 =>
    obtain ⟨rest, hrest⟩ := h.parameters_prefix
    have hcurrent : p.current? = some q := by
      rw [← Progress.remaining_zero, ← hrest, List.getElem?_append_left
        (List.getElem?_eq_some_iff.mp hq).1, hq]
    cases hr : c.rule with
    | inl r => exact (exists_fits_iff hcurrent).mp ⟨c, r, hr, h⟩
    | inr r =>
      rw [parameters_of_return hr] at hq
      cases hq
  | 1 =>
    -- Only the rules for output texts use up a second parameter.
    cases c with
    | growableText buffer size length =>
      obtain ⟨-, -, -, hlength, -⟩ := h
      obtain rfl : size = q := Option.some.inj hq
      rcases hlength with hlength | hlength <;> rw [hlength]
      · exact .inr (.inl rfl)
      · exact .inr (.inr (.inl rfl))
    | fixedText buffer size ignored =>
      obtain ⟨-, -, -, -, -, hint, -⟩ := h
      obtain rfl : size = q := Option.some.inj hq
      rw [hint]
      exact .inr (.inl rfl)
    | _ => cases hq
  | k + 2 => cases c <;> cases hq

theorem Fits.acceptableReturn (h : c.Fits settings p) (htakes : c.takesReturn = true) :
    AcceptableReturn settings p.signature.returns := by
  -- A rule takes no return value that the return rules would refuse.
  cases hr : c.rule with
  | inr r => exact exists_return_fits_iff.mp ⟨c, r, hr, h⟩
  | inl r =>
    cases c with
    | growableText buffer size length =>
      obtain ⟨-, -, -, -, -, -, hint, -⟩ := h
      rw [hint]
      exact .inr (.inr (.inl rfl))
    | fixedText buffer size ignored =>
      obtain ⟨-, -, -, -, -, -, hignored⟩ := h
      obtain ⟨type, htype⟩ := Option.isSome_iff_exists.mp htakes
      rw [htype] at hignored
      split at hignored
      · cases hignored
      · exact acceptableReturn_of_ignoredReturn hignored.symm
    | scalar | receiver | handle | text | reference => cases htakes
    | _ => cases hr

end Commit

namespace Reached

theorem acceptableBefore (h : Reached settings s commits w) :
    AcceptableBefore settings s w.progress.index := by
  induction h with
  | start => exact fun i q hi => absurd hi (Nat.not_lt_zero i)
  | @step commits w c h hc ih =>
    intro i q hi hq
    by_cases hlt : i < w.progress.index
    · exact ih i q hlt hq
    obtain ⟨k, rfl⟩ := Nat.exists_eq_add_of_le (Nat.not_lt.mp hlt)
    have hk : k < c.parameters.length := by
      change w.progress.index + k < w.progress.index + c.parameters.length at hi
      omega
    obtain ⟨rest, hrest⟩ := hc.fits.parameters_prefix
    have hget : c.parameters[k]? = some q := by
      have hleft : (c.parameters ++ rest)[k]? = c.parameters[k]? := List.getElem?_append_left hk
      rw [← hleft, hrest, Progress.remaining,
        List.getElem?_drop, h.signature_eq, hq]
    rw [← h.signature_eq]
    exact hc.fits.acceptable hget

theorem acceptableReturn (h : Reached settings s commits w)
    (htaken : w.progress.returnTaken = true) : AcceptableReturn settings s.returns := by
  induction h with
  | start => cases htaken
  | @step commits w c h hc ih =>
    rcases (Bool.or_eq_true _ _).mp htaken with htaken | htakes
    · exact ih htaken
    · rw [← h.signature_eq]
      exact hc.fits.acceptableReturn htakes

theorem acceptableBefore_length (h : Reached settings s commits w)
    (hcurrent : w.progress.current? = none) :
    AcceptableBefore settings s s.parameters.length := by
  have hle := List.getElem?_eq_none_iff.mp hcurrent
  rw [h.signature_eq] at hle
  exact fun i q hi hq => h.acceptableBefore i q (by omega) hq

end Reached

theorem bindFunction_end (settings : Settings) (s : Signature) :
    (AcceptableBefore settings s s.parameters.length ∧ AcceptableReturn settings s.returns ∧
      ∃ d, bindFunction settings s = .ok d) ∨
    (∃ i q, s.parameters[i]? = some q ∧ ¬ Acceptable settings s i q.type ∧
      AcceptableBefore settings s i ∧
      bindFunction settings s = .error (.noParameterRule s.nativeName i q.name q.type)) ∨
    (AcceptableBefore settings s s.parameters.length ∧ ¬ AcceptableReturn settings s.returns ∧
      bindFunction settings s = .error (.noReturnRule s.nativeName s.returns)) := by
  rcases bindFunction_cases settings s with
    ⟨commits, w, h, hcurrent, htaken, hok, -⟩ | ⟨commits, w, q, h, hcurrent, hnone, herror⟩ |
    ⟨commits, w, h, hcurrent, htaken, hnone, herror⟩
  · exact .inl ⟨h.acceptableBefore_length hcurrent, h.acceptableReturn htaken, _, hok⟩
  · refine .inr (.inl ⟨w.progress.index, q, ?_, ?_, h.acceptableBefore, herror⟩)
    · rwa [← h.signature_eq]
    · rw [← h.signature_eq, ← Commit.exists_fits_iff hcurrent]
      rintro ⟨c, r, hr, hfits⟩
      exact hnone c r hr hfits
  · refine .inr (.inr ⟨h.acceptableBefore_length hcurrent, ?_, herror⟩)
    rw [← h.signature_eq, ← Commit.exists_return_fits_iff]
    rintro ⟨c, r, hr, hfits⟩
    exact hnone c r hr hfits

theorem AcceptableBefore.eq_of_first {i j : Nat} {q r : Parameter}
    (hq : s.parameters[i]? = some q) (hi : ¬ Acceptable settings s i q.type)
    (hbefore : AcceptableBefore settings s i) (hr : s.parameters[j]? = some r)
    (hj : ¬ Acceptable settings s j r.type) (hbefore' : AcceptableBefore settings s j) : i = j := by
  rcases Nat.lt_trichotomy i j with hlt | heq | hgt
  · exact absurd (hbefore' i q hlt hq) hi
  · exact heq
  · exact absurd (hbefore j r hgt hr) hj

theorem acceptableBefore_length_iff :
    AcceptableBefore settings s s.parameters.length ↔
      ∀ i q, s.parameters[i]? = some q → Acceptable settings s i q.type := by
  constructor
  · intro h i q hq
    exact h i q (List.getElem?_eq_some_iff.mp hq).1 hq
  · intro h i q _ hq
    exact h i q hq

theorem bindFunction_ok_iff :
    (∃ d, bindFunction settings s = .ok d) ↔
      AcceptableBefore settings s s.parameters.length ∧ AcceptableReturn settings s.returns := by
  rcases bindFunction_end settings s with
    ⟨hparameters, hreturn, hok⟩ | ⟨i, q, hq, hi, -, herror⟩ | ⟨-, hreturn, herror⟩
  · exact ⟨fun _ => ⟨hparameters, hreturn⟩, fun _ => hok⟩
  · rw [herror]
    constructor
    · rintro ⟨d, h⟩
      cases h
    · rintro ⟨hparameters, -⟩
      exact absurd (acceptableBefore_length_iff.mp hparameters i q hq) hi
  · rw [herror]
    constructor
    · rintro ⟨d, h⟩
      cases h
    · rintro ⟨-, h⟩
      exact absurd h hreturn

theorem bindFunction_noParameterRule_iff {f n : String} {i : Nat} {t : NativeType} :
    bindFunction settings s = .error (.noParameterRule f i n t) ↔
      f = s.nativeName ∧ s.parameters[i]? = some ⟨n, t⟩ ∧ ¬ Acceptable settings s i t ∧
        AcceptableBefore settings s i := by
  rcases bindFunction_end settings s with
    ⟨hparameters, -, d, hresult⟩ | ⟨j, q, hq, hj, hbefore, hresult⟩ | ⟨hparameters, -, hresult⟩
  case inr.inl =>
    rw [hresult]
    constructor
    · intro h
      cases h
      exact ⟨rfl, hq, hj, hbefore⟩
    · rintro ⟨rfl, hr, hi, hbefore'⟩
      obtain rfl := AcceptableBefore.eq_of_first hq hj hbefore hr hi hbefore'
      obtain rfl : q = ⟨n, t⟩ := Option.some.inj (hq.symm.trans hr)
      rfl
  all_goals
    rw [hresult]
    constructor
    · intro h
      cases h
    · rintro ⟨-, hq, hi, -⟩
      exact absurd (acceptableBefore_length_iff.mp hparameters i _ hq) hi

theorem exists_noParameterRule_iff :
    (∃ f i n t, bindFunction settings s = .error (.noParameterRule f i n t)) ↔
      ∃ i q, s.parameters[i]? = some q ∧ ¬ Acceptable settings s i q.type := by
  constructor
  · rintro ⟨f, i, n, t, h⟩
    obtain ⟨-, hq, hi, -⟩ := bindFunction_noParameterRule_iff.mp h
    exact ⟨i, _, hq, hi⟩
  · rintro ⟨i, q, hq, hi⟩
    rcases bindFunction_end settings s with
      ⟨hparameters, -⟩ | ⟨j, r, -, -, -, herror⟩ | ⟨hparameters, -⟩
    · exact absurd (acceptableBefore_length_iff.mp hparameters i q hq) hi
    · exact ⟨_, j, r.name, r.type, herror⟩
    · exact absurd (acceptableBefore_length_iff.mp hparameters i q hq) hi

theorem bindFunction_noReturnRule_iff {f : String} {t : NativeType} :
    bindFunction settings s = .error (.noReturnRule f t) ↔
      f = s.nativeName ∧ t = s.returns ∧ AcceptableBefore settings s s.parameters.length ∧
        ¬ AcceptableReturn settings s.returns := by
  rcases bindFunction_end settings s with
    ⟨-, hreturn, d, hresult⟩ | ⟨i, q, hq, hi, -, hresult⟩ | ⟨hparameters, hreturn, hresult⟩
  · rw [hresult]
    constructor
    · intro h
      cases h
    · rintro ⟨-, -, -, h⟩
      exact absurd hreturn h
  · rw [hresult]
    constructor
    · intro h
      cases h
    · rintro ⟨-, -, hparameters, -⟩
      exact absurd (acceptableBefore_length_iff.mp hparameters i q hq) hi
  · rw [hresult]
    constructor
    · intro h
      cases h
      exact ⟨rfl, rfl, hparameters, hreturn⟩
    · rintro ⟨rfl, rfl, -, -⟩
      rfl

/-- A binding succeeds exactly when all types are acceptable. It fails for want of a parameter rule
at the first parameter that is not, and for want of a return rule when only the return type is not;
it never stops halfway. -/
theorem bindFunction_domain (settings : Settings) (s : Signature) :
    ((∃ d, bindFunction settings s = .ok d) ↔
      (∀ i q, s.parameters[i]? = some q → Acceptable settings s i q.type) ∧
        AcceptableReturn settings s.returns) ∧
    ((∃ f i n t, bindFunction settings s = .error (.noParameterRule f i n t)) ↔
      ∃ i q, s.parameters[i]? = some q ∧ ¬ Acceptable settings s i q.type) ∧
    (∀ f i n t, bindFunction settings s = .error (.noParameterRule f i n t) ↔
      f = s.nativeName ∧ s.parameters[i]? = some ⟨n, t⟩ ∧ ¬ Acceptable settings s i t ∧
        AcceptableBefore settings s i) ∧
    (∀ f t, bindFunction settings s = .error (.noReturnRule f t) ↔
      f = s.nativeName ∧ t = s.returns ∧
        (∀ i q, s.parameters[i]? = some q → Acceptable settings s i q.type) ∧
        ¬ AcceptableReturn settings s.returns) ∧
    ∀ f consumed total, bindFunction settings s ≠ .error (.incomplete f consumed total) := by
  rw [← acceptableBefore_length_iff]
  refine ⟨bindFunction_ok_iff, exists_noParameterRule_iff, ?_, ?_, ?_⟩
  · intro f i n t
    exact bindFunction_noParameterRule_iff
  · intro f t
    exact bindFunction_noReturnRule_iff
  · intro f consumed total h
    rcases bindFunction_end settings s with ⟨-, -, d, hok⟩ | ⟨i, q, -, -, -, herror⟩ | ⟨-, -, herror⟩
    · rw [hok] at h
      cases h
    · rw [herror] at h
      cases h
    · rw [herror] at h
      cases h

end NativeBindings
