import NativeBindings.Proofs.Run

/-!
The body of a wrapper in closed form: declarations, the scopes of the rules around the native call,
the first rule outermost, and results.
-/

namespace NativeBindings

/-- Some lines inside of scopes, the outermost of which stands at a depth. -/
def Scope.wrap : Nat → List Scope → List Line → List Line
  | _, [], inner => inner
  | depth, scope :: scopes, inner =>
    scope.opening depth ++ wrap (depth + 1) scopes inner ++ scope.closing depth

theorem Scope.wrap_concat (depth : Nat) (scopes : List Scope) (scope : Scope) (inner : List Line) :
    wrap depth (scopes ++ [scope]) inner =
      wrap depth scopes (scope.opening (depth + scopes.length) ++ inner ++
        scope.closing (depth + scopes.length)) := by
  induction scopes generalizing depth with
  | nil => rfl
  | cons first scopes ih =>
    have hdepth : depth + (first :: scopes).length = depth + 1 + scopes.length := by
      rw [List.length_cons]
      omega
    rw [hdepth]
    simp only [List.cons_append, wrap, ih]

def Commit.scopes (commits : List Commit) : List Scope := commits.filterMap Commit.scope?

def Draft.hasParameter (d : Draft) (name : String) : Bool :=
  d.managedParameters.any (·.name == name) || (d.isInstance && name == "this")

/-- Whether an argument refers to something, given what names, holders and buffers refer to. -/
def Argument.refersTo (names holders buffers : String → Bool) : Argument → Bool
  | .var name | .reference name | .member name _ => names name
  | .pointer holder => holders holder
  | .capacity buffer _ => buffers buffer
  | .verbatim _ => false

variable {settings : Settings} {s : Signature} {commits : List Commit} {w : Work} {c : Commit}

namespace Commit

theorem scopes_append (earlier later : List Commit) :
    scopes (earlier ++ later) = scopes earlier ++ scopes later :=
  List.filterMap_append

theorem scopes_singleton_none (h : c.scope? = none) : scopes [c] = [] := by
  rw [scopes, List.filterMap_cons_none h, List.filterMap_nil]

theorem scopes_singleton_some {scope : Scope} (h : c.scope? = some scope) :
    scopes [c] = [scope] := by
  rw [scopes, List.filterMap_cons_some h, List.filterMap_nil]

end Commit

namespace Reached

theorem nesting_eq (h : Reached settings s commits w) :
    w.draft.nesting =
      { above := (Commit.scopes commits).length, below := (Commit.scopes commits).length - 1,
        entered := (Commit.scopes commits).length, exited := (Commit.scopes commits).length } := by
  induction h with
  | start => rfl
  | @step commits w c _ _ ih =>
    rw [Commit.scopes_append]
    cases hscope : c.scope? with
    | none =>
      rw [Commit.scopes_singleton_none hscope, List.append_nil, ← ih]
      simp only [Work.commit, Draft.extend, hscope, Option.isSome_none, Bool.false_eq_true,
        if_false]
    | some scope =>
      rw [Commit.scopes_singleton_some hscope]
      simp [Work.commit, Draft.extend, hscope, ih, Nesting.enter, Nesting.exit]

theorem nativeParameters_eq (h : Reached settings s commits w) :
    w.draft.nativeParameters = commits.flatMap (Commit.nativeParameters settings) := by
  induction h with
  | start => rfl
  | step _ _ ih => simp [Work.commit, Draft.extend, ih]

theorem managedParameters_eq (h : Reached settings s commits w) :
    w.draft.managedParameters = commits.flatMap Commit.managedParameters := by
  induction h with
  | start => rfl
  | step _ _ ih => simp [Work.commit, Draft.extend, ih]

theorem isInstance_eq (h : Reached settings s commits w) :
    w.draft.isInstance = commits.any Commit.isReceiver := by
  induction h with
  | start => rfl
  | step _ _ ih => simp [Work.commit, Draft.extend, ih]

theorem top_eq (h : Reached settings s commits w) :
    w.draft.top = Line.outermost (commits.flatMap Commit.declarations) := by
  induction h with
  | start => rfl
  | step _ _ ih => simp [Work.commit, Draft.extend, ih, Line.outermost]

theorem bottom_eq (h : Reached settings s commits w) :
    w.draft.bottom = Line.outermost (commits.reverse.flatMap (Commit.results settings)) := by
  induction h with
  | start => rfl
  | step _ _ ih => simp [Work.commit, Draft.extend, ih, Line.outermost]

theorem around_eq (h : Reached settings s commits w) (inner : List Line) :
    w.draft.above ++ inner ++ w.draft.below = Scope.wrap 0 (Commit.scopes commits) inner := by
  induction h generalizing inner with
  | start => exact List.append_nil inner
  | @step commits w c h _ ih =>
    rw [Commit.scopes_append]
    cases hscope : c.scope? with
    | none =>
      rw [Commit.scopes_singleton_none hscope, List.append_nil, ← ih]
      simp [Work.commit, Draft.extend, hscope]
    | some scope =>
      rw [Commit.scopes_singleton_some hscope, Scope.wrap_concat, ← ih, Nat.zero_add]
      simp [Work.commit, Draft.extend, hscope, h.nesting_eq]

theorem body_eq (h : Reached settings s commits w) :
    w.draft.body =
      Line.outermost (commits.flatMap Commit.declarations) ++
      Scope.wrap 0 (Commit.scopes commits) [⟨(Commit.scopes commits).length, .nativeCall⟩] ++
      Line.outermost (commits.reverse.flatMap (Commit.results settings)) := by
  rw [← h.around_eq, ← h.top_eq, ← h.bottom_eq, Draft.body, h.nesting_eq]
  simp only [List.append_assoc, List.cons_append, List.nil_append]

theorem after_growableText (h : Reached settings s commits w)
    (hmem : ∃ c ∈ commits, c.rule = .inl .growableText) :
    w.progress.returnTaken = true ∧ w.progress.current? = none := by
  -- No rule follows a growable buffer: it uses up the last parameter and takes the return value.
  induction h with
  | start => simp at hmem
  | @step commits w c h hc ih =>
    obtain ⟨c', hc', hrule⟩ := hmem
    rcases List.mem_append.mp hc' with hearlier | hlast
    · obtain ⟨htaken, hcurrent⟩ := ih ⟨c', hearlier, hrule⟩
      exact absurd hcurrent (hc.of_returnTaken htaken).2
    · obtain rfl := List.mem_singleton.mp hlast
      cases c' with
      | growableText buffer size length =>
        obtain ⟨-, -, -, -, hend, -, -, -⟩ := hc.fits
        refine ⟨?_, List.getElem?_eq_none_iff.mpr (Nat.le_of_eq hend.symm)⟩
        simp [Work.commit, Progress.after, Commit.takesReturn]
      | _ => cases hrule

theorem growableText_last (h : Reached settings s commits w)
    (hmem : ∃ c ∈ commits, c.rule = .inl .growableText) :
    ∃ earlier before buffer size length, Reached settings s earlier before ∧
      (Commit.growableText buffer size length).Chosen settings before.progress ∧
      (∀ c ∈ earlier, c.rule ≠ .inl .growableText) ∧
      commits = earlier ++ [.growableText buffer size length] ∧
      w = before.commit settings (.growableText buffer size length) := by
  cases h with
  | start => simp at hmem
  | @step earlier before c h hc =>
    have hearlier : ∀ c ∈ earlier, c.rule ≠ .inl .growableText := by
      intro c' hc' hrule
      obtain ⟨htaken, hcurrent⟩ := h.after_growableText ⟨c', hc', hrule⟩
      exact absurd hcurrent (hc.of_returnTaken htaken).2
    obtain ⟨c', hc', hrule⟩ := hmem
    rcases List.mem_append.mp hc' with hbefore | hlast
    · exact absurd hrule (hearlier c' hbefore)
    · obtain rfl := List.mem_singleton.mp hlast
      cases c' with
      | growableText buffer size length =>
        exact ⟨earlier, before, buffer, size, length, h, hc, hearlier, rfl, rfl⟩
      | _ => cases hrule

theorem mem_managedParameters (h : Reached settings s commits w) (hc : c ∈ commits)
    {m : ManagedParameter} (hm : m ∈ c.managedParameters) : m ∈ w.draft.managedParameters := by
  rw [h.managedParameters_eq]
  exact List.mem_flatMap.mpr ⟨c, hc, hm⟩

theorem hasParameter_of_mem (h : Reached settings s commits w) (hc : c ∈ commits)
    {m : ManagedParameter} (hm : m ∈ c.managedParameters) :
    w.draft.hasParameter m.name = true := by
  rw [Draft.hasParameter, Bool.or_eq_true]
  left
  rw [List.any_eq_true]
  exact ⟨m, h.mem_managedParameters hc hm, beq_self_eq_true m.name⟩

theorem hasParameter_this (h : Reached settings s commits w) {q : Parameter}
    (hc : .receiver q ∈ commits) : w.draft.hasParameter "this" = true := by
  have hinstance : w.draft.isInstance = true := by
    rw [h.isInstance_eq, List.any_eq_true]
    exact ⟨.receiver q, hc, rfl⟩
  rw [Draft.hasParameter, hinstance]
  exact Bool.or_true _

end Reached

end NativeBindings
