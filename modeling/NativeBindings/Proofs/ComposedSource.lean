import NativeBindings.GeneratedSource
import NativeBindings.Proofs.LoadedFile

namespace NativeBindings

section Fragments

theorem head_append {a : String} {c : Char} (h : a.toList.head? = some c) (b : String) :
    (a ++ b).toList.head? = some c := by
  rw [String.toList_append, List.head?_append, h, Option.some_or]

theorem Draft.delegateLines_head (d : Draft) :
    ∃ line rest c, d.delegateLines = line :: rest ∧ line.toList.head? = some c ∧ c ≠ '/' := by
  rw [delegateLines, ManagedType.returnAttributes]
  simp only [String.append_assoc]
  split
  · exact ⟨_, _, 'i', rfl, head_append rfl _, by decide⟩
  · exact ⟨_, _, '[', rfl, head_append rfl _, by decide⟩

theorem Outcome.skipLine_head (name : String) (e : BindError) :
    (skipLine name e).toList.head? = some '/' := by
  unfold skipLine
  simp only [String.append_assoc]
  exact head_append rfl _

theorem Draft.delegateText_ne_skipText (d : Draft) (margin name : String) (e : BindError) :
    d.delegateText margin ≠ Outcome.skipText name e margin := by
  obtain ⟨line, rest, c, hlines, hhead, hc⟩ := d.delegateLines_head
  rw [Draft.delegateText_eq, Outcome.skipText_eq, hlines, fragment_cons, fragment_cons]
  simp only [String.append_assoc]
  intro heq
  have htext := String.append_right_inj margin |>.mp heq
  have hfirst := head_append hhead ("\n" ++ fragment margin rest)
  rw [htext, head_append (Outcome.skipLine_head name e)] at hfirst
  exact hc (Option.some.inj hfirst).symm

end Fragments

namespace GeneratedSource

theorem group_singleton (margin : String) (render : Outcome → String → String) (o : Outcome) :
    group margin render [o] = render o margin := by
  rw [group, List.map_singleton, String.intercalate_singleton]

variable {margin : String} {outcomes : List Outcome}

def blocks (margin : String) (outcomes : List Outcome) : List String :=
  outcomes.map (·.delegateText margin) ++
    (outcomes.map (·.importText margin) ++ outcomes.map (·.wrapperText margin))

theorem compose_ofOutcomes (h : ∀ block ∈ blocks margin outcomes, IsBlock block) :
    (ofOutcomes margin outcomes).compose = "\n".intercalate (blocks margin outcomes) := by
  rcases outcomes.eq_nil_or_concat with rfl | ⟨front, last, hlast⟩
  · rfl
  have hmap : ∀ f : Outcome → String, outcomes.map f ≠ [] := by
    simp [hlast]
  simp only [blocks, List.forall_mem_append] at h
  obtain ⟨hdelegates, himports, hwrappers⟩ := h
  have hgroup : ∀ render : Outcome → String → String,
      (∀ block ∈ outcomes.map fun o => render o margin, IsBlock block) →
      (!(group margin render outcomes).isEmpty) = true := by
    intro render hblocks
    have hends := endsOnce_intercalate (hmap _) hblocks
    simpa [group] using hends.ne_empty
  have hsections : (ofOutcomes margin outcomes).compose =
      "\n".intercalate [group margin Outcome.delegateText outcomes,
        group margin Outcome.importText outcomes, group margin Outcome.wrapperText outcomes] := by
    rw [compose, List.filter_eq_self.mpr]
    · rfl
    · simp only [List.forall_mem_cons]
      exact ⟨hgroup _ hdelegates, hgroup _ himports, hgroup _ hwrappers, List.forall_mem_nil _⟩
  rw [hsections, blocks, String.intercalate_append_of_ne_nil (hmap _)
    (List.append_ne_nil_of_left_ne_nil (hmap _) _),
    String.intercalate_append_of_ne_nil (hmap _) (hmap _)]
  simp only [String.intercalate_cons_cons, String.intercalate_singleton, group,
    String.append_assoc]

end GeneratedSource

namespace BindingsFile

variable {b : BindingsFile} {f : FunctionEntry}

def alone (b : BindingsFile) (f : FunctionEntry) : GeneratedSource :=
  let file := { b with functions := [f] }
  .ofOutcomes file.margin file.outcomes

def blocks (b : BindingsFile) : List String :=
  b.functions.map (fun f => (b.alone f).delegates) ++
    (b.functions.map (fun f => (b.alone f).imports) ++
      b.functions.map fun f => (b.alone f).wrappers)

theorem alone_eq (b : BindingsFile) (f : FunctionEntry) :
    let o := Outcome.ofSignature b.settings f.signature
    (b.alone f).delegates = o.delegateText b.margin ∧
      (b.alone f).imports = o.importText b.margin ∧
      (b.alone f).wrappers = o.wrapperText b.margin :=
  ⟨GeneratedSource.group_singleton _ Outcome.delegateText _,
    GeneratedSource.group_singleton _ Outcome.importText _,
    GeneratedSource.group_singleton _ Outcome.wrapperText _⟩

theorem blocks_eq (b : BindingsFile) : b.blocks = GeneratedSource.blocks b.margin b.outcomes := by
  simp only [blocks, GeneratedSource.blocks, outcomes, List.map_map, alone_eq, Function.comp_def]

theorem blocks_length (b : BindingsFile) : b.blocks.length = 3 * b.functions.length := by
  simp only [blocks, List.length_append, List.length_map]
  omega

theorem isBlock_of_mem_blocks (hset : b.settings.NoBreaks)
    (hfunctions : ∀ f ∈ b.functions, f.signature.NoBreaks) : ∀ block ∈ b.blocks, IsBlock block := by
  have hmargin : OneLine b.margin := oneLine_replicate (by decide) b.indent
  rw [blocks]
  simp only [List.forall_mem_append, List.forall_mem_map, alone_eq]
  refine ⟨fun f hf => ?_, fun f hf => ?_, fun f hf => ?_⟩
  all_goals
    obtain ⟨hdelegates, himports, hwrappers⟩ := Outcome.lines_isLine hset (hfunctions f hf)
    obtain ⟨hdelegate, himport, hwrapper⟩ :=
      (Outcome.ofSignature b.settings f.signature).lines_ne_nil
  · rw [Outcome.delegateText_eq]
    exact isBlock_fragment hmargin hdelegate hdelegates
  · rw [Outcome.importText_eq]
    exact isBlock_fragment hmargin himport himports
  · rw [Outcome.wrapperText_eq]
    exact isBlock_fragment hmargin hwrapper hwrappers

theorem blocks_getElem? {i : Nat} (hf : b.functions[i]? = some f) :
    b.blocks[i]? = some (b.alone f).delegates ∧
      b.blocks[b.functions.length + i]? = some (b.alone f).imports ∧
      b.blocks[2 * b.functions.length + i]? = some (b.alone f).wrappers := by
  have hmap : ∀ block : FunctionEntry → String,
      (b.functions.map block)[i]? = some (block f) := by
    intro block
    rw [List.getElem?_map, hf, Option.map_some]
  have hlt : i < b.functions.length := (List.getElem?_eq_some_iff.mp hf).1
  rw [blocks]
  refine ⟨?_, ?_, ?_⟩
  · rw [List.getElem?_append_left (by rwa [List.length_map]), hmap]
  · rw [List.getElem?_append_right (by simp), List.length_map, Nat.add_sub_cancel_left,
      List.getElem?_append_left (by rwa [List.length_map]), hmap]
  · have hskip : 2 * b.functions.length + i - b.functions.length = b.functions.length + i := by
      omega
    rw [List.getElem?_append_right (by simp; omega), List.length_map, hskip,
      List.getElem?_append_right (by simp), List.length_map, Nat.add_sub_cancel_left, hmap]

theorem isBound_eq_false_iff :
    (Outcome.ofSignature b.settings f.signature).isBound = false ↔
      ∃ e, let comment := Outcome.skipText f.signature.nativeName e b.margin
        (b.alone f).delegates = comment ∧ (b.alone f).imports = comment ∧
          (b.alone f).wrappers = comment := by
  obtain ⟨hdelegates, himports, hwrappers⟩ := b.alone_eq f
  rw [hdelegates, himports, hwrappers, Outcome.ofSignature]
  cases bindFunction b.settings f.signature with
  | ok d =>
    refine iff_of_false (fun hskipped => Bool.noConfusion hskipped) ?_
    rintro ⟨e, hskip, -⟩
    exact d.delegateText_ne_skipText _ _ _ hskip
  | error e => exact iff_of_true rfl ⟨e, rfl, rfl, rfl⟩

theorem compose_eq {text : String} (hb : ofText text = .ok b)
    (hblocks : ∀ block ∈ b.blocks, IsBlock block) :
    (generate text).1.compose = "\n".intercalate b.blocks := by
  rw [generate, hb, b.blocks_eq]
  exact GeneratedSource.compose_ofOutcomes (b.blocks_eq ▸ hblocks)

end BindingsFile

variable {text : String} {d : Declarations} {b : BindingsFile}

/-- The source that a text composes is the blocks of its functions: the delegates, then the imports,
then the wrappers, with one blank line between two. They are the blocks that the text has, each is
what its function generates alone, and a function is skipped exactly when its three blocks are one
comment. -/
theorem composed_blocks (hd : Declarations.ofText text = .ok d)
    (hb : BindingsFile.ofText text = .ok b) (hstrings : ∀ x ∈ d.strings, OneLine x) :
    let source := (generate text).1.compose
    let n := b.functions.length
    (n = 0 → source = "") ∧ (0 < n → EndsOnce source) ∧
      source = "\n".intercalate b.blocks ∧ b.blocks.length = 3 * n ∧
      (∀ block ∈ b.blocks, IsBlock block) ∧ textBlocks source = b.blocks ∧
      ∀ i f, b.functions[i]? = some f →
        (textBlocks source)[i]? = some (b.alone f).delegates ∧
        (textBlocks source)[n + i]? = some (b.alone f).imports ∧
        (textBlocks source)[2 * n + i]? = some (b.alone f).wrappers ∧
        ((Outcome.ofSignature b.settings f.signature).isBound = false ↔
          ∃ e, let comment := Outcome.skipText f.signature.nativeName e b.margin
            (b.alone f).delegates = comment ∧ (b.alone f).imports = comment ∧
              (b.alone f).wrappers = comment) := by
  intro source n
  have hloaded : BindingsFile.ofDeclarations d = .ok b := by
    obtain ⟨d', hd', hloaded⟩ := BindingsFile.ofText_ok_iff.mp hb
    rw [hd] at hd'
    cases hd'
    exact hloaded
  obtain ⟨hset, hfunctions⟩ := BindingsFile.noBreaks hloaded hstrings
  have hblocks := BindingsFile.isBlock_of_mem_blocks hset hfunctions
  have hsource : source = "\n".intercalate b.blocks := BindingsFile.compose_eq hb hblocks
  have hlength : b.blocks.length = 3 * n := b.blocks_length
  have htext : textBlocks source = b.blocks := by
    rw [hsource]
    exact textBlocks_intercalate hblocks
  refine ⟨fun hn => ?_, fun hn => ?_, hsource, hlength, hblocks, htext, fun i f hf => ?_⟩
  · have hnil : b.blocks = [] := List.length_eq_zero_iff.mp (by rw [hlength, hn])
    rw [hsource, hnil, String.intercalate_nil]
  · rw [hsource]
    refine endsOnce_intercalate (List.length_pos_iff.mp ?_) hblocks
    omega
  · rw [htext]
    obtain ⟨hdelegate, himport, hwrapper⟩ := b.blocks_getElem? hf
    exact ⟨hdelegate, himport, hwrapper, b.isBound_eq_false_iff⟩

def sessionText : String :=
  "[library]\nindent = 0\n\n[enums]\nsp_error = \"SpotifyError\"\n\n" ++
    "[[functions]]\nnative = \"sp_login\"\nreturns = \"sp_error\"\nwrapper = false\n\n" ++
    "[[functions]]\nnative = \"sp_open\"\nreturns = \"FILE *\"\n"

def sessionDeclarations : Declarations where
  library := { indent := 0 }
  enums := [("sp_error", "SpotifyError")]
  functions :=
    [({ native := "sp_login", wrapper := false, returns := some ⟨"sp_error", ⟨101, 111⟩⟩ }, ⟨57, 127⟩),
      ({ native := "sp_open", returns := some ⟨"FILE *", ⟨172, 180⟩⟩ }, ⟨129, 180⟩)]

def sessionFile : BindingsFile where
  settings := { enums := [("sp_error", "SpotifyError")] }
  indent := 0
  functions :=
    [⟨⟨"sp_login", "Login", [], .named "sp_error", none, false⟩, ⟨57, 127⟩⟩,
      ⟨⟨"sp_open", "Open", [], .pointer (.named "FILE"), none, true⟩, ⟨129, 180⟩⟩]

theorem composed_blocks_session :
    Declarations.ofText sessionText = .ok sessionDeclarations ∧
      BindingsFile.ofText sessionText = .ok sessionFile ∧
      (∀ x ∈ sessionDeclarations.strings, OneLine x) ∧
      textBlocks (generate sessionText).1.compose =
        ["internal delegate SpotifyError sp_login_delegate();\n",
          "// sp_open: skipped (no rule for return type FILE*)\n",
          "[DllImport(\"native\")]\ninternal static extern SpotifyError sp_login();\n",
          "// sp_open: skipped (no rule for return type FILE*)\n",
          "// sp_login: no wrapper generated\n",
          "// sp_open: skipped (no rule for return type FILE*)\n"] := by
  have hd : Declarations.ofText sessionText = .ok sessionDeclarations := by decide +kernel
  have hfile : BindingsFile.ofDeclarations sessionDeclarations = .ok sessionFile := by
    decide +kernel
  have hb := BindingsFile.ofText_ok_iff.mpr ⟨_, hd, hfile⟩
  have hstrings : ∀ x ∈ sessionDeclarations.strings, OneLine x := by decide +kernel
  obtain ⟨-, -, -, -, -, htext, -⟩ := composed_blocks hd hb hstrings
  refine ⟨hd, hb, hstrings, htext.trans ?_⟩
  decide +kernel

end NativeBindings
