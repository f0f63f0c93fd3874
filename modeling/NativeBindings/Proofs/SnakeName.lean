import NativeBindings.Proofs.UsableName

namespace NativeBindings

namespace MethodName

open Unicode NativeType.Spelling

def IsPlain (c : Char) : Prop := c.isLower = true ∨ c.isDigit = true

@[ext]
structure SnakeWord where
  first : Char
  rest : List Char
  first_lower : first.isLower = true
  rest_plain : ∀ c ∈ rest, IsPlain c

namespace SnakeWord

def letters (w : SnakeWord) : List Char := w.first :: w.rest

def capitalized (w : SnakeWord) : List Char := w.first.toUpper :: w.rest

def snake (ws : List SnakeWord) : String := "_".intercalate (ws.map fun w => String.ofList w.letters)

def pascal (ws : List SnakeWord) : String := String.join (ws.map fun w => String.ofList w.capitalized)

theorem plain (w : SnakeWord) : ∀ c ∈ w.letters, IsPlain c :=
  List.forall_mem_cons.mpr ⟨.inl w.first_lower, w.rest_plain⟩

theorem snake_toList (ws : List SnakeWord) :
    (snake ws).toList = ['_'].intercalate (ws.map letters) := by
  rw [snake, String.toList_intercalate, List.map_map]
  simp [Function.comp_def]

theorem pascal_toList (ws : List SnakeWord) : (pascal ws).toList = ws.flatMap capitalized := by
  rw [pascal, String.toList_join, List.flatMap_map]
  simp

end SnakeWord

section Plain

variable {c : Char} {s : List Char}

theorem IsPlain.isAlphanum (h : IsPlain c) : c.isAlphanum = true := by
  change ((c.isUpper || c.isLower) || c.isDigit) = true
  rcases h with h | h <;> simp [h]

theorem IsPlain.not_isUpper (h : IsPlain c) : c.isUpper = false :=
  forall_sevenBit (P := fun c => c.isLower = true ∨ c.isDigit = true → c.isUpper = false)
    (by decide +kernel) (toNat_lt_of_isAlphanum h.isAlphanum) h

theorem IsPlain.not_isUppercase (h : IsPlain c) : isUppercase c = false := by
  have hruns : ∀ run ∈ uppercaseRuns, 0x80 ≤ run.first := by decide +kernel
  have hlt := toNat_lt_of_isAlphanum h.isAlphanum
  rw [isUppercase, h.not_isUpper, Bool.false_or, List.any_eq_false]
  intro run hrun hcovers
  have hfirst := hruns run hrun
  simp only [CodeRun.covers, Bool.and_eq_true, decide_eq_true_eq] at hcovers
  omega

theorem IsPlain.toLower_eq (h : IsPlain c) : c.toLower = c :=
  forall_sevenBit (P := fun c => c.isLower = true ∨ c.isDigit = true → c.toLower = c)
    (by decide +kernel) (toNat_lt_of_isAlphanum h.isAlphanum) h

theorem IsPlain.isUpper_toUpper (h : IsPlain c) : c.toUpper.isUpper = c.isLower :=
  forall_sevenBit
    (P := fun c => c.isLower = true ∨ c.isDigit = true → c.toUpper.isUpper = c.isLower)
    (by decide +kernel) (toNat_lt_of_isAlphanum h.isAlphanum) h

theorem IsPlain.toLower_toUpper (h : IsPlain c) : c.toUpper.toLower = c :=
  forall_sevenBit (P := fun c => c.isLower = true ∨ c.isDigit = true → c.toUpper.toLower = c)
    (by decide +kernel) (toNat_lt_of_isAlphanum h.isAlphanum) h

theorem cut_plain (hs : ∀ c ∈ s, IsPlain c) (hne : s ≠ []) (mode : Mode) (front : List Char) :
    cut mode front s = [front ++ s] := by
  -- A plain word is never cut: a cut needs a letter in upper case.
  induction mode, front, s using cut.induct with
  | case1 => exact absurd rfl hne
  | case2 mode front c => rw [cut]
  | case3 mode front c next s hend =>
    have hnext := (hs next (by simp)).not_isUppercase
    rw [hend.2] at hnext
    cases hnext
  | case4 mode front c next s hend hrun =>
    have hc := (hs c List.mem_cons_self).not_isUppercase
    rw [hrun.2.1] at hc
    cases hc
  | case5 mode front c next s hend hrun ih =>
    rw [cut, if_neg hend, if_neg hrun, ih (List.forall_mem_cons.mp hs).2 (List.cons_ne_nil _ _),
      List.append_assoc]
    rfl

theorem pieces_append {word p : List Char} {rest : List (List Char)}
    (hword : ∀ c ∈ word, isAlphanumeric c = true) (hs : pieces s = p :: rest) :
    pieces (word ++ s) = (word ++ p) :: rest := by
  induction word with
  | nil => exact hs
  | cons c word ih =>
    obtain ⟨hc, hword⟩ := List.forall_mem_cons.mp hword
    rw [List.cons_append, pieces, hc, ih hword]
    rfl

theorem append_inj_of_stops {t x y : List Char} (hs : ∀ c ∈ s, IsPlain c)
    (ht : ∀ c ∈ t, IsPlain c) (hx : Stops (fun c => !c.isUpper) x) (hy : Stops (fun c => !c.isUpper) y)
    (h : s ++ x = t ++ y) : s = t ∧ x = y := by
  have hs : ∀ c ∈ s, (!c.isUpper) = true := fun c hc => by rw [(hs c hc).not_isUpper]; rfl
  have ht : ∀ c ∈ t, (!c.isUpper) = true := fun c hc => by rw [(ht c hc).not_isUpper]; rfl
  constructor
  · rw [← takeWhile_append_stops hs hx, h, takeWhile_append_stops ht hy]
  · rw [← dropWhile_append_stops hs hx, h, dropWhile_append_stops ht hy]

end Plain

namespace SnakeWord

variable {w : SnakeWord} {u v ws : List SnakeWord}

theorem alphanumeric (w : SnakeWord) : ∀ c ∈ w.letters, isAlphanumeric c = true :=
  fun c hc => isAlphanumeric_of_isAlphanum (w.plain c hc).isAlphanum

theorem pieces_snake (h : ws ≠ []) : pieces (['_'].intercalate (ws.map letters)) = ws.map letters := by
  have hseparator : isAlphanumeric '_' = false := by decide +kernel
  induction ws with
  | nil => exact absurd rfl h
  | cons w ws ih =>
    cases ws with
    | nil => simpa using pieces_append w.alphanumeric (show pieces [] = [[]] from rfl)
    | cons v ws =>
      have hrest : pieces ('_' :: ['_'].intercalate ((v :: ws).map letters)) =
          [] :: (v :: ws).map letters := by
        rw [pieces, hseparator, ih (List.cons_ne_nil v ws)]
      rw [List.map_cons, List.map_cons, List.intercalate_cons_cons, List.append_assoc]
      exact (pieces_append w.alphanumeric hrest).trans (by rw [List.append_nil, List.map_cons])

theorem words_snake (h : ws ≠ []) : words (snake ws).toList = ws.map letters := by
  have hcut : ∀ w : SnakeWord, cut .start [] w.letters = [w.letters] :=
    fun w => cut_plain w.plain (List.cons_ne_nil _ _) .start []
  rw [words, snake_toList, pieces_snake h, List.flatMap_map, List.flatMap_congr fun w _ => hcut w,
    ← List.map_eq_flatMap]

theorem capitalize_letters (w : SnakeWord) : capitalize w.letters = w.capitalized := by
  have hlt : ∀ c ∈ w.letters, c.toNat < 0x80 :=
    fun c hc => toNat_lt_of_isAlphanum (w.plain c hc).isAlphanum
  rw [capitalize_sevenBit hlt, letters, capital, capitalized,
    List.map_congr_left fun c hc => (w.rest_plain c hc).toLower_eq, List.map_id']

theorem pascalCase_snake (h : ws ≠ []) : pascalCase (snake ws).toList = (pascal ws).toList := by
  rw [pascalCase, words_snake h, List.flatMap_map, pascal_toList]
  exact List.flatMap_congr fun w _ => w.capitalize_letters

theorem isUpper_toUpper_first (w : SnakeWord) : w.first.toUpper.isUpper = true :=
  (IsPlain.isUpper_toUpper (.inl w.first_lower)).trans w.first_lower

theorem stops_capitalized (ws : List SnakeWord) :
    Stops (fun c => !c.isUpper) (ws.flatMap capitalized) := by
  cases ws with
  | nil => exact stops_nil _
  | cons w ws =>
    intro c hc
    obtain rfl : w.first.toUpper = c := Option.some.inj hc
    exact congrArg not w.isUpper_toUpper_first

theorem toUpper_first_inj {w v : SnakeWord} (h : w.first.toUpper = v.first.toUpper) :
    w.first = v.first := by
  rw [← IsPlain.toLower_toUpper (.inl w.first_lower), h,
    IsPlain.toLower_toUpper (.inl v.first_lower)]

theorem flatMap_capitalized_inj (h : u.flatMap capitalized = v.flatMap capitalized) : u = v := by
  induction u generalizing v with
  | nil =>
    cases v with
    | nil => rfl
    | cons w v => cases h
  | cons w u ih =>
    cases v with
    | nil => cases h
    | cons w' v =>
      obtain ⟨hfirst, hrest⟩ := List.cons.inj h
      obtain ⟨hletters, hwords⟩ := append_inj_of_stops w.rest_plain w'.rest_plain
        (stops_capitalized u) (stops_capitalized v) hrest
      rw [SnakeWord.ext (toUpper_first_inj hfirst) hletters, ih hwords]

theorem pascal_injective : Function.Injective pascal := by
  intro u v h
  apply flatMap_capitalized_inj
  rw [← pascal_toList, h, pascal_toList]

theorem snake_ne_empty (h : ws ≠ []) : snake ws ≠ "" := by
  obtain ⟨w, ws, rfl⟩ := List.exists_cons_of_ne_nil h
  intro hempty
  have htoList := congrArg String.toList hempty
  rw [snake_toList] at htoList
  cases ws <;> simp [letters] at htoList

end SnakeWord

open SnakeWord

section Names

variable {native other library : String} {receiver : Option String} {u v ws : List SnakeWord}

theorem leaves_receiver (h : ws ≠ []) (r : String) :
    Leaves (r ++ "_" ++ snake ws) (some r) (snake ws) :=
  ⟨snake_ne_empty h, .inl ⟨r, rfl, rfl⟩⟩

theorem leaves_library (h : ws ≠ []) (hlibrary : '_' ∉ library.toList) :
    Leaves (library ++ "_" ++ snake ws) none (snake ws) :=
  ⟨snake_ne_empty h, .inr ⟨nofun, library, hlibrary, rfl⟩⟩

theorem derive_of_leaves (hws : ws ≠ []) (h : Leaves native receiver (snake ws)) :
    derive native receiver = pascal ws := by
  rw [derive, stem_of_leaves h, pascalCase_snake hws, String.ofList_toList]

theorem derive_inj_of_leaves (hu : u ≠ []) (hv : v ≠ []) (hnative : Leaves native receiver (snake u))
    (hother : Leaves other receiver (snake v)) (h : derive native receiver = derive other receiver) :
    u = v := by
  rw [derive_of_leaves hu hnative, derive_of_leaves hv hother] at h
  exact pascal_injective h

end Names

/-- The name is the words with a capital each, so the words can be read off it: functions of one
receiver, or of one library where there is no receiver, have names of their own. -/
theorem derive_snake {u v : List SnakeWord} (hu : u ≠ []) (hv : v ≠ []) :
    (∀ r : String,
      derive (r ++ "_" ++ snake u) (some r) = pascal u ∧
        (derive (r ++ "_" ++ snake u) (some r) = derive (r ++ "_" ++ snake v) (some r) → u = v)) ∧
    ∀ library : String, '_' ∉ library.toList →
      derive (library ++ "_" ++ snake u) none = pascal u ∧
        (derive (library ++ "_" ++ snake u) none = derive (library ++ "_" ++ snake v) none →
          u = v) := by
  refine ⟨fun r => ⟨?_, ?_⟩, fun library hlibrary => ⟨?_, ?_⟩⟩
  · exact derive_of_leaves hu (leaves_receiver hu r)
  · exact derive_inj_of_leaves hu hv (leaves_receiver hu r) (leaves_receiver hv r)
  · exact derive_of_leaves hu (leaves_library hu hlibrary)
  · exact derive_inj_of_leaves hu hv (leaves_library hu hlibrary) (leaves_library hv hlibrary)

theorem derive_snake_loop2 :
    derive "sp_track_is_loop2x" (some "sp_track") = "IsLoop2x" ∧
      derive "sp_track_is_loop2x" (some "sp_track") ≠ derive "sp_track_isloop2x" (some "sp_track") ∧
      derive "sp_is_loop2x" none = "IsLoop2x" ∧
      derive "sp_is_loop2x" none ≠ derive "sp_isloop2x" none := by
  let two : List SnakeWord := [⟨'i', ['s'], by decide, by simp [IsPlain]⟩,
    ⟨'l', ['o', 'o', 'p', '2', 'x'], by decide, by simp [IsPlain]⟩]
  let one : List SnakeWord :=
    [⟨'i', ['s', 'l', 'o', 'o', 'p', '2', 'x'], by decide, by simp [IsPlain]⟩]
  have hne : two ≠ one := by simp [two, one]
  have htwo : snake two = "is_loop2x" := by decide
  have hone : snake one = "isloop2x" := by decide
  have hpascal : pascal two = "IsLoop2x" := by decide
  obtain ⟨hreceiver, hlibrary⟩ := derive_snake (u := two) (v := one) (by simp [two]) (by simp [one])
  rw [htwo, hone, hpascal] at hreceiver hlibrary
  obtain ⟨hname, hapart⟩ := hreceiver "sp_track"
  obtain ⟨hname', hapart'⟩ := hlibrary "sp" (by decide)
  exact ⟨hname, fun h => hne (hapart h), hname', fun h => hne (hapart' h)⟩

end MethodName

end NativeBindings
