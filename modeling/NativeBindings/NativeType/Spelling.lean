import NativeBindings.NativeType
import NativeBindings.Text.Width

/-!
Spellings of native types. A spelling is a run of words, `const` among them, followed by stars that
may each carry `const` words, with blanks after every token. Only the stars and the words other than
`const` reach the type. A bad spelling is reported with the offset, in bytes, of the first character
that cannot continue it.
-/

namespace NativeBindings

structure SpellingError where
  text : String
  offset : Nat
  deriving DecidableEq, Repr

def SpellingError.message (e : SpellingError) : String :=
  "invalid type `" ++ e.text ++ "` at offset " ++ toString e.offset

namespace NativeType.Spelling

def isBlank (c : Char) : Bool :=
  c == ' ' || c == '\t' || c == '\n' || c == '\r' || c == '\x0c'

def isWordStart (c : Char) : Bool :=
  c.isAlpha || c == '_'

def isWordPart (c : Char) : Bool :=
  c.isAlphanum || c == '_'

def qualifier : List Char := ['c', 'o', 'n', 's', 't']

def skipBlanks (s : List Char) : List Char :=
  s.dropWhile isBlank

theorem length_skipBlanks_le (s : List Char) : (skipBlanks s).length ≤ s.length :=
  (List.dropWhile_suffix _).length_le

def word? : List Char → Option (List Char × List Char)
  | [] => none
  | c :: s => if isWordStart c then some (c :: s.takeWhile isWordPart, s.dropWhile isWordPart) else none

theorem length_lt_of_word? {s w rest : List Char} (h : word? s = some (w, rest)) :
    rest.length < s.length := by
  cases s with
  | nil => simp [word?] at h
  | cons c s =>
    have hle := (List.dropWhile_suffix isWordPart (l := s)).length_le
    simp only [word?] at h
    split at h
    · simp only [Option.some.injEq, Prod.mk.injEq] at h
      rw [← h.2, List.length_cons]
      omega
    · cases h

def words (s : List Char) : List (List Char) × List Char :=
  match _h : word? s with
  | none => ([], s)
  | some (w, rest) =>
    let tail := words (skipBlanks rest)
    (w :: tail.1, tail.2)
termination_by s.length
decreasing_by
  have := length_lt_of_word? ‹_›
  have := length_skipBlanks_le rest
  omega

def skipQualifiers (s : List Char) : List Char :=
  match _h : word? s with
  | none => s
  | some (w, rest) => if w = qualifier then skipQualifiers (skipBlanks rest) else s
termination_by s.length
decreasing_by
  have := length_lt_of_word? ‹_›
  have := length_skipBlanks_le rest
  omega

theorem length_skipQualifiers_le (s : List Char) : (skipQualifiers s).length ≤ s.length := by
  fun_induction skipQualifiers s with
  | case1 s h => omega
  | case2 s rest h ih =>
    have := length_lt_of_word? h
    have := length_skipBlanks_le rest
    omega
  | case3 s w rest h hw => omega

/-- Counts the stars at the start of a text, each with the qualifiers after it, and gives the text
from there on. -/
def stars : List Char → Nat × List Char
  | '*' :: s =>
    let tail := stars (skipQualifiers (skipBlanks s))
    (tail.1 + 1, tail.2)
  | s => (0, s)
termination_by s => s.length
decreasing_by
  have := length_skipBlanks_le s
  have := length_skipQualifiers_le (skipBlanks s)
  simp only [List.length_cons]
  omega

def read (source : List Char) : Except (List Char) NativeType :=
  let run := words (skipBlanks source)
  match run.1.filter (· ≠ qualifier) with
  | [] => .error run.2
  | base =>
    let tail := stars run.2
    if tail.2 = [] then .ok (pointers tail.1 (named (String.ofList ([' '].intercalate base))))
    else .error tail.2

end Spelling

def ofSpelling (text : String) : Except SpellingError NativeType :=
  match Spelling.read text.toList with
  | .ok t => .ok t
  | .error rest => .error ⟨text, Text.width text.toList - Text.width rest⟩

end NativeType

end NativeBindings
