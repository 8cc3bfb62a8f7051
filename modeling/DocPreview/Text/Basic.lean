/-!
# Text as a list of characters

The document side of the library reads and writes text as a list of characters: every cut is a
statement `s = a ++ b`, and sizes in bytes of UTF-8 are sums over the list.

## Main definitions

* `Text.byteSize`: the number of bytes that UTF-8 needs for a text.
* `Text.isBlank`: the characters with the property White_Space.
* `Text.trimStart`, `Text.trimEnd`, `Text.trim`, `Text.dropEndWhile`: cutting at the ends.
* `Text.lines`: the lines of a text, each with its line break.
* `Text.splitOn`: the parts of a text between occurrences of a character.
* `Text.after?`, `Text.findText`: what follows a given text at the start, or at the first place
  where it occurs.
* `Text.dropBytes`, `Text.takeBytes`, `Text.slice`: cutting a text at a number of bytes.
* `Text.Replacement`, `Text.splice`: a text with some of its spans, counted in bytes, replaced.
-/

namespace DocPreview

/-- A text of the document side of the library. -/
abbrev Text := List Char

namespace Text

/-- The number of bytes of UTF-8 that a text takes. -/
def byteSize : Text → Nat
  | [] => 0
  | c :: r => c.utf8Size + byteSize r

@[simp] theorem byteSize_append (a b : Text) : byteSize (a ++ b) = byteSize a + byteSize b := by
  induction a with
  | nil => simp [byteSize]
  | cons c r ih => simp [byteSize, ih, Nat.add_assoc]

/-- The characters with the Unicode property White_Space. -/
def isBlank (c : Char) : Bool :=
  let n := c.toNat
  (9 ≤ n && n ≤ 13) || n = 0x20 || n = 0x85 || n = 0xA0 || n = 0x1680 ||
    (0x2000 ≤ n && n ≤ 0x200A) || n = 0x2028 || n = 0x2029 || n = 0x202F || n = 0x205F ||
    n = 0x3000

/-- The characters that end a line. -/
def isLineEnd (c : Char) : Bool := c = '\n' || c = '\r'

/-- A text without the longest run of characters satisfying `p` at its end. -/
def dropEndWhile (p : Char → Bool) : Text → Text
  | [] => []
  | c :: r =>
    match dropEndWhile p r with
    | [] => if p c then [] else [c]
    | kept => c :: kept

/-- A text without the white space at its start. -/
def trimStart (s : Text) : Text := s.dropWhile isBlank

/-- A text without the white space at its end. -/
def trimEnd (s : Text) : Text := dropEndWhile isBlank s

/-- A text without the white space at both ends. -/
def trim (s : Text) : Text := trimEnd (trimStart s)

/-- The lines of a text, each with its line break; only the last one can lack it, and no line
is empty. -/
def lines : Text → List Text
  | [] => []
  | c :: r =>
    if c = '\n' then [c] :: lines r
    else
      match lines r with
      | [] => [[c]]
      | l :: ls => (c :: l) :: ls

theorem flatten_lines (s : Text) : (lines s).flatten = s := by
  induction s with
  | nil => rfl
  | cons c r ih =>
    by_cases h : c = '\n'
    · simp [lines, h, ih]
    · rw [lines, if_neg h]
      split <;> simp_all

/-- The parts of a text between the occurrences of the character `c`. -/
def splitOn (c : Char) : Text → List Text
  | [] => [[]]
  | d :: r =>
    if d = c then [] :: splitOn c r
    else
      match splitOn c r with
      | [] => [[d]]
      | p :: ps => (d :: p) :: ps

/-- The parts of a string between the occurrences of the character `c`. -/
def splitString (c : Char) (s : String) : List String := (splitOn c s.toList).map String.ofList

/-- What follows `pat` in a text that starts with `pat`. -/
def after? : Text → Text → Option Text
  | [], s => some s
  | _ :: _, [] => none
  | p :: pat, c :: s => if p = c then after? pat s else none

theorem after?_append (pat rest : Text) : after? pat (pat ++ rest) = some rest := by
  induction pat with
  | nil => rfl
  | cons p pat ih => simp [after?, ih]

theorem eq_append_of_after? {pat s rest : Text} (h : after? pat s = some rest) :
    s = pat ++ rest := by
  induction pat generalizing s with
  | nil => simpa [after?] using h
  | cons p pat ih =>
    cases s with
    | nil => simp [after?] at h
    | cons c s =>
      by_cases hp : p = c
      · subst hp
        rw [after?, if_pos rfl] at h
        simp [ih h]
      · simp [after?, hp] at h

/-- A text cut at the first place where `pat` occurs: what stands before it and what follows it. -/
def findText (pat : Text) : Text → Option (Text × Text)
  | [] => if pat.isEmpty then some ([], []) else none
  | c :: r =>
    match after? pat (c :: r) with
    | some rest => some ([], rest)
    | none => (findText pat r).map fun (a, b) => (c :: a, b)

/-- A text with every occurrence of the character `c` replaced by `by`. -/
def replaceChar (c : Char) (by' : Text) (s : Text) : Text :=
  s.flatMap fun d => if d = c then by' else [d]

/-- The first word of a text, words being separated by white space. -/
def firstWord? (s : Text) : Option Text :=
  match s.dropWhile isBlank with
  | [] => none
  | r => some (r.takeWhile fun c => !isBlank c)

end Text

end DocPreview

namespace DocPreview.Text

/-- A text without its first `n` bytes. -/
def dropBytes : Nat → Text → Text
  | 0, s => s
  | _ + 1, [] => []
  | n + 1, c :: r => dropBytes (n + 1 - c.utf8Size) r

/-- The first `n` bytes of a text. -/
def takeBytes : Nat → Text → Text
  | 0, _ => []
  | _ + 1, [] => []
  | n + 1, c :: r => c :: takeBytes (n + 1 - c.utf8Size) r

/-- The bytes of a text from `start` up to `stop`. -/
def slice (s : Text) (start stop : Nat) : Text := takeBytes (stop - start) (dropBytes start s)

/-- A span of a text, and what is to stand there. -/
structure Replacement where
  start : Nat
  stop : Nat
  content : Text
  deriving Repr, DecidableEq

/-- What the bytes of a text from `cursor` on become when spans behind it are replaced, the spans
being given in ascending order. -/
def spliceFrom (s : Text) : Nat → List Replacement → Text
  | cursor, [] => dropBytes cursor s
  | cursor, r :: rs => slice s cursor r.start ++ r.content ++ spliceFrom s r.stop rs

/-- A text with spans replaced, which are given in ascending order. -/
def splice (s : Text) (rs : List Replacement) : Text := spliceFrom s 0 rs

end DocPreview.Text
