import DocPreview.Text.Alphanumeric
import DocPreview.Text.Basic

/-!
# Patterns

A pattern describes stretches of a line. Of the ways to match at a place, the first one counts, in
the order in which alternatives are written; a repetition takes as much as it can, or as little if
it is lazy. A pattern can look at what stands before and after its place.

## Main definitions

* `CharSet`, `CharSet.holds`: sets of characters.
* `Pattern`: patterns.
* `Cursor`: a place in a line with the groups that were matched.
* `Pattern.run`, `Pattern.matchAt`: the first match at a place.
-/

namespace DocPreview.Highlight

open Text

/-! ### Sets of characters -/

/-- A set of characters. -/
inductive CharSet where
  | empty
  | range (least most : Char)
  | word
  | digit
  | blank
  | letter
  | lower
  | upper
  | punctuation
  | other (s : CharSet)
  | either (s t : CharSet)
  | both (s t : CharSet)
  /-- A set in which a letter stands for its other case as well. -/
  | anyCase (s : CharSet)
  deriving Repr, DecidableEq

/-- Whether a character is in a set. -/
def CharSet.holds : CharSet → Char → Bool
  | empty, _ => false
  | range least most, c => least ≤ c && c ≤ most
  | word, c => if c.toNat < 0x80 then c.isAlphanum || c = '_' else Unicode.isWord c
  | digit, c => c.isDigit
  | blank, c => isBlank c
  | letter, c => if c.toNat < 0x80 then c.isAlpha else Unicode.isAlphanumeric c
  | lower, c => 'a' ≤ c && c ≤ 'z'
  | upper, c => 'A' ≤ c && c ≤ 'Z'
  | punctuation, c => Unicode.isPunctuation c
  | other s, c => !s.holds c
  | either s t, c => s.holds c || t.holds c
  | both s t, c => s.holds c && t.holds c
  | anyCase s, c => s.holds c || s.holds c.toLower || s.holds c.toUpper

/-! ### Patterns -/

/-- A pattern. -/
inductive Pattern where
  | nothing
  | never
  | one (s : CharSet)
  | seq (p q : Pattern)
  | either (p q : Pattern)
  /-- A repetition with its least and its largest number. -/
  | times (p : Pattern) (least : Nat) (most : Option Nat) (isLazy : Bool)
  /-- A pattern of which only the first match counts. -/
  | first (p : Pattern)
  | group (index : Nat) (p : Pattern)
  /-- The text of a group. -/
  | again (index : Nat)
  /-- The text of a group of an earlier match. -/
  | earlier (index : Nat)
  | lineStart
  | lineEnd
  | textEnd
  | wordEdge
  /-- What follows, or does not follow. -/
  | ahead (isWanted : Bool) (p : Pattern)
  /-- What stands before, or does not stand before. -/
  | behind (isWanted : Bool) (p : Pattern)
  | noEdge
  deriving Repr, DecidableEq

/-- A group that was matched. -/
structure Group where
  index : Nat
  start : Nat
  stop : Nat
  deriving Repr, DecidableEq

/-- A place in a line: the characters before it, the nearest first, those after it, and the groups
that were matched on the way, the latest first. -/
structure Cursor where
  before : Text
  rest : Text
  position : Nat
  groups : List Group
  deriving Repr, DecidableEq

namespace Cursor

/-- The start of a line. -/
def ofLine (line : Text) : Cursor := ⟨[], line, 0, []⟩

/-- The place behind the next character. -/
def advance (c : Cursor) : Cursor :=
  match c.rest with
  | [] => c
  | d :: r => { c with before := d :: c.before, rest := r, position := c.position + 1 }

/-- The place before the last character. -/
def retreat? (c : Cursor) : Option Cursor :=
  match c.before with
  | [] => none
  | d :: b => some { c with before := b, rest := d :: c.rest, position := c.position - 1 }

/-- The text between two places before the cursor. -/
def between (c : Cursor) (start stop : Nat) : Text :=
  ((c.before.drop (c.position - stop)).take (stop - start)).reverse

/-- The text of a group. -/
def groupText (c : Cursor) (index : Nat) : Text :=
  match c.groups.find? fun g => g.index = index with
  | some g => c.between g.start g.stop
  | none => []

/-- The place behind a text that stands next. -/
def skip? (c : Cursor) : Text → Option Cursor
  | [] => some c
  | d :: r =>
    match c.rest with
    | e :: _ => if d = e then c.advance.skip? r else none
    | [] => none

/-- Whether a character of a word stands before the place but not after it, or the other way. -/
def isWordEdge (c : Cursor) : Bool :=
  let isWord (d : Option Char) : Bool := d.any CharSet.word.holds
  isWord c.before.head? != isWord c.rest.head?

end Cursor

/-- What is left to match, which gives the place where the match ends. -/
abbrev Continuation := Cursor → Option Cursor

/-- Repeats a step between `least` and `most` times; `fuel` bounds how often. A step that goes
nowhere is not repeated. -/
def repeatStep (step : Cursor → Continuation → Option Cursor) (isLazy : Bool) :
    Nat → Nat → Option Nat → Cursor → Continuation → Option Cursor
  | 0, least, _, c, k => if least = 0 then k c else none
  | fuel + 1, least, most, c, k =>
    let more (_ : Unit) : Option Cursor :=
      if most = some 0 then none
      else
        step c fun d =>
          if d.position = c.position && least = 0 then none
          else repeatStep step isLazy fuel (least - 1) (most.map (· - 1)) d k
    if least ≠ 0 then more ()
    else if isLazy then (k c).orElse more
    else (more ()).orElse fun _ => k c

/-- Whether a match that ends at a place starts so many characters before it or fewer. -/
def endsHere (step : Cursor → Continuation → Option Cursor) (stop : Nat) : Nat → Cursor → Bool
  | fuel, c =>
    (step c fun d => if d.position = stop then some d else none).isSome ||
      match fuel, c.retreat? with
      | fuel + 1, some d => endsHere step stop fuel d
      | _, _ => false

namespace Pattern

/-- The largest number of characters that a pattern matches, if there is one. -/
def width? : Pattern → Option Nat
  | nothing | never | lineStart | lineEnd | textEnd | wordEdge | noEdge => some 0
  | ahead _ _ | behind _ _ => some 0
  | one _ => some 1
  | seq p q => do return (← p.width?) + (← q.width?)
  | either p q => do return max (← p.width?) (← q.width?)
  | times p _ most _ => do return (← p.width?) * (← most)
  | first p | group _ p => p.width?
  | again _ | earlier _ => none

/-- The first match of a pattern that can be continued. `old` gives the groups of an earlier
match. -/
def run (old : Nat → Text) : Pattern → Cursor → Continuation → Option Cursor
  | nothing, c, k => k c
  | never, _, _ => none
  | one s, c, k =>
    match c.rest with
    | [] => none
    | d :: _ => if s.holds d then k c.advance else none
  | seq p q, c, k => p.run old c fun d => q.run old d k
  | either p q, c, k => (p.run old c k).orElse fun _ => q.run old c k
  | times p least most isLazy, c, k =>
    repeatStep (p.run old) isLazy (c.rest.length + least + 1) least most c k
  | first p, c, k => (p.run old c some).bind k
  | group index p, c, k =>
    p.run old c fun d => k { d with groups := ⟨index, c.position, d.position⟩ :: d.groups }
  | again index, c, k => (c.skip? (c.groupText index)).bind k
  | earlier index, c, k => (c.skip? (old index)).bind k
  | lineStart, c, k => if c.before.isEmpty then k c else none
  | lineEnd, c, k => if c.rest.isEmpty || c.rest.head? = some '\n' then k c else none
  | textEnd, c, k => if c.rest.isEmpty then k c else none
  | wordEdge, c, k => if c.isWordEdge then k c else none
  | noEdge, c, k => if c.isWordEdge then none else k c
  | ahead true p, c, k =>
    (p.run old c some).bind fun d => k { c with groups := d.groups }
  | ahead false p, c, k => if (p.run old c some).isSome then none else k c
  | behind isWanted p, c, k =>
    let found := endsHere (p.run old) c.position (p.width?.getD c.before.length) c
    if found = isWanted then k c else none

/-- The place behind the first match of a pattern at a place. -/
def matchAt (old : Nat → Text) (p : Pattern) (c : Cursor) : Option Cursor :=
  p.run old { c with groups := [] } some

end Pattern

end DocPreview.Highlight
