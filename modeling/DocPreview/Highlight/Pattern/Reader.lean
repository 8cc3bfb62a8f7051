import DocPreview.Highlight.Pattern

/-!
# The text of patterns

A pattern is written as a regular expression: groups between parentheses, sets of characters between
brackets, alternatives with bars between them, and repetitions by `*`, `+`, `?` and numbers between
braces, lazy with a `?` behind them and final with a `+`. After `(?i)`, case does not count.

## Main definitions

* `CharSet.ofName?`: the sets with a name.
* `Pattern.ofText?`: the pattern of a text.
-/

namespace DocPreview.Highlight

open Text

/-- The letters that stand for a set of characters after a backslash. -/
def CharSet.ofLetter? : Char → Option CharSet
  | 'w' => some .word
  | 'W' => some (.other .word)
  | 'd' => some .digit
  | 'D' => some (.other .digit)
  | 's' => some .blank
  | 'S' => some (.other .blank)
  | 'h' => some (.either .digit (.either (.range 'a' 'f') (.range 'A' 'F')))
  | _ => none

/-- The sets that a name between colons stands for. -/
def CharSet.ofName? (name : Text) : Option CharSet :=
  match String.ofList name with
  | "alpha" => some .letter
  | "digit" => some .digit
  | "alnum" => some (.either .letter .digit)
  | "space" => some .blank
  | "lower" => some .lower
  | "upper" => some .upper
  | "word" => some .word
  | "punct" => some .punctuation
  | "xdigit" => CharSet.ofLetter? 'h'
  | "blank" => some (.either (.range ' ' ' ') (.range '\t' '\t'))
  | _ => none

/-- A set with one character. -/
def CharSet.single (c : Char) : CharSet := .range c c

namespace Pattern

/-- What is left of the text of a pattern, how many groups it has so far, and whether case does not
count. -/
structure Draft where
  rest : Text
  groups : Nat
  ignoresCase : Bool

/-- Reads a part of the text of a pattern. -/
abbrev Reading := StateT Draft Option

namespace Reading

/-- What is left of the text. -/
def rest : Reading Text := do return (← get).rest

/-- Goes on with other text. -/
def continueWith (r : Text) : Reading Unit := modify fun d => { d with rest := r }

/-- The next character. -/
def next : Reading Char := do
  match ← rest with
  | [] => failure
  | c :: r => do
    continueWith r
    return c

/-- Whether a text comes next, which is then passed over. -/
def sees (t : String) : Reading Bool := do
  match after? t.toList (← rest) with
  | some r => do
    continueWith r
    return true
  | none => return false

/-- A text that must come next. -/
def expect (t : String) : Reading Unit := do
  if !(← sees t) then failure

/-- A number in digits. -/
def number? : Reading (Option Nat) := do
  let digits := (← rest).takeWhile Char.isDigit
  continueWith ((← rest).drop digits.length)
  if digits.isEmpty then return none
  else return some (digits.foldl (fun n c => 10 * n + (c.toNat - '0'.toNat)) 0)

/-- The value of a digit of base sixteen. -/
def hexValue (c : Char) : Nat :=
  if c.isDigit then c.toNat - '0'.toNat else c.toLower.toNat - 'a'.toNat + 10

/-- The character that a backslash and a letter stand for, the letter being read. -/
def escaped (c : Char) : Reading Char := do
  match c with
  | 'n' => return '\n'
  | 't' => return '\t'
  | 'r' => return '\r'
  | 'f' => return Char.ofNat 12
  | 'v' => return Char.ofNat 11
  | 'e' => return Char.ofNat 27
  | 'x' => do
    let a ← next
    let b ← next
    return Char.ofNat (16 * hexValue a + hexValue b)
  | c => return c

/-- A set in which case counts or not. -/
def cased (s : CharSet) : Reading CharSet := do
  return if (← get).ignoresCase then .anyCase s else s

/-- An item of a set between brackets: a set, or a character that can start a range. -/
def setItem : Reading (CharSet ⊕ Char) := do
  match ← next with
  | '\\' => do
    let c ← next
    match CharSet.ofLetter? c with
    | some s => return .inl s
    | none => do
      if c = 'b' then return .inr (Char.ofNat 8)
      else return .inr (← escaped c)
  | c => return .inr c

/-- The items of a set between brackets up to its end; `fuel` bounds their number. -/
def setItems : Nat → CharSet → Reading CharSet
  | 0, _ => failure
  | fuel + 1, s => do
    if ← sees "]" then return s
    else if ← sees "[:" then do
      let isOther ← sees "^"
      let name := (← rest).takeWhile (· ≠ ':')
      continueWith ((← rest).drop name.length)
      expect ":]"
      match CharSet.ofName? name with
      | some t => setItems fuel (.either s (if isOther then .other t else t))
      | none => failure
    else if ← sees "&&[^" then do
      let t ← setItems fuel .empty
      expect "]"
      return .both s (.other t)
    else do
      match ← setItem with
      | .inl t => setItems fuel (.either s t)
      | .inr c => do
        match ← rest with
        | '-' :: d :: _ =>
          if d = ']' then setItems fuel (.either s (.single c))
          else do
            let _ ← next
            match ← setItem with
            | .inr d => setItems fuel (.either s (.range c d))
            | .inl t => setItems fuel (.either (.either s (.single c)) (.either (.single '-') t))
        | _ => setItems fuel (.either s (.single c))

/-- A set between brackets, of which the first one is read. -/
def bracketed : Reading Pattern := do
  let isOther ← sees "^"
  let start ← do
    if ← sees "]" then pure (CharSet.single ']') else pure CharSet.empty
  let s ← cased (← setItems ((← rest).length + 1) start)
  return .one (if isOther then .other s else s)

/-- The pattern that a backslash and a letter stand for. References to groups are to those of an
earlier match if `isEarlier` holds. -/
def escape (isEarlier : Bool) : Reading Pattern := do
  let c ← next
  match CharSet.ofLetter? c with
  | some s => return .one s
  | none =>
    match c with
    | 'b' => return .wordEdge
    | 'B' => return .noEdge
    | 'A' => return .lineStart
    | 'z' => return .textEnd
    | 'Z' => return .lineEnd
    | c =>
      if c.isDigit && c ≠ '0' then
        let n := c.toNat - '0'.toNat
        return if isEarlier then .earlier n else .again n
      else return .one (← cased (.single (← escaped c)))

/-- A pattern with the repetitions that are written behind it; `fuel` bounds their number. -/
def repeated : Nat → Pattern → Reading Pattern
  | 0, p => return p
  | fuel + 1, p => do
    let bounds ← do
      if ← sees "*" then pure (some (0, none))
      else if ← sees "+" then pure (some (1, none))
      else if ← sees "?" then pure (some (0, some 1))
      else if ← sees "\x7b" then do
        let least ← number?
        let most ← do
          if ← sees "," then number? else pure least
        expect "\x7d"
        pure (some (least.getD 0, most))
      else pure none
    match bounds with
    | none => return p
    | some (least, most) =>
      if ← sees "?" then repeated fuel (.times p least most true)
      else if ← sees "+" then repeated fuel (.first (.times p least most false))
      else repeated fuel (.times p least most false)

/-- A part between parentheses, given what reads alternatives. The first parenthesis is read. -/
def grouped (alternatives : Reading Pattern) : Reading Pattern := do
  let inner : Reading Pattern := do
    let before := (← get).ignoresCase
    let p ← alternatives
    expect ")"
    modify fun d => { d with ignoresCase := before }
    return p
  if ← sees "?:" then inner
  else if ← sees "?=" then return .ahead true (← inner)
  else if ← sees "?!" then return .ahead false (← inner)
  else if ← sees "?<=" then return .behind true (← inner)
  else if ← sees "?<!" then return .behind false (← inner)
  else if ← sees "?>" then return .first (← inner)
  else if ← sees "?i)" then do
    modify fun d => { d with ignoresCase := true }
    return .nothing
  else if ← sees "?i:" then do
    let before := (← get).ignoresCase
    modify fun d => { d with ignoresCase := true }
    let p ← inner
    modify fun d => { d with ignoresCase := before }
    return p
  else do
    modify fun d => { d with groups := d.groups + 1 }
    let index := (← get).groups
    return .group index (← inner)

/-- A part without repetition, given what reads alternatives. -/
def atom (isEarlier : Bool) (alternatives : Reading Pattern) : Reading Pattern := do
  match ← next with
  | '(' => grouped alternatives
  | '[' => bracketed
  | '\\' => escape isEarlier
  | '.' => return .one (.other (.single '\n'))
  | '^' => return .lineStart
  | '$' => return .lineEnd
  | c => return .one (← cased (.single c))

/-- Parts one after the other, given what reads alternatives; `fuel` bounds their number. -/
def sequence (isEarlier : Bool) (alternatives : Reading Pattern) : Nat → Reading Pattern
  | 0 => failure
  | fuel + 1 => do
    match ← rest with
    | [] | '|' :: _ | ')' :: _ => return .nothing
    | _ => do
      let p ← repeated 3 (← atom isEarlier alternatives)
      let q ← sequence isEarlier alternatives fuel
      return if q = .nothing then p else .seq p q

/-- Alternatives with bars between them; the number bounds how deep groups are nested, and how many
bars there are. -/
def alternatives (isEarlier : Bool) : Nat → Reading Pattern
  | 0 => failure
  | depth + 1 => do
    let p ← sequence isEarlier (alternatives isEarlier depth) ((← rest).length + 1)
    if ← sees "|" then return .either p (← alternatives isEarlier depth)
    else return p

end Reading

/-- The pattern of a text. References to groups are to those of an earlier match if `isEarlier`
holds. -/
def ofText? (isEarlier : Bool) (text : Text) : Option Pattern :=
  match (Reading.alternatives isEarlier (text.length + 1)).run ⟨text, 0, false⟩ with
  | some (p, d) => if d.rest.isEmpty then some p else none
  | none => none

end Pattern

end DocPreview.Highlight
