import DocPreview.Text.Basic
import DocPreview.Text.Unicode

/-!
# Sanitizing an artifact

A compiled document is the body of a function. Before its elements are written as calls, the
comments that would change how elements are written go, and so do the first strict-mode marker
and the return of the module's exports at the end; a body without any `return` gets one.

Each rule describes a text by what can follow: a function from a text to the rest behind a match
at its start. `removeFirst` and `removeAll` cut such matches out.
-/

namespace DocPreview.Artifact

open Text

/-- What is left of a text behind a match at its start, if there is one. -/
abbrev Matcher := Text → Option Text

/-- A text without the first match in it. -/
def removeFirst (m : Matcher) : Text → Text
  | [] => (m []).getD []
  | c :: r =>
    match m (c :: r) with
    | some rest => rest
    | none => c :: removeFirst m r

/-- A text without the matches in it, found from left to right; `fuel` bounds the number of
steps. -/
def removeAllWithin (m : Matcher) : Nat → Text → Text
  | 0, s => s
  | _ + 1, [] => []
  | fuel + 1, c :: r =>
    match m (c :: r) with
    | some rest => removeAllWithin m fuel rest
    | none => c :: removeAllWithin m fuel r

/-- A text without the matches in it, found from left to right. -/
def removeAll (m : Matcher) (s : Text) : Text := removeAllWithin m s.length s

/-- A text without blanks and tabs at its start, and without a line feed after them. -/
def dropLineRest (s : Text) : Text :=
  match s.dropWhile fun c => c = ' ' || c = '\t' with
  | '\n' :: r => r
  | r => r

/-- A text without the given character at its start. -/
def dropOptional (c : Char) : Text → Text
  | [] => []
  | d :: r => if d = c then r else d :: r

/-- Whether a text goes on with a character of a word. -/
def startsWithWord (s : Text) : Bool := s.head?.any Unicode.isWord

/-- A comment with a setting of elements: `/*` or `/**`, white space, a word that starts with
`@jsx`, any text without an asterisk, and `*/` with the rest of its line if that is blank. -/
def pragma : Matcher := fun s => do
  let inner ← after? "/*".toList s
  let setting ← after? "@jsx".toList ((dropOptional '*' inner).dropWhile isBlank)
  let rest := setting.dropWhile Char.isAlpha
  guard !(startsWithWord rest)
  let closer ← after? "*/".toList (rest.dropWhile (· ≠ '*'))
  return dropLineRest closer

/-- The strict-mode marker between any quotes, with the rest of its line if that is blank. -/
def strictMarker : Matcher := fun s =>
  match s with
  | '"' :: r | '\'' :: r => do
    match ← after? "use strict".toList r with
    | '"' :: rest | '\'' :: rest => return dropLineRest (dropOptional ';' rest)
    | _ => none
  | _ => none

/-- A text without white space at its start. -/
def skipBlank (s : Text) : Text := s.dropWhile isBlank

/-- The member `frontmatter` with its comma, which may be missing. -/
def skipFrontMatterMember (s : Text) : Text :=
  match after? "frontmatter".toList s with
  | none => s
  | some r =>
    match skipBlank r with
    | ',' :: rest => skipBlank rest
    | _ => s

/-- The return of the exports of a module at the end of a text. -/
def exportReturn : Matcher := fun s => do
  let s ← after? "return".toList s
  let s ← after? ['\x7b'] (skipBlank s)
  let s ← after? "default".toList (skipFrontMatterMember (skipBlank s))
  let s ← after? [':'] (skipBlank s)
  let s ← after? "MDXContent".toList (skipBlank s)
  let s ← after? ['\x7d'] (skipBlank (dropOptional ',' (skipBlank s)))
  guard (skipBlank (dropOptional ';' (skipBlank s))).isEmpty
  return []

/-- Whether a word occurs in a text between characters of no word; `afterWord` tells whether the
text comes after a character of a word. -/
def mentionsFrom (word : Text) : Bool → Text → Bool
  | _, [] => false
  | afterWord, c :: r =>
    let here :=
      !afterWord &&
        match after? word (c :: r) with
        | some rest => !startsWithWord rest
        | none => false
    here || mentionsFrom word (Unicode.isWord c) r

/-- Whether a word occurs in a text between characters of no word. -/
def mentions (word : Text) (s : Text) : Bool := mentionsFrom word false s

/-- The return of a body that has none. -/
def fallbackReturn : Text := "return <></>;".toList

/-- A body with a return. -/
def withReturn (body : Text) : Text :=
  if mentions "return".toList body then body
  else if body.isEmpty then fallbackReturn
  else body ++ '\n' :: fallbackReturn

/-- A compiled document without the settings of elements, the strict-mode marker and the return of
its exports. -/
def sanitize (raw : Text) : Text :=
  withReturn (trim (removeFirst exportReturn (removeFirst strictMarker (removeAll pragma raw))))

end DocPreview.Artifact
