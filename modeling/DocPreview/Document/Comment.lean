import DocPreview.Text.Basic

/-!
# Comments of HTML in markup

Markup with expressions has no HTML comments, so a comment is written as an expression that holds
a comment of the script language. A comment starts at `<!--` and ends at the first `-->` that
follows this opener.
-/

namespace DocPreview.Document

open Text

/-- The opener of a comment. -/
def commentOpener : Text := "<!--".toList

/-- The closer of a comment. -/
def commentCloser : Text := "-->".toList

/-- A text with a blank put into each `*/`, read from left to right. -/
def separateCloser : Text → Text
  | '*' :: '/' :: r => '*' :: ' ' :: '/' :: separateCloser r
  | c :: r => c :: separateCloser r
  | [] => []

/-- A comment wrapped as an expression. -/
def wrapComment (comment : Text) : Text :=
  "\x7b/* ".toList ++ separateCloser comment ++ " */\x7d".toList

/-- The comment that a text starts with, and what follows it. -/
def comment? (s : Text) : Option (Text × Text) := do
  let inner ← after? commentOpener s
  let (content, rest) ← findText commentCloser inner
  return (commentOpener ++ content ++ commentCloser, rest)

/-- A text with each comment written as an expression; `fuel` bounds the number of steps. -/
def escapeCommentsWithin : Nat → Text → Text
  | 0, s => s
  | _ + 1, [] => []
  | fuel + 1, c :: r =>
    match comment? (c :: r) with
    | some (comment, rest) => wrapComment comment ++ escapeCommentsWithin fuel rest
    | none => c :: escapeCommentsWithin fuel r

/-- A text with each comment written as an expression. -/
def escapeComments (s : Text) : Text := escapeCommentsWithin s.length s

end DocPreview.Document
