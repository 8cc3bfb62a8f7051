import DocPreview.Text.Basic

/-!
# Front matter

A document may start with front matter: a line `---`, a text in YAML, and a line `---`, where
white space may follow the dashes.
-/

namespace DocPreview.Document

open Text

/-- The front matter of a document, and the rest of the document. -/
structure FrontMatter where
  /-- The opening delimiter line. -/
  opened : Text
  /-- The text between the delimiter lines. -/
  yaml : Text
  /-- The closing delimiter line. -/
  closed : Text
  /-- What follows the closing delimiter line. -/
  body : Text
  deriving Repr, DecidableEq

/-- A line that delimits front matter. -/
def isDelimiter (line : Text) : Bool := trimEnd line = ['-', '-', '-']

/-- Lines cut at the first delimiter line. -/
def splitAtDelimiter : List Text → Option (List Text × Text × List Text)
  | [] => none
  | l :: ls =>
    if isDelimiter l then some ([], l, ls)
    else (splitAtDelimiter ls).map fun (before, d, after) => (l :: before, d, after)

/-- Finds the front matter of a document. -/
def frontMatter? (text : Text) : Option FrontMatter :=
  match lines text with
  | [] => none
  | first :: rest =>
    if isDelimiter first then
      (splitAtDelimiter rest).map fun (yaml, closed, body) =>
        ⟨first, yaml.flatten, closed, body.flatten⟩
    else
      none

/-- The front matter block as written. -/
def FrontMatter.block (f : FrontMatter) : Text := f.opened ++ f.yaml ++ f.closed

end DocPreview.Document
