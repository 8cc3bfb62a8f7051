import DocPreview.Document.Fence
import DocPreview.Highlight.Language
import DocPreview.Text.Json

/-!
# Highlighted elements

Fenced code becomes an element of markup on a line of its own. The element holds the highlighted
HTML as one string, in which braces are escaped, so that markup sees neither the code nor a brace
that it would have to match.
-/

namespace DocPreview.Highlight

open Text Document

/-- The characters that can stand in the name of a class. -/
def isClassChar (c : Char) : Bool :=
  c.isAlphanum || c = '-' || c = '_' || c = '+' || c = '#' || c = '.'

/-- The language of a fence, if it can stand in the name of a class. -/
def classLanguage? (language : Text) : Option Text :=
  if !language.isEmpty && language.all isClassChar then some language else none

/-- One character of a string with its braces escaped. -/
def escapeBrace : Char → Text
  | '\x7b' => "\\u007b".toList
  | '\x7d' => "\\u007d".toList
  | c => [c]

/-- A text as a string without braces. -/
def bracelessString (s : Text) : Text := (Json.quote s).flatMap escapeBrace

/-- The value of the class attribute for a language. -/
def className : Option Text → Text
  | none => "hljs".toList
  | some language => "hljs language-".toList ++ language

/-- The element for a fence, with a tokenizer for each language. -/
def elementWith (tokenizer : Option Text → Tokenizer) (f : Fence) : Text :=
  let language := classLanguage? f.language
  "<pre><code className=\"".toList ++ className language ++
    "\" dangerouslySetInnerHTML=\x7b\x7b__html: ".toList ++
    bracelessString (highlightWith (tokenizer language) f.code) ++ "\x7d\x7d /></pre>".toList

/-- The tokenizer for a language; code without a known language has no scopes. -/
def tokenizerFor (language : Option Text) : Tokenizer :=
  (language.bind Language.tokenizer?).getD .plain

/-- The element for a fence. -/
def element (f : Fence) : Text := elementWith tokenizerFor f

end DocPreview.Highlight
