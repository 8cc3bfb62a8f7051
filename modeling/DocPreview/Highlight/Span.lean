import DocPreview.Highlight.Scope

/-!
# Highlighted code as HTML

A page styles code by classes. The class of a token comes from the scopes in force there: the
innermost scope that starts with an entry of a table decides, and of the entries that it starts
with the first one in the table, which is the longest.

Code falls into stretches with a class or without one. Neighbouring stretches of equal class
become one, and a stretch with a class is put into a `span` element.

## Main definitions

* `Stretch`: a stretch of code with its class.
* `mergeStretches`: stretches without empty ones, no two neighbours having equal class.
* `Tokenizer`: what finds the scopes of the characters of a code.
* `highlightWith`: the HTML of a code.
-/

namespace DocPreview.Highlight

open Text

/-- A class that a page styles. -/
abbrev TokenClass := String

/-- The starts of scopes that have a class; an entry stands before those that it refines. -/
def classTable : List (String × TokenClass) :=
  [("comment", "hljs-comment"),
   ("string.regexp", "hljs-regexp"),
   ("string", "hljs-string"),
   ("constant.numeric", "hljs-number"),
   ("constant.character.escape", "hljs-char escape_"),
   ("constant.language", "hljs-literal"),
   ("constant", "hljs-symbol"),
   ("keyword.operator", "hljs-operator"),
   ("keyword", "hljs-keyword"),
   ("storage", "hljs-keyword"),
   ("entity.name.function", "hljs-title function_"),
   ("entity.name.tag", "hljs-name"),
   ("entity.name.section", "hljs-section"),
   ("entity.name", "hljs-title class_"),
   ("entity.other.attribute-name", "hljs-attr"),
   ("entity.other.inherited-class", "hljs-title class_"),
   ("support.function", "hljs-built_in"),
   ("support", "hljs-type"),
   ("variable.parameter", "hljs-params"),
   ("variable.language", "hljs-variable language_"),
   ("variable", "hljs-variable"),
   ("meta.preprocessor", "hljs-meta"),
   ("meta.annotation", "hljs-meta"),
   ("markup.heading", "hljs-section"),
   ("markup.bold", "hljs-strong"),
   ("markup.italic", "hljs-emphasis"),
   ("markup.quote", "hljs-quote"),
   ("markup.underline.link", "hljs-link"),
   ("markup.inserted", "hljs-addition"),
   ("markup.deleted", "hljs-deletion")]

/-- Whether a name is an entry's start, or goes on after it with a dot. -/
def startsWithAtoms (start name : Text) : Bool :=
  match after? start name with
  | some [] => true
  | some (c :: _) => c = '.'
  | none => false

/-- The class of the first entry that a name starts with. -/
def classOfName (name : Text) : Option TokenClass :=
  (classTable.find? fun (start, _) => startsWithAtoms start.toList name).map (·.2)

/-- The class of a token with these scopes, of which the innermost comes first. -/
def tokenClass (scopes : List Scope) : Option TokenClass :=
  scopes.findSome? fun s => classOfName s.name

/-! ### HTML -/

/-- One character of text in HTML. -/
def escapeChar : Char → Text
  | '&' => "&amp;".toList
  | '<' => "&lt;".toList
  | '>' => "&gt;".toList
  | '"' => "&quot;".toList
  | c => [c]

/-- A text as text of HTML. -/
def escapeHtml (s : Text) : Text := s.flatMap escapeChar

/-- A stretch of code with its class. -/
structure Stretch where
  cls : Option TokenClass
  text : Text
  deriving Repr, DecidableEq

/-- A stretch in front of others: it joins the first one if that has the same class. -/
def consStretch (s : Stretch) : List Stretch → List Stretch
  | [] => [s]
  | t :: ts => if s.cls = t.cls then ⟨s.cls, s.text ++ t.text⟩ :: ts else s :: t :: ts

/-- Stretches without empty ones, no two neighbours having equal class. -/
def mergeStretches : List Stretch → List Stretch
  | [] => []
  | s :: ss => if s.text.isEmpty then mergeStretches ss else consStretch s (mergeStretches ss)

/-- The HTML of a stretch. -/
def Stretch.html (s : Stretch) : Text :=
  match s.cls with
  | none => escapeHtml s.text
  | some cls => "<span class=\"".toList ++ cls.toList ++ "\">".toList ++ escapeHtml s.text ++
      "</span>".toList

/-- The HTML of stretches. -/
def stretchesHtml (ss : List Stretch) : Text := (mergeStretches ss).flatMap Stretch.html

/-! ### Stretches of a code -/

/-- A change of the scopes at a place in a line. -/
structure Edit where
  /-- The number of characters of the line before the place. -/
  position : Nat
  op : ScopeOp
  deriving Repr, DecidableEq

/-- The stretches of the rest of a line, which starts at a position, and the stack behind it. -/
def lineStretches : ScopeStack → Nat → Text → List Edit → Option (List Stretch × ScopeStack)
  | stack, _, rest, [] => some ([⟨tokenClass stack.scopes, rest⟩], stack)
  | stack, position, rest, e :: es =>
    let width := e.position - position
    match stack.apply e.op with
    | none => none
    | some next =>
      (lineStretches next (position + width) (rest.drop width) es).map fun (ss, last) =>
        (⟨tokenClass stack.scopes, rest.take width⟩ :: ss, last)

/-- What finds the scopes of the characters of a code, line by line. -/
structure Tokenizer where
  /-- What is known after some lines. -/
  State : Type
  start : State
  /-- The changes in a line in the order of their places, unless the tokenizer fails. -/
  line : State → Text → Option (List Edit × State)

/-- The stretches of lines. -/
def Tokenizer.stretches (t : Tokenizer) : t.State → ScopeStack → List Text → Option (List Stretch)
  | _, _, [] => some []
  | state, stack, l :: ls => do
    let (edits, next) ← t.line state l
    let (ss, last) ← lineStretches stack 0 l edits
    return ss ++ (← t.stretches next last ls)

/-- The HTML of a code; if the tokenizer fails, no part of the code has a class. -/
def highlightWith (t : Tokenizer) (code : Text) : Text :=
  match t.stretches t.start .empty (lines code) with
  | some ss => stretchesHtml ss
  | none => escapeHtml code

/-- The tokenizer that finds no scopes. -/
def Tokenizer.plain : Tokenizer := ⟨Unit, (), fun _ _ => some ([], ())⟩

end DocPreview.Highlight
