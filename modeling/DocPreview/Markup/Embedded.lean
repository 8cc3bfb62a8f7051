import DocPreview.Markup.Problem
import DocPreview.Script.Reader.Grammar

/-!
# Scripts in a document

A document holds expressions between braces, and blocks of imports and exports. Where such a
script ends is decided by reading it: as long as it fails at its very end, more of the document
can belong to it.

## Main definitions

* `Verdict`: whether a text is a script, is the start of one, or can be none.
* `checkExpression`, `checkModule`: the verdicts on expressions and on imports and exports.
* `readExpression`, `readModule`: the scripts as trees.
-/

namespace DocPreview.Markup

open Script (Node)

/-- What an expression between braces is for. -/
inductive ExpressionKind where
  /-- A part of the text, which can be empty. -/
  | content
  /-- The value of an attribute. -/
  | value
  /-- Attributes that an object gives. -/
  | spread
  deriving Repr, DecidableEq

/-- What reading tells about a text. -/
inductive Verdict where
  | complete
  /-- More text can mend the problem. -/
  | unfinished (problem : Problem)
  /-- The problem stands at a character. -/
  | invalid (index : Nat) (problem : Problem)
  deriving Repr, DecidableEq

/-- What stands between comments: whether a text holds only blanks and comments, or why not. -/
inductive CommentScan where
  | outside
  | inBlock
  | inLine

/-- Why a text holds more than blanks and comments, if it does. -/
def commentsOnly : CommentScan → Text → Option Problem
  | .outside, [] => none
  | .inBlock, [] =>
    some (.badExpression "Unexpected unclosed multiline comment, expected closing: \x60*/\x60")
  | .inLine, [] =>
    some (.badExpression "Unexpected unclosed line comment, expected line ending: \x60\\n\x60")
  | .inBlock, '*' :: '/' :: r => commentsOnly .outside r
  | .inBlock, _ :: r => commentsOnly .inBlock r
  | .inLine, c :: r => commentsOnly (if c = '\n' || c = '\r' then .outside else .inLine) r
  | .outside, '/' :: '*' :: r => commentsOnly .inBlock r
  | .outside, '/' :: '/' :: r => commentsOnly .inLine r
  | .outside, c :: r =>
    if c = ' ' || c = '\t' || c = '\n' || c = '\r' || c = '\x0c' then commentsOnly .outside r
    else some (.badExpression "Unexpected content after expression")

/-- A failure of reading as a verdict. Characters before the text itself are not counted. -/
def verdictOf (added size : Nat) (wrap : String → Problem) (f : Script.Failure) : Verdict :=
  let problem := wrap f.problem.message
  if size ≤ f.span.hi - added then .unfinished problem else .invalid (f.span.lo - added) problem

/-- The expression that a text stands for, none if the text is empty. -/
def parseEmbedded (kind : ExpressionKind) (s : Text) : Except Verdict (Option Node) :=
  if kind = .content && (commentsOnly .outside s).isNone then .ok none
  else
    let (before, after) : Text × Text :=
      if kind = .spread then ("(\x7b".toList, "\x7d)".toList) else ([], [])
    match Script.parseExpression (before ++ s ++ after) with
    | .error f => .error (verdictOf before.length s.length .badExpression f)
    | .ok e =>
      match commentsOnly .outside (s.drop (e.stop - before.length)) with
      | some problem => .error (.unfinished problem)
      | none => .ok (some e.expr)

/-- Whether a text is an expression. -/
def checkExpression (kind : ExpressionKind) (s : Text) : Verdict :=
  match parseEmbedded kind s with
  | .ok _ => .complete
  | .error v => v

/-- The object whose members an expression gives. -/
def spreadOf : Node → Except Problem Node
  | .paren _ (.object _ [.spread _ e]) => .ok e
  | .paren _ (.object _ (_ :: _ :: _)) => .error .spreadWithMore
  | _ => .error .noSpread

/-- The expression that a checked text stands for. -/
def readExpression (kind : ExpressionKind) (s : Text) : Except Problem (Option Node) :=
  match parseEmbedded kind s with
  | .ok (some e) =>
    if kind = .spread then
      match spreadOf e with
      | .ok o => .ok (some o)
      | .error p => .error p
    else .ok (some e)
  | .ok none => .ok none
  | .error (.unfinished p) | .error (.invalid _ p) => .error p
  | .error .complete => .ok none

/-- Whether an item of a module is an import or an export. -/
def isModuleItem : Node → Bool
  | .importDecl _ _ _ | .exportDecl _ _ | .exportNamed _ _ _ | .exportAll _ _
  | .exportDefaultDecl _ _ | .exportDefaultExpr _ _ => true
  | _ => false

/-- The imports and exports that a text stands for. -/
def readModule (s : Text) : Except Verdict (List Node) :=
  match Script.Module.parseIn Script.Scope.module s with
  | .error f => .error (verdictOf 0 s.length .badModule f)
  | .ok m =>
    match m.body.find? fun n => !isModuleItem n with
    | none => .ok m.body
    | some n =>
      if s.length ≤ n.span.hi then .error (.unfinished .statementInModule)
      else .error (.invalid n.span.lo .statementInModule)

/-- Whether a text is made of imports and exports. -/
def checkModule (s : Text) : Verdict :=
  match readModule s with
  | .ok _ => .complete
  | .error v => v

end DocPreview.Markup
