import DocPreview.Markup.Autolink
import DocPreview.Markup.Tree

/-!
# Emphasis

A run of `*`, `_` or `~` can open a group, close one, or both, as the characters around it tell.
A closing run is matched with the nearest run before it that can open the same; what stands
between them becomes the group, and other runs between them are text.

## Main definitions

* `Token`: the parts of a text before emphasis is matched.
* `Token.pieces`: the pieces that tokens make.
-/

namespace DocPreview.Markup

/-- A run of equal marks, and what it can do. -/
structure Run where
  mark : Char
  size : Nat
  canOpen : Bool
  canClose : Bool
  /-- The number of characters before it. -/
  start : Nat
  deriving Repr, DecidableEq

/-- What an opening bracket is for. -/
inductive OpenerKind where
  | link
  | image
  | note
  deriving Repr, DecidableEq

/-- An opening bracket that waits for its closing one. -/
structure Opener where
  kind : OpenerKind
  start : Nat
  /-- Whether it can still start a link. -/
  isActive : Bool
  deriving Repr, DecidableEq

/-- A part of a text. -/
inductive Token where
  /-- Characters as written, the last one first. -/
  | data (s : Text)
  /-- Characters that stand for themselves only. -/
  | literal (s : Text)
  | piece (p : Piece)
  | run (r : Run)
  | opener (o : Opener)

/-- The classes of the characters around a run. -/
inductive Side where
  | blank
  | punctuation
  | other
  deriving Repr, DecidableEq

/-- The class of a character, an end of the text being blank. -/
def Side.of : Option Char → Side
  | none => .blank
  | some c =>
    if Text.isBlank c then .blank else if Unicode.isPunctuation c then .punctuation else .other

/-- A run with the characters before and after it. -/
def Run.of (mark : Char) (size start : Nat) (before after : Option Char) : Run :=
  let b := Side.of before
  let a := Side.of after
  let helps (c : Option Char) : Bool :=
    match c with
    | some d => d = '*' || d = '_' || (mark ≠ '~' && d = '~')
    | none => false
  let opens := a = .other || (a = .punctuation && b ≠ .other) || helps after
  let closes := b = .other || (b = .punctuation && a ≠ .other) || helps before
  { mark := mark, size := size, start := start,
    canOpen := if mark = '_' then opens && (b ≠ .other || !closes) else opens,
    canClose := if mark = '_' then closes && (a ≠ .other || !opens) else closes }

/-- The characters of an opening bracket. -/
def Opener.text (o : Opener) : Text :=
  match o.kind with
  | .link => ['[']
  | .image => ['!', '[']
  | .note => ['[', '^']

namespace Token

/-- Adds characters as written before tokens, the latest token being the first. -/
def addData (s : Text) : List Token → List Token
  | .data t :: rest => .data (s.reverse ++ t) :: rest
  | tokens => .data s.reverse :: tokens

/-- The tokens with the latest first, extended by one: data is joined. -/
def add (tokens : List Token) : Token → List Token
  | .data s => addData s.reverse tokens
  | t => t :: tokens

/-- The pieces of a text as written, with its mail addresses if they count. -/
def dataPieces (findsMail : Bool) (here : Point) (s : Text) : List Piece :=
  if findsMail then
    (Autolink.splitMail s).map fun
      | .text t => .leaf (.text t)
      | .link url shown => .group (.link url none) here here [.leaf (.text shown)]
  else [.leaf (.text s)]

/-- The pieces of tokens that hold no runs and no open brackets. -/
def finish (findsMail : Bool) (here : Point) : List Token → List Piece
  | [] => []
  | .data s :: rest => dataPieces findsMail here s.reverse ++ finish findsMail here rest
  | .literal s :: rest => .leaf (.text s) :: finish findsMail here rest
  | .piece p :: rest => p :: finish findsMail here rest
  | .run r :: rest => .leaf (.text (List.replicate r.size r.mark)) :: finish findsMail here rest
  | .opener o :: rest => .leaf (.text o.text) :: finish findsMail here rest

/-- A run that can open, with the tokens after it, the latest first. -/
abbrev Frame := Run × List Token

/-- The characters of a run. -/
def runText (r : Run) : Text := List.replicate r.size r.mark

/-- The tokens of frames that open nothing after all, the latest first. -/
def flatten (below : List Token) : List Frame → List Token
  | [] => below
  | (r, tokens) :: frames =>
    let base := addData (runText r) (flatten below frames)
    tokens.foldr (fun t acc => add acc t) base

/-- Whether a closing run matches an opening one. -/
def isMatch (opener closer : Run) : Bool :=
  opener.mark = closer.mark &&
    !((opener.canClose || closer.canOpen) && closer.size % 3 ≠ 0 &&
      (opener.size + closer.size) % 3 = 0) &&
    !(closer.mark = '~' && (closer.size ≠ opener.size || 2 < closer.size))

/-- The frames above the nearest one that a run closes, that frame, and the frames below. -/
def findOpener (closer : Run) : List Frame → Option (List Frame × Frame × List Frame)
  | [] => none
  | f :: frames =>
    if isMatch f.1 closer then some ([], f, frames)
    else (findOpener closer frames).map fun (above, found, below) => (f :: above, found, below)

/-- The group that marks make. -/
def groupOf (mark : Char) (taken : Nat) : Group :=
  if mark = '~' then .strike else if taken = 2 then .strong else .emphasis

/-- Adds a token to the innermost frame, or to the tokens below all frames. -/
def push (t : Token) : List Frame → List Token → List Frame × List Token
  | [], below => ([], add below t)
  | (r, tokens) :: frames, below => ((r, add tokens t) :: frames, below)

/-- The frames and the tokens below them after a run; `n` bounds the number of matches. -/
def applyRun (findsMail : Bool) (at_ : Nat → Point) :
    Nat → Run → List Frame → List Token → List Frame × List Token
  | 0, r, frames, below => push (.data (runText r)) frames below
  | n + 1, r, frames, below =>
    let opened := if r.canClose then findOpener r frames else none
    match opened with
    | some (above, (o, tokens), rest) =>
      let taken := if 1 < o.size && 1 < r.size then 2 else 1
      let inner := (flatten tokens above).reverse
      let start := at_ (o.start + (o.size - taken))
      let stop := at_ (r.start + taken)
      let made :=
        Token.piece (.group (groupOf r.mark taken) start stop (finish findsMail start inner))
      let (frames', below') :=
        if o.size = taken then push made rest below
        else (({ o with size := o.size - taken }, [made]) :: rest, below)
      if r.size = taken then (frames', below')
      else
        applyRun findsMail at_ n { r with size := r.size - taken, start := r.start + taken }
          frames' below'
    | none =>
      if r.canOpen then ((r, []) :: frames, below) else push (.data (runText r)) frames below

/-- Matches runs from the first token on. -/
def matchRuns (findsMail : Bool) (at_ : Nat → Point) :
    List Frame → List Token → List Token → List Token
  | frames, below, [] => flatten below frames
  | frames, below, .run r :: rest =>
    let (frames', below') := applyRun findsMail at_ (r.size + 1) r frames below
    matchRuns findsMail at_ frames' below' rest
  | frames, below, t :: rest =>
    let (frames', below') := push t frames below
    matchRuns findsMail at_ frames' below' rest

/-- The pieces that tokens make, the latest token being the first. -/
def pieces (findsMail : Bool) (at_ : Nat → Point) (tokens : List Token) : List Piece :=
  finish findsMail (at_ 0) (matchRuns findsMail at_ [] [] tokens.reverse).reverse

end Token

end DocPreview.Markup
