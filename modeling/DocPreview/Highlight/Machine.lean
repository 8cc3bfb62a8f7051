import DocPreview.Highlight.Grammar
import DocPreview.Highlight.Pattern.Reader
import DocPreview.Highlight.Span

/-!
# Reading code by a grammar

Code is read line by line with a stack of contexts. At each place, the rule of the innermost context
that matches first in the rest of the line is followed; of those that match at the same place, it is
the one that is written first. What a rule does gives changes of the stack of scopes.

## Main definitions

* `Machine`, `Machine.ofGrammar`: a grammar whose names are replaced by numbers.
* `Frame`, `Reading`: the stack of contexts, and where reading stands in a line.
* `Machine.hit?`: the rule that is followed.
* `Machine.metaEdits`, `Machine.followed`: what following a rule does.
* `Machine.tokenizer`: the tokenizer of a grammar.
-/

namespace DocPreview.Highlight

open Text

/-! ### Machines -/

/-- What a rule does to the contexts; they are given by numbers. -/
inductive Move where
  | stay
  | pop
  | push (targets : List Nat)
  | set (targets : List Nat)
  deriving Repr, DecidableEq

/-- A rule whose names are replaced by numbers. -/
structure Step where
  pattern : Pattern
  scopes : List Scope
  parts : List (Nat × List Scope)
  move : Move
  override : Option Nat
  deriving Repr, DecidableEq

/-- A context whose names are replaced by numbers. -/
structure Room where
  scopes : List Scope
  contentScopes : List Scope
  clearing : Option Clearing
  /-- The rules of its own. -/
  own : List Step
  /-- The rules that apply everywhere, and then those of its own. -/
  steps : List Step
  deriving Repr, DecidableEq

/-- A grammar whose names are replaced by numbers. -/
structure Machine where
  rooms : Array Room
  /-- The context where code starts. -/
  main : Nat
  deriving Repr, DecidableEq

namespace Machine

/-- The number of a context. -/
def numberOf (g : Grammar) (name : String) : Nat := g.findIdx fun c => c.1 == name

/-- An action by numbers. -/
def moveOf (g : Grammar) : Action → Move
  | .stay => .stay
  | .pop => .pop
  | .push names => .push (names.map (numberOf g))
  | .set names => .set (names.map (numberOf g))

/-- The scopes whose names are separated by spaces. -/
def scopesOf (names : String) : List Scope :=
  ((splitAtChar ' ' names.toList).filter fun n => !n.isEmpty).map Scope.ofName

/-- The pattern of a rule. In one that leaves its context, a reference to a group is to one of the
rule that entered it. A text that is no pattern never matches. -/
def patternOf (r : Rule) : Pattern :=
  (Pattern.ofText? (r.action = .pop) r.pattern.toList).getD .never

/-- A rule by numbers. -/
def stepOf (g : Grammar) (r : Rule) : Step :=
  ⟨patternOf r, scopesOf r.scopes, r.parts.map fun (n, s) => (n, scopesOf s), moveOf g r.action,
    r.override.map (numberOf g)⟩

/-- The rules of each context by numbers, and the names of the contexts whose rules it uses. -/
abbrev Plan := List (String × List (Step ⊕ String))

/-- The rules of all contexts by numbers. -/
def planOf (g : Grammar) : Plan :=
  g.map fun (name, c) => (name, c.entries.map fun
    | .rule r => .inl (stepOf g r)
    | .rulesOf other => .inr other)

/-- How deep contexts can use the rules of others. -/
def useLimit : Nat := 16

/-- The rules of a context, with those of the contexts that it uses in their place. -/
def stepsOf (plan : Plan) : Nat → String → List Step
  | 0, _ => []
  | depth + 1, name => ((plan.lookup name).getD []).flatMap fun
    | .inl s => [s]
    | .inr other => stepsOf plan depth other

/-- A context by numbers. -/
def roomOf (plan : Plan) (name : String) (c : Context) : Room :=
  let own := stepsOf plan useLimit name
  let shared := if c.takesPrototype then stepsOf plan useLimit "prototype" else []
  ⟨scopesOf c.scopes, scopesOf c.contentScopes, c.clearing, own, shared ++ own⟩

/-- The machine of a grammar. -/
def ofGrammar (g : Grammar) : Machine :=
  let plan := planOf g
  ⟨(g.map fun (name, c) => roomOf plan name c).toArray, numberOf g "main"⟩

/-- A context without rules. -/
def emptyRoom : Room := ⟨[], [], none, [], []⟩

/-- The context of a number. -/
def room (m : Machine) (n : Nat) : Room := m.rooms[n]?.getD emptyRoom

end Machine

/-! ### Reading -/

/-- A context that was entered. -/
structure Frame where
  room : Nat
  /-- The contexts whose rules come first from here on. -/
  overrides : List Nat
  /-- The texts of the groups of the rule that entered the context. -/
  groups : List (Nat × Text)
  deriving Repr, DecidableEq

/-- The text of a group. -/
def Frame.groupText (f : Frame) (index : Nat) : Text := (f.groups.lookup index).getD []

/-- What is known between two lines. -/
structure Memory where
  /-- The contexts that were entered, the innermost first. -/
  frames : List Frame
  /-- The numbers of frames below which the rules that come first are not looked at, the latest
  first. -/
  floors : List Nat
  isFirstLine : Bool
  deriving Repr, DecidableEq

/-- Where reading stands in a line. -/
structure Reading where
  frames : List Frame
  floors : List Nat
  cursor : Cursor
  /-- Where contexts were entered without reading anything, and how many there were then. -/
  entered : Nat × Nat
  /-- The changes of scopes so far, the latest first. -/
  edits : List Edit

/-- A rule that could be followed. -/
structure Candidate where
  step : Step
  /-- The texts of groups of the rule that entered its context. -/
  old : Nat → Text
  isOverride : Bool

/-- A rule that is followed, and where it matches. -/
structure Hit where
  candidate : Candidate
  start : Cursor
  stop : Cursor
  /-- Whether following it would undo what was done last. -/
  isLoop : Bool

namespace Machine

/-- How many contexts can be entered. -/
def depthLimit : Nat := 99

/-- The rules that could be followed, in their order. -/
def candidates (m : Machine) (frames : List Frame) (floors : List Nat) : List Candidate :=
  let outermostFirst := frames.reverse.drop (floors.headD 0)
  let overrides := outermostFirst.flatMap fun f =>
    f.overrides.flatMap fun n => (m.room n).own.map fun s => ⟨s, f.groupText, true⟩
  let own := match frames with
    | [] => []
    | f :: _ => (m.room f.room).steps.map fun s => ⟨s, f.groupText, false⟩
  overrides ++ own

/-- The rule that matches at a place, if one does, and the rules that can match later. A rule that
stays and matches nothing is not looked at again. -/
def hitAt (checksLoop : Bool) (c : Cursor) :
    List Candidate → Option Hit × List Candidate
  | [] => (none, [])
  | x :: xs =>
    match x.step.pattern.matchAt x.old c with
    | none =>
      let (hit, kept) := hitAt checksLoop c xs
      (hit, x :: kept)
    | some stop =>
      let isEmpty := stop.position = c.position
      if x.step.move = .stay && isEmpty then hitAt checksLoop c xs
      else if checksLoop && isEmpty && x.step.move = .pop then
        ((hitAt checksLoop c xs).1.orElse fun _ => some ⟨x, c, stop, true⟩, xs)
      else (some ⟨x, c, stop, false⟩, xs)

/-- The rule that matches first in the rest of a line; `fuel` bounds the number of places. -/
def hitFrom (checksLoop : Bool) : Nat → Cursor → List Candidate → Option Hit
  | 0, _, _ => none
  | fuel + 1, c, xs =>
    match hitAt checksLoop c xs with
    | (some hit, _) => some hit
    | (none, xs) => if c.rest.isEmpty then none else hitFrom false fuel c.advance xs

/-- The changes by contexts that are entered or left: those before the text of the rule if
`isBefore` holds, and else those behind it. -/
def metaEdits (m : Machine) (current : Room) (move : Move) (isBefore : Bool) : List ScopeOp :=
  let pushes (ss : List Scope) : List ScopeOp := ss.map .push
  let pops (n : Nat) : List ScopeOp := if n = 0 then [] else [.pop n]
  let clears (r : Room) : List ScopeOp :=
    match r.clearing with
    | none => []
    | some .all => [.setAllAside]
    | some (.some n) => [.setAside n]
  let entering (isSet : Bool) (targets : List Nat) : List ScopeOp :=
    let rooms := targets.map m.room
    if isBefore then
      (if isSet && current.clearing.isSome then [.restore] else []) ++
        rooms.flatMap fun r => (if isSet then [] else clears r) ++ pushes r.scopes
    else
      let hasScopes := !current.scopes.isEmpty || !current.contentScopes.isEmpty
      let repushes := (isSet && hasScopes) || rooms.any fun r =>
        !r.contentScopes.isEmpty || (r.clearing.isSome && isSet)
      if repushes then
        let own := if isSet then current.contentScopes.length + current.scopes.length else 0
        pops (rooms.foldl (fun n r => n + r.scopes.length) own) ++
          rooms.flatMap fun r =>
            (if isSet then clears r else []) ++ pushes r.scopes ++ pushes r.contentScopes
      else []
  match move with
  | .stay => []
  | .pop =>
    if isBefore then pops current.contentScopes.length
    else pops current.scopes.length ++ (if current.clearing.isSome then [.restore] else [])
  | .push targets => entering false targets
  | .set targets => entering true targets

/-- A change with what decides its place among others: its position, and the size of what it is
for; changes that end something come before those that start something. -/
structure Placed where
  position : Nat
  size : Option Nat
  op : ScopeOp
  deriving Repr, DecidableEq

/-- Whether a change comes before another one or stands beside it. -/
def Placed.le (a b : Placed) : Bool :=
  a.position < b.position || (a.position = b.position &&
    match a.size, b.size with
    | none, _ => true
    | some _, none => false
    | some m, some n => n ≤ m)

/-- The changes by the groups of a rule. -/
def partEdits (parts : List (Nat × List Scope)) (stop : Cursor) : List Edit :=
  let placed := parts.flatMap fun (index, scopes) =>
    match stop.groups.find? fun g => g.index = index with
    | none => []
    | some g =>
      if g.start = g.stop then []
      else
        scopes.map (fun s => ⟨g.start, some (g.stop - g.start), .push s⟩) ++
          [⟨g.stop, none, .pop scopes.length⟩]
  (placed.mergeSort Placed.le).map fun p => ⟨p.position, p.op⟩

/-- The changes by following a rule in a context. -/
def hitEdits (m : Machine) (current : Room) (h : Hit) : List Edit :=
  let step := h.candidate.step
  let at' (c : Cursor) (ops : List ScopeOp) : List Edit := ops.map fun op => ⟨c.position, op⟩
  at' h.start (metaEdits m current step.move true ++ step.scopes.map .push) ++
    partEdits step.parts h.stop ++
    at' h.stop ((if step.scopes.isEmpty then [] else [.pop step.scopes.length]) ++
      metaEdits m current step.move false)

/-- The frames for contexts that are entered; the first one keeps the rules that came first in the
frame that it replaces. -/
def framesFor (step : Step) (groups : List (Nat × Text)) : List Nat → List Nat → List Frame
  | _, [] => []
  | kept, [n] => [⟨n, kept ++ step.override.toList, groups⟩]
  | kept, n :: ns => ⟨n, kept, groups⟩ :: framesFor step groups [] ns

/-- The frames after following a rule. -/
def framesAfter (frames : List Frame) (h : Hit) : List Frame :=
  let step := h.candidate.step
  let groups := h.stop.groups.map fun g => (g.index, h.stop.between g.start g.stop)
  match step.move with
  | .stay => frames
  | .pop => frames.drop 1
  | .push targets => (framesFor step groups [] targets).reverse ++ frames
  | .set targets =>
    let kept := match frames with
      | [] => []
      | f :: _ => f.overrides
    (framesFor step groups kept targets).reverse ++ frames.drop 1

/-- Whether a rule enters contexts. -/
def isPush : Move → Bool
  | .push _ => true
  | _ => false

/-- Where reading stands after one more rule, if there is one to follow. -/
def next (m : Machine) (r : Reading) : Option Reading :=
  match r.frames with
  | [] => none
  | top :: _ =>
    let depth := r.frames.length
    let floors := r.floors.dropWhile (depth ≤ ·)
    let checksLoop := decide (r.entered = (r.cursor.position, depth))
    let found := hitFrom checksLoop (r.cursor.rest.length + 1) r.cursor
      (candidates m r.frames floors)
    match found with
    | none => none
    | some h =>
      if h.isLoop then
        if r.cursor.rest.length ≤ 1 then none
        else some { r with cursor := r.cursor.advance, floors := floors }
      else if isPush h.candidate.step.move && depthLimit ≤ depth then none
      else
        let isEmpty := h.stop.position = r.cursor.position
        some {
          frames := framesAfter r.frames h
          floors := if h.candidate.isOverride then depth :: floors else floors
          cursor := { h.stop with groups := [] }
          entered :=
            if isEmpty && isPush h.candidate.step.move then (h.stop.position, depth + 1)
            else r.entered
          edits := (hitEdits m (m.room top.room) h).reverse ++ r.edits }

/-- Where reading stands at the end of a line; `fuel` bounds the number of rules that are
followed. -/
def readWithin (m : Machine) : Nat → Reading → Reading
  | 0, r => r
  | fuel + 1, r =>
    match next m r with
    | none => r
    | some s => readWithin m fuel s

/-- How many rules are followed for each character of a line. -/
def rulesPerChar : Nat := 200

/-- The changes in a line, and what is known behind it. -/
def line (m : Machine) (memory : Memory) (text : Text) : List Edit × Memory :=
  let first := match memory.frames with
    | f :: _ =>
      if memory.isFirstLine then
        ((m.room f.room).contentScopes.take 1).map fun s => (⟨0, .push s⟩ : Edit)
      else []
    | [] => []
  let r := readWithin m ((text.length + 1) * rulesPerChar)
    ⟨memory.frames, memory.floors, .ofLine text, (0, 0), first.reverse⟩
  (r.edits.reverse, ⟨r.frames, r.floors, false⟩)

/-- What is known before the first line. -/
def start (m : Machine) : Memory := ⟨[⟨m.main, [], []⟩], [], true⟩

/-- The tokenizer of a grammar. -/
def tokenizer (m : Machine) : Tokenizer where
  State := Memory
  start := m.start
  line memory text := some (m.line memory text)

end Machine

end DocPreview.Highlight
