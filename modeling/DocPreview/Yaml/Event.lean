import DocPreview.Yaml.Scan

/-!
# Documents of YAML as events

The tokens of a document tell its nodes in order: scalars, aliases, and the starts and ends of
sequences and mappings. A node that is left out is an empty scalar.

## Main definitions

* `Event`: a step through the nodes of a document.
* `Stream`: the events of the first document of a text, where it fails, and whether there is more
  than one document.
* `Stream.ofText`: what a text holds.
-/

namespace DocPreview.Yaml

/-- The name and the tag before a node. -/
structure Properties where
  anchor : Option Text
  tag : Option Text
  deriving Repr, DecidableEq

/-- No name and no tag. -/
def Properties.none : Properties := ⟨Option.none, Option.none⟩

/-- A step through the nodes of a document. -/
inductive EventKind where
  | aliasName (name : Text)
  | scalar (properties : Properties) (value : Text) (style : ScalarStyle)
  | sequenceStart (properties : Properties)
  | sequenceEnd
  | mappingStart (properties : Properties)
  | mappingEnd
  deriving Repr, DecidableEq

/-- An event with its place. -/
structure Event where
  kind : EventKind
  mark : Mark
  deriving Repr, DecidableEq

/-- The tokens that are left, and the events so far, the latest first. -/
structure ParserState where
  tokens : List Token
  /-- The failure behind the tokens. -/
  failure : Option Failure
  /-- What the handles of tags stand for. -/
  handles : List (Text × Text)
  events : List Event

/-- An action that goes over the tokens of a text. -/
abbrev Parser := ExceptT Failure (StateM ParserState)

namespace Parser

/-- The token behind the last one of a text. -/
def endToken (s : ParserState) : Token :=
  let m := (s.events.head?.map Event.mark).getD Mark.start
  ⟨.streamEnd, m, m⟩

/-- The next token. -/
def peek : Parser Token := do
  let s ← get
  match s.tokens, s.failure with
  | t :: _, _ => return t
  | [], some f => throw f
  | [], none => return endToken s

/-- Passes over the next token. -/
def skip : Parser Unit := modify fun s => { s with tokens := s.tokens.tail }

/-- Adds an event. -/
def emit (kind : EventKind) (m : Mark) : Parser Unit :=
  modify fun s => { s with events := ⟨kind, m⟩ :: s.events }

/-- Adds an empty scalar. -/
def emitEmpty (m : Mark) : Parser Unit := emit (.scalar .none [] .plain) m

/-- Fails at a token. -/
def fail {α : Type} (t : Token) (problem : Problem) (reading : Option (Activity × Mark)) :
    Parser α :=
  throw ⟨problem, t.start, 0, reading⟩

/-! ### Properties -/

/-- The tag that a handle and a suffix stand for. -/
def resolveTag (start : Mark) (t : Token) (handle suffix : Text) : Parser Text := do
  if handle.isEmpty then
    return suffix
  match (← get).handles.find? fun h => h.1 = handle with
  | some (_, beginning) => return beginning ++ suffix
  | none => fail t .undefinedHandle (some (.node, start))

/-- The name before a node, if there is one. -/
def anchor? : Parser (Option Text) := do
  match (← peek).kind with
  | .anchor name => do
    skip
    return some name
  | _ => return none

/-- The tag before a node with its token, if there is one. -/
def tag? : Parser (Option (Token × Text × Text)) := do
  let t ← peek
  match t.kind with
  | .tag handle suffix => do
    skip
    return some (t, handle, suffix)
  | _ => return none

/-- The name and the tag before a node, in either order. -/
def properties (start : Mark) : Parser Properties := do
  let first ← anchor?
  let tag ← tag?
  let anchor ← if first.isNone && tag.isSome then anchor? else pure first
  match tag with
  | none => return ⟨anchor, none⟩
  | some (t, handle, suffix) => return ⟨anchor, some (← resolveTag start t handle suffix)⟩

/-! ### Nodes -/

/-- Whether a token ends an entry of a sequence, and so leaves out its node. -/
def endsEntry : TokenKind → Bool
  | .blockEntry | .blockEnd => true
  | _ => false

/-- Whether a token ends an entry of a sequence that stands at the column of its key. -/
def endsLooseEntry : TokenKind → Bool
  | .blockEntry | .key | .value | .blockEnd => true
  | _ => false

/-- Whether a token ends a key or a value of a block. -/
def endsPart : TokenKind → Bool
  | .key | .value | .blockEnd => true
  | _ => false

/-- Whether a token ends a key of a flow mapping. -/
def endsFlowKey : TokenKind → Bool
  | .value | .flowEntry | .flowMappingEnd => true
  | _ => false

/-- Whether a token ends a value of a flow structure with the given end. -/
def endsFlowValue (closer : TokenKind) (k : TokenKind) : Bool := k = .flowEntry || k = closer

/-- The comma between two parts of a flow structure. -/
def separator (isFirst : Bool) (problem : Problem) (reading : Activity × Mark) : Parser Unit := do
  if isFirst then
    return ()
  let t ← peek
  if t.kind = .flowEntry then skip else fail t problem (some reading)

mutual

/-- A node. `inBlock` tells whether it can be a block, `isLoose` whether it can be a sequence at the
column of its key. -/
def node : Nat → Bool → Bool → Parser Unit
  | 0, _, _ => return ()
  | n + 1, inBlock, isLoose => do
    let first ← peek
    let start := first.start
    match first.kind with
    | .aliasName name => do
      skip
      emit (.aliasName name) start
    | _ => do
      let ps ← properties start
      let t ← peek
      match t.kind with
      | .scalar value style => do
        skip
        emit (.scalar ps value style) start
      | .flowSequenceStart => do
        skip
        emit (.sequenceStart ps) start
        flowSequence n t.start true
      | .flowMappingStart => do
        skip
        emit (.mappingStart ps) start
        flowMapping n t.start true
      | .blockEntry =>
        if isLoose then do
          emit (.sequenceStart ps) start
          looseSequence n
        else noNode inBlock start ps t
      | .blockSequenceStart =>
        if inBlock then do
          skip
          emit (.sequenceStart ps) start
          blockSequence n t.start
        else noNode inBlock start ps t
      | .blockMappingStart =>
        if inBlock then do
          skip
          emit (.mappingStart ps) start
          blockMapping n t.start
        else noNode inBlock start ps t
      | _ => noNode inBlock start ps t

/-- What stands for a node where none starts. -/
def noNode (inBlock : Bool) (start : Mark) (ps : Properties) (t : Token) : Parser Unit :=
  if ps.anchor.isSome || ps.tag.isSome then emit (.scalar ps [] .plain) start
  else fail t .noContent (some (if inBlock then .blockNode else .flowNode, start))

/-- A node of a block, unless the next token ends its place. -/
def blockPart : Nat → Bool → (TokenKind → Bool) → Mark → Parser Unit
  | 0, _, _, _ => return ()
  | n + 1, isLoose, isEnd, m => do
    if isEnd (← peek).kind then emitEmpty m else node n true isLoose

/-- A node of a flow structure, unless the next token ends its place. -/
def flowPart : Nat → (TokenKind → Bool) → Parser Unit
  | 0, _ => return ()
  | n + 1, isEnd => do
    let t ← peek
    if isEnd t.kind then emitEmpty t.start else node n false false

/-- The entries of a sequence in a block, which started at a mark. -/
def blockSequence : Nat → Mark → Parser Unit
  | 0, _ => return ()
  | n + 1, start => do
    let t ← peek
    match t.kind with
    | .blockEntry => do
      skip
      blockPart n false endsEntry t.stop
      blockSequence n start
    | .blockEnd => do
      skip
      emit .sequenceEnd t.start
    | _ => fail t .noEntry (some (.blockSequence, start))

/-- The entries of a sequence at the column of its key. -/
def looseSequence : Nat → Parser Unit
  | 0 => return ()
  | n + 1 => do
    let t ← peek
    match t.kind with
    | .blockEntry => do
      skip
      blockPart n false endsLooseEntry t.stop
      looseSequence n
    | _ => emit .sequenceEnd t.start

/-- The keys and values of a mapping in a block, which started at a mark. -/
def blockMapping : Nat → Mark → Parser Unit
  | 0, _ => return ()
  | n + 1, start => do
    let t ← peek
    match t.kind with
    | .key => do
      skip
      blockPart n true endsPart t.stop
      let v ← peek
      if v.kind = .value then
        skip
        blockPart n true endsPart v.stop
      else emitEmpty v.start
      blockMapping n start
    | .blockEnd => do
      skip
      emit .mappingEnd t.start
    | _ => fail t .noKey (some (.blockMapping, start))

/-- The parts of a flow sequence, which started at a mark. -/
def flowSequence : Nat → Mark → Bool → Parser Unit
  | 0, _, _ => return ()
  | n + 1, start, isFirst => do
    let t ← peek
    if t.kind = .flowSequenceEnd then
      skip
      emit .sequenceEnd t.start
    else
      separator isFirst .noSequenceEnd (.flowSequence, start)
      let t ← peek
      match t.kind with
      | .key => do
        skip
        emit (.mappingStart .none) t.start
        flowPair n
        flowSequence n start false
      | .flowSequenceEnd => do
        skip
        emit .sequenceEnd t.start
      | _ => do
        node n false false
        flowSequence n start false

/-- A mapping of one key in a flow sequence. -/
def flowPair : Nat → Parser Unit
  | 0 => return ()
  | n + 1 => do
    let t ← peek
    if [.value, .flowEntry, .flowSequenceEnd].contains t.kind then
      skip
      emitEmpty t.stop
    else node n false false
    let v ← peek
    if v.kind = .value then
      skip
      flowPart n (endsFlowValue .flowSequenceEnd)
    else emitEmpty v.start
    emit .mappingEnd (← peek).start

/-- The parts of a flow mapping, which started at a mark. -/
def flowMapping : Nat → Mark → Bool → Parser Unit
  | 0, _, _ => return ()
  | n + 1, start, isFirst => do
    let t ← peek
    if t.kind = .flowMappingEnd then
      skip
      emit .mappingEnd t.start
    else
      separator isFirst .noMappingEnd (.flowMapping, start)
      let t ← peek
      match t.kind with
      | .key => do
        skip
        flowPart n endsFlowKey
        let v ← peek
        if v.kind = .value then
          skip
          flowPart n (endsFlowValue .flowMappingEnd)
        else emitEmpty v.start
        flowMapping n start false
      | .flowMappingEnd => do
        skip
        emit .mappingEnd t.start
      | _ => do
        node n false false
        emitEmpty (← peek).start
        flowMapping n start false

end

/-! ### Documents -/

/-- Adds what a handle stands for. -/
def addHandle (t : Token) (handle beginning : Text) : Parser Unit := do
  if (← get).handles.any fun h => h.1 = handle then
    fail t .secondTagDirective none
  modify fun s => { s with handles := s.handles ++ [(handle, beginning)] }

/-- The directives before a document. -/
def directives : Nat → Bool → Parser Unit
  | 0, _ => return ()
  | n + 1, hasVersion => do
    let t ← peek
    match t.kind with
    | .version major minor => do
      if hasVersion then
        fail t .secondVersion none
      if major ≠ 1 || (minor ≠ 1 && minor ≠ 2) then
        fail t .badVersion none
      skip
      directives n true
    | .tagHandle handle beginning => do
      addHandle t handle beginning
      skip
      directives n hasVersion
    | _ => return ()

/-- The handles that every document has. -/
def addDefaultHandles : Parser Unit :=
  modify fun s => { s with
    handles := s.handles ++ [(['!'], ['!']), (['!', '!'], "tag:yaml.org,2002:".toList)] }

/-- Whether a token cannot be in a document. -/
def endsDocument : TokenKind → Bool
  | .version _ _ | .tagHandle _ _ | .documentStart | .documentEnd | .streamEnd => true
  | _ => false

/-- Whether a token starts a document with its own line. -/
def startsExplicit : TokenKind → Bool
  | .version _ _ | .tagHandle _ _ | .documentStart => true
  | _ => false

/-- The first document. -/
def document (fuel : Nat) : Parser Unit := do
  let first ← peek
  if first.kind = .streamEnd then
    return ()
  if startsExplicit first.kind then
    directives fuel false
    addDefaultHandles
    let t ← peek
    if t.kind ≠ .documentStart then
      fail t .noDocumentStart none
    skip
    let content ← peek
    if endsDocument content.kind then emitEmpty content.start else node fuel true false
  else
    addDefaultHandles
    node fuel true false
  if (← peek).kind = .documentEnd then
    skip

end Parser

/-- What a text in YAML holds. -/
structure Stream where
  /-- The events of the first document. -/
  events : List Event
  /-- Where the first document fails. -/
  failure : Option Failure
  /-- Whether something follows the first document. -/
  hasMore : Bool
  deriving Repr, DecidableEq

/-- Whether tokens hold more than the ends of documents. -/
def holdMore : List Token → Option Failure → Bool
  | [], failure => failure.isSome
  | t :: ts, failure =>
    match t.kind with
    | .documentEnd => holdMore ts failure
    | .streamEnd => false
    | _ => true

/-- What a text holds. -/
def Stream.ofText (text : Text) : Stream :=
  let (ts, failure) := tokens text
  let fuel := 4 * ts.length + 8
  match (Parser.document fuel).run ⟨ts, failure, [], []⟩ with
  | (.ok (), s) => ⟨s.events.reverse, none, holdMore s.tokens s.failure⟩
  | (.error f, s) => ⟨s.events.reverse, some f, false⟩

end DocPreview.Yaml
