import DocPreview.Decimal.Double
import DocPreview.Text.Json
import DocPreview.Text.Shown
import DocPreview.Yaml.Event

/-!
# Documents of YAML as values

The value of a document is one of JSON. A plain scalar can be nothing, a truth value or a number,
and any other scalar is a string; the keys of a mapping are strings, and of equal keys the last
one counts. How deep a value can be nested and how often aliases can be followed is limited.

## Main definitions

* `ValueFailure`: why a text has no value.
* `scalarValue`: the value of a scalar.
* `parse`: the value of a text.
-/

namespace DocPreview.Yaml

open Decimal

/-! ### Failures -/

/-- A way from the top of a document to a part of it. -/
inductive Path where
  | top
  | item (parent : Path) (index : Nat)
  | member (parent : Path) (key : String)
  | unknown (parent : Path)
  deriving Repr, DecidableEq

/-- A path before a member. -/
def Path.before : Path → String → String
  | .top, _ => ""
  | _, text => text ++ "."

/-- The text of a path. -/
def Path.text : Path → String
  | .top => "."
  | .item parent index => parent.text ++ "[" ++ toString index ++ "]"
  | .member parent key => parent.before parent.text ++ key
  | .unknown parent => parent.before parent.text ++ "?"

/-- Why a part of a document is no value. -/
inductive BadValue where
  /-- A part with a tag of its own. -/
  | tagged
  /-- A key that is no scalar. -/
  | key (isSequence isFirst : Bool)
  | numberRange
  /-- A scalar that is not what its tag says. -/
  | scalar (value : String) (expected : String)
  deriving Repr, DecidableEq

/-- The words for a part that is no value. -/
def BadValue.words : BadValue → String
  | tagged => "invalid type: enum, expected any valid JSON value"
  | key isSequence isFirst =>
    "invalid type: " ++ (if isSequence then "sequence" else "map") ++ ", expected a string" ++
      if isFirst then " key" else ""
  | numberRange => "JSON number out of range"
  | scalar value expected =>
    "invalid value: string " ++ String.ofList (Text.shown value.toList) ++ ", expected " ++ expected

/-- Why a text has no value. -/
inductive ValueFailure where
  | text (f : Failure)
  | unknownAnchor (m : Mark)
  | bad (problem : BadValue) (path : Path) (m : Mark)
  | tooDeep (m : Mark)
  | tooManyAliases
  | manyDocuments
  deriving Repr, DecidableEq

/-- The place in a message. -/
def Mark.suffix (m : Mark) : String := if m.isShown then " at " ++ m.text else ""

/-- The text of a failure. -/
def ValueFailure.message : ValueFailure → String
  | text f => f.message
  | unknownAnchor m => "unknown anchor" ++ m.suffix
  | bad problem path m =>
    (if path = .top then "" else path.text ++ ": ") ++ problem.words ++ m.suffix
  | tooDeep m => "recursion limit exceeded" ++ m.suffix
  | tooManyAliases => "repetition limit exceeded"
  | manyDocuments => "deserializing from YAML containing more than one document is not supported"

/-! ### Scalars -/

/-- The digits of a base. -/
def isDigitOf (base : Nat) (c : Char) : Bool := (octetDigit? c).any (· < base)

/-- The number that digits of a base write. -/
def readDigits? (base : Nat) (s : Text) : Option Nat :=
  if s.isEmpty || !s.all (isDigitOf base) then none
  else some (s.foldl (fun n c => n * base + (octetDigit? c).getD 0) 0)

/-- Whether a text is a number with a zero in front, which is no number. -/
def hasLeadingZero (s : Text) : Bool :=
  match (readSign s).2 with
  | '0' :: c :: r => (c :: r).all Char.isDigit
  | _ => false

/-- The base that a text in front of the digits asks for, and the digits. -/
def readBase? : Text → Option (Nat × Text)
  | '0' :: 'x' :: r => some (16, r)
  | '0' :: 'o' :: r => some (8, r)
  | '0' :: 'b' :: r => some (2, r)
  | _ => none

/-- The whole number that a plain scalar writes. -/
def wholeNumber? (s : Text) : Option Int :=
  let (isNegative, r) := readSign s
  let signed (n : Nat) : Int := if isNegative then -n else n
  let based := (readBase? r).bind fun (base, digits) => readDigits? base digits
  match based with
  | some n => some (signed n)
  | none => if hasLeadingZero s then none else (readDigits? 10 r).map signed

/-- What a whole number is as a value. -/
inductive NumberRange where
  | inside
  | outside
  | tooLarge
  deriving Repr, DecidableEq

/-- Whether a whole number is a number of 64 bits, or else one of 128 bits. -/
def numberRange (n : Int) : NumberRange :=
  if -(Nat.pow 2 63 : Nat) ≤ n && n < (Nat.pow 2 64 : Nat) then .inside
  else if -(Nat.pow 2 127 : Nat) ≤ n && n < (Nat.pow 2 128 : Nat) then .outside
  else .tooLarge

/-- What a scalar says about a number with a point or an exponent. -/
inductive Fraction where
  | finite (x : Double)
  /-- An infinity, or no number at all. -/
  | special

/-- The number with a point or an exponent that a scalar writes. -/
def fraction? (s : Text) : Option Fraction :=
  let word := String.ofList (readSign s).2
  let isSigned := (readSign s).2.length < s.length
  if [".inf", ".Inf", ".INF"].contains word then some .special
  else if !isSigned && [".nan", ".NaN", ".NAN"].contains word then some .special
  else (readDecimal? s).bind fun d => (Double.ofDecimal? d).map .finite

/-- A number as a value. -/
def Fraction.value : Fraction → Json
  | finite x => .number (String.ofList x.text)
  | special => .null

/-- The truth value that a scalar writes. -/
def truthValue? (s : String) : Option Bool :=
  if ["true", "True", "TRUE"].contains s then some true
  else if ["false", "False", "FALSE"].contains s then some false
  else none

/-- Whether a scalar writes nothing. -/
def isNothing (s : String) : Bool := ["null", "Null", "NULL", "~"].contains s

/-- The value of a whole number, unless it is none. -/
def wholeValue? (s : Text) : Option (Except BadValue Json) := do
  let n ← wholeNumber? s
  match numberRange n with
  | .inside => some (.ok (.number (toString n)))
  | .outside => some (.error .numberRange)
  | .tooLarge => none

/-- The value of a plain scalar. -/
def plainValue (s : Text) : Except BadValue Json :=
  let word := String.ofList s
  if s.isEmpty || isNothing word then .ok .null
  else
    match truthValue? word, wholeValue? s with
    | some b, _ => .ok (.bool b)
    | none, some v => v
    | none, none =>
      match (if hasLeadingZero s then none else fraction? s) with
      | some x => .ok x.value
      | none => .ok (.string word)

/-- The start of the tags that YAML itself defines. -/
def coreTag (name : String) : Text := ("tag:yaml.org,2002:" ++ name).toList

/-- The value of a scalar. -/
def scalarValue (tag : Option Text) (style : ScalarStyle) (s : Text) : Except BadValue Json :=
  let word := String.ofList s
  let orBad (v : Option (Except BadValue Json)) (expected : String) : Except BadValue Json :=
    v.getD (.error (.scalar word expected))
  match tag with
  | none => if style = .plain then plainValue s else .ok (.string word)
  | some tag =>
    if tag = coreTag "bool" then orBad ((truthValue? word).map fun b => .ok (.bool b)) "a boolean"
    else if tag = coreTag "int" then orBad (wholeValue? s) "an integer"
    else if tag = coreTag "float" then orBad ((fraction? s).map fun x => .ok x.value) "a float"
    else if tag = coreTag "null" then
      orBad (if isNothing word then some (.ok .null) else none) "null"
    else if tag.head? = some '!' then .error .tagged
    else .ok (.string word)

/-! ### Anchors -/

/-- The names of a document with their numbers, and the events that the numbers stand for. -/
structure Anchors where
  numbers : List (Text × Nat)
  targets : List (Nat × Nat)
  deriving Repr, DecidableEq

namespace Anchors

/-- Names the event with a given position. -/
def add (name : Text) (position : Nat) (a : Anchors) : Anchors :=
  let number := a.numbers.length
  { numbers := (name, number) :: a.numbers.filter (·.1 ≠ name)
    targets := (number, position) :: a.targets }

/-- The number of a name. -/
def number? (a : Anchors) (name : Text) : Option Nat :=
  (a.numbers.find? (·.1 = name)).map (·.2)

/-- The position of the event with a number. -/
def position (a : Anchors) (number : Nat) : Nat :=
  ((a.targets.find? (·.1 = number)).map (·.2)).getD 0

end Anchors

/-- The name that an event gives to its node. -/
def EventKind.anchor? : EventKind → Option Text
  | .scalar ps _ _ | .sequenceStart ps | .mappingStart ps => ps.anchor
  | _ => none

/-- A document whose aliases have been looked up. -/
structure Document where
  events : Array Event
  /-- The number of the name that each alias stands for, by the position of the alias. -/
  aliases : List (Nat × Nat)
  anchors : Anchors
  failure : Option ValueFailure

/-- The document of a stream: it ends at an alias for a name that is not known. -/
def Document.ofEvents (failure : Option Failure) :
    List Event → Document → Document
  | [], d => { d with failure := failure.map .text }
  | e :: es, d =>
    let position := d.events.size
    let d' := { d with events := d.events.push e }
    match e.kind with
    | .aliasName name =>
      match d.anchors.number? name with
      | some n => ofEvents failure es { d' with aliases := (position, n) :: d.aliases }
      | none => { d with failure := some (.unknownAnchor e.mark) }
    | k =>
      match k.anchor? with
      | some name => ofEvents failure es { d' with anchors := d.anchors.add name position }
      | none => ofEvents failure es d'

/-! ### Values -/

/-- The building of values, which counts how many aliases have been followed. -/
abbrev Builder := StateT Nat (Except ValueFailure)

namespace Document

/-- The event at a position. -/
def eventAt (d : Document) (position : Nat) : Builder Event :=
  match d.events[position]?, d.failure with
  | some e, _ => return e
  | none, some f => throw f
  | none, none => throw .manyDocuments

/-- Follows the alias at a position. -/
def follow (d : Document) (position : Nat) : Builder Nat := do
  let count := (← get) + 1
  set count
  if d.events.size * 100 < count then
    throw .tooManyAliases
  return d.anchors.position (((d.aliases.find? (·.1 = position)).map (·.2)).getD 0)

/-- The items of a sequence from a position on, each read by `read`, and the position after them.
-/
def items (d : Document) (read : Nat → Nat → Builder (Json × Nat)) :
    Nat → Nat → Nat → Builder (List Json × Nat)
  | 0, _, position => return ([], position)
  | fuel + 1, index, position => do
    if (← d.eventAt position).kind = .sequenceEnd then
      return ([], position + 1)
    let (v, next) ← read index position
    let (vs, stop) ← items d read fuel (index + 1) next
    return (v :: vs, stop)

/-- The key of a mapping that an event is. -/
def keyOf (path : Path) (isFirst : Bool) (e : Event) : Builder String :=
  match e.kind with
  | .scalar _ value _ => return String.ofList value
  | .sequenceStart _ => throw (.bad (.key true isFirst) path e.mark)
  | _ => throw (.bad (.key false isFirst) path e.mark)

/-- The members of a mapping from a position on, whose values are read by `read`, and the position
after them. -/
def members (d : Document) (path : Path) (read : Path → Nat → Builder (Json × Nat)) :
    Nat → Bool → Nat → Builder (List (String × Json) × Nat)
  | 0, _, position => return ([], position)
  | fuel + 1, isFirst, position => do
    let e ← d.eventAt position
    match e.kind with
    | .mappingEnd => return ([], position + 1)
    | kind => do
      let target ← match kind with
        | .aliasName _ => d.eventAt (← d.follow position)
        | _ => pure e
      let key ← keyOf path isFirst target
      let inner := match kind with
        | .aliasName _ => Path.unknown path
        | _ => Path.member path key
      let (v, next) ← read inner (position + 1)
      let (vs, stop) ← members d path read fuel false next
      return ((key, v) :: vs, stop)

/-- A member put into members in the order of their keys; it replaces one with the same key. -/
def insertMember (key : String) (v : Json) : List (String × Json) → List (String × Json)
  | [] => [(key, v)]
  | (k, w) :: ms =>
    if key < k then (key, v) :: (k, w) :: ms
    else if key = k then (k, v) :: ms
    else (k, w) :: insertMember key v ms

/-- Members in the order of their keys, the last of equal keys only. -/
def sortMembers (ms : List (String × Json)) : List (String × Json) :=
  ms.foldl (fun sorted m => insertMember m.1 m.2 sorted) []

/-- Whether a node has a tag that makes it no plain value. -/
def isTagged (ps : Properties) : Bool := ps.tag.any fun t => t.head? = some '!'

/-- The event of a node at a position, with aliases followed: its position, and that after the
node if it is an alias. -/
def resolve (d : Document) (position : Nat) : Builder (Event × Nat) := do
  let e ← d.eventAt position
  match e.kind with
  | .aliasName _ => do
    let target ← d.follow position
    return (← d.eventAt target, target)
  | _ => return (e, position)

/-- The value of the node at a position, and the position after it; `depth` counts how many
structures can still be opened. -/
def valueAt (d : Document) (depth : Nat) (path : Path) (position : Nat) : Builder (Json × Nat) := do
  let (e, start) ← d.resolve position
  let after (next : Nat) : Nat := if start = position then next else position + 1
  match e.kind with
  | .scalar ps value style =>
    match scalarValue ps.tag style value with
    | .ok v => return (v, after (start + 1))
    | .error problem => throw (.bad problem path e.mark)
  | .sequenceStart ps =>
    if isTagged ps then
      throw (.bad .tagged path e.mark)
    match depth with
    | 0 => throw (.tooDeep e.mark)
    | depth + 1 => do
      let (vs, next) ← d.items (fun index => d.valueAt depth (.item path index))
        (d.events.size + 1) 0 (start + 1)
      return (.array vs, after next)
  | .mappingStart ps =>
    if isTagged ps then
      throw (.bad .tagged path e.mark)
    match depth with
    | 0 => throw (.tooDeep e.mark)
    | depth + 1 => do
      let (ms, next) ← d.members path (d.valueAt depth) (d.events.size + 1) true (start + 1)
      return (.object (sortMembers ms), after next)
  | _ => return (.null, after (start + 1))

end Document

/-- How deep values can be nested. -/
def greatestDepth : Nat := 128

/-- The value of a text. -/
def parse (text : Text) : Except ValueFailure Json := do
  let s := Stream.ofText text
  let d := Document.ofEvents s.failure s.events ⟨#[], [], ⟨[], []⟩, none⟩
  let v ←
    if d.events.isEmpty && d.failure.isNone then pure Json.null
    else do
      let ((v, _), _) ← (d.valueAt greatestDepth .top 0).run 0
      pure v
  match d.failure with
  | some f => throw f
  | none => if s.hasMore then throw .manyDocuments else return v

end DocPreview.Yaml
