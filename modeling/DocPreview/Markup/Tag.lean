import DocPreview.Markup.Embedded
import DocPreview.Text.Entity

/-!
# Tags of elements

A tag stands between `<` and `>`. It names an element, or no name stands for a fragment. A `<`
before white space starts no tag, and neither does one whose tag does not end; anything else
that is wrong inside a tag is a failure.

## Main definitions

* `Tag`, `Attribute`: tags and their attributes.
* `closeExpression`: the expression that an opening brace starts.
* `Tag.scan`: the tag that a text starts with.
-/

namespace DocPreview.Markup

open Script (Cursor)

/-- The value of an attribute. -/
inductive AttributeValue where
  | text (value : Text)
  | script (value : Text)
  deriving Repr, DecidableEq

/-- An attribute of a tag in a text with places `α`. -/
inductive Attribute (α : Type) where
  /-- The members of an object, whose expression starts at a place. -/
  | spread (place : α) (value : Text)
  | named (name : String) (value : Option AttributeValue)
  deriving Repr, DecidableEq

/-- An attribute with its place read otherwise. -/
def Attribute.map {α β : Type} (f : α → β) : Attribute α → Attribute β
  | spread place value => spread (f place) value
  | named name value => named name value

/-- A tag in a text with places `α`. -/
structure Tag (α : Type) where
  name : Option String
  isClosing : Bool
  isSelfClosing : Bool
  attributes : List (Attribute α)
  start : α
  stop : α
  deriving Repr, DecidableEq

/-- A tag with its places read otherwise. -/
def Tag.map {α β : Type} (f : α → β) (t : Tag α) : Tag β :=
  { name := t.name, isClosing := t.isClosing, isSelfClosing := t.isSelfClosing,
    attributes := t.attributes.map (Attribute.map f), start := f t.start, stop := f t.stop }

/-- A tag without its attributes. -/
def Tag.abbreviated {α : Type} (t : Tag α) : String :=
  (if t.isClosing then "</" else "<") ++ t.name.getD "" ++ ">"

/-- Why a text does not go on with a tag or an expression. -/
inductive ScanStop where
  | notTag
  | failed (index : Nat) (problem : Problem)
  /-- The text ends inside a tag. -/
  | endsInTag
  /-- The text ends inside an expression. -/
  | endsInExpression (problem : Problem)
  deriving Repr, DecidableEq

/-- The expression up to its closing brace, and what follows it. Up to two columns of the
indentation of a further line are left out; `blanks` counts those still to be left out, and `seen`
holds the characters so far with their numbers. -/
def closeExpression (kind : ExpressionKind) (seen : List (Char × Nat)) (pending : Problem)
    (blanks : Nat) : Text → Nat → Except ScanStop (Text × Cursor)
  | [], _ => .error (.endsInExpression pending)
  | c :: r, pos =>
    if 0 < blanks && Line.isIndent c then
      closeExpression kind seen pending (blanks - 1) r (pos + 1)
    else if c = '\x7d' then
      let value := seen.reverse
      let text := value.map (·.1)
      match checkExpression kind text with
      | .complete => .ok (text, ⟨r, pos + 1⟩)
      | .unfinished p => closeExpression kind ((c, pos) :: seen) p 0 r (pos + 1)
      | .invalid i p =>
        .error (.failed (((value[i]?).map (·.2)).getD pos) p)
    else
      closeExpression kind ((c, pos) :: seen) pending (if Text.isLineEnd c then 2 else 0) r
        (pos + 1)

/-- The expression after an opening brace. -/
def scanExpression (kind : ExpressionKind) (c : Cursor) : Except ScanStop (Text × Cursor) :=
  closeExpression kind [] .unclosedExpression 0 c.rest c.pos

namespace Tag

/-- An action that goes over the characters of a tag. -/
abbrev Scanner := StateT Cursor (Except ScanStop)

/-- The blanks, tabs and line ends that separate the parts of a tag. -/
def isSpace (c : Char) : Bool := c = ' ' || c = '\t' || c = '\n' || c = '\r'

/-- The characters that can stand in a name. -/
def isNamePart (c : Char) : Bool := c = '-' || Script.isNamePart c

/-- The next character; a text that ends here ends inside the tag. -/
def next : Scanner Char := do
  match (← get).rest with
  | [] => throw .endsInTag
  | c :: _ => return c

/-- Passes over one character. -/
def pass : Scanner Unit := modify Cursor.advance

/-- Passes over the separators. -/
def spaces : Scanner Unit := modify (Cursor.skipWhile isSpace)

/-- Stops at a character that cannot stand here. -/
def crash {α : Type} (place : TagPlace) : Scanner α := do
  let c ← next
  throw (.failed (← get).pos (.unexpectedCharacter c place))

/-- A name that starts here, or a failure. After it stands a separator or one of the characters
`ends`. -/
def readName (before inside : TagPlace) (ends : List Char) : Scanner Text := do
  let c ← next
  if !Script.isNameStart c then
    crash before
  let text := (← get).rest.takeWhile isNamePart
  modify (Cursor.skip · text.length)
  match (← get).rest with
  | [] => return text
  | d :: _ =>
    if Text.isBlank d || ends.contains d then
      return text
    crash inside

/-- Whether a character can come after a name: it ends the tag or starts an attribute. -/
def canFollow (c : Char) : Bool := c = '/' || c = '>' || c = '\x7b' || Script.isNameStart c

/-- The rest of the name of an element whose first name has been read. -/
def memberNames : Nat → Text → Scanner Text
  | 0, text => return text
  | n + 1, text => do
    spaces
    let c ← next
    if c = '.' then
      pass
      spaces
      let m ← readName .beforeMemberName .inMemberName ['.', '/', '<', '>', '\x7b']
      memberNames n (text ++ '.' :: m)
    else if canFollow c then return text
    else crash .afterMemberName

/-- The name of an element. -/
def readElementName (before : TagPlace) : Scanner Text := do
  let first ← readName before .inName ['.', '/', ':', '<', '>', '\x7b']
  spaces
  let c ← next
  if c = '.' then
    memberNames (← get).rest.length first
  else if c = ':' then
    pass
    spaces
    let l ← readName .beforeLocalName .inLocalName ['/', '>', '\x7b']
    spaces
    if canFollow (← next) then
      return first ++ ':' :: l
    crash .afterLocalName
  else if canFollow c then return first
  else crash .afterName

/-- The name of an attribute, and whether a value follows. -/
def readAttributeName : Scanner (Text × Bool) := do
  let first ← readName .beforeAttribute .inAttribute ['/', ':', '=', '>', '\x7b']
  spaces
  let c ← next
  if c = ':' then
    pass
    spaces
    let l ← readName .beforeLocalAttribute .inLocalAttribute ['/', '=', '>', '\x7b']
    spaces
    let d ← next
    if d = '=' || canFollow d then
      return (first ++ ':' :: l, d = '=')
    crash .afterLocalAttribute
  else if c = '=' || canFollow c then return (first, c = '=')
  else crash .afterAttribute

/-- The characters up to a quote. The indentation of a further line is left out. -/
def quoted (quote : Char) (afterBreak : Bool) : Text → Nat → Option (Text × Cursor)
  | [], _ => none
  | c :: r, pos =>
    if c = quote then some ([], ⟨r, pos + 1⟩)
    else if afterBreak && Line.isIndent c then quoted quote true r (pos + 1)
    else (quoted quote (c = '\n' || c = '\r') r (pos + 1)).map fun (s, next) => (c :: s, next)

/-- The expression that the next character opens. -/
def readExpressionAt (kind : ExpressionKind) : Scanner Text := do
  pass
  let (text, rest) ← scanExpression kind (← get)
  set rest
  return text

/-- The value of an attribute. -/
def readValue : Scanner AttributeValue := do
  let c ← next
  if c = '"' || c = '\'' then
    pass
    let start ← get
    match quoted c false start.rest start.pos with
    | none => throw .endsInTag
    | some (s, rest) =>
      set rest
      return .text (Entity.decode s)
  else if c = '\x7b' then
    return .script (← readExpressionAt .value)
  else crash .beforeValue

/-- The attributes of a tag up to its end, and whether the tag closes itself. -/
def readAttributes : Nat → Scanner (List (Attribute Nat) × Bool)
  | 0 => throw .endsInTag
  | n + 1 => do
    spaces
    let c ← next
    if c = '>' then
      pass
      return ([], false)
    if c = '/' then
      pass
      spaces
      if (← next) = '>' then
        pass
        return ([], true)
      crash .afterSlash
    let a ← do
      if c = '\x7b' then
        let index := (← get).pos + 1
        pure (Attribute.spread index (← readExpressionAt .spread))
      else
        let (name, hasValue) ← readAttributeName
        if hasValue then
          pass
          spaces
          let v ← readValue
          pure (Attribute.named (String.ofList name) (some v))
        else
          pure (Attribute.named (String.ofList name) none)
    let (more, isSelfClosing) ← readAttributes n
    return (a :: more, isSelfClosing)

/-- A tag after its `<`, which stands at the character `start`. -/
def readTag (start : Nat) : Scanner (Tag Nat) := do
  if (← get).rest.head?.any isSpace then
    throw .notTag
  let isClosing ← do
    if (← next) = '/' then
      pass
      spaces
      pure true
    else
      pure false
  if (← next) = '>' then
    pass
    return ⟨none, isClosing, false, [], start, (← get).pos⟩
  let name ← readElementName (if isClosing then .beforeClosingName else .beforeName)
  let (attributes, isSelfClosing) ← readAttributes ((← get).rest.length + 1)
  return ⟨some (String.ofList name), isClosing, isSelfClosing, attributes, start, (← get).pos⟩

/-- The tag that starts at a place, whose next character is `<`, and where the text goes on. -/
def scan (c : Cursor) : Except ScanStop (Tag Nat × Cursor) := (readTag c.pos).run c.advance

end Tag

end DocPreview.Markup
