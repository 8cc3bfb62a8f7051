import DocPreview.Script.Reader.Basic
import DocPreview.Text.Entity

/-!
# JSX elements of scripts

An element is read character by character, since its names and texts are no tokens of scripts.
Expressions inside braces are read as tokens again.
-/

namespace DocPreview.Script.Reader

/-- A place after blanks and comments. -/
def afterTrivia (c : Cursor) : Reader Cursor := do
  let t := skipTrivia (c.rest.length + 1) false c
  match t.problem with
  | some f => throw f
  | none => return t.next

/-- Stops because a part of an element is needed at a place. -/
def failInTag {α : Type} (c : Cursor) (wanted : String) : Reader α := do
  if c.rest.isEmpty then
    failEnd
  let l := Lexeme.read c
  match l.token with
  | .bad f => throw f
  | .punct ">" => failAt l.span (.unexpectedToken "> (jsx tag end)" wanted)
  | t => failAt l.span (.unexpectedToken (shown t) wanted)

/-- A part of a name of an element. -/
def jsxWord (c : Cursor) : Reader (String × Cursor) := do
  let (name, next) := scanJsxName c
  if name.isEmpty then
    failInTag c "jsx identifier"
  return (name, next)

/-- The further parts of a name with points; `n` bounds their number. -/
def jsxMembers (lo : Nat) : Nat → Node → Cursor → Reader (Node × Cursor)
  | 0, e, c => return (e, c)
  | n + 1, e, c => do
    let dot ← afterTrivia c
    match dot.rest with
    | '.' :: _ =>
      let start ← afterTrivia dot.advance
      let (name, next) ← jsxWord start
      let part := Node.ident ⟨start.pos, next.pos⟩ name
      jsxMembers lo n (.member ⟨lo, next.pos⟩ e part false) next
    | _ => return (e, c)

/-- The name of an element. -/
def jsxElementName (c : Cursor) : Reader (Node × Cursor) := do
  let (name, next) ← jsxWord c
  match (← afterTrivia next).rest with
  | ':' :: _ =>
    let (second, stop) ← jsxWord (← afterTrivia (← afterTrivia next).advance)
    return (.spacedName ⟨c.pos, stop.pos⟩ name second, stop)
  | _ =>
    let span : Span := ⟨c.pos, next.pos⟩
    let first := if name = "this" then Node.this span else .ident span name
    jsxMembers c.pos (c.rest.length + 1) first next

/-- The name of an attribute. -/
def jsxAttributeName (c : Cursor) : Reader (Node × Cursor) := do
  let (name, next) ← jsxWord c
  match (← afterTrivia next).rest with
  | ':' :: _ =>
    let (second, stop) ← jsxWord (← afterTrivia (← afterTrivia next).advance)
    return (.spacedName ⟨c.pos, stop.pos⟩ name second, stop)
  | _ => return (.ident ⟨c.pos, next.pos⟩ name, next)

/-- What stands between braces: an expression or a spread one, or nothing. The place is the one
before the opening brace. -/
def braced (rules : Rules) (c : Cursor) : Reader (Option Node × Cursor) := do
  jump ⟨c.pos, c.pos + 1⟩ c.advance
  modify fun s => { s with lastToken := some (.punct "\x7b") }
  let l ← needToken
  if l.token = .punct "\x7d" then
    return (none, l.next)
  let e ← do
    if ← eat "..." then
      let arg ← rules .expression
      pure (Node.spread (← spanFrom l.span.lo) arg)
    else
      within (fun s => { s with allowsIn := true }) (rules .expression)
  let close ← needToken
  if close.token ≠ .punct "\x7d" then
    fail (.expected "\x7d" (shown close.token))
  commitComments
  return (some e, close.next)
where
  /-- Keeps the comments before the closing brace. -/
  commitComments : Reader Unit :=
    modify fun s =>
      let placed := s.cur.comments.map (placeComment s.lastToken s.last s.cur.span.lo)
      { s with comments := placed.reverse ++ s.comments }

/-- An attribute of an element. -/
def jsxAttribute (rules : Rules) (c : Cursor) : Reader (Node × Cursor) := do
  match c.rest with
  | '\x7b' :: _ =>
    match ← braced rules c with
    | (some (.spread _ arg), next) => return (.spread ⟨c.pos, next.pos⟩ arg, next)
    | (some e, _) => failAt e.span (.expected "..." "expression")
    | (none, next) => failAt ⟨next.pos - 1, next.pos⟩ (.expected "..." "\x7d")
  | _ =>
    let (name, afterName) ← jsxAttributeName c
    let eq ← afterTrivia afterName
    match eq.rest with
    | '=' :: _ =>
      let v ← afterTrivia eq.advance
      match v.rest with
      | '"' :: _ => quoted name v '"'
      | '\'' :: _ => quoted name v '\''
      | '\x7b' :: _ =>
        match ← braced rules v with
        | (some e, next) =>
          return (.attr ⟨c.pos, next.pos⟩ name (some (.container ⟨v.pos, next.pos⟩ (some e))), next)
        | (none, _) => do
          jump ⟨v.pos, v.pos⟩ v
          let _ ← rules .expression
          failAt ⟨v.pos, v.pos + 2⟩ .emptyJsxAttribute
      | '<' :: _ =>
        jump ⟨v.pos, v.pos⟩ v
        let e ← rules .element
        let next := (← get).start
        return (.attr ⟨c.pos, next.pos⟩ name (some e), next)
      | [] => failEnd
      | _ => failAt ⟨v.pos, v.pos + 1⟩ .jsxValueExpected
    | _ => return (.attr ⟨c.pos, afterName.pos⟩ name none, afterName)
where
  /-- A string as the value of an attribute. -/
  quoted (name : Node) (v : Cursor) (quote : Char) : Reader (Node × Cursor) := do
    match scanJsxString quote v.advance with
    | none => failAt ⟨v.pos, v.pos⟩ .unterminatedString
    | some (raw, next) =>
      let value := String.ofList (Entity.decodeBasic raw)
      let text := String.ofList (quote :: raw ++ [quote])
      return (.attr ⟨c.pos, next.pos⟩ name
        (some (.string ⟨v.pos, next.pos⟩ value (some text))), next)

/-- The attributes of an element, and the place of the end of its opening tag; `n` bounds their
number. -/
def jsxAttributes (rules : Rules) : Nat → Cursor → Reader (List Node × Cursor)
  | 0, c => return ([], c)
  | n + 1, c => do
    let start ← afterTrivia c
    match start.rest with
    | '/' :: _ => return ([], start)
    | '>' :: _ => return ([], start)
    | [] => failEnd
    | _ =>
      let (a, next) ← jsxAttribute rules start
      let (more, stop) ← jsxAttributes rules n next
      return (a :: more, stop)

/-- The name of an element as written. -/
def jsxNameText : Node → String
  | .ident _ n => n
  | .this _ => "this"
  | .member _ o (.ident _ p) _ => jsxNameText o ++ "." ++ p
  | .spacedName _ s n => s ++ ":" ++ n
  | _ => ""

/-- Text between elements. A closing bracket or brace in it is noted. -/
def jsxTextFrom : Nat → Cursor → Reader (List Char × Cursor)
  | 0, c => return ([], c)
  | n + 1, c => do
    let (raw, next) := scanJsxText c
    match next.rest with
    | [] => failAt ⟨c.pos, c.pos⟩ .unterminatedJsx
    | '>' :: _ =>
      noteAt ⟨next.pos, next.pos⟩ (.unexpectedText "\x60\x7b'>'\x7d\x60 or \x60&gt;\x60")
      let (more, stop) ← jsxTextFrom n next.advance
      return (raw ++ '>' :: more, stop)
    | '\x7d' :: _ =>
      noteAt ⟨next.pos, next.pos⟩ (.unexpectedText "\x60\x7b'\x7d'\x7d\x60 or \x60&rbrace;\x60")
      let (more, stop) ← jsxTextFrom n next.advance
      return (raw ++ '\x7d' :: more, stop)
    | _ => return (raw, next)

/-- The children of an element up to the place of its closing tag; `n` bounds their number. -/
def jsxChildren (rules : Rules) : Nat → Cursor → Reader (List Node × Cursor)
  | 0, c => return ([], c)
  | n + 1, c => do
    match c.rest with
    | [] => failAt ⟨c.pos, c.pos⟩ .unterminatedJsx
    | '\x7b' :: _ =>
      let (e, next) ← braced rules c
      let child : Node := match e with
        | some (.spread _ arg) => .spread ⟨c.pos, next.pos⟩ arg
        | e => .container ⟨c.pos, next.pos⟩ e
      let (more, stop) ← jsxChildren rules n next
      return (child :: more, stop)
    | '<' :: _ =>
      let name ← afterTrivia c.advance
      match name.rest with
      | '/' :: _ => return ([], c)
      | _ =>
        jump ⟨c.pos, c.pos⟩ c
        let e ← rules .element
        let (more, stop) ← jsxChildren rules n (← get).start
        return (e :: more, stop)
    | _ =>
      let (raw, next) ← jsxTextFrom (c.rest.length + 1) c
      let value := String.ofList (Entity.decodeBasic raw)
      let (more, stop) ← jsxChildren rules n next
      return (.text ⟨c.pos, next.pos⟩ value :: more, stop)

/-- The closing tag of an element: its name, if it has one, and the place after it. -/
def jsxClosing (c : Cursor) : Reader (Option Node × Span × Cursor) := do
  let slash ← afterTrivia c.advance
  let nameStart ← afterTrivia slash.advance
  match nameStart.rest with
  | '>' :: _ => return (none, ⟨c.pos, nameStart.pos + 1⟩, nameStart.advance)
  | _ =>
    let (name, afterName) ← jsxElementName nameStart
    let close ← afterTrivia afterName
    match close.rest with
    | '>' :: _ => return (some name, name.span, close.advance)
    | _ => failInTag close "jsx tag end"

/-- Goes on after an element. -/
def jumpAfterElement (c : Cursor) : Reader Unit := do
  jump ⟨c.pos - 1, c.pos⟩ c
  modify fun s => { s with lastToken := some (.punct ">") }

/-- An element or a fragment, whose opening angle bracket is the next token. -/
def element (rules : Rules) : Reader Node := do
  let l ← cur
  let lo := l.span.lo
  let open' : Cursor := ⟨(← get).start.rest.drop (lo - (← get).start.pos), lo⟩
  let nameStart ← afterTrivia open'.advance
  match nameStart.rest with
  | '>' :: rest =>
    let (children, c) ← jsxChildren rules (rest.length + 1) nameStart.advance
    let (name, span, stop) ← jsxClosing c
    if name.isSome then
      failAt span .jsxClosingFragment
    jumpAfterElement stop
    return .fragment ⟨lo, stop.pos⟩ children
  | rest =>
    let (name, afterName) ← jsxElementName nameStart
    let (attributes, close) ← jsxAttributes rules (rest.length + 1) afterName
    match close.rest with
    | '/' :: _ =>
      let bracket ← afterTrivia close.advance
      match bracket.rest with
      | '>' :: _ =>
        jumpAfterElement bracket.advance
        return .element ⟨lo, bracket.pos + 1⟩ name attributes [] true
      | _ => failInTag bracket "> (jsx closing tag)"
    | _ =>
      let (children, c) ← jsxChildren rules (rest.length + 1) close.advance
      let (closing, span, stop) ← jsxClosing c
      if closing.map jsxNameText ≠ some (jsxNameText name) then
        failAt span (.jsxClosingTag (jsxNameText name))
      jumpAfterElement stop
      return .element ⟨lo, stop.pos⟩ name attributes children false

end DocPreview.Script.Reader
