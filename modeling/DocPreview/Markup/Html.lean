import DocPreview.Markup.Document

/-!
# Documents as elements of HTML

Each part of a document becomes an element of HTML, with line breaks between the elements of a
container. A paragraph of nothing but tags and expressions is no element. The notes that are
called come in a section of their own at the end.

## Main definitions

* `Html`: elements, texts, and what the document itself writes as tags and scripts.
* `Html.ofDocument`: the elements of a document.
-/

namespace DocPreview.Markup

open Text

/-- The value of a property. -/
inductive PropertyValue where
  | isSet
  | text (s : Text)
  deriving Repr, DecidableEq

/-- What a document is shown as. -/
inductive Html where
  | text (s : Text)
  | element (name : String) (properties : List (String × PropertyValue)) (children : List Html)
  /-- An element that the document writes as tags, or a fragment. -/
  | component (name : Option String) (attributes : List Script.Node) (children : List Html)
  | expression (value : Option Script.Node)
  /-- Imports and exports, with the text they were read from. -/
  | module (items : List Script.Node) (source : Content)

namespace Html

/-- A property with a text. -/
def property (name : String) (s : Text) : String × PropertyValue := (name, .text s)

/-- A property with a fixed text. -/
def fixed (name value : String) : String × PropertyValue := (name, .text value.toList)

/-- A line break between elements. -/
def lineBreak : Html := .text ['\n']

/-- Whether a text holds nothing but white space. -/
def isSpaceText (s : Text) : Bool :=
  s.all fun c => c = ' ' || c = '\t' || c = '\n' || c = '\r' || c = '\x0c'

/-- Elements with line breaks between them. -/
def separate : List Html → List Html
  | [] => []
  | [h] => [h]
  | h :: hs => h :: lineBreak :: separate hs

/-- Elements with line breaks between them and at both ends. -/
def enclose (hs : List Html) : List Html :=
  if hs.isEmpty then [lineBreak] else lineBreak :: separate hs ++ [lineBreak]

/-! ### Addresses -/

/-- The characters of an address that stand for themselves. -/
def isAddressChar (c : Char) : Bool :=
  c.isAlphanum || ['!', '#', '$', '&', '\'', '(', ')', '*', '+', ',', '-', '.', '/', ':', ';',
    '=', '?', '@', '_', '~'].contains c

/-- The bytes of a character, each as a percent sign and two digits. -/
def percentEncoded (c : Char) : Text :=
  let digit (n : Nat) : Char := (Nat.digitChar n).toUpper
  c.toString.toUTF8.toList.flatMap fun b => ['%', digit (b.toNat / 16), digit (b.toNat % 16)]

/-- An address with its other characters encoded; `skip` counts the characters of an encoded byte
still to be kept. -/
def encodeAddressFrom : Nat → Text → Text
  | _, [] => []
  | n + 1, c :: r => c :: encodeAddressFrom n r
  | 0, c :: r =>
    match c, r with
    | '%', a :: b :: _ =>
      if a.isAlphanum && b.isAlphanum then c :: encodeAddressFrom 2 r
      else percentEncoded c ++ encodeAddressFrom 0 r
    | _, _ =>
      if isAddressChar c then c :: encodeAddressFrom 0 r
      else percentEncoded c ++ encodeAddressFrom 0 r

/-- An address with its other characters encoded. -/
def encodeAddress (s : Text) : Text := encodeAddressFrom 0 s

/-! ### Scripts -/

/-- The name of an attribute. -/
def attributeName (name : String) : Script.Node :=
  match Text.splitString ':' name with
  | [space, own] => .spacedName Script.Span.none space own
  | _ => .ident Script.Span.none name

/-- An attribute of a tag as one of an element. -/
def attributeOf : Attribute Point → Except Failure Script.Node
  | .named name none => return .attr Script.Span.none (attributeName name) none
  | .named name (some (.text value)) =>
    return .attr Script.Span.none (attributeName name)
      (some (.string Script.Span.none (String.ofList value) none))
  | .named name (some (.script value)) =>
    let e := match readExpression .value value with
      | .ok e => e
      | .error _ => none
    return .attr Script.Span.none (attributeName name) (some (.container Script.Span.none e))
  | .spread place value =>
    match readExpression .spread value with
    | .ok (some e) => return .spread Script.Span.none e
    | .ok none => throw (Failure.at place .noSpread)
    | .error problem => throw (Failure.at place problem)

/-- The expression between braces, if there is one. -/
def expressionOf (value : Text) : Option Script.Node :=
  match readExpression .content value with
  | .ok e => e
  | .error _ => none

/-! ### Notes -/

/-- The notes of a document, and how often each is called. -/
structure Notes where
  calls : List (Text × Nat)
  contents : List (Text × List Html)

/-- The form in which the labels of notes are compared and shown. -/
def noteName (label : Text) : Text := (normalizeLabel label).map lowerLetter

/-- The conversion of parts of a document, which counts the calls of notes. -/
abbrev Converter := StateT Notes (Except Failure)

/-- Counts a call of a note: the number of the note, and how often it has been called. -/
def countCall (name : Text) : List (Text × Nat) → List (Text × Nat) × Nat × Nat
  | [] => ([(name, 1)], 1, 1)
  | (n, k) :: rest =>
    if n = name then ((n, k + 1) :: rest, 1, k + 1)
    else
      let (rest', i, j) := countCall name rest
      ((n, k) :: rest', i + 1, j)

/-- The number after a name, from the second one on. -/
def suffix (n : Nat) : Text := if n ≤ 1 then [] else '-' :: (toString n).toList

/-- The call of a note. -/
def noteCall (label : Text) : Converter Html := do
  let name := noteName label
  let s ← get
  let (calls, number, count) := countCall name s.calls
  set { s with calls := calls }
  let safe := encodeAddress name
  return .element "sup" []
    [.element "a"
      [property "href" ("#fn-".toList ++ safe),
        property "id" ("fnref-".toList ++ safe ++ suffix count),
        ("data-footnote-ref", .isSet), fixed "aria-describedby" "footnote-label"]
      [.text (toString number).toList]]

/-- The links back to the calls of a note. -/
def backLinks (safe : Text) (count : Nat) : List Html :=
  (List.range count).flatMap fun i =>
    let mark : List Html :=
      if i = 0 then [] else [.element "sup" [] [.text (toString (i + 1)).toList]]
    let link := Html.element "a"
      [property "href" ("#fnref-".toList ++ safe ++ suffix (i + 1)),
        ("data-footnote-backref", .isSet),
        fixed "aria-label" "Back to content", fixed "className" "data-footnote-backref"]
      (.text "↩".toList :: mark)
    if i = 0 then [link] else [.text [' '], link]

/-- The elements of a note with the links back, which belong to the last paragraph. -/
def withBackLinks (content links : List Html) : List Html :=
  match content.getLast? with
  | some (.element "p" props children) =>
    let spaced := match children.getLast? with
      | some (.text s) => children.dropLast ++ [.text (s ++ [' '])]
      | _ => children ++ [.text [' ']]
    content.dropLast ++ [.element "p" props (spaced ++ links)]
  | _ => content ++ links

/-- The section of the notes that are called. -/
def noteSection (notes : Notes) : List Html :=
  if notes.calls.isEmpty then []
  else
    let items := notes.calls.map fun (name, count) =>
      let safe := encodeAddress name
      let content := ((notes.contents.find? fun c => c.1 = name).map (·.2)).getD []
      Html.element "li" [property "id" ("#fn-".toList ++ safe)]
        (enclose (withBackLinks content (backLinks safe count)))
    [lineBreak,
      .element "section" [("data-footnotes", .isSet), fixed "className" "footnotes"]
        [.element "h2" [fixed "id" "footnote-label", fixed "className" "sr-only"]
          [.text "Footnotes".toList],
          lineBreak, .element "ol" [] (enclose items), lineBreak],
      lineBreak]

/-! ### Parts of a document -/

/-- A text with each line end as one blank. -/
def joinLines : Text → Text
  | [] => []
  | '\r' :: '\n' :: r => ' ' :: joinLines r
  | c :: r => (if isLineEnd c then ' ' else c) :: joinLines r

/-- The elements of a paragraph: itself, or its parts if they are tags and expressions only. -/
def paragraph (children : List Html) : List Html :=
  let isOutside : Html → Bool
    | .component _ _ _ | .expression _ => true
    | _ => false
  let isSpace : Html → Bool
    | .text s => isSpaceText s
    | _ => false
  if children.any isOutside && children.all fun h => isOutside h || isSpace h then children
  else [.element "p" [] children]

/-- The title property, if there is a title. -/
def titleProperty (title : Option Text) : List (String × PropertyValue) :=
  (title.map (property "title")).toList

/-- The value of an alignment. -/
def alignProperty (a : Option Alignment) : List (String × PropertyValue) :=
  (a.map fun
    | .left => fixed "align" "left"
    | .center => fixed "align" "center"
    | .right => fixed "align" "right").toList

/-- A row with the alignments of the columns: cells that lack are added, others are left out. -/
def alignRow (cellName : String) (alignments : List (Option Alignment)) (row : Html) : Html :=
  let cells : List Html := match row with
    | .element _ _ cells => cells
    | _ => []
  let made := alignments.zipIdx.map fun (a, i) =>
    let children := match cells[i]? with
      | some (.element _ _ children) => children
      | _ => []
    Html.element cellName (alignProperty a) children
  .element "tr" [] (enclose made)

/-- The elements of a table with the given rows. -/
def tableOf (alignments : List (Option Alignment)) : List Html → Html
  | [] => .element "table" [] (enclose [])
  | head :: body =>
    let top := Html.element "thead" [] (enclose [alignRow "th" alignments head])
    let rest := if body.isEmpty then [] else
      [Html.element "tbody" [] (enclose (body.map (alignRow "td" alignments)))]
    .element "table" [] (enclose (top :: rest))

/-- The check of a task before the parts of an item. -/
def withCheck (checked : Option Bool) (children : List Html) : List Html :=
  match checked with
  | none => children
  | some b =>
    let input := Html.element "input"
      (fixed "type" "checkbox" :: (if b then [("checked", .isSet)] else []) ++
        [("disabled", .isSet)]) []
    match children with
    | .element "p" props inner :: rest =>
      .element "p" props (input :: (if inner.isEmpty then [] else .text [' '] :: inner)) :: rest
    | _ => .element "p" [] [input] :: children

/-- Whether an element is a paragraph. -/
def isParagraph : Html → Bool
  | .element "p" _ _ => true
  | _ => false

/-- The contents of an item. In a list that is not loose, paragraphs are only their contents. -/
def itemContents (isLoose isFirst : Bool) : List Html → List Html
  | [] => []
  | h :: hs =>
    let before := if isLoose || !isFirst || !isParagraph h then [lineBreak] else []
    let own := match h with
      | .element "p" _ inner => if isLoose then [h] else inner
      | _ => [h]
    let last := if hs.isEmpty && (isLoose || !isParagraph h) then [lineBreak] else []
    before ++ own ++ last ++ itemContents isLoose false hs

/-- An item of a list. -/
def item (isLoose : Bool) (checked : Option Bool) (children : List Html) : Html :=
  .element "li" (if checked.isSome then [fixed "className" "task-list-item"] else [])
    (itemContents isLoose true (withCheck checked children))

/-- The properties of a list with the given parts. -/
def listProperties (start : Option Nat) (children : List Node) : List (String × PropertyValue) :=
  let hasTask := children.any fun
    | .group (.item _ checked) _ => checked.isSome
    | _ => false
  (match start with
    | some n => if n = 1 then [] else [property "start" (toString n).toList]
    | none => []) ++
    if hasTask then [fixed "className" "contains-task-list"] else []

/-- The elements of a part that holds no other parts. -/
def ofLeaf : Leaf → Converter (List Html)
  | .text s => return [.text s]
  | .code language value =>
    let props := language.toList.map fun l => property "className" ("language-".toList ++ l)
    return [.element "pre" [] [.element "code" props [.text (value ++ ['\n'])]]]
  | .inlineCode value => return [.element "code" [] [.text (joinLines value)]]
  | .rule => return [.element "hr" [] []]
  | .lineBreak => return [.element "br" [] [], lineBreak]
  | .image url title alt =>
    return [.element "img"
      (property "src" (encodeAddress url) :: property "alt" alt :: titleProperty title) []]
  | .noteCall label => return [← noteCall label]
  | .expression value => return [.expression (expressionOf value)]
  | .module items source => return [.module items source]

/-- The elements of a group, given the parts and the elements of its parts. -/
def ofGroup (g : Group) (parts : List Node) (children : List Html) : Converter (List Html) :=
  match g with
  | .paragraph => return paragraph children
  | .heading depth _ => return [.element ("h" ++ toString depth) [] children]
  | .quote => return [.element "blockquote" [] (enclose children)]
  | .list start _ =>
    return [.element (if start.isSome then "ol" else "ul") (listProperties start parts)
      (enclose children)]
  | .item isLoose checked => return [item isLoose checked children]
  | .note label => do
    modify fun s => { s with contents := s.contents ++ [(noteName label, children)] }
    return []
  | .table alignments => return [tableOf alignments children]
  | .row => return [.element "tr" [] children]
  | .cell => return [.element "td" [] children]
  | .emphasis => return [.element "em" [] children]
  | .strong => return [.element "strong" [] children]
  | .strike => return [.element "del" [] children]
  | .link url title =>
    return [.element "a" (property "href" (encodeAddress url) :: titleProperty title) children]
  | .element name attributes =>
    return [.component name (← attributes.mapM (attributeOf ·)) children]

mutual

/-- The elements of a part of a document. -/
def ofNode : Node → Converter (List Html)
  | .leaf l => ofLeaf l
  | .group g children => do
    let inner ← ofNodes children
    ofGroup g children inner

/-- The elements of parts of a document. -/
def ofNodes : List Node → Converter (List Html)
  | [] => return []
  | n :: ns => do
    let h ← ofNode n
    return h ++ (← ofNodes ns)

end

/-- The elements of a document. -/
def ofDocument (nodes : List Node) : Except Failure (List Html) := do
  let (children, notes) ← (ofNodes nodes).run ⟨[], []⟩
  return separate children ++ noteSection notes

end Html

end DocPreview.Markup
