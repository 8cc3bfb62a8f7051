import DocPreview.Toml.Value

/-!
# Documents of TOML

A document is a table. Its lines add values to the table that the last header names, which is the
whole document before the first header.

## Main definitions

* `Draft`: the document so far, and the table that values are added to.
* `Draft.openTable`, `Draft.openItem`, `Draft.add`: the draft after a line.
* `parse`: the document that a text holds.
-/

namespace DocPreview.Toml

open Reader

/-- How a table with a header came about. -/
def Origin.header : Origin := ⟨false, false, false⟩

/-- The document so far, and the table that values are added to. -/
structure Draft where
  /-- The document without the current table. -/
  root : Table
  current : Table
  /-- The keys that lead to the current table. -/
  path : List Key
  /-- Whether the current table is an item of an array. -/
  isItem : Bool

namespace Draft

/-- Nothing yet. -/
def empty : Draft := ⟨⟨.header, [], none⟩, ⟨.header, [], none⟩, [], false⟩

/-- The document with a change in the table that holds the last key of a path. -/
def changeAt {β : Type} (root : Table) (path : List Key)
    (change : Key → Members → Except Clash (β × Members)) : Except Clash (Option (β × Table)) :=
  match path.getLast? with
  | none => .ok none
  | some key =>
    let within (t : Table) : Except Clash (β × Table) :=
      (change key t.members).map fun (b, ms) => (b, { t with members := ms })
    (changeWithin false false within [] path.dropLast root).map some

/-- The stretch of tables with headers of their own. -/
def spanOfItems (items : List (Value × Option Span)) : Option Span :=
  match items.head?.bind (·.2), items.getLast?.bind (·.2) with
  | some first, some last => some ⟨first.start, last.stop⟩
  | _, _ => none

/-- The document with the current table put into it. -/
def close (d : Draft) : Except Clash Table := do
  let v := Value.table d.current.origin d.current.members
  let put (key : Key) (ms : Members) : Except Clash (Unit × Members) :=
    match d.isItem, member? key.name ms with
    | true, some (.tables items, _) =>
      let items := items ++ [(v, d.current.span)]
      .ok ((), putMember key (.tables items) (spanOfItems items) ms)
    | false, none => .ok ((), putMember key v d.current.span ms)
    | _, _ => .error (.ofPath d.path)
  match ← changeAt d.root d.path put with
  | some (_, root) => return root
  | none => return d.current

/-- The draft after the header of a table. A table that is there already counts if only keys of
tables within it made it. -/
def openTable (d : Draft) (path : List Key) (span : Span) : Except Clash Draft := do
  let root ← d.close
  let take (key : Key) (ms : Members) : Except Clash (Members × Members) :=
    match member? key.name ms with
    | none => .ok ([], ms)
    | some (.table origin inner, _) =>
      if origin.isImplied && !origin.isDotted then
        .ok (inner, ms.filter fun m => m.1.name ≠ key.name)
      else .error (.ofPath path)
    | some _ => .error (.ofPath path)
  match ← changeAt root path take with
  | some (inner, root) => return ⟨root, ⟨.header, inner, some span⟩, path, false⟩
  | none => return d

/-- The draft after the header of an item of an array of tables. -/
def openItem (d : Draft) (path : List Key) (span : Span) : Except Clash Draft := do
  let root ← d.close
  let find (key : Key) (ms : Members) : Except Clash (Unit × Members) :=
    match member? key.name ms with
    | none => .ok ((), putMember key (.tables []) none ms)
    | some (.tables _, _) => .ok ((), ms)
    | some _ => .error (.ofPath path)
  match ← changeAt root path find with
  | some (_, root) => return ⟨root, ⟨.header, [], some span⟩, path, true⟩
  | none => return d

/-- The draft after a line with a key and a value. -/
def add (d : Draft) (keys : List Key) (v : Value) (span : Span) : Except Clash Draft := do
  match keys.getLast? with
  | none => return d
  | some key =>
    let extended := d.current.span.map fun (s : Span) => { s with stop := span.stop }
    let current : Table := { d.current with span := extended }
    return { d with current := ← current.add false keys.dropLast key v span (some d.path) }

end Draft

/-! ### Reading lines -/

/-- What follows a header or a value on its line. -/
def trailing : Reader Unit := expecting ["newline", quotedChar '#'] lineRest

/-- A header between brackets. -/
def headerIn (opener closer : String) : Reader (List Key × Span) := do
  let header ← spanned do
    word opener.toList
    let keys ← commit dottedKey
    expecting [quotedChar '.', "\x60" ++ closer ++ "\x60"] (commit (word closer.toList))
    return keys
  commit trailing
  return header

/-- A line with a header, added to a draft. -/
def header (d : Draft) : Reader Draft := named "table header" do
  match ← lookTwo with
  | ['[', '['] =>
    check (headerIn "[[" "]]") fun (path, span) => (d.openItem path span).mapError Clash.problem
  | [_, _] =>
    check (headerIn "[" "]") fun (path, span) => (d.openTable path span).mapError Clash.problem
  | _ => miss .unknown

/-- A line with a key and a value, added to a draft. -/
def keyLine (d : Draft) : Reader Draft :=
  check (do
    let keys ← dottedKey
    commit do
      keySign
      space
      let (v, span) ← value (nestingLimit - 1)
      trailing
      return (keys, v, span))
    fun (keys, v, span) => (d.add keys v span).mapError Clash.problem

/-- A line, added to a draft. -/
def line (d : Draft) : Reader Draft := do
  match ← look with
  | none => miss .unknown
  | some '#' => do
    commit do
      comment
      lineEnd
    return d
  | some '[' => commit (header d)
  | some '\n' | some '\r' => do
    newline
    return d
  | some _ => commit (keyLine d)

/-- Lines, added to a draft; `fuel` bounds their number. -/
def linesWithin : Nat → Draft → Reader Draft
  | 0, d => pure d
  | fuel + 1, d => do
    space
    match ← optional (line d) with
    | none => return d
    | some d => linesWithin fuel d

/-- The lines of a whole text. -/
def document : Reader Draft := fun rest =>
  (do
    let _ ← optional (char '\uFEFF')
    let d ← linesWithin (rest.text.length + 1) .empty
    atEnd
    return d : Reader Draft) rest

/-- A problem at a place of a text. -/
def Problem.at (p : Problem) (position : Nat) (text : Text) : Failure :=
  ⟨p.message, some ⟨position, min (position + 1) text.length⟩⟩

/-- The document that a text holds. -/
def parse (text : Text) : Except Failure Table :=
  match document ⟨text, 0⟩ with
  | .found d _ => d.close.mapError fun c => ⟨c.message, none⟩
  | .missed p rest => .error (p.at rest.position text)
  | .failed p rest => .error (p.at rest.position text)

end DocPreview.Toml
