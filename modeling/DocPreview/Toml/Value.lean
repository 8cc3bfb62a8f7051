import DocPreview.Toml.Number
import DocPreview.Toml.Quoted

/-!
# Values of TOML

A value is a string, a number, a truth value, a date, an array or a table. Of a table, it is kept
how it came about, since this decides what can be added to it.

## Main definitions

* `Key`, `Value`, `Table`: keys, values and tables.
* `Clash`: why a key cannot be added.
* `Table.within`: a change of a table that a path of keys leads to.
* `value`: reads a value.
-/

namespace DocPreview.Toml

open Reader

/-- A name in a table. -/
structure Key where
  name : Text
  span : Span
  deriving Repr, DecidableEq

/-- How a table came about. -/
structure Origin where
  /-- Whether only keys of tables within it made it. -/
  isImplied : Bool
  /-- Whether a key with dots made it. -/
  isDotted : Bool
  /-- Whether it is a value between braces, or was made within one. -/
  isInline : Bool
  deriving Repr, DecidableEq

/-- A value. The parts of arrays and tables have the stretches that they take, where known. -/
inductive Value where
  | string (s : Text)
  | integer (n : Int)
  | number (x : Number)
  | boolean (b : Bool)
  | dateTime
  | array (items : List (Value × Option Span))
  /-- Tables with headers of their own. -/
  | tables (items : List (Value × Option Span))
  | table (origin : Origin) (members : List (Key × Value × Option Span))
  deriving Repr

/-- The members of a table, the oldest first. -/
abbrev Members := List (Key × Value × Option Span)

/-- A table. -/
structure Table where
  origin : Origin
  members : Members
  span : Option Span

/-- The member with a name. -/
def member? (name : Text) (ms : Members) : Option (Value × Option Span) :=
  (ms.find? fun m => m.1.name = name).map (·.2)

/-- Members with a value put in the place of the one with a name, or at the end. -/
def putMember (key : Key) (v : Value) (span : Option Span) : Members → Members
  | [] => [(key, v, span)]
  | (k, w, s) :: ms =>
    if k.name = key.name then (k, v, span) :: ms else (k, w, s) :: putMember key v span ms

/-- The word for the kind of a value. -/
def Value.kind : Value → String
  | .string _ => "string"
  | .integer _ => "integer"
  | .number _ => "float"
  | .boolean _ => "boolean"
  | .dateTime => "datetime"
  | .array _ | .tables _ => "array"
  | .table _ _ => "inline table"

/-! ### Keys that clash -/

/-- A key as it is written: bare, or else between quotes. -/
def keyText (name : Text) : String :=
  let isBare := fun c : Char => c.isAlphanum || c = '-' || c = '_'
  let s := String.ofList name
  if !name.isEmpty && name.all isBare then s
  else if name.all fun c => isBasicChar c && c ≠ '\\' then "\"" ++ s ++ "\""
  else if name.all isLiteralChar then "'" ++ s ++ "'"
  else
    let escape (c : Char) : String :=
      if c = '"' || c = '\\' then "\\" ++ c.toString
      else if c = '\n' then "\\n"
      else if c = '\t' then "\\t"
      else if c = '\r' then "\\r"
      else c.toString
    "\"" ++ String.join (name.map escape) ++ "\""

/-- Keys as they are written, with dots between them. -/
def pathText (path : List Key) : String := ".".intercalate (path.map fun k => keyText k.name)

/-- Why a key cannot be added. -/
inductive Clash where
  /-- The key is there already; the table is given if it is known. -/
  | duplicate (name : String) (table : Option (List Key))
  /-- A path of keys leads to a value that is no table. -/
  | throughValue (path : List Key) (kind : String)
  deriving Repr, DecidableEq

/-- The text of a clash. -/
def Clash.message : Clash → String
  | .duplicate name none => "duplicate key \x60" ++ name ++ "\x60"
  | .duplicate name (some []) => "duplicate key \x60" ++ name ++ "\x60 in document root"
  | .duplicate name (some path) =>
    "duplicate key \x60" ++ name ++ "\x60 in table \x60" ++ pathText path ++ "\x60"
  | .throughValue path kind =>
    "dotted key \x60" ++ pathText path ++ "\x60 attempted to extend non-table type (" ++ kind ++ ")"

/-- A clash as a problem. -/
def Clash.problem (c : Clash) : Problem := .refused c.message

/-- The clash of a key of a path with one that is there. -/
def Clash.ofPath (path : List Key) : Clash :=
  .duplicate ((path.getLast?.map fun k => keyText k.name).getD "") (some path.dropLast)

/-- A table in which the table that a path of keys leads to is changed, with what the change gives.
Tables that are missing on the way are made; of tables with headers, the last one counts. `passed`
holds the keys that were followed already, the last one first. -/
def changeWithin {β : Type} (isDotted isInline : Bool) (change : Table → Except Clash (β × Table)) :
    List Key → List Key → Table → Except Clash (β × Table)
  | _, [], t => change t
  | passed, key :: path, t => do
    let (v, span) := (member? key.name t.members).getD
      (.table ⟨isDotted || !isInline, isDotted, isInline⟩ [], none)
    let next := changeWithin isDotted isInline change (key :: passed) path
    let put (v : Value) (span : Option Span) : Table :=
      { t with members := putMember key v span t.members }
    match v with
    | .table origin members =>
      if origin.isInline && !isInline then
        throw (.throughValue (key :: passed).reverse v.kind)
      if isDotted && !origin.isImplied then
        throw (.duplicate (String.ofList key.name) none)
      let (b, u) ← next ⟨origin, members, span⟩
      return (b, put (.table u.origin u.members) u.span)
    | .tables items =>
      match items.getLast? with
      | some (.table origin members, last) => do
        let (b, u) ← next ⟨origin, members, last⟩
        return (b, put (.tables (items.dropLast ++ [(.table u.origin u.members, u.span)])) span)
      | _ => throw (.throughValue (key :: passed).reverse v.kind)
    | v => throw (.throughValue (key :: passed).reverse v.kind)

/-- A table with a value added under a path of keys. The table that the path leads to must be made
by dots if the path has some, and else it must not. -/
def Table.add (t : Table) (isInline : Bool) (path : List Key) (key : Key) (v : Value)
    (span : Span) (whole : Option (List Key)) : Except Clash Table :=
  let put (u : Table) : Except Clash (Unit × Table) :=
    if u.origin.isDotted = path.isEmpty then
      .error (.duplicate (String.ofList key.name) none)
    else if (member? key.name u.members).isSome then
      .error (.duplicate (String.ofList key.name) whole)
    else .ok ((), { u with members := u.members ++ [(key, v, some span)] })
  (changeWithin (!path.isEmpty) isInline put [] path t).map (·.2)

/-! ### Reading values -/

/-- A key without dots. -/
def simpleKey : Reader Key := do
  let (name, span) ← spanned do
    match ← look with
    | none => miss .unknown
    | some '"' => basicString
    | some '\'' => literalString
    | some _ => takeWhile1 fun c => c.isAlphanum || c = '-' || c = '_'
  return ⟨name, span⟩

/-- How deep values can be nested, and how many dots a key can have. -/
def nestingLimit : Nat := 80

/-- The problem of a text that is nested too deep. -/
def tooDeep : Problem := .refused "recursion limit exceeded"

/-- A key, which can have dots. -/
def dottedKey : Reader (List Key) :=
  check
    (named "key" <| separated1 (do
      space
      let key ← simpleKey
      space
      return key) (char '.'))
    fun keys => if keys.length < nestingLimit then .ok keys else .error tooDeep

/-- The sign between a key and its value. -/
def keySign : Reader Unit := do
  let _ ← expecting [quotedChar '.', quotedChar '='] (char '=')

/-- The items of an array. -/
def arrayItems (item : Reader (Value × Span)) : Reader (List (Value × Span)) := do
  if (← look) = some ']' then
    return []
  let items ← separated (do
    gap
    let v ← item
    gap
    return v) (char ',')
  if !items.isEmpty then
    let _ ← optional (char ',')
  gap
  return items

/-- An array. -/
def array (item : Reader (Value × Span)) : Reader Value := do
  let _ ← char '['
  let items ← commit (arrayItems item)
  let _ ← named "array" (expecting [quotedChar ']'] (commit (char ']')))
  return .array (items.map fun (v, span) => (v, some span))

/-- A key with its value between braces. -/
def inlineMember (item : Reader (Value × Span)) : Reader (List Key × Value × Span) := do
  let keys ← dottedKey
  commit do
    keySign
    space
    let (v, span) ← item
    space
    return (keys, v, span)

/-- The table that members between braces make. -/
def inlineTableOf (ms : List (List Key × Value × Span)) : Except Problem Table :=
  let add (t : Table) (m : List Key × Value × Span) : Except Clash Table :=
    match m.1.getLast? with
    | none => .ok t
    | some key => t.add true m.1.dropLast key m.2.1 m.2.2 none
  (ms.foldlM add ⟨⟨false, false, true⟩, [], none⟩).mapError Clash.problem

/-- A table between braces. -/
def inlineTable (item : Reader (Value × Span)) : Reader Value := do
  let _ ← char '\x7b'
  let t ← commit <| check (do
    let ms ← separated (inlineMember item) (char ',')
    space
    return ms) inlineTableOf
  let _ ← named "inline table" (expecting [quotedChar '\x7d'] (commit (char '\x7d')))
  return .table t.origin t.members

/-- A reader at a place where a string would be the most likely value. -/
def likelyString (r : Reader Value) : Reader Value :=
  named "string" (expecting [quotedChar '"', quotedChar '\''] r)

/-- A given word for a truth value. -/
def truth (text : String) (b : Bool) : Reader Value := do
  commit (word text.toList)
  return .boolean b

/-- A number or a date. -/
def numeric : Reader Value :=
  orElse (do
    dateTime
    return .dateTime) <|
    orElse (do return .number (← number)) (do return .integer (← integer))

/-- A value, given the readers of arrays and of tables between braces. -/
def valueWith (arrays tables : Reader Value) : Reader Value := do
  match ← look with
  | none => miss .unknown
  | some '"' | some '\'' => return .string (← string)
  | some '[' => arrays
  | some '\x7b' => tables
  | some '_' => expecting ["leading digit"] do return .integer (← integer)
  | some '.' => expecting ["leading digit"] do return .number (← number)
  | some 't' => likelyString (truth "true" true)
  | some 'f' => likelyString (truth "false" false)
  | some 'i' => likelyString do
    word "inf".toList
    return .number (.infinite false)
  | some 'n' => likelyString do
    word "nan".toList
    return .number .notANumber
  | some c => if c = '+' || c = '-' || c.isDigit then numeric else likelyString (miss .unknown)

/-- A value with its stretch, in which values can be nested as deep as the number says. -/
def value : Nat → Reader (Value × Span)
  | 0 => spanned (valueWith (fail tooDeep) (fail tooDeep))
  | depth + 1 => spanned (valueWith (array (value depth)) (inlineTable (value depth)))

end DocPreview.Toml
