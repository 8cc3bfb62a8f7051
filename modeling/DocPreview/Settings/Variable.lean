import DocPreview.Text.Alphanumeric
import DocPreview.Text.Basic

/-!
# References to variables

A text can refer to variables by names between braces after a dollar, with a default after a colon
and a minus for a variable that is not set. In a text with such a reference, a dollar before letters
and numbers refers to a variable as well, and two dollars stand for one. What is put in for a
reference is not looked at again.

## Main definitions

* `Reference`: a name with its default.
* `parts`: the characters and references of a text.
* `expandAll`: a text with all references replaced.
* `expand`: a text with its references replaced if it has some with braces.
-/

namespace DocPreview.Variable

open Text

/-- The values of the variables that are set. -/
abbrev Assignment := Text → Option Text

/-- A variable that is not set and has no default. -/
structure Unset where
  name : Text
  deriving Repr, DecidableEq

/-- The words for a variable that is not set. -/
def Unset.message (u : Unset) : String :=
  "$\x7b" ++ String.ofList u.name ++ "\x7d: environment variable not found"

/-- A name of a variable, and what stands for it if it is not set. -/
structure Reference where
  name : Text
  default : Option Text
  deriving Repr, DecidableEq

/-- What stands between braces, as a reference. A default needs a name before it. -/
def Reference.ofText (inside : Text) : Reference :=
  match findText [':', '-'] inside with
  | some (name, default) => if name.isEmpty then ⟨inside, none⟩ else ⟨name, some default⟩
  | none => ⟨inside, none⟩

/-- What a reference stands for. -/
def Reference.value (values : Assignment) (r : Reference) : Except Unset Text :=
  match (values r.name).orElse fun _ => r.default with
  | some v => .ok v
  | none => .error ⟨r.name⟩

/-- The characters of a name without braces. -/
def isNameChar (c : Char) : Bool := Unicode.isAlphanumeric c || c = '_'

/-- The text up to a character, and what follows the character. -/
def cutAt (stop : Char) : Text → Option (Text × Text)
  | [] => none
  | c :: r => if c = stop then some ([], r) else (cutAt stop r).map fun (a, b) => (c :: a, b)

theorem length_of_cutAt {stop : Char} {s a b : Text} (h : cutAt stop s = some (a, b)) :
    b.length < s.length := by
  induction s generalizing a with
  | nil => simp [cutAt] at h
  | cons c r ih =>
    by_cases hc : c = stop
    · simp [cutAt, hc] at h
      simp [h.2]
    · simp only [cutAt, hc, if_false, Option.map_eq_some_iff, Prod.mk.injEq] at h
      obtain ⟨⟨x, y⟩, hxy, -, rfl⟩ := h
      exact Nat.lt_succ_of_lt (ih hxy)

/-- A character that stands for itself, or a reference. -/
inductive Part where
  | char (c : Char)
  | reference (r : Reference)
  deriving Repr, DecidableEq

/-- The parts of a text. -/
def parts : Text → List Part
  | [] => []
  | '$' :: '\x7b' :: r =>
    match _h : cutAt '\x7d' r with
    | some (inside, rest) => .reference (.ofText inside) :: parts rest
    | none => .char '$' :: .char '\x7b' :: parts r
  | '$' :: '$' :: r => .char '$' :: parts r
  | '$' :: c :: r =>
    if isNameChar c then
      .reference ⟨c :: r.takeWhile isNameChar, none⟩ :: parts (r.dropWhile isNameChar)
    else .char '$' :: parts (c :: r)
  | c :: r => .char c :: parts r
termination_by s => s.length
decreasing_by
  · exact Nat.lt_succ_of_lt (Nat.lt_succ_of_lt (length_of_cutAt _h))
  · exact Nat.lt_succ_of_lt (Nat.lt_succ_self _)
  · exact Nat.lt_succ_of_lt (Nat.lt_succ_self _)
  · exact Nat.lt_succ_of_lt (Nat.lt_succ_of_le (List.dropWhile_sublist isNameChar).length_le)
  · simp
  · simp

/-- What a part stands for. -/
def Part.value (values : Assignment) : Part → Except Unset Text
  | char c => .ok [c]
  | reference r => r.value values

/-- A text with all references replaced. -/
def expandAll (values : Assignment) (s : Text) : Except Unset Text :=
  ((parts s).mapM (Part.value values)).map List.flatten

/-- The names of the variables that a text refers to. -/
def names (s : Text) : List Text :=
  (parts s).filterMap fun
    | .char _ => none
    | .reference r => some r.name

/-- A text with its references replaced. Without a reference with braces, all is kept. -/
def expand (values : Assignment) (s : Text) : Except Unset Text :=
  if (findText ['$', '\x7b'] s).isSome then expandAll values s else .ok s

end DocPreview.Variable
