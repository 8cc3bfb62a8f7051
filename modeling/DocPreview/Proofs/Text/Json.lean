import DocPreview.Script.Token
import DocPreview.Text.Json
import Mathlib.Data.List.Basic

/-!
# Reading strings of JSON

A string of JSON is read back character by character: a character stands for itself, or it is
written as an escape. The reader takes every string that JSON allows, with pairs of escapes for the
characters that need two units of UTF-16.

## Main definitions

* `Json.unescapeChar?`: the character that a text in a string starts with.
* `Json.unquote?`: the string that a text starts with.
* `Json.WritesChars`, `Json.EscapesQuotes`: ways of writing characters in a string.
* `Json.IsLiteralOf`: the texts that are string literals.

## Main results

* `unescapeChar?_escapeChar`: a character is read back as it was written.
* `WritesChars.unquote?_append`: a string is read back if each of its characters is.
* `isLiteralOf_flatMap`: a string is a literal if its characters are read back and bring in neither
  a quote of their own nor a control character.
-/

namespace DocPreview.Json

/-- The character of an escape with four hexadecimal digits, and what follows it. A character that
needs two units is written as two such escapes. -/
def unicodeEscape? (s : Text) : Option (Char × Text) := do
  guard (4 ≤ s.length)
  let unit ← Script.hexNumber? (s.take 4)
  if 0xD800 ≤ unit && unit < 0xE000 then
    guard (unit < 0xDC00)
    let low ← Text.after? ['\\', 'u'] (s.drop 4)
    guard (4 ≤ low.length)
    let second ← Script.hexNumber? (low.take 4)
    guard (0xDC00 ≤ second && second < 0xE000)
    return (Char.ofNat (0x10000 + (unit - 0xD800) * 0x400 + (second - 0xDC00)), low.drop 4)
  return (Char.ofNat unit, s.drop 4)

/-- The character that an escape stands for, and what follows it; the text begins behind the
backslash. -/
def escape? : Text → Option (Char × Text)
  | '"' :: r => some ('"', r)
  | '\\' :: r => some ('\\', r)
  | '/' :: r => some ('/', r)
  | 'b' :: r => some (Char.ofNat 8, r)
  | 'f' :: r => some (Char.ofNat 12, r)
  | 'n' :: r => some ('\n', r)
  | 'r' :: r => some ('\r', r)
  | 't' :: r => some ('\t', r)
  | 'u' :: r => unicodeEscape? r
  | _ => none

/-- The character of a string that a text starts with, and what follows it. -/
def unescapeChar? : Text → Option (Char × Text)
  | [] => none
  | c :: r =>
    if c = '\\' then escape? r else if c = '"' || c.toNat < 0x20 then none else some (c, r)

/-- The characters of a string up to its closing quote, and what follows it; `fuel` bounds their
number. -/
def charsWithin : Nat → Text → Option (Text × Text)
  | 0, _ => none
  | fuel + 1, s =>
    match s with
    | '"' :: r => some ([], r)
    | s => do
      let (c, r) ← unescapeChar? s
      let (t, rest) ← charsWithin fuel r
      return (c :: t, rest)

/-- The string that a text starts with, and what follows it. -/
def unquote? : Text → Option (Text × Text)
  | '"' :: r => charsWithin r.length r
  | _ => none

/-! ### A character -/

theorem hexNumber?_control : ∀ n < 0x20,
    Script.hexNumber? ['0', '0', hexDigit (n / 16), hexDigit (n % 16)] = some n := by
  decide

/-- A character below U+0020 is read from its escape. -/
theorem unescapeChar?_control {c : Char} (hc : c.toNat < 0x20) (r : Text) :
    unescapeChar? (['\\', 'u', '0', '0', hexDigit (c.toNat / 16), hexDigit (c.toNat % 16)] ++ r) =
      some (c, r) := by
  have hnot : ¬ 0xD800 ≤ c.toNat := by omega
  have hread : unicodeEscape? (['0', '0', hexDigit (c.toNat / 16), hexDigit (c.toNat % 16)] ++ r) =
      some (c, r) := by
    rw [unicodeEscape?, guard, if_pos (by simp)]
    change (Script.hexNumber? ['0', '0', hexDigit (c.toNat / 16), hexDigit (c.toNat % 16)]).bind _ =
      some (c, r)
    rw [hexNumber?_control c.toNat hc, Option.bind_some, if_neg (by simp [hnot]), Char.ofNat_toNat]
    rfl
  exact hread

/-- A character is read back as it is written in a string. -/
theorem unescapeChar?_escapeChar (c : Char) (r : Text) :
    unescapeChar? (escapeChar c ++ r) = some (c, r) := by
  unfold escapeChar
  split
  case h_6 hquote hbackslash _ _ _ =>
    split_ifs with hback hfeed hcontrol
    · have hc : c = Char.ofNat 8 := by rw [← hback, Char.ofNat_toNat]
      rw [hc]
      rfl
    · have hc : c = Char.ofNat 12 := by rw [← hfeed, Char.ofNat_toNat]
      rw [hc]
      rfl
    · exact unescapeChar?_control hcontrol r
    · have hq : c ≠ '"' := fun h => hquote h
      have hb : c ≠ '\\' := fun h => hbackslash h
      simp [unescapeChar?, hq, hb, hcontrol]
  all_goals rfl

/-! ### A string -/

/-- A way of writing characters in a string: none begins like the closing quote, and each is read
back. -/
structure WritesChars (write : Char → Text) : Prop where
  ne_quote (c : Char) (r : Text) : (write c ++ r).head? ≠ some '"'
  reads (c : Char) (r : Text) : unescapeChar? (write c ++ r) = some (c, r)

variable {write : Char → Text}

theorem WritesChars.length_pos (h : WritesChars write) (c : Char) : 0 < (write c).length := by
  rw [List.length_pos_iff]
  intro hnil
  have hread := h.reads c []
  rw [hnil] at hread
  cases hread

theorem WritesChars.length_le (h : WritesChars write) (s : Text) :
    s.length ≤ (s.flatMap write).length := by
  induction s with
  | nil => exact Nat.le_refl 0
  | cons c s ih =>
    have hpos := h.length_pos c
    rw [List.flatMap_cons, List.length_append, List.length_cons]
    omega

theorem WritesChars.charsWithin_append (h : WritesChars write) (s r : Text) {fuel : Nat}
    (hfuel : s.length < fuel) : charsWithin fuel (s.flatMap write ++ '"' :: r) = some (s, r) := by
  induction s generalizing fuel with
  | nil =>
    obtain ⟨fuel, rfl⟩ := Nat.exists_eq_succ_of_ne_zero (Nat.ne_of_gt hfuel)
    rfl
  | cons c s ih =>
    obtain ⟨fuel, rfl⟩ := Nat.exists_eq_succ_of_ne_zero (Nat.ne_of_gt (Nat.zero_lt_of_lt hfuel))
    rw [List.flatMap_cons, List.append_assoc, charsWithin, h.reads]
    · simp only [Option.bind_eq_bind, Option.bind_some, ih (Nat.lt_of_succ_lt_succ hfuel)]
      rfl
    · intro t heq
      exact absurd (by rw [heq]; rfl) (h.ne_quote c (s.flatMap write ++ '"' :: r))

/-- A string is read back with what follows it. -/
theorem WritesChars.unquote?_append (h : WritesChars write) (s r : Text) :
    unquote? ('"' :: s.flatMap write ++ '"' :: r) = some (s, r) := by
  have hle : s.length ≤ (s.flatMap write).length := h.length_le s
  have hfuel : s.length < (s.flatMap write ++ '"' :: r).length := by
    rw [List.length_append, List.length_cons]
    omega
  exact h.charsWithin_append s r hfuel

/-! ### What is written -/

theorem writesChars_escapeChar : WritesChars escapeChar where
  reads := unescapeChar?_escapeChar
  ne_quote c r := by
    unfold escapeChar
    split
    case h_6 hquote _ _ _ _ =>
      split_ifs
      all_goals simp
      exact hquote
    all_goals simp

/-- A string is read back with what follows it. -/
theorem unquote?_quote_append (s r : Text) : unquote? (quote s ++ r) = some (s, r) := by
  rw [quote, List.append_assoc]
  exact writesChars_escapeChar.unquote?_append s r

theorem le_toNat_hexDigit : ∀ n < 16, 0x20 ≤ (hexDigit n).toNat := by
  decide

/-- No control character is written in a string. -/
theorem le_toNat_of_mem_escapeChar {c d : Char} (h : d ∈ escapeChar c) : 0x20 ≤ d.toNat := by
  have hall {l : Text} (hl : l.all fun d => decide (0x20 ≤ d.toNat)) (hd : d ∈ l) :
      0x20 ≤ d.toNat := of_decide_eq_true (List.all_eq_true.1 hl d hd)
  unfold escapeChar at h
  split at h
  case h_6 =>
    split_ifs at h with _ _ hcontrol
    · exact hall rfl h
    · exact hall rfl h
    · have hfirst := le_toNat_hexDigit (c.toNat / 16) (by omega)
      have hsecond := le_toNat_hexDigit (c.toNat % 16) (by omega)
      exact hall (by simp [hfirst, hsecond]) h
    · rw [List.mem_singleton.1 h]
      omega
  all_goals exact hall rfl h

/-- Whether the character that follows in a string is escaped: the backslash before it is none that
is escaped itself. -/
def escapesNext (s : Text) : Bool := s.foldl (fun escaped c => !escaped && c = '\\') false

/-- A way of writing characters in which every quote is escaped, and in which no character leaves a
backslash that escapes the next one. -/
structure EscapesQuotes (write : Char → Text) : Prop where
  closed (c : Char) : escapesNext (write c) = false
  escaped (c : Char) (x y : Text) : write c = x ++ '"' :: y → escapesNext x

theorem EscapesQuotes.escapesNext_append (h : EscapesQuotes write) (c : Char) (s : Text) :
    escapesNext (write c ++ s) = escapesNext s := by
  have hchar := h.closed c
  rw [escapesNext] at hchar
  rw [escapesNext, List.foldl_append, hchar, escapesNext]

/-- A quote inside a string is escaped. -/
theorem EscapesQuotes.escapesNext_of_flatMap_eq (h : EscapesQuotes write) {s x y : Text}
    (hs : s.flatMap write = x ++ '"' :: y) : escapesNext x := by
  induction s generalizing x with
  | nil => simp at hs
  | cons c s ih =>
    rw [List.flatMap_cons, List.append_eq_append_iff] at hs
    obtain ⟨z, hx, hs⟩ | ⟨z, hc, hs⟩ := hs
    · rw [hx, h.escapesNext_append]
      exact ih hs
    · cases z with
      | nil =>
        rw [List.append_nil] at hc
        rw [← hc, ← List.append_nil (write c), h.escapesNext_append]
        exact ih hs.symm
      | cons d z =>
        obtain ⟨rfl, -⟩ := List.cons.inj hs
        exact h.escaped c x z hc

theorem eq_quote_of_mem_escapeChar {c : Char} (h : '"' ∈ escapeChar c) : c = '"' := by
  unfold escapeChar at h
  split at h
  case h_1 => rfl
  case h_6 =>
    split_ifs at h with _ _ hcontrol
    · exact absurd h (by decide)
    · exact absurd h (by decide)
    · have hdigit : ∀ n < 16, '"' ≠ hexDigit n := by decide
      simp [hdigit (c.toNat / 16) (by omega), hdigit (c.toNat % 16) (by omega)] at h
    · exact (List.mem_singleton.1 h).symm
  all_goals exact absurd h (by decide)

/-- A quote in a character as written follows a backslash. -/
theorem eq_of_escapeChar_eq_append {c : Char} {x y : Text} (h : escapeChar c = x ++ '"' :: y) :
    x = ['\\'] := by
  obtain rfl := eq_quote_of_mem_escapeChar (c := c) (by rw [h]; simp)
  match x, h with
  | [], h => exact absurd (List.cons.inj h).1 (by decide)
  | [a], h => rw [(List.cons.inj h).1]
  | _ :: _ :: x, h =>
    have hnil : [] = x ++ '"' :: y := (List.cons.inj (List.cons.inj h).2).2
    simp at hnil

theorem escapesQuotes_escapeChar : EscapesQuotes escapeChar where
  escaped c x y h := by
    rw [eq_of_escapeChar_eq_append h]
    rfl
  closed c := by
    unfold escapeChar
    split
    case h_6 hbackslash _ _ _ =>
      split_ifs with _ _ hcontrol
      · rfl
      · rfl
      · have hdigit : ∀ n < 16, hexDigit n ≠ '\\' := by decide
        simp [escapesNext, hdigit (c.toNat % 16) (by omega)]
      · simpa [escapesNext] using fun h => hbackslash h
    all_goals rfl

/-- A text is a string literal for `s`: quotes around characters none of which is a control
character, such as a line break, and none of which is a quote that is not escaped; read as a string
it is `s`. -/
structure IsLiteralOf (s l : Text) : Prop where
  unquote : unquote? l = some (s, [])
  quoted : ∃ inner, l = '"' :: inner ++ ['"'] ∧ ∀ x y, inner = x ++ '"' :: y → escapesNext x
  visible : ∀ c ∈ l, 0x20 ≤ c.toNat

/-- A string is a literal if its characters are read back and bring in neither a quote of their own
nor a control character. -/
theorem isLiteralOf_flatMap (hwrite : WritesChars write) (hquote : EscapesQuotes write)
    (hvisible : ∀ c, ∀ d ∈ write c, 0x20 ≤ d.toNat) (s : Text) :
    IsLiteralOf s ('"' :: s.flatMap write ++ ['"']) where
  unquote := hwrite.unquote?_append s []
  quoted := ⟨s.flatMap write, rfl, fun _ _ => hquote.escapesNext_of_flatMap_eq⟩
  visible d hd := by
    rw [List.mem_append, List.mem_cons, List.mem_singleton, List.mem_flatMap] at hd
    obtain (rfl | ⟨c, -, hc⟩) | rfl := hd
    · decide
    · exact hvisible c d hc
    · decide

theorem isLiteralOf_quote (s : Text) : IsLiteralOf s (quote s) :=
  isLiteralOf_flatMap writesChars_escapeChar escapesQuotes_escapeChar
    (fun _ _ => le_toNat_of_mem_escapeChar) s

theorem IsLiteralOf.no_lineBreak {s l : Text} (h : IsLiteralOf s l) : '\n' ∉ l ∧ '\r' ∉ l :=
  ⟨fun hlf => absurd (h.visible _ hlf) (by decide), fun hcr => absurd (h.visible _ hcr) (by decide)⟩

end DocPreview.Json
