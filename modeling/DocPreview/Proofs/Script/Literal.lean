import DocPreview.Proofs.Script.Token
import DocPreview.Proofs.Text.JsonValue

/-!
# Strings of JSON as literals of scripts

A string of JSON is a string literal of a script as well, and stands there for the same characters:
both read the escapes that JSON writes alike, one character at a time.

## Main results

* `stringFrom_escapeChar`: a character that is written for JSON is read by the reader of scripts.
* `read_quote_append`: a string of JSON is read as one token.
-/

namespace DocPreview.Script

open Text

/-- A character of a literal that is written as an escape of `k` characters after its backslash. -/
theorem stringFrom_escape {q c : Char} {r s : Text} {pos k : Nat}
    (h : escape ⟨r, pos + 1⟩ = ([c], ⟨s, pos + 1 + k⟩, none)) (fuel : Nat) :
    stringFrom q (fuel + 1) ⟨'\\' :: r, pos⟩ = do
      let (rest, stop, problems) ← stringFrom q fuel ⟨s, pos + 1 + k⟩
      return (c :: rest, stop, problems) := by
  have hadvance : Cursor.advance ⟨'\\' :: r, pos⟩ = ⟨r, pos + 1⟩ := rfl
  rw [stringFrom]
  simp only [hadvance, h]
  rfl

/-- An escape with four digits for a character that is no half of a pair. -/
theorem escape_digits {a b c d : Char} {n : Nat} (h : hexNumber? [a, b, c, d] = some n)
    (hn : n < 0xD800) (ha : a ≠ '\x7b') (r : Text) (pos : Nat) :
    escape ⟨'u' :: a :: b :: c :: d :: r, pos⟩ = ([Char.ofNat n], ⟨r, pos + 5⟩, none) := by
  have hlength : ¬ (a :: b :: c :: d :: r).length < 4 := by simp
  rw [escape.eq_def]
  split
  case h_4 heq =>
    cases heq
    simp only [List.take_succ_cons, List.take_zero, h, List.drop_succ_cons, List.drop_zero]
    -- What follows the escape may look like the second half of a pair.
    split
    · obtain rfl : n = _ := Option.some.inj ‹_›
      split
      · have hhigh : ¬ 0xD800 ≤ n := Nat.not_le.2 hn
        rw [if_neg (by simp [hhigh])]
        rfl
      · rfl
    · obtain rfl : n = _ := Option.some.inj ‹_›
      rw [if_neg hlength]
      rfl
    · exact absurd ‹some n = none› (Option.some_ne_none n)
  case h_3 heq => exact absurd (List.cons.inj (List.cons.inj heq).2).1 ha
  case h_1 heq => cases heq
  case h_8 hu _ _ _ heq => exact (hu (List.cons.inj heq).1.symm).elim
  all_goals
    next heq => exact absurd (List.cons.inj heq).1 (by decide)

/-- A character as written in a string of JSON is read as one of a literal. -/
theorem stringFrom_escapeChar (c : Char) (fuel : Nat) (r : Text) (pos : Nat) :
    stringFrom '"' (fuel + 1) ⟨Json.escapeChar c ++ r, pos⟩ = do
      let (rest, stop, problems) ← stringFrom '"' fuel ⟨r, pos + (Json.escapeChar c).length⟩
      return (c :: rest, stop, problems) := by
  unfold Json.escapeChar
  split
  case h_6 hquote hbackslash hlf hcr _ =>
    split_ifs with hback hfeed hcontrol
    · have hc : c = Char.ofNat 8 := by rw [← hback, Char.ofNat_toNat]
      rw [hc]
      exact stringFrom_escape (r := 'b' :: r) (k := 1) rfl fuel
    · have hc : c = Char.ofNat 12 := by rw [← hfeed, Char.ofNat_toNat]
      rw [hc]
      exact stringFrom_escape (r := 'f' :: r) (k := 1) rfl fuel
    · have hescape := escape_digits (Json.hexNumber?_control c.toNat hcontrol) (by omega)
        (by decide) r (pos + 1)
      rw [Char.ofNat_toNat] at hescape
      exact stringFrom_escape (k := 5) hescape fuel
    · have hc : c ≠ '\\' := fun h => hbackslash h
      have hbreak : ¬ (c = '\n' || c = '\r') = true := by
        rw [Bool.or_eq_true, decide_eq_true_iff, decide_eq_true_iff]
        rintro (h | h)
        exacts [hlf h, hcr h]
      rw [List.singleton_append, stringFrom_cons hc, if_neg fun h => hquote h, if_neg hbreak]
      rfl
  · exact stringFrom_escape (r := '"' :: r) (k := 1) rfl fuel
  · exact stringFrom_escape (r := '\\' :: r) (k := 1) rfl fuel
  · exact stringFrom_escape (r := 'n' :: r) (k := 1) rfl fuel
  · exact stringFrom_escape (r := 'r' :: r) (k := 1) rfl fuel
  · exact stringFrom_escape (r := 't' :: r) (k := 1) rfl fuel

theorem stringFrom_escape_append (s r : Text) {fuel : Nat} (hfuel : s.length < fuel) (pos : Nat) :
    stringFrom '"' fuel ⟨Json.escape s ++ '"' :: r, pos⟩ =
      .ok (s, ⟨r, pos + (Json.escape s).length + 1⟩, []) := by
  induction s generalizing fuel pos with
  | nil =>
    obtain ⟨fuel, rfl⟩ := Nat.exists_eq_succ_of_ne_zero (Nat.ne_of_gt hfuel)
    rfl
  | cons c s ih =>
    obtain ⟨fuel, rfl⟩ := Nat.exists_eq_succ_of_ne_zero (Nat.ne_of_gt (Nat.zero_lt_of_lt hfuel))
    have hcons : Json.escape (c :: s) = Json.escapeChar c ++ Json.escape s := List.flatMap_cons
    rw [hcons, List.append_assoc, stringFrom_escapeChar, ih (Nat.lt_of_succ_lt_succ hfuel),
      List.length_append, Nat.add_assoc pos]
    rfl

/-- A string of JSON is read as one token, which stands for the same characters. -/
theorem read_quote_append (s r : Text) (pos : Nat) :
    Lexeme.read ⟨Json.quote s ++ r, pos⟩ =
      ⟨.string (String.ofList s) (String.ofList (Json.quote s)),
        ⟨pos, pos + (Json.quote s).length⟩, false, [], ⟨r, pos + (Json.quote s).length⟩, []⟩ := by
  have htext : Json.quote s ++ r = '"' :: (Json.escape s ++ '"' :: r) := by
    rw [Json.quote, List.append_assoc]
    rfl
  have hlength : (Json.quote s).length = (Json.escape s).length + 2 := by
    rw [Json.quote, List.length_append]
    rfl
  have hfuel : s.length < (Json.quote s ++ r).length + 1 := by
    have hle := Json.writesChars_escapeChar.length_le s
    rw [List.length_append, hlength, Json.escape]
    omega
  have hstring : scanString '"' ⟨Json.quote s ++ r, pos⟩ =
      (.string (String.ofList s) (String.ofList (Json.quote s)),
        ⟨r, pos + (Json.quote s).length⟩, []) := by
    have hraw : Cursor.upTo ⟨Json.quote s ++ r, pos⟩ ⟨r, pos + (Json.quote s).length⟩ =
        String.ofList (Json.quote s) := by
      rw [Cursor.upTo, Nat.add_sub_cancel_left, List.take_left]
    have hread := stringFrom_escape_append s r hfuel (pos + 1)
    rw [Nat.add_right_comm pos 1, Nat.add_assoc pos, Nat.add_assoc pos, ← hlength] at hread
    have hadvance : Cursor.advance ⟨Json.quote s ++ r, pos⟩ = ⟨Json.escape s ++ '"' :: r, pos + 1⟩ := by
      rw [htext]
      rfl
    simp only [scanString, hadvance, hread, hraw]
  have hread := read_gap_append (w := []) (c := '"') (by simp) (by decide) (by decide)
    (Json.escape s ++ '"' :: r) pos
  rw [List.nil_append, ← htext, List.length_nil, Nat.add_zero] at hread
  have hscan : scanToken ⟨Json.quote s ++ r, pos⟩ = scanString '"' ⟨Json.quote s ++ r, pos⟩ := by
    rw [htext]
    rfl
  rw [hread, hscan, hstring]
  rfl

end DocPreview.Script
