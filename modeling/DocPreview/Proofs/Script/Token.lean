import DocPreview.Proofs.Text.Character
import DocPreview.Script.Token

/-!
# What the reader of scripts reads

The next token at a place, for texts whose form is known: blanks and comments are passed over, a
name goes up to where it ends, and a string without escapes goes up to its quote.

## Main definitions

* `isGap`: the characters that are passed over.
* `EndsName`: a text behind which a name does not go on.
* `Reads`: the tokens that are read from a place on.

## Main results

* `skipTrivia_gap`, `skipTrivia_blockComment`: what is passed over.
* `read_gap_append`, `read_gap`: the token behind blanks, and the end of the text behind them.
* `scanToken_word`, `scanString_append`: names and strings.
-/

namespace DocPreview.Script

open Text

variable {s t r w : Text}

/-! ### Blanks and comments -/

/-- The characters that the reader of scripts passes over. -/
def isGap (c : Char) : Bool := isLineTerminator c || isSpace c

/-- The reader passes over blanks. -/
theorem skipTrivia_gap (hw : ∀ c ∈ w, isGap c) (fuel : Nat) (sawBreak : Bool) (r : Text)
    (pos : Nat) : skipTrivia (fuel + w.length) sawBreak ⟨w ++ r, pos⟩ =
      skipTrivia fuel (sawBreak || w.any isLineTerminator) ⟨r, pos + w.length⟩ := by
  induction w generalizing sawBreak pos with
  | nil => simp
  | cons d w ih =>
    have hd := hw d List.mem_cons_self
    have ih := ih fun c hc => hw c (List.mem_cons_of_mem _ hc)
    have hstep : skipTrivia (fuel + w.length + 1) sawBreak ⟨d :: (w ++ r), pos⟩ =
        skipTrivia (fuel + w.length) (sawBreak || isLineTerminator d) ⟨w ++ r, pos + 1⟩ := by
      rw [skipTrivia]
      split
      · next heq => exact absurd ((List.cons.inj heq).1 ▸ hd) (by decide)
      · next heq => exact absurd ((List.cons.inj heq).1 ▸ hd) (by decide)
      · next heq =>
        cases heq
        cases hline : isLineTerminator d with
        | true => rw [Bool.or_true]; rfl
        | false =>
          have hspace : isSpace d := by simpa [isGap, hline] using hd
          rw [if_neg Bool.false_ne_true, if_pos hspace, Bool.or_false]
          rfl
      · next heq => cases heq
    rw [List.length_cons, ← Nat.add_assoc, List.cons_append, hstep, ih, List.any_cons,
      Bool.or_assoc, Nat.add_assoc pos, Nat.add_comm 1]

theorem blockComment?_append (h : '*' ∉ s) (r : Text) :
    blockComment? (s ++ ("*/".toList ++ r)) = some (s, r) := by
  induction s with
  | nil => rfl
  | cons c s ih =>
    rw [List.mem_cons, not_or] at h
    rw [List.cons_append, blockComment?, ih h.2]
    · rfl
    · rintro _ rfl
      exact absurd rfl h.1

/-- The reader passes over a comment. -/
theorem skipTrivia_blockComment (h : blockComment? (s ++ ("*/".toList ++ r)) = some (s, r))
    (fuel : Nat) (sawBreak : Bool) (pos : Nat) :
    skipTrivia (fuel + 1) sawBreak ⟨"/*".toList ++ (s ++ ("*/".toList ++ r)), pos⟩ =
      let t := skipTrivia fuel (sawBreak || s.any isLineTerminator) ⟨r, pos + (4 + s.length)⟩
      { t with comments := ⟨⟨false, String.ofList s⟩, sawBreak, startsWithBreak r⟩ ::
          t.comments } := by
  have hskip : Cursor.skip ⟨'/' :: '*' :: (s ++ ("*/".toList ++ r)), pos⟩ (4 + s.length) =
      ⟨r, pos + (4 + s.length)⟩ := by
    rw [Cursor.skip, show 4 + s.length = (s.length + 2) + 2 by omega, List.drop_succ_cons,
      List.drop_succ_cons, ← List.append_assoc, List.drop_left' (by simp)]
  rw [← hskip]
  show skipTrivia (fuel + 1) sawBreak ⟨'/' :: '*' :: (s ++ ("*/".toList ++ r)), pos⟩ = _
  simp only [skipTrivia, h]

/-! ### The next token -/

/-- What the reader of scripts reads at a place behind blanks. -/
theorem read_gap_append {c : Char} (hw : ∀ d ∈ w, isGap d) (hgap : isGap c = false)
    (hc : c ≠ '/' ∧ c ≠ '<' ∧ c ≠ '-') (t : Text) (pos : Nat) :
    Lexeme.read ⟨w ++ c :: t, pos⟩ =
      let (token, stop, problems) := scanToken ⟨c :: t, pos + w.length⟩
      ⟨token, ⟨pos + w.length, stop.pos⟩, w.any isLineTerminator, [], stop, problems⟩ := by
  obtain ⟨hslash, hlt, hminus⟩ := hc
  have hstop (fuel : Nat) (sawBreak : Bool) (pos : Nat) : skipTrivia (fuel + 1) sawBreak
      ⟨c :: t, pos⟩ = ⟨[], sawBreak, ⟨c :: t, pos⟩, none⟩ := by
    rw [isGap, Bool.or_eq_false_iff] at hgap
    rw [skipTrivia]
    split
    · next heq => exact absurd (List.cons.inj heq).1 hslash
    · next heq => exact absurd (List.cons.inj heq).1 hslash
    · next heq =>
      cases heq
      rw [hgap.1, hgap.2]
      rfl
    · next heq => cases heq
  have hskip : skipTrivia ((w ++ c :: t).length + 1) false ⟨w ++ c :: t, pos⟩ =
      ⟨[], w.any isLineTerminator, ⟨c :: t, pos + w.length⟩, none⟩ := by
    rw [show (w ++ c :: t).length + 1 = (t.length + 1 + 1) + w.length by simp; omega,
      skipTrivia_gap hw, hstop, Bool.false_or]
  have hcomment (sawBreak : Bool) : isHtmlComment sawBreak (c :: t) = false := by
    have hopen : startsWith (c :: t) "<!--".toList = false := by
      show (decide (c = '<') && startsWith t "!--".toList) = false
      rw [decide_eq_false hlt, Bool.false_and]
    have hclose : startsWith (c :: t) "-->".toList = false := by
      show (decide (c = '-') && startsWith t "->".toList) = false
      rw [decide_eq_false hminus, Bool.false_and]
    rw [isHtmlComment, hopen, hclose, Bool.and_false, Bool.or_false]
  rw [Lexeme.read, readWithin]
  simp only [hskip, hcomment]
  rfl

/-- The reader finds nothing in white space. -/
theorem read_gap (hw : ∀ c ∈ w, isGap c) (pos : Nat) : (Lexeme.read ⟨w, pos⟩).token = .eof := by
  have hskip : skipTrivia (w.length + 1) false ⟨w, pos⟩ =
      ⟨[], w.any isLineTerminator, ⟨[], pos + w.length⟩, none⟩ := by
    have hgap := skipTrivia_gap hw 1 false [] pos
    rw [List.append_nil, Nat.add_comm, Bool.false_or] at hgap
    exact hgap
  have hcomment (sawBreak : Bool) : isHtmlComment sawBreak [] = false := by
    cases sawBreak <;> rfl
  rw [Lexeme.read, readWithin]
  simp only [hskip, hcomment]
  rfl

/-- The tokens that are read from a place on, and the place behind them. -/
def Reads : List Token → Cursor → Cursor → Prop
  | [], c, d => c = d
  | x :: xs, c, d => (Lexeme.read c).token = x ∧ (Lexeme.read c).problems = [] ∧
      Reads xs (Lexeme.read c).next d

/-! ### Names -/

/-- Where a name ends. -/
def EndsName (t : Text) : Prop := ∀ c, t.head? = some c → isNamePart c = false ∧ c ≠ '\\'

/-- A token that starts with none of the characters that have a reader of their own. -/
theorem scanToken_cons {c : Char} (hc : c ≠ '"' ∧ c ≠ '\'' ∧ c ≠ '#' ∧ c ≠ '.' ∧ c ≠ '\\')
    (hdigit : c.isDigit = false) (t : Text) (pos : Nat) : scanToken ⟨c :: t, pos⟩ =
      if isNameStart c then
        let (name, stop, escaped) := nameFrom (t.length + 1) ⟨c :: t, pos⟩
        if name.isEmpty then
          (.bad ⟨⟨pos, pos⟩, .unicodeEscapeExpected⟩, ⟨[], pos + (t.length + 1)⟩, [])
        else (.word (String.ofList name) escaped, stop, [])
      else
        match punctuator? (c :: t) with
        | some p => (.punct p, Cursor.skip ⟨c :: t, pos⟩ p.length, [])
        | none => (.bad ⟨⟨pos, pos + 1⟩, .unexpectedCharacter (showChar c)⟩,
            ⟨[], pos + (t.length + 1)⟩, []) := by
  obtain ⟨hquote, hapostrophe, hhash, hdot, hbackslash⟩ := hc
  rw [scanToken]
  split
  · next heq => cases heq
  · next heq => exact absurd (List.cons.inj heq).1 hquote
  · next heq => exact absurd (List.cons.inj heq).1 hapostrophe
  · next heq => exact absurd (List.cons.inj heq).1 hhash
  · next heq => exact absurd (List.cons.inj heq).1 hdot
  · next heq =>
    cases heq
    rw [hdigit, if_neg Bool.false_ne_true, decide_eq_false hbackslash, Bool.or_false]
    rfl

theorem isNameStart_of_isAlpha {c : Char} (hc : c.isAlpha) : isNameStart c := by
  simp [isNameStart, Unicode.isIdStart, toNat_lt_of_isAlpha hc, hc]

theorem isNamePart_of_isAlpha {c : Char} (hc : c.isAlpha) : isNamePart c := by
  simp [isNamePart, Unicode.isIdContinue, toNat_lt_of_isAlpha hc, Char.isAlphanum, hc]

/-- A character of a name that is written as itself. -/
theorem nameChar?_cons {c : Char} (hc : c ≠ '\\') (t : Text) (pos : Nat) :
    nameChar? ⟨c :: t, pos⟩ = some (c, ⟨t, pos + 1⟩, false) := by
  rw [nameChar?]
  split
  · next heq => exact absurd (List.cons.inj heq).1 hc
  · next heq => exact absurd (List.cons.inj heq).1 hc
  · next heq => cases heq; rfl
  · next heq => cases heq

theorem nameFrom_append (hs : ∀ c ∈ s, c.isAlpha) (ht : EndsName t) (pos : Nat) :
    nameFrom (s ++ t).length ⟨s ++ t, pos⟩ = (s, ⟨t, pos + s.length⟩, false) := by
  induction s generalizing pos with
  | nil =>
    cases t with
    | nil => rfl
    | cons c t =>
      obtain ⟨hpart, hc⟩ := ht c rfl
      simp only [List.nil_append, List.length_cons, nameFrom, nameChar?_cons hc, hpart]
      rfl
  | cons c s ih =>
    have hc := hs c List.mem_cons_self
    have hbackslash : c ≠ '\\' := by
      rintro rfl
      exact absurd hc (by decide)
    simp only [List.cons_append, List.length_cons, nameFrom, nameChar?_cons hbackslash,
      isNamePart_of_isAlpha hc, ih fun d hd => hs d (List.mem_cons_of_mem _ hd)]
    simp [Nat.add_assoc, Nat.add_comm 1]

/-- A word is read up to where it ends. -/
theorem scanToken_word (hs : ∀ c ∈ s, c.isAlpha) (hne : s ≠ []) (ht : EndsName t) (pos : Nat) :
    scanToken ⟨s ++ t, pos⟩ = (.word (String.ofList s) false, ⟨t, pos + s.length⟩, []) := by
  have hname := nameFrom_append hs ht pos
  obtain ⟨c, s, rfl⟩ := List.exists_cons_of_ne_nil hne
  have hc := hs c List.mem_cons_self
  have hne {d : Char} (hd : d.isAlpha = false) : c ≠ d := by
    rintro rfl
    exact absurd hc (by simp [hd])
  have hdigit : c.isDigit = false := of_isAlpha (P := fun c => c.isDigit = false) hc (by decide)
  rw [List.cons_append, scanToken_cons ⟨hne rfl, hne rfl, hne rfl, hne rfl, hne rfl⟩ hdigit,
    if_pos (isNameStart_of_isAlpha hc)]
  rw [List.cons_append, List.length_cons] at hname
  simp only [hname]
  rfl

/-! ### Strings -/

/-- A character of a string that is neither an escape nor a line break, or its quote. -/
theorem stringFrom_cons {q c : Char} (hc : c ≠ '\\') (fuel : Nat) (s : Text) (pos : Nat) :
    stringFrom q (fuel + 1) ⟨c :: s, pos⟩ =
      if c = q then .ok ([], ⟨s, pos + 1⟩, [])
      else if c = '\n' || c = '\r' then .error ⟨⟨pos, pos⟩, .unterminatedString⟩
      else do
        let (rest, stop, problems) ← stringFrom q fuel ⟨s, pos + 1⟩
        return (c :: rest, stop, problems) := by
  rw [stringFrom]
  split
  · next heq => cases heq
  · next heq => exact absurd (List.cons.inj heq).1 hc
  · next heq => cases heq; rfl

/-- The characters of a string without escapes are read up to its quote. -/
theorem stringFrom_append {q : Char} (hs : ∀ c ∈ s, c ≠ q ∧ c ≠ '\\' ∧ c ≠ '\n' ∧ c ≠ '\r')
    (hq : q ≠ '\\') (fuel : Nat) (r : Text) (pos : Nat) :
    stringFrom q (fuel + s.length + 1) ⟨s ++ q :: r, pos⟩ =
      .ok (s, ⟨r, pos + s.length + 1⟩, []) := by
  induction s generalizing pos with
  | nil => rw [List.nil_append, stringFrom_cons hq, if_pos rfl]; rfl
  | cons c s ih =>
    obtain ⟨hquote, hbackslash, hlf, hcr⟩ := hs c List.mem_cons_self
    have ih := ih fun d hd => hs d (List.mem_cons_of_mem _ hd)
    rw [List.cons_append, List.length_cons, ← Nat.add_assoc, stringFrom_cons hbackslash,
      if_neg hquote, if_neg (by simp [hlf, hcr]), ih]
    simp only [Nat.add_assoc, Nat.add_comm 1]
    rfl

theorem scanString_append {q : Char} (hs : ∀ c ∈ s, c ≠ q ∧ c ≠ '\\' ∧ c ≠ '\n' ∧ c ≠ '\r')
    (hq : q ≠ '\\') (r : Text) (pos : Nat) : scanString q ⟨q :: (s ++ q :: r), pos⟩ =
      (.string (String.ofList s) (String.ofList (q :: (s ++ [q]))), ⟨r, pos + 1 + s.length + 1⟩,
        []) := by
  have hfuel : (q :: (s ++ q :: r)).length + 1 = (r.length + 2) + s.length + 1 := by
    simp
    omega
  have hstring : stringFrom q ((q :: (s ++ q :: r)).length + 1)
      (Cursor.advance ⟨q :: (s ++ q :: r), pos⟩) = .ok (s, ⟨r, pos + 1 + s.length + 1⟩, []) := by
    rw [hfuel]
    exact stringFrom_append hs hq _ r (pos + 1)
  have hraw : Cursor.upTo ⟨q :: (s ++ q :: r), pos⟩ ⟨r, pos + 1 + s.length + 1⟩ =
      String.ofList (q :: (s ++ [q])) := by
    have hlen : pos + 1 + s.length + 1 - pos = (q :: (s ++ [q])).length := by
      simp
      omega
    have happend : q :: (s ++ q :: r) = (q :: (s ++ [q])) ++ r := by simp
    rw [Cursor.upTo, hlen, happend, List.take_left]
  simp only [scanString, hstring, hraw]

end DocPreview.Script
