import DocPreview.Proofs.Text.Except
import DocPreview.Script.Token
import Mathlib.Data.List.Infix

/-!
# Where tokens stand

A script is read from front to back: the place behind a token or another part of a script is one of
the text before which the part stands, and a comment is a piece of this text. A block comment goes from
its opening to the first closing behind it, so its text is one of the `blockComments` of the text.

## Main definitions

* `OpensComment`, `blockComments`: the block comments that a text can hold.
* `Comment.StandsIn`: a comment that stands in a text.
* `Lexeme.IsIn`: a lexeme whose comments stand in a text, and behind which the text goes on.

## Main results

* `skipTrivia_spec`: the comments before a token.
* `scanToken_suffix`: the place behind a token.
* `isIn_read`: the next token of a text.
* `scanRegex_suffix`, `scanTemplate_suffix`, `scanJsxName_suffix`, `scanJsxText_suffix`,
  `scanJsxString_suffix`: the places behind the parts that are no tokens.
-/

namespace DocPreview.Script

variable {c d : Cursor} {t : Text} {n : Nat}

/-! ### Places -/

theorem suffix_skip (c : Cursor) (n : Nat) : (c.skip n).rest <:+ c.rest := List.drop_suffix ..

theorem suffix_advance (c : Cursor) : c.advance.rest <:+ c.rest := List.drop_suffix ..

theorem suffix_skipWhile (p : Char → Bool) (c : Cursor) : (c.skipWhile p).rest <:+ c.rest :=
  suffix_skip ..

/-! ### Comments -/

theorem eq_append_of_blockComment? {s x r : Text} (h : blockComment? s = some (x, r)) :
    s = x ++ '*' :: '/' :: r := by
  fun_induction blockComment? s generalizing x with
  | case1 => cases h
  | case2 r' =>
    cases h
    rfl
  | case3 c s _ ih =>
    obtain ⟨⟨x', r'⟩, hx, heq⟩ := Option.map_eq_some_iff.1 h
    cases heq
    rw [ih hx, List.cons_append]

/-- A text that starts with a block comment with the characters `x` between its delimiters. -/
def OpensComment (x s : Text) : Prop :=
  ∃ y r, s = '/' :: '*' :: y ∧ blockComment? y = some (x, r)

theorem OpensComment.ne_nil {x s : Text} (h : OpensComment x s) : s ≠ [] := by
  obtain ⟨y, r, rfl, -⟩ := h
  exact List.cons_ne_nil _ _

/-- The characters of the block comment that a text starts with. -/
def openedComment? (s : Text) : Option Text :=
  (Text.after? "/*".toList s).bind fun y => (blockComment? y).map Prod.fst

theorem openedComment?_eq_some_iff {x s : Text} :
    openedComment? s = some x ↔ OpensComment x s := by
  simp only [openedComment?, Option.bind_eq_some_iff, Option.map_eq_some_iff]
  constructor
  · rintro ⟨y, hy, ⟨x, r⟩, hx, rfl⟩
    exact ⟨y, r, Text.eq_append_of_after? hy, hx⟩
  · rintro ⟨y, r, rfl, hx⟩
    exact ⟨y, Text.after?_append .., (x, r), hx, rfl⟩

theorem OpensComment.unique {x y s : Text} (hx : OpensComment x s) (hy : OpensComment y s) :
    x = y :=
  Option.some.inj ((openedComment?_eq_some_iff.2 hx).symm.trans (openedComment?_eq_some_iff.2 hy))

/-- The characters of the block comments that a text can hold: at each place where one can open,
what is before the first closing. -/
def blockComments (t : Text) : List Text := t.tails.filterMap openedComment?

theorem mem_blockComments_iff {x : Text} :
    x ∈ blockComments t ↔ ∃ s, s <:+ t ∧ OpensComment x s := by
  simp only [blockComments, List.mem_filterMap, List.mem_tails, openedComment?_eq_some_iff]

/-- The characters of a block comment are a piece of the text. -/
theorem infix_of_mem_blockComments {x : Text} (h : x ∈ blockComments t) : x <:+: t := by
  obtain ⟨_, hs, y, r, rfl, hx⟩ := mem_blockComments_iff.1 h
  have hy : x <:+: '/' :: '*' :: y :=
    ⟨['/', '*'], '*' :: '/' :: r, by rw [eq_append_of_blockComment? hx]; rfl⟩
  exact hy.trans hs.isInfix

theorem blockComments_mono {s : Text} (h : s <:+ t) : blockComments s ⊆ blockComments t := by
  intro x hx
  obtain ⟨u, hu, hopens⟩ := mem_blockComments_iff.1 hx
  exact mem_blockComments_iff.2 ⟨u, hu.trans h, hopens⟩

theorem blockComment?_append_of_eq_some {s x r : Text} (h : blockComment? s = some (x, r))
    (b : Text) : blockComment? (s ++ b) = some (x, r ++ b) := by
  fun_induction blockComment? s generalizing x with
  | case1 => cases h
  | case2 =>
    cases h
    rfl
  | case3 c s hclose ih =>
    obtain ⟨⟨x', r'⟩, hx, heq⟩ := Option.map_eq_some_iff.1 h
    cases heq
    have hopen : ∀ u, c = '*' → s ++ b = '/' :: u → False := by
      rintro u rfl hu
      cases s with
      | nil => cases hx
      | cons d s =>
        cases hu
        exact hclose _ rfl rfl
    rw [List.cons_append, blockComment?.eq_3 _ _ hopen, ih hx]
    rfl

/-- A text goes on behind the comment that it starts with. -/
theorem OpensComment.append {x s : Text} (h : OpensComment x s) (b : Text) :
    OpensComment x (s ++ b) := by
  obtain ⟨y, r, rfl, hx⟩ := h
  exact ⟨y ++ b, r ++ b, rfl, blockComment?_append_of_eq_some hx b⟩

/-- Where a comment ends does not depend on what follows it. -/
theorem blockComment?_congr {x r : Text} (h : blockComment? (x ++ '*' :: '/' :: r) = some (x, r))
    (u : Text) : blockComment? (x ++ '*' :: '/' :: u) = some (x, u) := by
  induction x with
  | nil => rfl
  | cons c x ih =>
    have hopen (u : Text) : ∀ v, c = '*' → x ++ '*' :: '/' :: u = '/' :: v → False := by
      rintro v rfl hv
      cases x with
      | nil => cases hv
      | cons d x =>
        obtain rfl : d = '/' := (List.cons.inj hv).1
        cases h
    rw [List.cons_append, blockComment?.eq_3 _ _ (hopen r)] at h
    obtain ⟨⟨x', r'⟩, hx, heq⟩ := Option.map_eq_some_iff.1 h
    cases heq
    rw [List.cons_append, blockComment?.eq_3 _ _ (hopen u), ih hx]
    rfl

/-- A comment ends in front of a text that has no asterisk and does not begin with a slash. -/
theorem OpensComment.of_append_right {x s b : Text} (h : OpensComment x (s ++ b)) (hb : '*' ∉ b)
    (hslash : b.head? ≠ some '/') : OpensComment x s := by
  obtain ⟨y, r, hs, hx⟩ := h
  obtain rfl := eq_append_of_blockComment? hx
  rw [← List.cons_append, ← List.cons_append] at hs
  rcases List.append_eq_append_iff.1 hs with ⟨u, -, rfl⟩ | ⟨u, rfl, hu⟩
  · exact absurd (by simp) hb
  · match u with
    | [] =>
      rw [List.nil_append] at hu
      exact absurd (by simp [← hu]) hb
    | [c] =>
      obtain ⟨-, rfl⟩ := List.cons.inj hu
      exact absurd rfl hslash
    | c :: d :: u =>
      cases hu
      exact ⟨_, u, rfl, blockComment?_congr hx u⟩

theorem blockComments_subset_append {s : Text} (h : s <+: t) :
    blockComments s ⊆ blockComments t := by
  intro x hx
  obtain ⟨b, rfl⟩ := h
  obtain ⟨y, ⟨u, rfl⟩, hopens⟩ := mem_blockComments_iff.1 hx
  exact mem_blockComments_iff.2 ⟨y ++ b, ⟨u, (List.append_assoc ..).symm⟩, hopens.append b⟩

/-- A text has no comments but those before its end, if no comment can close there. -/
theorem blockComments_append_subset {b : Text} (hb : '*' ∉ b) (hslash : b.head? ≠ some '/') :
    blockComments (t ++ b) ⊆ blockComments t := by
  intro x hx
  obtain ⟨y, ⟨u, hu⟩, hopens⟩ := mem_blockComments_iff.1 hx
  rcases List.append_eq_append_iff.1 hu with ⟨z, rfl, rfl⟩ | ⟨z, -, rfl⟩
  · exact mem_blockComments_iff.2
      ⟨z, List.suffix_append u z, hopens.of_append_right hb hslash⟩
  · obtain ⟨v, -, rfl, -⟩ := hopens
    exact absurd (by simp) hb

/-- A comment that stands in a text. -/
def Comment.StandsIn (t : Text) (x : Comment) : Prop :=
  if x.isLine then "//".toList ++ x.text.toList <:+: t else x.text.toList ∈ blockComments t

theorem Comment.StandsIn.mono {s : Text} {x : Comment} (hx : x.StandsIn s) (h : s <:+ t) :
    x.StandsIn t := by
  unfold Comment.StandsIn at *
  split_ifs at hx ⊢
  · exact hx.trans h.isInfix
  · exact blockComments_mono h hx

/-- The comments before a token stand in the text, and the token stands behind them. -/
theorem skipTrivia_spec (fuel : Nat) (sawBreak : Bool) (c : Cursor) :
    (skipTrivia fuel sawBreak c).next.rest <:+ c.rest ∧
      ∀ f ∈ (skipTrivia fuel sawBreak c).comments, f.comment.StandsIn c.rest := by
  fun_induction skipTrivia fuel sawBreak c with
  | case1 => exact ⟨List.suffix_rfl, by simp⟩
  | case2 sawBreak c fuel r hc text u ih =>
    refine ⟨ih.1.trans (suffix_skip ..), List.forall_mem_cons.2
      ⟨?_, fun f hf => (ih.2 f hf).mono (suffix_skip ..)⟩⟩
    rw [hc, Comment.StandsIn, if_pos rfl, show (String.ofList text).toList = text from
      String.toList_ofList]
    exact ((List.prefix_append_right_inj ['/', '/']).2 (List.takeWhile_prefix _)).isInfix
  | case3 => exact ⟨List.suffix_rfl, by simp⟩
  | case4 sawBreak c fuel r hc text rest hcomment sawBreak' u ih =>
    refine ⟨ih.1.trans (suffix_skip ..), List.forall_mem_cons.2
      ⟨?_, fun f hf => (ih.2 f hf).mono (suffix_skip ..)⟩⟩
    rw [hc, Comment.StandsIn, if_neg Bool.false_ne_true, show (String.ofList text).toList = text from
      String.toList_ofList]
    exact mem_blockComments_iff.2 ⟨_, List.suffix_rfl, r, rest, rfl, hcomment⟩
  | case5 _ _ c _ _ _ _ _ _ ih =>
    exact ⟨ih.1.trans (suffix_advance c), fun f hf => (ih.2 f hf).mono (suffix_advance c)⟩
  | case6 _ _ c _ _ _ _ _ _ _ ih =>
    exact ⟨ih.1.trans (suffix_advance c), fun f hf => (ih.2 f hf).mono (suffix_advance c)⟩
  | case7 => exact ⟨List.suffix_rfl, by simp⟩
  | case8 => exact ⟨List.suffix_rfl, by simp⟩

/-! ### Tokens -/

theorem nameChar?_suffix {x : Char} {escaped : Bool} (h : nameChar? c = some (x, d, escaped)) :
    d.rest <:+ c.rest := by
  rw [nameChar?] at h
  split at h
  · obtain ⟨k, -, heq⟩ := Option.map_eq_some_iff.1 h
    cases heq
    exact suffix_skip ..
  · obtain ⟨k, -, heq⟩ := Option.map_eq_some_iff.1 h
    cases heq
    exact suffix_skip ..
  · cases h
    exact suffix_advance c
  · cases h

theorem nameFrom_suffix (fuel : Nat) (c : Cursor) : (nameFrom fuel c).2.1.rest <:+ c.rest := by
  fun_induction nameFrom fuel c with
  | case2 c fuel x d escaped hchar hpart rest stop later heq ih =>
    rw [heq] at ih
    exact ih.trans (nameChar?_suffix hchar)
  | _ => exact List.suffix_rfl

theorem escape_suffix (c : Cursor) : (escape c).2.1.rest <:+ c.rest := by
  unfold escape
  dsimp only
  repeat' split
  all_goals first
    | exact List.suffix_rfl
    | exact suffix_advance c
    | exact suffix_skip c _

theorem stringFrom_suffix {quote : Char} {x : Text} {fs : List Failure}
    (h : stringFrom quote n c = .ok (x, d, fs)) : d.rest <:+ c.rest := by
  fun_induction stringFrom quote n c generalizing x d fs with
  | case1 | case2 | case3 | case4 | case5 => cases h
  | case6 _ c _ _ cs next problem _ _ _ hescape ih =>
    obtain ⟨⟨rest, stop, problems⟩, hrest, heq⟩ := exists_of_bind_eq_ok h
    cases heq
    have hnext := escape_suffix c.advance
    rw [hescape] at hnext
    exact ((ih hrest).trans hnext).trans (suffix_advance c)
  | case7 _ c =>
    cases h
    exact suffix_advance c
  | case8 => cases h
  | case9 _ c _ _ _ _ _ _ ih =>
    obtain ⟨⟨rest, stop, problems⟩, hrest, heq⟩ := exists_of_bind_eq_ok h
    cases heq
    exact (ih hrest).trans (suffix_advance c)

theorem scanString_suffix (quote : Char) (c : Cursor) :
    (scanString quote c).2.1.rest <:+ c.rest := by
  rw [scanString]
  split
  · rename_i hstring
    exact (stringFrom_suffix hstring).trans (suffix_advance c)
  · split <;> exact List.nil_suffix

theorem skipDigits_suffix (radix : Nat) (c : Cursor) : (skipDigits radix c).rest <:+ c.rest :=
  suffix_skipWhile ..

theorem scanNumber_suffix (c : Cursor) : (scanNumber c).2.1.rest <:+ c.rest := by
  unfold scanNumber
  extract_lets radixNumber whole fraction decimalStop decimal digits octalStop problem
  have hradix (radix : Nat) : (radixNumber radix).2.1.rest <:+ c.rest := by
    have hstop := (skipDigits_suffix radix (c.skip 2)).trans (suffix_skip c 2)
    dsimp only [radixNumber]
    split_ifs
    · exact hstop
    · exact (suffix_advance _).trans hstop
    · exact hstop
  have hwhole : whole.rest <:+ c.rest := skipDigits_suffix 10 c
  have hfraction : fraction.rest <:+ c.rest := by
    dsimp only [fraction]
    split_ifs
    · exact (skipDigits_suffix ..).trans ((suffix_advance _).trans hwhole)
    · exact hwhole
  have hstop : decimalStop.rest <:+ c.rest := by
    dsimp only [decimalStop]
    split
    · split_ifs
      · exact (skipDigits_suffix ..).trans ((suffix_skip ..).trans hfraction)
      · exact (skipDigits_suffix ..).trans ((suffix_skip ..).trans hfraction)
      · exact hfraction
    · exact hfraction
  have hdecimal : decimal.2.1.rest <:+ c.rest := by
    dsimp only [decimal]
    split_ifs
    · exact (suffix_advance _).trans hwhole
    · exact hstop
  have hoctal : octalStop.rest <:+ c.rest := suffix_skip ..
  clear_value radixNumber decimal octalStop
  split
  rename_i token stop problems heq
  have hall : (token, stop, problems).2.1.rest <:+ c.rest := by
    rw [← heq]
    split
    · split_ifs
      exacts [hradix 16, hradix 8, hradix 2, hoctal, hdecimal]
    · exact hdecimal
  split
  · split_ifs <;> exact hall
  · exact hall

/-- The place behind a token is one of the text before which the token stands. -/
theorem scanToken_suffix (c : Cursor) : (scanToken c).2.1.rest <:+ c.rest := by
  unfold scanToken
  dsimp only
  repeat' split
  all_goals first
    | exact List.suffix_rfl
    | exact List.nil_suffix
    | exact suffix_advance c
    | exact suffix_skip c _
    | exact scanString_suffix _ c
    | exact scanNumber_suffix c
    | exact nameFrom_suffix _ c
    | exact (nameFrom_suffix _ c.advance).trans (suffix_advance c)

/-! ### Lexemes -/

/-- A lexeme whose comments stand in a text, and behind which the text goes on. -/
structure Lexeme.IsIn (t : Text) (l : Lexeme) : Prop where
  next : l.next.rest <:+ t
  comments : ∀ f ∈ l.comments, f.comment.StandsIn t

theorem isIn_readWithin (fuel : Nat) (sawBreak : Bool) (hc : c.rest <:+ t) :
    (readWithin fuel sawBreak c).IsIn t := by
  fun_induction readWithin fuel sawBreak c with
  | case1 => exact ⟨hc, by simp⟩
  | case2 fuel sawBreak c u f hf =>
    obtain ⟨-, hcomments⟩ := skipTrivia_spec (c.rest.length + 1) sawBreak c
    exact ⟨List.nil_suffix, fun g hg => (hcomments g hg).mono hc⟩
  | case3 fuel sawBreak c u hproblem hhtml stop found l ih =>
    obtain ⟨hnext, hcomments⟩ := skipTrivia_spec (c.rest.length + 1) sawBreak c
    have hl := ih ((suffix_skipWhile _ _).trans (hnext.trans hc))
    refine ⟨hl.next, List.forall_mem_append.2 ⟨fun g hg => ?_, hl.comments⟩⟩
    exact (hcomments g hg).mono hc
  | case4 fuel sawBreak c u hproblem hhtml token stop problems hscan =>
    obtain ⟨hnext, hcomments⟩ := skipTrivia_spec (c.rest.length + 1) sawBreak c
    have hstop := scanToken_suffix u.next
    rw [hscan] at hstop
    exact ⟨hstop.trans (hnext.trans hc), fun g hg => (hcomments g hg).mono hc⟩

/-- The next token of a text stands in it with its comments. -/
theorem isIn_read (hc : c.rest <:+ t) : (Lexeme.read c).IsIn t := isIn_readWithin _ _ hc

/-! ### Parts that are no tokens -/

theorem scanRegex_suffix {raw : String} (h : scanRegex c = .ok (raw, d)) : d.rest <:+ c.rest := by
  rw [scanRegex] at h
  split at h
  · cases h
  · cases h
    exact (suffix_skipWhile _ _).trans (suffix_skip c _)

theorem scanTemplate_suffix {x : Text} {e : TemplateEnd} (h : scanTemplate n c = some (x, e, d)) :
    d.rest <:+ c.rest := by
  fun_induction scanTemplate n c generalizing x with
  | case1 | case2 => cases h
  | case3 _ c =>
    cases h
    exact suffix_advance c
  | case4 _ c =>
    cases h
    exact suffix_skip c _
  | case5 _ c _ _ _ ih | case6 _ c _ _ ih =>
    obtain ⟨⟨y, e', d'⟩, hrest, heq⟩ := Option.map_eq_some_iff.1 h
    cases heq
    exact (ih hrest).trans (suffix_skip c _)
  | case7 _ c _ _ _ _ _ _ _ ih =>
    obtain ⟨⟨y, e', d'⟩, hrest, heq⟩ := Option.map_eq_some_iff.1 h
    cases heq
    exact (ih hrest).trans (suffix_advance c)

theorem scanJsxName_suffix (c : Cursor) : (scanJsxName c).2.rest <:+ c.rest := by
  unfold scanJsxName
  repeat' split
  all_goals first
    | exact List.suffix_rfl
    | exact suffix_skipWhile _ c

theorem scanJsxText_suffix (c : Cursor) : (scanJsxText c).2.rest <:+ c.rest := suffix_skip ..

theorem scanJsxString_suffix {quote : Char} {raw : Text}
    (h : scanJsxString quote c = some (raw, d)) : d.rest <:+ c.rest := by
  rw [scanJsxString] at h
  split_ifs at h
  cases h
  exact suffix_skip ..

end DocPreview.Script
