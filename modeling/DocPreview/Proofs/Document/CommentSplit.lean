import DocPreview.Proofs.Document.Comment
import DocPreview.Proofs.Text.Slice

/-!
# The comments of a text

A text alternates between gaps and comments. A comment begins at the first opener behind the
comment before it and ends with the first closer behind this opener, and an opener that no closer
follows begins no comment. Escaping writes each comment as an expression and keeps the gaps.

The expression of a comment holds the comment with a blank in each of the pairs of characters that
would end it in the script language. So the comment of the script language ends where the
expression ends.

## Main definitions

* `IsComment`: a comment, which no closer ends earlier.
* `CommentSplit`: a text as gaps and comments.
* `IsOutsideComment`: a text behind which no comment is open.
* `IsExpressionOf`: a comment as an expression.

## Main results

* `comment?_eq_some_iff`, `comment?_eq_none_iff`: where a comment begins.
* `exists_commentSplit`: each text is gaps and comments.
* `CommentSplit.escapeComments_eq`: what escaping makes of them.
* `escapeComments_split`: both, with what the expressions are.
-/

namespace DocPreview.Document

open Text

variable {pat s a b c g r content : Text} {gaps comments : List Text}

/-! ### Comments -/

/-- A comment: an opener, and what follows it up to the first closer behind it. -/
def IsComment (c : Text) : Prop :=
  ∃ content, c = commentOpener ++ (content ++ commentCloser) ∧
    ∀ a b, content ++ commentCloser = a ++ (commentCloser ++ b) → b = []

/-- A text in which no closer stands behind an opener. -/
def HasNoComment (s : Text) : Prop := ∀ a b, s = a ++ (commentOpener ++ b) → ¬ commentCloser <:+: b

theorem comment?_eq_some_iff : comment? s = some (c, r) ↔ IsComment c ∧ s = c ++ r := by
  simp only [comment?, Option.bind_eq_bind, Option.bind_eq_some_iff, Option.pure_def,
    Option.some.injEq, Prod.mk.injEq, after?_eq_some_iff]
  constructor
  · rintro ⟨inner, rfl, ⟨content, r⟩, hfind, rfl, rfl⟩
    have hinner := eq_append_of_findText hfind
    refine ⟨⟨content, List.append_assoc .., fun a b hab => ?_⟩, by simp [hinner]⟩
    have hagain : inner = a ++ (commentCloser ++ (b ++ r)) := by
      rw [hinner, ← List.append_assoc, hab]
      simp only [List.append_assoc]
    have hle := length_le_of_findText hfind hagain
    have hlength := congrArg List.length hab
    simp only [List.length_append] at hlength
    exact List.length_eq_zero_iff.1 (by omega)
  · rintro ⟨⟨content, rfl, hfirst⟩, rfl⟩
    refine ⟨content ++ (commentCloser ++ r), by simp, (content, r), ?_, by simp, rfl⟩
    refine findText_eq_some_iff.2 ⟨rfl, fun a b hab => ?_⟩
    by_contra hlt
    -- An earlier closer would end within the comment.
    obtain ⟨d, hd⟩ : a ++ commentCloser <+: content ++ commentCloser := by
      have hearlier : a ++ commentCloser <+: content ++ (commentCloser ++ r) :=
        ⟨b, by rw [hab, List.append_assoc]⟩
      have hlater : content ++ commentCloser <+: content ++ (commentCloser ++ r) :=
        ⟨r, List.append_assoc ..⟩
      refine List.prefix_of_prefix_length_le hearlier hlater ?_
      simp only [List.length_append]
      omega
    obtain rfl := hfirst a d (by rw [← hd, List.append_assoc])
    have hlength := congrArg List.length hd
    simp only [List.length_append, List.length_nil] at hlength
    omega

theorem comment?_eq_none_iff :
    comment? s = none ↔ ∀ b, s = commentOpener ++ b → ¬ commentCloser <:+: b := by
  simp only [comment?, Option.bind_eq_bind, Option.bind_eq_none_iff, after?_eq_some_iff,
    Option.pure_def, reduceCtorEq, imp_false, ← findText_eq_none_iff]
  exact forall₂_congr fun b _ => Option.eq_none_iff_forall_ne_some.symm

theorem IsComment.ne_nil (h : IsComment c) : c ≠ [] := by
  obtain ⟨content, rfl, -⟩ := h
  simp [commentOpener]

/-- The comment that a text starts with does not depend on what follows it. -/
theorem eq_of_isComment_append {c' r' : Text} (hc : IsComment c) (hc' : IsComment c')
    (h : c ++ r = c' ++ r') : c = c' ∧ r = r' := by
  have hsome := comment?_eq_some_iff.2 ⟨hc', h⟩
  rw [comment?_eq_some_iff.2 ⟨hc, rfl⟩] at hsome
  exact Prod.mk.inj (Option.some.inj hsome)

/-- A text in which no closer follows the opener at its start has no comment. -/
theorem hasNoComment_commentOpener_append (h : ¬ commentCloser <:+: b) :
    HasNoComment (commentOpener ++ b) := by
  intro u v huv hv
  have hsuffix : v <:+ b := by
    have hbehind : v <:+ commentOpener ++ b := ⟨u ++ commentOpener, by rw [huv, List.append_assoc]⟩
    refine List.suffix_of_suffix_length_le hbehind (List.suffix_append ..) ?_
    have hlength := congrArg List.length huv
    simp only [List.length_append] at hlength
    omega
  exact h (hv.trans hsuffix.isInfix)

/-! ### Gaps and comments -/

/-- A text as gaps with comments between them: no gap before a comment holds an opener, and no
opener in the last gap is closed. -/
inductive CommentSplit : Text → List Text → List Text → Prop
  | last {g : Text} (hg : HasNoComment g) : CommentSplit g [g] []
  | comment {g c s : Text} {gaps comments : List Text} (hg : ¬ commentOpener <:+: g)
      (hc : IsComment c) (hrest : CommentSplit s gaps comments) :
      CommentSplit (g ++ (c ++ s)) (g :: gaps) (c :: comments)

/-- Each text is gaps and comments. -/
theorem exists_commentSplit (s : Text) : ∃ gaps comments, CommentSplit s gaps comments := by
  cases hopen : findText commentOpener s with
  | none =>
    refine ⟨[s], [], .last fun a b hs _ => findText_eq_none_iff.1 hopen ?_⟩
    exact ⟨a, b, by rw [hs, List.append_assoc]⟩
  | some p =>
    obtain ⟨g, inner⟩ := p
    have hs := eq_append_of_findText hopen
    cases hclose : comment? (commentOpener ++ inner) with
    | none =>
      refine ⟨[s], [], .last fun a b hab hb => ?_⟩
      -- Every opener stands at the first one or behind it, and no closer follows that one.
      have hle := length_le_of_findText hopen hab
      have hsuffix : b <:+ inner := by
        have hlater : b <:+ s := ⟨a ++ commentOpener, by rw [hab, List.append_assoc]⟩
        have hfirst : inner <:+ s := ⟨g ++ commentOpener, by rw [hs, List.append_assoc]⟩
        refine List.suffix_of_suffix_length_le hlater hfirst ?_
        have hlength := congrArg List.length (hs.symm.trans hab)
        simp only [List.length_append] at hlength
        omega
      exact comment?_eq_none_iff.1 hclose inner rfl (hb.trans hsuffix.isInfix)
    | some q =>
      obtain ⟨c, r⟩ := q
      obtain ⟨hc, hr⟩ := comment?_eq_some_iff.1 hclose
      rw [hr] at hs
      have hg : ¬ commentOpener <:+: g := by
        rintro ⟨a, b, rfl⟩
        have hagain : s = a ++ (commentOpener ++ (b ++ (c ++ r))) := by
          simp only [hs, List.append_assoc]
        have hle := length_le_of_findText hopen hagain
        have hpos : 0 < commentOpener.length := by decide
        simp only [List.length_append] at hle
        omega
      have hshorter : r.length < s.length := by
        have hpos := List.length_pos_iff.2 hc.ne_nil
        simp only [hs, List.length_append]
        omega
      obtain ⟨gaps, comments, hrest⟩ := exists_commentSplit r
      exact ⟨g :: gaps, c :: comments, hs ▸ .comment hg hc hrest⟩
termination_by s.length

theorem CommentSplit.text_eq (h : CommentSplit s gaps comments) : s = interleave gaps comments := by
  induction h with
  | last => simp
  | comment _ _ _ ih => rw [interleave_cons, ← ih]

/-! ### Escaping -/

/-- The bound on the number of steps does not matter. -/
theorem escapeCommentsWithin_congr {m n : Nat} (hm : s.length ≤ m) (hn : s.length ≤ n) :
    escapeCommentsWithin m s = escapeCommentsWithin n s := by
  induction m generalizing s n with
  | zero =>
    obtain rfl := List.length_eq_zero_iff.1 (Nat.le_zero.1 hm)
    simp
  | succ m ih =>
    cases s with
    | nil => simp
    | cons x s =>
      rw [List.length_cons] at hm hn
      obtain ⟨n, rfl⟩ : ∃ k, n = k + 1 := ⟨n - 1, by omega⟩
      rw [escapeCommentsWithin, escapeCommentsWithin]
      cases h : comment? (x :: s) with
      | none => exact congrArg (x :: ·) (ih (by omega) (by omega))
      | some q =>
        obtain ⟨c, r⟩ := q
        obtain ⟨hc, heq⟩ := comment?_eq_some_iff.1 h
        have hlength := congrArg List.length heq
        have hpos := List.length_pos_iff.2 hc.ne_nil
        rw [List.length_cons, List.length_append] at hlength
        exact congrArg (wrapComment c ++ ·) (ih (by omega) (by omega))

/-- A comment at the start of a text becomes an expression. -/
theorem escapeComments_append_of_isComment (hc : IsComment c) (s : Text) :
    escapeComments (c ++ s) = wrapComment c ++ escapeComments s := by
  have hsome : comment? (c ++ s) = some (c, s) := comment?_eq_some_iff.2 ⟨hc, rfl⟩
  have hpos := List.length_pos_iff.2 hc.ne_nil
  have hlength : (c ++ s).length = c.length + s.length := List.length_append
  obtain ⟨x, t, hcons⟩ := List.exists_cons_of_ne_nil (l := c ++ s) (by simp [hc.ne_nil])
  rw [escapeComments]
  rw [hcons] at hsome hlength ⊢
  rw [List.length_cons] at hlength ⊢
  rw [escapeCommentsWithin, hsome, escapeComments]
  exact congrArg (wrapComment c ++ ·) (escapeCommentsWithin_congr (by omega) le_rfl)

/-- What is no comment stays. -/
theorem escapeComments_cons {x : Char} (h : comment? (x :: s) = none) :
    escapeComments (x :: s) = x :: escapeComments s := by
  rw [escapeComments, List.length_cons, escapeCommentsWithin, h]
  rfl

theorem escapeComments_of_hasNoComment (hg : HasNoComment g) : escapeComments g = g := by
  induction g with
  | nil => rfl
  | cons x g ih =>
    rw [escapeComments_cons (comment?_eq_none_iff.2 fun b => hg [] b),
      ih fun a b h => hg (x :: a) b (congrArg (x :: ·) h)]

/-- A gap without an opener stays: an opener that begins in it would end in it, since an opener has
no angle bracket behind its first character. -/
theorem escapeComments_gap_append (hg : ¬ commentOpener <:+: g) (hs : s.head? = some '<') :
    escapeComments (g ++ s) = g ++ escapeComments s := by
  obtain ⟨t, rfl⟩ := List.head?_eq_some_iff.1 hs
  induction g with
  | nil => rfl
  | cons x g ih =>
    have hnone : comment? (x :: (g ++ '<' :: t)) = none := by
      refine comment?_eq_none_iff.2 fun b hb _ => ?_
      obtain ⟨rfl, hrest⟩ : x = '<' ∧ g ++ '<' :: t = "!--".toList ++ b := List.cons.inj hb
      obtain ⟨u, rfl⟩ := prefix_of_prefix_append_cons (p := "!--".toList) (by decide)
        ⟨b, hrest.symm⟩
      exact hg ⟨[], u, rfl⟩
    have hrest := ih fun h => hg (h.trans (List.suffix_cons x g).isInfix)
    rw [List.cons_append, escapeComments_cons hnone, hrest, List.cons_append]

theorem IsComment.head? (h : IsComment c) (s : Text) : (c ++ s).head? = some '<' := by
  obtain ⟨content, rfl, -⟩ := h
  rfl

/-- Escaping writes the comments as expressions and keeps the gaps. -/
theorem CommentSplit.escapeComments_eq (h : CommentSplit s gaps comments) :
    escapeComments s = interleave gaps (comments.map wrapComment) := by
  induction h with
  | last hg => simpa using escapeComments_of_hasNoComment hg
  | comment hg hc _ ih =>
    rw [escapeComments_gap_append hg (hc.head? _), escapeComments_append_of_isComment hc, ih]
    rfl

/-- A text behind which no comment is open: its gaps have no opener. -/
def IsOutsideComment (a : Text) : Prop :=
  ∃ gaps comments, CommentSplit a gaps comments ∧ ∀ g ∈ gaps, ¬ commentOpener <:+: g

/-- Where no comment is open, what follows is escaped on its own. -/
theorem IsOutsideComment.escapeComments_append (ha : IsOutsideComment a) (hs : s.head? = some '<') :
    escapeComments (a ++ s) = escapeComments a ++ escapeComments s := by
  obtain ⟨gaps, comments, hsplit, hgaps⟩ := ha
  induction hsplit with
  | last hg =>
    rw [escapeComments_of_hasNoComment hg]
    exact escapeComments_gap_append (hgaps _ (by simp)) hs
  | @comment g c r gaps comments hg hc _ ih =>
    have hrest := ih fun g' h => hgaps g' (List.mem_cons_of_mem g h)
    rw [List.append_assoc, List.append_assoc, escapeComments_gap_append hg (hc.head? _),
      escapeComments_gap_append hg (hc.head? _), escapeComments_append_of_isComment hc,
      escapeComments_append_of_isComment hc, hrest]
    simp only [List.append_assoc]

/-! ### Expressions -/

/-- The text `w` is an expression that holds the comment `c` as a comment of the script language:
a blank is put into each `*/` of `c`, and the only `*/` behind the opening `/*` is the last one. -/
structure IsExpressionOf (c w : Text) : Prop where
  parts : ∃ parts : List Text, (∀ p ∈ parts, ¬ ['*', '/'] <:+: p) ∧
    c = List.intercalate ['*', '/'] parts ∧
    w = "\x7b/* ".toList ++ (List.intercalate ['*', ' ', '/'] parts ++ " */\x7d".toList)
  ends : ∀ a b, w = "\x7b/*".toList ++ (a ++ (['*', '/'] ++ b)) → b = ['\x7d']

theorem intercalate_cons_head (sep : Text) (x : Char) (p : Text) (parts : List Text) :
    List.intercalate sep ((x :: p) :: parts) = x :: List.intercalate sep (p :: parts) := by
  cases parts <;> simp [List.intercalate]

theorem intercalate_nil_head (sep p : Text) (parts : List Text) :
    List.intercalate sep ([] :: p :: parts) = sep ++ List.intercalate sep (p :: parts) := by
  simp [List.intercalate]

/-- A text as parts with closers between them, which are separated in it. -/
theorem exists_parts (s : Text) : ∃ p parts, (∀ q ∈ p :: parts, ¬ ['*', '/'] <:+: q) ∧
    s = List.intercalate ['*', '/'] (p :: parts) ∧
    separateCloser s = List.intercalate ['*', ' ', '/'] (p :: parts) := by
  fun_induction separateCloser s with
  | case1 r ih =>
    obtain ⟨p, parts, hparts, hr, hsep⟩ := ih
    refine ⟨[], p :: parts, List.forall_mem_cons.2 ⟨by simp, hparts⟩, ?_, ?_⟩
    · rw [intercalate_nil_head, ← hr]
      rfl
    · rw [intercalate_nil_head, ← hsep]
      rfl
  | case2 x r hx ih =>
    obtain ⟨p, parts, hparts, hr, hsep⟩ := ih
    obtain ⟨hp, hrest⟩ := List.forall_mem_cons.1 hparts
    refine ⟨x :: p, parts, List.forall_mem_cons.2 ⟨fun h => ?_, hrest⟩, ?_, ?_⟩
    · rcases List.infix_cons_iff.1 h with ⟨t, ht⟩ | h
      · obtain ⟨rfl, rfl⟩ := List.cons.inj ht
        exact hx _ rfl (hr.trans (intercalate_cons_head ..))
      · exact hp h
    · rw [intercalate_cons_head, ← hr]
    · rw [intercalate_cons_head, ← hsep]
  | case3 => exact ⟨[], [], by simp, rfl, rfl⟩

/-- What separating puts first is what came first. -/
theorem head?_separateCloser (s : Text) : (separateCloser s).head? = s.head? := by
  fun_cases separateCloser s <;> rfl

/-- No closer is left where the closers are separated. -/
theorem not_infix_separateCloser (s : Text) : ¬ ['*', '/'] <:+: separateCloser s := by
  fun_induction separateCloser s with
  | case1 r ih => simpa [List.infix_cons_iff] using ih
  | case2 x r hx ih =>
    rw [List.infix_cons_iff]
    rintro (⟨t, ht⟩ | h)
    · obtain ⟨rfl, hrest⟩ := List.cons.inj ht
      have hhead : r.head? = some '/' := by
        rw [← head?_separateCloser, ← hrest]
        rfl
      obtain ⟨r', rfl⟩ := List.head?_eq_some_iff.1 hhead
      exact hx r' rfl rfl
    · exact ih h
  | case3 => simp

theorem isExpressionOf_wrapComment (c : Text) : IsExpressionOf c (wrapComment c) where
  parts := by
    obtain ⟨p, parts, hparts, hc, hsep⟩ := exists_parts c
    exact ⟨p :: parts, hparts, hc, by rw [wrapComment_eq, hsep, List.append_assoc]⟩
  ends := by
    intro a b h
    have hinner : (' ' :: separateCloser c) ++ ' ' :: ['*', '/', '\x7d'] = a ++ '*' :: '/' :: b := by
      simpa [wrapComment_eq] using h
    have hnone : ¬ ['*', '/'] <:+: ' ' :: separateCloser c := by
      simpa [List.infix_cons_iff] using not_infix_separateCloser c
    rcases List.append_eq_append_iff.1 hinner with ⟨t, -, ht⟩ | ⟨t, hu, ht⟩
    · -- The closer stands behind the comment, where there is only one.
      rcases t with _ | ⟨x, _ | ⟨y, t⟩⟩
      · simp at ht
      · simpa using (List.cons.inj ht).2.symm
      · have hrest : ['/', '\x7d'] = t ++ '*' :: '/' :: b := (List.cons.inj (List.cons.inj ht).2).2
        have hstar : '*' ∈ ['/', '\x7d'] := hrest ▸ by simp
        exact absurd hstar (by decide)
    · -- It would begin in the comment.
      rcases t with _ | ⟨x, _ | ⟨y, t⟩⟩
      · simp at ht
      · simp at ht
      · obtain ⟨rfl, rfl, -⟩ : '*' = x ∧ '/' = y ∧ _ := by simpa using ht
        exact absurd ⟨a, t, by simp [hu]⟩ hnone

/-- A text falls into gaps and comments, and escaping writes each comment as an expression that ends
where its comment of the script language ends. -/
theorem escapeComments_split (s : Text) : ∃ gaps comments, CommentSplit s gaps comments ∧
    s = interleave gaps comments ∧
    escapeComments s = interleave gaps (comments.map wrapComment) ∧
    ∀ c ∈ comments, IsExpressionOf c (wrapComment c) := by
  obtain ⟨gaps, comments, h⟩ := exists_commentSplit s
  exact ⟨gaps, comments, h, h.text_eq, h.escapeComments_eq, fun c _ => isExpressionOf_wrapComment c⟩

end DocPreview.Document
