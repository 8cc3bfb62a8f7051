import DocPreview.Proofs.Markup.Extent
import DocPreview.Proofs.Markup.Nesting

/-!
# Text between two tags

A text without angle brackets and braces that stands between two tags is made into pieces without
tags, so the tags around it stay where they are. The text may hold whatever else markup knows:
emphasis, links, code, references and addresses. What is read is held over the tag in front of it,
which is never taken away again.

## Main definitions

* `Token.IsPlain`: tokens without tags and elements.
* `IsOver`: plain tokens that are held over pieces read before.

## Main results

* `exists_step_plain`: what is read at a character.
* `exists_tokens_plain`: what is read up to a tag.
* `exists_pieces_paragraph`: the pieces of a text between the tags of a paragraph.
-/

namespace DocPreview.Markup

open Text Inline
open Token (addData add)

variable {ps : List Piece} {out inner before ts below : List Token} {t : Token} {x y : Text}
  {src : Source} {p : Piece}

/-! ### Plain tokens -/

/-- A token without tags and elements. -/
def Token.IsPlain : Token → Prop
  | .piece p => p.IsPlain
  | _ => True

/-- Plain tokens, the latest first, in front of pieces that have been read before. -/
def IsOver (ps : List Piece) (out : List Token) : Prop :=
  ∃ ts, (∀ t ∈ ts, t.IsPlain) ∧ out = ts ++ ps.map .piece

namespace IsOver

theorem refl (ps : List Piece) : IsOver ps (ps.map .piece) := ⟨[], by simp, rfl⟩

theorem cons (h : IsOver ps out) (ht : t.IsPlain) : IsOver ps (t :: out) := by
  obtain ⟨ts, hts, rfl⟩ := h
  exact ⟨t :: ts, List.forall_mem_cons.2 ⟨ht, hts⟩, rfl⟩

theorem addData (h : IsOver ps out) (s : Text) : IsOver ps (addData s out) := by
  obtain ⟨ts, hts, rfl⟩ := h
  cases ts with
  | nil => cases ps <;> exact ⟨[.data s.reverse], by simp [Token.IsPlain], rfl⟩
  | cons t ts =>
    rw [List.forall_mem_cons] at hts
    cases t with
    | data u => exact ⟨.data (s.reverse ++ u) :: ts, List.forall_mem_cons.2 ⟨trivial, hts.2⟩, rfl⟩
    | _ => exact ⟨.data s.reverse :: _ :: ts,
        List.forall_mem_cons.2 ⟨trivial, List.forall_mem_cons.2 hts⟩, rfl⟩

theorem add (h : IsOver ps out) (ht : t.IsPlain) : IsOver ps (add out t) := by
  cases t with
  | data s => exact h.addData _
  | _ => exact h.cons ht

theorem foldr_add (h : IsOver ps out) (hts : ∀ t ∈ ts, t.IsPlain) :
    IsOver ps (ts.foldr (fun t acc => Token.add acc t) out) := by
  induction ts with
  | nil => exact h
  | cons t ts ih =>
    rw [List.forall_mem_cons] at hts
    exact (ih hts.2).add hts.1

/-- Tokens over nothing are plain. -/
theorem isPlain (h : IsOver [] out) : ∀ t ∈ out, t.IsPlain := by
  obtain ⟨ts, hts, rfl⟩ := h
  simpa using hts

theorem of_isPlain (h : ∀ t ∈ out, t.IsPlain) : IsOver [] out := ⟨out, h, by simp⟩

/-- The bracket that is closed next is over the pieces read before. -/
theorem splitAtOpener {o : Opener} (h : IsOver ps out)
    (hsplit : splitAtOpener out = some (inner, o, before)) :
    (∀ t ∈ inner, t.IsPlain) ∧ IsOver ps before := by
  obtain ⟨ts, hts, rfl⟩ := h
  induction ts generalizing inner with
  | nil =>
    have hnone (ps : List Piece) : Inline.splitAtOpener (ps.map .piece) = none := by
      induction ps with
      | nil => rfl
      | cons p ps ih => simp [Inline.splitAtOpener, ih]
    rw [List.nil_append, hnone] at hsplit
    cases hsplit
  | cons t ts ih =>
    rw [List.forall_mem_cons] at hts
    cases t with
    | opener o =>
      cases hsplit
      exact ⟨by simp, ts, hts.2, rfl⟩
    | _ =>
      obtain ⟨⟨inner', o', before'⟩, hfound, heq⟩ := Option.map_eq_some_iff.1 hsplit
      cases heq
      obtain ⟨hinner, hbefore⟩ := ih hts.2 hfound
      exact ⟨List.forall_mem_cons.2 ⟨hts.1, hinner⟩, hbefore⟩

theorem deactivate (h : IsOver ps out) : IsOver ps (deactivate out) := by
  obtain ⟨ts, hts, rfl⟩ := h
  refine ⟨Inline.deactivate ts, fun t ht => ?_, by simp [Inline.deactivate]⟩
  obtain ⟨u, hu, rfl⟩ := List.mem_map.1 ht
  have hplain := hts u hu
  cases u with
  | opener o => trivial
  | _ => exact hplain

end IsOver

/-! ### The pieces of plain tokens -/

theorem isPlain_dataPieces (findsMail : Bool) (here : Point) (s : Text) :
    ∀ p ∈ Token.dataPieces findsMail here s, p.IsPlain := by
  intro p hp
  unfold Token.dataPieces at hp
  split at hp
  · obtain ⟨part, -, rfl⟩ := List.mem_map.1 hp
    cases part with
    | text t => exact .leaf _
    | link url shown =>
      exact .group (fun _ _ h => by cases h) fun p hp => by
        rw [List.mem_singleton.1 hp]
        exact .leaf _
  · rw [List.mem_singleton.1 hp]
    exact .leaf _

theorem isPlain_finish (findsMail : Bool) (here : Point) (hts : ∀ t ∈ ts, t.IsPlain) :
    ∀ p ∈ Token.finish findsMail here ts, p.IsPlain := by
  induction ts with
  | nil => simp [Token.finish]
  | cons t ts ih =>
    rw [List.forall_mem_cons] at hts
    cases t with
    | data s => exact List.forall_mem_append.2 ⟨isPlain_dataPieces _ _ _, ih hts.2⟩
    | piece p => exact List.forall_mem_cons.2 ⟨hts.1, ih hts.2⟩
    | _ => exact List.forall_mem_cons.2 ⟨.leaf _, ih hts.2⟩

mutual

theorem isPlain_withoutLink : ∀ p : Piece, p.IsPlain → ∀ q ∈ withoutLink p, q.IsPlain
  | .leaf l, h => by simpa [withoutLink] using h
  | .tag t, h => by cases h
  | .group g start stop children, h => by
    cases h with
    | group hg h =>
      have hinner := isPlain_withoutLinks children h
      unfold withoutLink
      split
      · rename_i heq
        cases heq
        exact hinner
      · rename_i heq
        cases heq
        exact fun q hq => List.mem_singleton.1 hq ▸ .group hg hinner
      · rename_i hgroup
        exact absurd rfl (hgroup g start stop children)

theorem isPlain_withoutLinks : ∀ ps : List Piece, (∀ p ∈ ps, p.IsPlain) →
    ∀ q ∈ withoutLinks ps, q.IsPlain
  | [], _ => by simp [withoutLinks]
  | p :: ps, h => by
    rw [List.forall_mem_cons] at h
    rw [withoutLinks]
    exact List.forall_mem_append.2 ⟨isPlain_withoutLink p h.1, isPlain_withoutLinks ps h.2⟩

end

/-! ### Matching runs -/

section Runs

open Token (push flatten applyRun matchRuns)

variable {frames above later : List Token.Frame} {found : Token.Frame} {r : Run} {findsMail : Bool}
  {at_ : Nat → Point}

/-- Frames of plain tokens. -/
def ArePlain (frames : List Token.Frame) : Prop := ∀ f ∈ frames, ∀ t ∈ f.2, t.IsPlain

theorem isOver_flatten (h : IsOver ps below) (hframes : ArePlain frames) :
    IsOver ps (flatten below frames) := by
  induction frames with
  | nil => exact h
  | cons f frames ih =>
    obtain ⟨r, tokens⟩ := f
    rw [ArePlain, List.forall_mem_cons] at hframes
    exact ((ih hframes.2).addData _).foldr_add hframes.1

theorem arePlain_of_findOpener (h : Token.findOpener r frames = some (above, found, later))
    (hframes : ArePlain frames) :
    ArePlain above ∧ (∀ t ∈ found.2, t.IsPlain) ∧ ArePlain later := by
  induction frames generalizing above with
  | nil => cases h
  | cons f frames ih =>
    rw [ArePlain, List.forall_mem_cons] at hframes
    rw [Token.findOpener] at h
    split at h
    · cases h
      exact ⟨by simp [ArePlain], hframes⟩
    · obtain ⟨⟨above', found', later'⟩, hfound, heq⟩ := Option.map_eq_some_iff.1 h
      cases heq
      obtain ⟨habove, hrest⟩ := ih hfound hframes.2
      exact ⟨List.forall_mem_cons.2 ⟨hframes.1, habove⟩, hrest⟩

theorem isOver_push (h : IsOver ps below) (hframes : ArePlain frames) (ht : t.IsPlain) :
    ArePlain (push t frames below).1 ∧ IsOver ps (push t frames below).2 := by
  cases frames with
  | nil => exact ⟨hframes, h.add ht⟩
  | cons f frames =>
    obtain ⟨r, tokens⟩ := f
    rw [ArePlain, List.forall_mem_cons] at hframes
    exact ⟨List.forall_mem_cons.2 ⟨((IsOver.of_isPlain hframes.1).add ht).isPlain, hframes.2⟩, h⟩

theorem groupOf_ne (mark : Char) (taken : Nat) (name : Option String)
    (attributes : List (Attribute Point)) :
    Token.groupOf mark taken ≠ .element name attributes := by
  unfold Token.groupOf
  split_ifs <;> exact Group.noConfusion

theorem isOver_applyRun (findsMail : Bool) (at_ : Nat → Point) (r : Run) (n : Nat) (h : IsOver ps below) (hframes : ArePlain frames) :
    ArePlain (applyRun findsMail at_ n r frames below).1 ∧
      IsOver ps (applyRun findsMail at_ n r frames below).2 := by
  induction n generalizing r frames below with
  | zero => exact isOver_push h hframes trivial
  | succ n ih =>
    rw [applyRun]
    dsimp only
    split
    · rename_i above o tokens later hfound
      split_ifs at hfound with hclose
      obtain ⟨habove, htokens, hlater⟩ := arePlain_of_findOpener hfound hframes
      have hinner := (isOver_flatten (IsOver.of_isPlain htokens) habove).isPlain
      generalize (if 1 < o.size && 1 < r.size then 2 else 1) = taken
      have hmade (here start stop : Point) : Token.IsPlain (.piece (.group
          (Token.groupOf r.mark taken) start stop
            (Token.finish findsMail here (flatten tokens above).reverse))) :=
        .group (groupOf_ne _ _)
          (isPlain_finish _ _ fun t ht => hinner t (List.mem_reverse.1 ht))
      have hnext {made : Token} (hmade : made.IsPlain) :
          let q := if o.size = taken then push made later below
            else (({ o with size := o.size - taken }, [made]) :: later, below)
          ArePlain q.1 ∧ IsOver ps q.2 := by
        intro q
        simp only [q]
        split
        · exact isOver_push h hlater hmade
        · exact ⟨List.forall_mem_cons.2 ⟨by simpa using hmade, hlater⟩, h⟩
      split
      · exact hnext (hmade _ _ _)
      · exact ih _ (hnext (hmade _ _ _)).2 (hnext (hmade _ _ _)).1
    · split
      · exact ⟨List.forall_mem_cons.2 ⟨by simp, hframes⟩, h⟩
      · exact isOver_push h hframes trivial

/-- Runs among plain tokens make plain tokens. -/
theorem exists_matchRuns_append (findsMail : Bool) (at_ : Nat → Point) (h : IsOver ps below)
    (hframes : ArePlain frames) (hts : ∀ t ∈ ts, t.IsPlain) : ∃ frames' below', ArePlain frames' ∧ IsOver ps below' ∧
      ∀ rest, matchRuns findsMail at_ frames below (ts ++ rest) =
        matchRuns findsMail at_ frames' below' rest := by
  induction ts generalizing frames below with
  | nil => exact ⟨frames, below, hframes, h, fun _ => rfl⟩
  | cons t ts ih =>
    rw [List.forall_mem_cons] at hts
    cases t with
    | run r =>
      have hrun := isOver_applyRun findsMail at_ r (r.size + 1) h hframes
      exact ih hrun.2 hrun.1 hts.2
    | _ =>
      have hpush := isOver_push h hframes hts.1
      exact ih hpush.2 hpush.1 hts.2

theorem arePlain_nil : ArePlain [] := by simp [ArePlain]

theorem isPlain_pieces (hts : ∀ t ∈ ts, t.IsPlain) :
    ∀ p ∈ Token.pieces findsMail at_ ts, p.IsPlain := by
  obtain ⟨frames, below, hframes, hbelow, hruns⟩ :=
    exists_matchRuns_append findsMail at_ (.refl []) arePlain_nil
      fun t ht => hts t (List.mem_reverse.1 ht)
  have hnil : matchRuns findsMail at_ [] [] (ts.reverse ++ []) = _ := hruns []
  rw [List.append_nil] at hnil
  rw [Token.pieces, hnil]
  exact isPlain_finish _ _ fun t ht =>
    (isOver_flatten hbelow hframes).isPlain t (List.mem_reverse.1 ht)

theorem finish_append (here : Point) (ts us : List Token) :
    Token.finish findsMail here (ts ++ us) =
      Token.finish findsMail here ts ++ Token.finish findsMail here us := by
  induction ts with
  | nil => rfl
  | cons t ts ih => cases t <;> simp [Token.finish, ih]

/-- Plain tokens between two pieces are plain pieces between them. -/
theorem exists_pieces_between (at_ : Nat → Point) (hts : ∀ t ∈ ts, t.IsPlain) (p q : Piece) :
    ∃ qs, (∀ r ∈ qs, r.IsPlain) ∧
      Token.pieces true at_ (.piece q :: (ts ++ [.piece p])) = p :: (qs ++ [q]) := by
  obtain ⟨frames, below, hframes, hbelow, hruns⟩ :=
    exists_matchRuns_append true at_ (.refl [p]) arePlain_nil
      fun t ht => hts t (List.mem_reverse.1 ht)
  obtain ⟨us, hus, hflat⟩ := isOver_flatten hbelow hframes
  have hlast : matchRuns true at_ frames below [.piece q] = .piece q :: flatten below frames := by
    cases frames <;> rfl
  have hmatch : matchRuns true at_ [] [] (.piece q :: (ts ++ [.piece p])).reverse =
      .piece q :: (us ++ [.piece p]) := by
    rw [List.reverse_cons, List.reverse_append]
    exact (hruns _).trans (hlast.trans (by rw [hflat]; rfl))
  refine ⟨Token.finish true (at_ 0) us.reverse,
    isPlain_finish _ _ fun t ht => hus t (List.mem_reverse.1 ht), ?_⟩
  rw [Token.pieces, hmatch, List.reverse_cons, List.reverse_append, finish_append, finish_append]
  rfl

end Runs

/-! ### Reading plain text -/

/-- What follows the text of a paragraph. -/
def closingTag : Text := "</p>".toList

/-- What a step reads in front of the closing tag of a paragraph. -/
structure IsPlainStep (ps : List Piece) (x : Text) (r : Step) : Prop where
  out : IsOver ps r.1
  passes : Passes x r.2

section Steps

variable {c : Char} {n index : Nat} {previous : Option Char} {u v : Text}

theorem IsOver.addData_step (h : IsOver ps out) (hpaired : HasPairedEnd (u ++ v)) (hu : u ≠ [])
    (hlast : u.getLast? ≠ some '\\') (s : Text) :
    IsPlainStep ps (u ++ v) (Token.addData s out, u.length) :=
  ⟨h.addData s, passes_of_append hpaired hu (.inl hlast)⟩

theorem isPlainStep_readBackslash (hpaired : HasPairedEnd ('\\' :: x))
    (hx : ∀ c ∈ x, isLineEnd c = false) (h : IsOver ps out) :
    IsPlainStep ps ('\\' :: x) (readBackslash ('\\' :: x ++ closingTag) out) := by
  cases x with
  | nil => exact absurd hpaired (by decide)
  | cons d x =>
    rw [List.forall_mem_cons] at hx
    have hread : readBackslash ('\\' :: d :: x ++ closingTag) out =
        if isAsciiPunctuation d then (.literal [d] :: out, 2)
        else (Token.addData ['\\'] out, 1) := by
      unfold readBackslash
      simp only [List.cons_append, List.drop_succ_cons, List.drop_zero, hx.1]
      rfl
    rw [hread]
    split_ifs with hd
    · refine ⟨h.cons trivial, ⟨Nat.succ_ne_zero _, by simp, ?_⟩⟩
      by_cases hslash : d = '\\'
      · subst hslash
        exact hpaired.of_pair
      · exact hpaired.of_append (u := ['\\', d]) (.inl (by simpa using hslash))
    · refine ⟨h.addData _, ⟨Nat.succ_ne_zero _, by simp, ?_⟩⟩
      refine hpaired.of_append (u := ['\\']) (.inr ?_)
      rintro heq
      obtain rfl : d = '\\' := by simpa using heq
      exact hd (by decide)

theorem exists_of_append_closingTag {d : Char} {r : Text} (h : x ++ closingTag = d :: r)
    (hd : d ≠ '<') : ∃ y, x = d :: y ∧ r = y ++ closingTag := by
  cases x with
  | nil => exact absurd (List.cons.inj h).1.symm hd
  | cons c x =>
    cases h
    exact ⟨x, rfl, rfl⟩

/-- A run of marks that no closing tag goes on with. -/
theorem takeWhile_append_closingTag {p : Char → Bool} (hp : p '<' = false) (x : Text) :
    (x ++ closingTag).takeWhile p = x.takeWhile p := by
  have hnil : closingTag.takeWhile p = [] := by simp [closingTag, hp]
  rw [List.takeWhile_append, hnil, List.append_nil]
  split_ifs with hlength
  · exact ((List.takeWhile_prefix p).eq_of_length hlength).symm
  · rfl

/-- A run of a mark at the start of a text, and what follows it. -/
theorem exists_run (c : Char) (hc : c ≠ '<') (x : Text) : ∃ u v, c :: x = u ++ v ∧ u ≠ [] ∧
    u.getLast? = some c ∧ ((c :: x ++ closingTag).takeWhile (· = c)).length = u.length := by
  have hne : (c :: x).takeWhile (· = c) ≠ [] := by simp
  refine ⟨(c :: x).takeWhile (· = c), (c :: x).dropWhile (· = c),
    (List.takeWhile_append_dropWhile ..).symm, hne, ?_, ?_⟩
  · rw [List.getLast?_eq_some_getLast hne]
    exact congrArg some (by simpa using List.mem_takeWhile_imp (List.getLast_mem hne))
  · rw [takeWhile_append_closingTag (by simpa using Ne.symm hc)]

theorem isPlainStep_readCode (isCell : Bool) (hpaired : HasPairedEnd ('\x60' :: x))
    (h : IsOver ps out) :
    IsPlainStep ps ('\x60' :: x) (readCode isCell ('\x60' :: x ++ closingTag) out) := by
  obtain ⟨u, v, heq, hne, hlast, hlength⟩ := exists_run '\x60' (by decide) x
  have hslash : u.getLast? ≠ some '\\' := by rw [hlast]; decide
  rw [readCode, hlength]
  rw [heq] at hpaired ⊢
  have hdrop : (u ++ v ++ closingTag).drop u.length = v ++ closingTag := by
    rw [List.append_assoc, List.drop_left]
  simp only [hdrop]
  split
  · rename_i body k hbody
    obtain ⟨p, q, hpq, rfl, hp⟩ := exists_of_codeBody? (List.length_eq_zero_iff.not.2 hne) hbody
    have hmark : p.getLast? = some '\x60' := hp.resolve_left fun hzero =>
      hne (List.length_eq_zero_iff.1 hzero.2.symm)
    obtain ⟨p, rfl⟩ := List.getLast?_eq_some_iff.1 hmark
    refine ⟨h.cons (.leaf _), ?_⟩
    have hsuffix : '\x60' :: q <:+ u ++ v ++ closingTag :=
      ⟨u ++ p, by rw [List.append_assoc u v, hpq]; simp⟩
    have hpasses := passes_of_mark hpaired (by decide) (by decide) hsuffix
    convert hpasses using 1
    rw [List.append_assoc, hpq]
    simp
    omega
  · exact h.addData_step hpaired hne hslash _

theorem isPlainStep_readLetter (hpaired : HasPairedEnd (c :: x)) (hc : c ≠ '\\')
    (h : IsOver ps out) :
    IsPlainStep ps (c :: x) (readLetter src previous index (c :: x ++ closingTag) out) := by
  have hlink (before shown : Text) : (addressLink src index before shown).IsPlain :=
    .group (fun _ _ => Group.noConfusion) fun p hp => List.mem_singleton.1 hp ▸ .leaf _
  unfold readLetter
  split
  · rename_i hn
    exact ⟨h.cons (hlink _ _), passes_of_protocolLink? hpaired hn⟩
  · split
    · rename_i hn
      exact ⟨h.cons (hlink _ _), passes_of_wwwLink? hpaired hn⟩
    · exact h.addData_step (u := [c]) hpaired (by simp) (by simpa using hc) _

theorem passes_targetAfter? {ds : List Definition} {own : Option Target} {t : Target}
    (hpaired : HasPairedEnd (']' :: x)) (h : targetAfter? ds own (x ++ closingTag) = some (t, n)) :
    Passes (']' :: x) (n + 1) := by
  have hmark {d : Char} {rest : Text} (hd : d ∉ closingTag) (hslash : d ≠ '\\')
      (hs : d :: rest <:+ x ++ closingTag) :
      Passes (']' :: x) ((x ++ closingTag).length - rest.length + 1) := by
    have hpasses := passes_of_mark hpaired hd hslash (hs.trans (List.suffix_cons ']' _))
    have hle := hs.length_le
    rw [List.length_cons] at hle
    rwa [List.cons_append, List.length_cons, Nat.succ_sub (by omega)] at hpasses
  have hone : Passes (']' :: x) (0 + 1) :=
    passes_of_append (u := [']']) hpaired (by simp) (.inl (by decide))
  have hown (h : own.map (fun t => (t, 0)) = some (t, n)) : Passes (']' :: x) (n + 1) := by
    obtain ⟨_, _, heq⟩ := Option.map_eq_some_iff.1 h
    cases heq
    exact hone
  unfold targetAfter? at h
  dsimp only at h
  split at h
  · rename_i r heq
    split at h
    · rename_i t' rest hresource
      cases h
      refine hmark (d := ')') (by decide) (by decide) ?_
      rw [heq]
      exact (mark_suffix_of_resource? hresource).trans (List.suffix_cons ..)
    · exact hown h
  · rename_i r heq
    split at h
    · rename_i found hfull
      cases h
      simp only [Option.bind_eq_bind, Option.bind_eq_some_iff] at hfull
      obtain ⟨⟨label, rest⟩, hlabel, t', -, heq'⟩ := hfull
      cases heq'
      exact hmark (by decide) (by decide) (mark_suffix_of_label? hlabel)
    · split_ifs at h with hempty
      · obtain ⟨_, _, heq'⟩ := Option.map_eq_some_iff.1 h
        cases heq'
        obtain ⟨s, rfl⟩ := List.head?_eq_some_iff.1 hempty
        obtain ⟨x, rfl, hbehind⟩ := exists_of_append_closingTag heq (by decide)
        obtain ⟨y, rfl, -⟩ := exists_of_append_closingTag hbehind.symm (by decide)
        exact passes_of_append (u := [']', '[', ']']) hpaired (by simp) (.inl (by decide))
      · exact hown h
  · exact hown h

theorem isPlainStep_readCloser (hpaired : HasPairedEnd (']' :: x)) (h : IsOver ps out) :
    IsPlainStep ps (']' :: x) (readCloser src index (']' :: x ++ closingTag) out) := by
  have hone : Passes (']' :: x) 1 :=
    passes_of_append (u := [']']) hpaired (by simp) (.inl (by decide))
  unfold readCloser
  split
  · exact ⟨h.addData _, hone⟩
  · rename_i inner o before hsplit
    obtain ⟨hinner, hbefore⟩ := h.splitAtOpener hsplit
    have hloose : IsPlainStep ps (']' :: x) (Token.addData [']'] (inner.foldr
        (fun t acc => Token.add acc t) (Token.addData o.text before)), 1) :=
      ⟨((hbefore.addData _).foldr_add hinner).addData _, hone⟩
    dsimp only
    split
    · exact hloose
    · split
      · exact ⟨hbefore.deactivate.cons (.leaf _), hone⟩
      · split
        · exact hloose
        · rename_i t n htarget
          have hpasses := passes_targetAfter? hpaired htarget
          split
          · exact ⟨hbefore.cons (.leaf _), hpasses⟩
          · refine ⟨hbefore.deactivate.cons (.group (fun _ _ => Group.noConfusion)
              (isPlain_withoutLinks _ (isPlain_pieces fun t ht => ?_))), hpasses⟩
            split at ht
            · rcases List.mem_append.1 ht with ht | ht
              · exact hinner t ht
              · exact List.mem_singleton.1 ht ▸ trivial
            · exact hinner t ht

theorem isPlainStep_addData (hpaired : HasPairedEnd (c :: x)) (hc : c ≠ '\\')
    (h : IsOver ps out) : IsPlainStep ps (c :: x) (Token.addData [c] out, 1) :=
  h.addData_step (u := [c]) hpaired (by simp) (by simpa using hc) _

/-- What is read at a character in front of the closing tag of a paragraph. -/
theorem exists_step_plain (src : Source) (previous : Option Char) (index : Nat)
    (hpaired : HasPairedEnd (c :: x))
    (hchars : ∀ d ∈ c :: x, d ≠ '<' ∧ d ≠ '\x7b' ∧ isLineEnd d = false) (h : IsOver ps out) :
    ∃ r, step src previous index c (x ++ closingTag) out = .ok r ∧ IsPlainStep ps (c :: x) r := by
  obtain ⟨⟨hlt, hbrace, hend⟩, hx⟩ := List.forall_mem_cons.1 hchars
  unfold step
  dsimp only
  split
  · rename_i hc
    subst hc
    exact ⟨_, rfl, isPlainStep_readBackslash hpaired (fun d hd => (hx d hd).2.2) h⟩
  rename_i hslash
  split
  · rename_i hc
    subst hc
    split
    · rename_i cs rest hreference
      refine ⟨_, rfl, h.cons trivial, ?_⟩
      have hmark := (mark_suffix_of_reference? hreference).trans (List.suffix_cons '&' _)
      exact passes_of_mark (d := ';') hpaired (by decide) (by decide) hmark
    · exact ⟨_, rfl, isPlainStep_addData hpaired hslash h⟩
  split
  · rename_i hc
    subst hc
    exact ⟨_, rfl, isPlainStep_readCode src.isCell hpaired h⟩
  split
  · obtain ⟨u, v, heq, hne, hlast, hlength⟩ := exists_run c hlt x
    refine ⟨_, rfl, h.cons trivial, ?_⟩
    rw [heq] at hpaired ⊢
    exact hlength ▸ passes_of_append hpaired hne (.inl (by rw [hlast]; simpa using hslash))
  split
  · rename_i hc
    subst hc
    split
    · rename_i d r heq
      split
      · exact ⟨_, rfl, isPlainStep_addData hpaired hslash h⟩
      · obtain ⟨y, rfl, -⟩ := exists_of_append_closingTag heq (by decide)
        exact ⟨_, rfl, h.cons trivial, passes_of_append (u := ['!', '[']) hpaired (by simp)
          (.inl (by decide))⟩
    · rename_i heq
      obtain ⟨y, rfl, -⟩ := exists_of_append_closingTag heq (by decide)
      exact ⟨_, rfl, h.cons trivial, passes_of_append (u := ['!', '[']) hpaired (by simp)
        (.inl (by decide))⟩
    · exact ⟨_, rfl, isPlainStep_addData hpaired hslash h⟩
  split
  · rename_i hc
    subst hc
    split
    · rename_i hhead
      obtain ⟨r, hr⟩ := List.head?_eq_some_iff.1 hhead
      obtain ⟨y, rfl, -⟩ := exists_of_append_closingTag hr (by decide)
      exact ⟨_, rfl, h.cons trivial, passes_of_append (u := ['[', '^']) hpaired (by simp)
        (.inl (by decide))⟩
    · exact ⟨_, rfl, h.cons trivial, passes_of_append (u := ['[']) hpaired (by simp)
        (.inl (by decide))⟩
  split
  · rename_i hc
    subst hc
    exact ⟨_, rfl, isPlainStep_readCloser hpaired h⟩
  split
  · exact ⟨_, rfl, isPlainStep_readLetter hpaired hslash h⟩
  rw [hend]
  exact ⟨_, rfl, isPlainStep_addData hpaired hslash h⟩

/-- What is read of a text up to the closing tag of a paragraph. -/
theorem exists_tokens_plain (src : Source) (previous : Option Char) (index : Nat)
    (hn : n ≤ x.length) (hpaired : HasPairedEnd (x.drop n))
    (hchars : ∀ d ∈ x, d ≠ '<' ∧ d ≠ '\x7b' ∧ isLineEnd d = false) (h : IsOver ps out) :
    ∃ out' last, IsOver ps out' ∧ tokens src n previous index out (x ++ closingTag) =
      tokens src 0 last (index + x.length) out' closingTag := by
  induction x generalizing n previous index out with
  | nil =>
    obtain rfl := Nat.le_zero.1 hn
    exact ⟨out, previous, h, rfl⟩
  | cons c x ih =>
    have hx := (List.forall_mem_cons.1 hchars).2
    have hindex : index + (c :: x).length = index + 1 + x.length := by
      rw [List.length_cons]
      omega
    rw [List.cons_append, hindex]
    cases n with
    | succ n => exact ih _ _ (Nat.le_of_succ_le_succ hn) hpaired hx h
    | zero =>
      obtain ⟨⟨out', k⟩, hstep, hout, hpos, hle, hrest⟩ :=
        exists_step_plain src previous index hpaired hchars h
      rw [tokens, hstep]
      obtain ⟨k, rfl⟩ := Nat.exists_eq_succ_of_ne_zero hpos
      exact ih _ _ (Nat.le_of_succ_le_succ hle) hrest hx hout

end Steps

/-! ### The text of a paragraph -/

theorem tokens_tag {t : Tag Nat} {r rest : Text} {index k : Nat} {previous : Option Char}
    (hscan : Tag.scan ⟨'<' :: r, index⟩ = .ok (t, ⟨rest, index + (k + 1)⟩)) (out : List Token) :
    tokens src 0 previous index out ('<' :: r) =
      tokens src k (some '<') (index + 1) (.piece (.tag (t.map src.at)) :: out) r := by
  have hstep : step src previous index '<' r out =
      .ok (.piece (.tag (t.map src.at)) :: out, k + 1) := by
    unfold step
    simp [readTag, hscan]
  rw [tokens, hstep]
  rfl

/-- A text between the tags of a paragraph is plain pieces between these tags. -/
theorem exists_piecesFrom_paragraph {l : Line} (hl : l.text = "<p>".toList ++ (x ++ closingTag))
    (hpaired : HasPairedEnd x)
    (hchars : ∀ d ∈ x, d ≠ '<' ∧ d ≠ '\x7b' ∧ isLineEnd d = false) (labels : Labels) :
    ∃ (t t' : Tag Point) (qs : List Piece), t.Opens "p" [] ∧ t'.Closes "p" ∧
      (∀ q ∈ qs, q.IsPlain) ∧
        Content.piecesFrom labels false 0 [l] = .ok (.tag t :: (qs ++ [.tag t'])) := by
  let src : Source := ⟨[l], Content.text [l], labels, false⟩
  have htext : src.text = '<' :: ("p>".toList ++ (x ++ closingTag)) := hl
  obtain ⟨t, hscan, hopens⟩ : ∃ t : Tag Nat,
      Tag.scan ⟨'<' :: ("p>".toList ++ (x ++ closingTag)), 0⟩ = .ok (t, ⟨x ++ closingTag, 3⟩) ∧
        t.Opens "p" [] := ⟨⟨some "p", false, false, [], 0, 3⟩, rfl, rfl, rfl, rfl, rfl⟩
  have hfirst : tokens src 0 none 0 [] src.text =
      tokens src 0 (some '>') 3 ([Piece.tag (t.map src.at)].map .piece) (x ++ closingTag) := by
    rw [htext, tokens_tag (k := 2) hscan]
    rfl
  obtain ⟨out, last, ⟨ts, hts, rfl⟩, hmiddle⟩ := exists_tokens_plain src (some '>') 3
    (Nat.zero_le _) hpaired hchars (.refl [Piece.tag (t.map src.at)])
  obtain ⟨t', hscan', hcloses⟩ : ∃ t' : Tag Nat,
      Tag.scan ⟨closingTag, 3 + x.length⟩ = .ok (t', ⟨[], 3 + x.length + 4⟩) ∧ t'.Closes "p" :=
    ⟨⟨some "p", true, false, [], 3 + x.length, 3 + x.length + 4⟩, rfl, rfl, rfl, rfl, rfl⟩
  have hlast (out : List Token) : tokens src 0 last (3 + x.length) out closingTag =
      .ok (.piece (.tag (t'.map src.at)) :: out) := tokens_tag (k := 3) hscan' out
  have hindent : (src.text.takeWhile Line.isIndent).length = 0 := by
    rw [htext]
    rfl
  have htokens := hfirst.trans (hmiddle.trans (hlast _))
  have hpieces : Content.piecesFrom labels false 0 [l] = .ok (Token.pieces true src.at
      (.piece (.tag (t'.map src.at)) :: (ts ++ [Piece.tag (t.map src.at)].map .piece))) := by
    have hunfold : Content.piecesFrom labels false 0 [l] = (tokens src 0
        (if 0 + (src.text.takeWhile Line.isIndent).length = 0 then none
          else src.text[0 + (src.text.takeWhile Line.isIndent).length - 1]?)
        (0 + (src.text.takeWhile Line.isIndent).length) []
        (src.text.drop (src.text.takeWhile Line.isIndent).length) >>= fun ts =>
          .ok (Token.pieces true src.at (trimLast ts))) := rfl
    rw [hunfold, hindent]
    change (tokens src 0 none 0 [] src.text >>= _) = _
    rw [htokens]
    rfl
  obtain ⟨qs, hqs, hbetween⟩ := exists_pieces_between src.at hts (.tag (t.map src.at))
    (.tag (t'.map src.at))
  exact ⟨_, _, qs, hopens.map src.at, hcloses.map src.at, hqs, by rw [hpieces, ← hbetween]; rfl⟩

end DocPreview.Markup
