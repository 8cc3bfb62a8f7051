import DocPreview.Artifact.Build
import DocPreview.Proofs.Artifact.Sanitizing
import DocPreview.Proofs.Text.Occurrence
import Mathlib.Data.List.Basic

/-!
# Sanitizing undoes the wrapping of a body

A compiled document is a body between a strict-mode marker, its metadata and the return of its
exports. Sanitizing takes the marker and the return away again, whatever markers and returns the
metadata and the body hold: the marker at the start is the first one, and the return at the end
is the only one that nothing follows. A comment at the end of the body may take the line break
before the return with it, which does not matter, since white space at the end goes anyway.

A body can start with settings of elements. Where there are no others in the artifact, these go as
well, and the rest of the body stays behind its metadata. If a return is mentioned there, none is
added.

## Main definitions

* `BehindSettings`: what stands behind the settings at the head of a text.
* `withMetadata`: a body behind its metadata.

## Main results

* `removeAll_pragma_append_lf`: comments are removed from a text that goes on with another line.
* `exportReturn_append_eq_none`: the return is not matched from a place before it.
* `sanitize_wrap`: what is left of a wrapped body.
* `BehindSettings.removeAll_append`: the settings at the head are what is cut out of a body.
* `sanitize_wrap_of_behindSettings`: what is left of a body with no other settings.
-/

namespace DocPreview.Artifact

open Text

variable {s t u y p metadata body rest : Text}

/-! ### Comments before a line -/

theorem pragma_eq_none_of_head? (h : s.head? ≠ some '/') : pragma s = none := by
  rw [Option.eq_none_iff_forall_not_mem]
  intro r hr
  obtain ⟨inner, tail, -, rfl, -⟩ := pragma_eq_some_iff.1 hr
  exact h rfl

theorem pragma_eq_none_of_star_notMem (h : '*' ∉ s) : pragma s = none := by
  rw [Option.eq_none_iff_forall_not_mem]
  intro r hr
  obtain ⟨inner, tail, -, rfl, -⟩ := pragma_eq_some_iff.1 hr
  exact h (by simp)

theorem removal_pragma_of_star_notMem (h : '*' ∉ s) : Removal pragma .all s [] s :=
  (removal_nil_iff advances_pragma).2
    ⟨rfl, fun _ hy => pragma_eq_none_of_star_notMem fun hc => h (hy.subset hc)⟩

/-- A comment does not end in a text behind it that has no asterisk. -/
theorem pragma_append_lf_eq_none (h : pragma s = none) (ht : '*' ∉ t) :
    pragma (s ++ '\n' :: t) = none := by
  rw [Option.eq_none_iff_forall_not_mem] at h ⊢
  intro r hr
  obtain ⟨inner, tail, hinner, hs, -⟩ := pragma_eq_some_iff.1 hr
  have hs : s ++ '\n' :: t = ("/*".toList ++ inner ++ ['*']) ++ ['/'] ++ tail := by
    rw [hs]
    simp
  rcases List.append_eq_append_iff.1 hs with ⟨a, hcomment, hrest⟩ | ⟨a, hs, htail⟩
  · -- The comment would end behind `s`, where its last two characters cannot stand.
    cases a using List.reverseRecOn with
    | nil =>
      refine h _ (pragma_eq_some_iff.2 ⟨inner, [], hinner, ?_, rfl⟩)
      rw [← List.append_nil s, ← hcomment]
      simp
    | append_singleton a c =>
      rw [← List.append_assoc] at hcomment
      obtain ⟨hopen, hc⟩ := List.append_inj' hcomment rfl
      obtain rfl := List.singleton_inj.1 hc
      cases a using List.reverseRecOn with
      | nil => simp at hrest
      | append_singleton a d =>
        rw [← List.append_assoc] at hopen
        obtain ⟨-, hd⟩ := List.append_inj' hopen rfl
        obtain rfl := List.singleton_inj.1 hd
        have hmem : '*' ∈ '\n' :: t := by
          rw [hrest]
          simp
        exact ht (by simpa using hmem)
  · refine h _ (pragma_eq_some_iff.2 ⟨inner, a, hinner, ?_, rfl⟩)
    rw [hs]
    simp

/-- The rest of a line goes with the line break behind it if the text ends before. -/
theorem dropLineRest_append_lf (s t : Text) :
    dropLineRest (s ++ '\n' :: t) = dropLineRest s ++ '\n' :: t ∨
      dropLineRest s = [] ∧ dropLineRest (s ++ '\n' :: t) = t := by
  obtain ⟨b, hb, hs⟩ := exists_dropWhile (fun c => c = ' ' || c = '\t') s
  have hskip : (s ++ '\n' :: t).dropWhile (fun c => c = ' ' || c = '\t') =
      (s.dropWhile fun c => c = ' ' || c = '\t') ++ '\n' :: t := by
    conv_lhs => rw [hs, List.append_assoc, List.dropWhile_append_of_pos hb]
    cases hr : s.dropWhile (fun c => c = ' ' || c = '\t') with
    | nil => rfl
    | cons c r =>
      have hc := List.head?_dropWhile_not (fun c => c = ' ' || c = '\t') s
      rw [hr] at hc
      exact List.dropWhile_cons_of_neg (by simpa using hc)
  simp only [dropLineRest, hskip]
  cases s.dropWhile (fun c => c = ' ' || c = '\t') with
  | nil => exact Or.inr ⟨rfl, rfl⟩
  | cons c r =>
    left
    by_cases hc : c = '\n'
    · subst hc
      rfl
    · rw [List.cons_append]
      split
      · next heq => exact absurd (List.cons.inj heq).1 hc
      · split
        · next heq => exact absurd (List.cons.inj heq).1 hc
        · rfl

/-- Comments are removed from a text that goes on with a line of its own as they are without that
line; at most the line break goes with the last one. -/
theorem exists_removal_pragma_append_lf {ps : List Text} (h : Removal pragma .all s ps u)
    (ht : '*' ∉ t) : ∃ qs, Removal pragma .all (s ++ '\n' :: t) qs (u ++ '\n' :: t) ∨
      Removal pragma .all (s ++ '\n' :: t) qs (u ++ t) := by
  generalize hx : Extent.all = x at h
  induction h with
  | nil =>
    subst hx
    exact ⟨[], Or.inl (removal_pragma_of_star_notMem (by simpa using ht))⟩
  | keep h _ ih =>
    subst hx
    obtain ⟨qs, hqs⟩ := ih rfl
    exact ⟨qs, hqs.imp (.keep (pragma_append_lf_eq_none h ht))
      (.keep (pragma_append_lf_eq_none h ht))⟩
  | @cut p s u ps hne h hs ih =>
    obtain ⟨inner, tail, hinner, hp, hrest⟩ := pragma_eq_some_iff.1 h
    have hmatch : pragma (p ++ (s ++ '\n' :: t)) = some (dropLineRest (tail ++ '\n' :: t)) := by
      refine pragma_eq_some_iff.2 ⟨inner, _, hinner, ?_, rfl⟩
      rw [← List.append_assoc, hp]
      simp only [List.append_assoc]
    rw [List.append_assoc]
    rcases dropLineRest_append_lf tail t with hline | ⟨hnil, hline⟩
    · rw [hline, ← hrest] at hmatch
      obtain ⟨qs, hqs⟩ := ih rfl
      exact ⟨p :: qs, hqs.imp (.cut hne hmatch) (.cut hne hmatch)⟩
    · rw [← hrest] at hnil
      subst hnil
      obtain ⟨-, rfl⟩ := hs.unique .nil advances_pragma.nil
      have hcomment : pragma ((p ++ ['\n']) ++ t) = some t := by
        simpa [hline] using hmatch
      have hcut := Removal.cut (by simp) hcomment (removal_pragma_of_star_notMem ht)
      exact ⟨[p ++ ['\n']], Or.inr (by simpa using hcut)⟩
  | stop => cases hx

theorem removeAll_pragma_append_lf (s : Text) (ht : '*' ∉ t) :
    removeAll pragma (s ++ '\n' :: t) = removeAll pragma s ++ '\n' :: t ∨
      removeAll pragma (s ++ '\n' :: t) = removeAll pragma s ++ t := by
  obtain ⟨ps, hps⟩ := exists_removal advances_pragma .all s
  obtain ⟨qs, hqs⟩ := exists_removal_pragma_append_lf hps ht
  exact hqs.imp (fun h => (removal_iff advances_pragma (x := .all)).1 ⟨qs, h⟩)
    (fun h => (removal_iff advances_pragma (x := .all)).1 ⟨qs, h⟩)

/-- Comments are removed from what is behind a text without a slash. -/
theorem removeAll_pragma_append (hs : '/' ∉ s) (t : Text) :
    removeAll pragma (s ++ t) = s ++ removeAll pragma t := by
  obtain ⟨ps, hps⟩ := exists_removal advances_pragma .all t
  refine (removal_iff advances_pragma (x := .all)).1 ⟨ps, hps.append_of_none fun y hy hne => ?_⟩
  refine pragma_eq_none_of_head? fun hc => hs (hy.subset ?_)
  rw [List.head?_append_of_ne_nil _ hne] at hc
  exact List.mem_of_mem_head? hc

/-! ### The return behind a text -/

/-- The return of the exports as a document is wrapped with it. -/
def wrappedReturn : Text := "return \x7bfrontmatter, default: MDXContent\x7d;\n".toList

theorem wrappedReturn_eq : wrappedReturn =
    "return ".toList ++ '\x7b' :: "frontmatter, default: MDXContent\x7d;\n".toList := rfl

/-- The words of the return have one opening brace. -/
theorem countP_exportWords : ∀ hasMember hasComma hasSemicolon,
    (exportWords hasMember hasComma hasSemicolon).flatten.countP (· = '\x7b') = 1 := by
  decide

/-- The return has one opening brace. -/
theorem IsExportReturn.countP_eq_one (h : IsExportReturn s) : s.countP (· = '\x7b') = 1 := by
  obtain ⟨hasMember, hasComma, hasSemicolon, t, r, rfl, hspells, hblank⟩ := h
  have hbrace : ∀ c, isBlank c → decide (c = '\x7b') = false := by
    refine fun c hc => decide_eq_false ?_
    rintro rfl
    exact absurd hc (by decide)
  have hreturn : "return".toList.countP (· = '\x7b') = 0 := by decide
  have hrest : r.countP (· = '\x7b') = 0 :=
    List.countP_eq_zero.2 fun c hc => by simp [hbrace c (hblank c hc)]
  rw [List.countP_append, hspells.countP_eq hbrace, hreturn, hrest, countP_exportWords]

/-- The return is not matched from a place before it: what stands before its brace is the word and
white space. -/
theorem exportReturn_append_eq_none (hy : y ≠ []) : exportReturn (y ++ wrappedReturn) = none := by
  rw [Option.eq_none_iff_forall_not_mem]
  intro r hr
  obtain ⟨hreturn, -⟩ := exportReturn_eq_some_iff.1 hr
  have hcount := hreturn.countP_eq_one
  have hwrapped : wrappedReturn.countP (· = '\x7b') = 1 := by decide
  rw [List.countP_append, hwrapped, Nat.add_eq_right, List.countP_eq_zero] at hcount
  have hbrace : '\x7b' ∉ y ++ "return ".toList := by
    rw [List.mem_append]
    rintro (hc | hc)
    · exact hcount _ hc (by decide)
    · exact absurd hc (by decide)
  obtain ⟨_, _, _, t, _, hs, hspells, -⟩ := hreturn
  obtain ⟨w, t, hw, rfl, -⟩ := hspells
  have hs : (y ++ "return ".toList) ++ '\x7b' :: "frontmatter, default: MDXContent\x7d;\n".toList =
      ("return".toList ++ w) ++ '\x7b' :: t := by
    rw [List.append_assoc, ← wrappedReturn_eq, hs, List.append_assoc]
    rfl
  obtain ⟨hstart, -⟩ := (List.append_cons_inj_of_notMem hbrace (by simp)).1 hs
  have hend := congrArg trimEnd hstart
  rw [trimEnd, trimEnd, dropEndWhile_append_of_pos hw, dropEndWhile_append_of_ne_nil (by decide)]
    at hend
  exact hy (List.append_left_eq_self.1 hend)

/-- The return behind a text is the one that is removed. -/
theorem removeFirst_exportReturn_append (s : Text) :
    removeFirst exportReturn (s ++ wrappedReturn) = s := by
  have hmatch : exportReturn (wrappedReturn ++ []) = some [] := by decide +kernel
  have hstop : Removal exportReturn .first (wrappedReturn ++ []) [wrappedReturn] [] :=
    .stop (by simp [wrappedReturn_eq]) hmatch
  rw [List.append_nil] at hstop
  have hs := hstop.append_of_none fun y (_ : y <:+ s) hy => exportReturn_append_eq_none hy
  have hremove := (removal_iff advances_exportReturn).1 ⟨_, hs⟩
  rwa [List.append_nil] at hremove

/-! ### The body of a wrapped artifact -/

theorem wrap_eq (metadata body : Text) : wrap metadata body = "\"use strict\";\n".toList ++
    (("const frontmatter = ".toList ++ metadata ++ ";\n".toList ++ trimEnd body) ++
      '\n' :: wrappedReturn) := by
  unfold wrap
  simp only [List.append_assoc]
  rfl

/-- Cutting the marker, the comments and the return out of a wrapped artifact leaves the metadata
and the body without comments. -/
theorem exists_removeFirst_wrap (metadata body : Text) : ∃ b, (∀ c ∈ b, isBlank c) ∧
    removeFirst exportReturn (removeFirst strictMarker (removeAll pragma (wrap metadata body))) =
      removeAll pragma
        ("const frontmatter = ".toList ++ metadata ++ ";\n".toList ++ trimEnd body) ++ b := by
  have hstar : '*' ∉ wrappedReturn := by simp [wrappedReturn_eq]
  have hmarker (t : Text) : removeFirst strictMarker ("\"use strict\";\n".toList ++ t) = t := rfl
  rw [wrap_eq, removeAll_pragma_append (by simp), hmarker]
  -- The line break before the return is there or went with a comment.
  rcases removeAll_pragma_append_lf
    ("const frontmatter = ".toList ++ metadata ++ ";\n".toList ++ trimEnd body) hstar with h | h
  · refine ⟨['\n'], List.forall_mem_singleton.2 (by decide), ?_⟩
    rw [h, List.append_cons, removeFirst_exportReturn_append]
  · exact ⟨[], by simp, by rw [h, removeFirst_exportReturn_append, List.append_nil]⟩

/-- What sanitizing leaves of a wrapped artifact: the metadata and the body without settings of
elements, and a return if there is none in them. -/
theorem sanitize_wrap (metadata body : Text) :
    let m := removeAll pragma
      ("const frontmatter = ".toList ++ metadata ++ ";\n".toList ++ trimEnd body)
    sanitize (wrap metadata body) =
      if mentions "return".toList m then trim m else trim m ++ '\n' :: "return <></>;".toList := by
  intro m
  obtain ⟨b, hb, hcut⟩ := exists_removeFirst_wrap metadata body
  have hm : m = "const frontmatter = ".toList ++
      removeAll pragma (metadata ++ ";\n".toList ++ trimEnd body) := by
    rw [← removeAll_pragma_append (by simp)]
    simp only [m, List.append_assoc]
  have hne : ¬ (trim m).isEmpty := by
    rw [List.isEmpty_iff, trim_eq_nil_iff, hm]
    exact fun h => absurd (h 'c' (by simp)) (by decide)
  rw [sanitize, hcut, trim_append_of_blank hb, withReturn, mentions_trim (by decide)
    (by simp [isBlank]), if_neg hne]
  rfl

/-! ### Settings at the head of a body -/

/-- A text behind settings of elements that mention no return, each with the rest of its line. -/
inductive BehindSettings : Text → Text → Prop
  | nil {s : Text} : BehindSettings s s
  | cons {p s t : Text} (hp : pragma (p ++ s) = some s) (hreturn : ¬ mentions "return".toList p)
      (h : BehindSettings s t) : BehindSettings (p ++ s) t

/-- A body behind its metadata. -/
def withMetadata (metadata body : Text) : Text :=
  "const frontmatter = ".toList ++ metadata ++ ";\n".toList ++ body

theorem withMetadata_eq (metadata body : Text) : withMetadata metadata body =
    "const frontmatter = ".toList ++ metadata ++ [';'] ++ '\n' :: body := by
  unfold withMetadata
  simp only [List.append_assoc]
  rfl

theorem BehindSettings.suffix (h : BehindSettings s t) : t <:+ s := by
  induction h with
  | nil => exact List.suffix_rfl
  | cons _ _ _ ih => exact ih.trans (List.suffix_append ..)

/-! ### Where settings stand -/

/-- Without the mark of a setting there is none. -/
theorem pragma_eq_none_of_not_infix (h : ¬ "@jsx".toList <:+: s) : pragma s = none := by
  rw [Option.eq_none_iff_forall_not_mem]
  intro r hr
  obtain ⟨inner, tail, ⟨star, blank, word, text, rfl, -⟩, rfl, -⟩ := pragma_eq_some_iff.1 hr
  exact h ⟨"/*".toList ++ (star ++ blank), word ++ text ++ ("*/".toList ++ tail), by simp⟩

/-- A setting does not start in a text without the mark of one that ends with a semicolon: only an
asterisk and white space stand between its opening and its mark. -/
theorem pragma_append_semicolon_eq_none (h : ¬ "@jsx".toList <:+: s) :
    pragma (s ++ ';' :: t) = none := by
  rw [Option.eq_none_iff_forall_not_mem]
  intro r hr
  obtain ⟨inner, tail, ⟨star, blank, word, text, rfl, hstar, hblank, -⟩, hs, -⟩ :=
    pragma_eq_some_iff.1 hr
  let opening := "/*".toList ++ (star ++ (blank ++ "@jsx".toList))
  have hopening : opening <+: s ++ ';' :: t :=
    ⟨word ++ text ++ ("*/".toList ++ tail), by rw [hs]; simp [opening]⟩
  have hsemicolon : ';' ∉ opening := by
    have hnone : ';' ∉ blank := fun hc => absurd (hblank _ hc) (by decide)
    rcases hstar with rfl | rfl <;> simp [opening, hnone]
  have hmark : "@jsx".toList <:+ opening := ⟨"/*".toList ++ (star ++ blank), by simp [opening]⟩
  exact h (hmark.isInfix.trans (prefix_of_prefix_append_cons hsemicolon hopening).isInfix)

/-- The settings at the head of a body are what is cut out of it behind its metadata. -/
theorem BehindSettings.removeAll_append (h : BehindSettings s t)
    (hmetadata : ¬ "@jsx".toList <:+: metadata) (ht : ¬ "@jsx".toList <:+: t) :
    removeAll pragma (withMetadata metadata s) = withMetadata metadata t := by
  obtain ⟨ps, hps⟩ : ∃ ps, Removal pragma .all s ps t := by
    induction h with
    | nil =>
      refine ⟨[], (removal_nil_iff advances_pragma).2 ⟨rfl, fun y hy => ?_⟩⟩
      exact pragma_eq_none_of_not_infix fun hc => ht (hc.trans hy.isInfix)
    | @cons p s t hp _ _ ih =>
      obtain ⟨ps, hps⟩ := ih ht
      obtain ⟨q, hne, hq⟩ := advances_pragma _ _ hp
      obtain rfl := List.append_cancel_right hq
      exact ⟨p :: ps, .cut hne hp hps⟩
  refine (removal_iff advances_pragma (x := .all)).1 ⟨ps, ?_⟩
  unfold withMetadata
  refine hps.append_of_none fun y hy hne => ?_
  -- In front of the body, a setting would start before the semicolon or at the line break.
  have hline : "const frontmatter = ".toList ++ metadata ++ ";\n".toList =
      ("const frontmatter = ".toList ++ metadata) ++ [';', '\n'] := rfl
  rw [hline] at hy
  rcases suffix_append_cases hy with hy | ⟨v, -, hv, rfl⟩
  · have hhead : (y ++ s).head? ≠ some '/' := by
      rw [List.head?_append_of_ne_nil _ hne]
      intro hc
      exact absurd (hy.subset (List.mem_of_mem_head? hc)) (by decide)
    exact pragma_eq_none_of_head? hhead
  · rw [List.append_assoc]
    refine pragma_append_semicolon_eq_none fun hc => ?_
    have hmark := hc.trans hv.isInfix
    have hspace : "const frontmatter = ".toList = "const frontmatter =".toList ++ [' '] := by decide
    rw [hspace, List.append_assoc] at hmark
    rcases infix_append_cons_of_notMem (by decide) hmark with hmark | hmark
    · exact absurd hmark (by decide)
    · exact hmetadata hmark

/-! ### The return that is mentioned -/

/-- A return that is mentioned behind a setting, or in it. -/
theorem mentions_append_of_pragma (hp : pragma (p ++ s) = some s) :
    mentions "return".toList (p ++ s) =
      (mentions "return".toList p || mentions "return".toList s) := by
  obtain ⟨q, ⟨inner, g, -, ⟨b, hb, hg⟩, hq⟩, heq⟩ := exists_isPragma _ _ hp
  obtain rfl := List.append_cancel_right heq
  have hblank : ∀ c ∈ g, isBlank c := by
    intro c hc
    have hc : c = ' ' ∨ c = '\t' ∨ c = '\n' := by
      rcases hg with rfl | rfl
      · exact (hb c hc).imp_right Or.inl
      · rcases List.mem_append.1 hc with hc | hc
        · exact (hb c hc).imp_right Or.inl
        · exact Or.inr (Or.inr (List.mem_singleton.1 hc))
    rcases hc with rfl | rfl | rfl <;> decide
  -- The comment ends with a slash, which stands in no word, and white space.
  have hcomment : p = ("/*".toList ++ inner ++ ['*']) ++ '/' :: g := by
    rw [hq]
    simp
  have hsplit (u : Text) : mentions "return".toList (("/*".toList ++ inner ++ ['*']) ++ '/' :: u) =
      (mentions "return".toList ("/*".toList ++ inner ++ ['*']) || mentions "return".toList u) :=
    mentions_append_cons_of_notMem (by decide +kernel) (by decide) (by decide)
  have hword : ∀ d ∈ "return".toList, ¬ isBlank d := by simp [isBlank]
  have hnone : mentions "return".toList g = false := by
    have hnil := mentions_blank_append (s := []) hblank (by decide) hword
    rwa [List.append_nil] at hnil
  rw [hcomment, List.append_assoc, List.cons_append, hsplit, hsplit, hnone, Bool.or_false,
    mentions_blank_append hblank (by decide) hword]

theorem BehindSettings.mentions (h : BehindSettings s t) (hs : mentions "return".toList s) :
    mentions "return".toList t := by
  induction h with
  | nil => exact hs
  | cons hp hreturn _ ih =>
    rw [mentions_append_of_pragma hp, Bool.or_eq_true] at hs
    exact ih (hs.resolve_left hreturn)

/-! ### What sanitizing leaves -/

/-- Sanitizing leaves the metadata and what is behind the settings of the body. -/
theorem sanitize_wrap_of_behindSettings (h : BehindSettings (trimEnd body) rest)
    (hmetadata : ¬ "@jsx".toList <:+: metadata) (hrest : ¬ "@jsx".toList <:+: rest)
    (hreturn : mentions "return".toList body) :
    sanitize (wrap metadata body) = withMetadata metadata rest := by
  have hmentions : Artifact.mentions "return".toList rest := by
    refine h.mentions ?_
    rwa [mentions_trimEnd (by decide) (by simp [isBlank])]
  have hne : rest ≠ [] := by
    rintro rfl
    cases hmentions
  have hend : dropEndWhile isBlank rest = rest := by
    refine dropEndWhile_eq_self_iff.2 fun c hc => ?_
    obtain ⟨u, hu⟩ := h.suffix
    refine dropEndWhile_eq_self_iff.1 (dropEndWhile_idem isBlank body) c ?_
    rw [← trimEnd, ← hu, List.getLast?_append_of_ne_nil _ hne]
    exact hc
  have htrim : trim (withMetadata metadata rest) = withMetadata metadata rest := by
    refine trim_eq_self_iff.2 ⟨trimStart_eq_self_of_head? fun c hc => ?_, ?_⟩
    · obtain rfl : 'c' = c := Option.some.inj hc
      decide
    · have hkept := dropEndWhile_append_of_ne_nil (p := isBlank) (b := rest)
        (a := "const frontmatter = ".toList ++ metadata ++ ";\n".toList) (by rwa [hend])
      rwa [hend] at hkept
  have hall := mentions_append_cons (a := "const frontmatter = ".toList ++ metadata ++ [';'])
    (isWord_eq_false_of_isBlank (c := '\n') (by decide)) hmentions
  rw [← withMetadata_eq] at hall
  obtain ⟨b, hb, hcut⟩ : ∃ b, (∀ c ∈ b, isBlank c) ∧
      removeFirst exportReturn (removeFirst strictMarker (removeAll pragma (wrap metadata body))) =
        removeAll pragma (withMetadata metadata (trimEnd body)) ++ b :=
    exists_removeFirst_wrap metadata body
  rw [h.removeAll_append hmetadata hrest] at hcut
  rw [sanitize, hcut, trim_append_of_blank hb, htrim, withReturn_of_mentions hall]

end DocPreview.Artifact
