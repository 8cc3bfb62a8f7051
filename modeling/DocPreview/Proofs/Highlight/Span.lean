import DocPreview.Highlight.Span
import DocPreview.Proofs.Artifact.Removal
import DocPreview.Proofs.Document.Comment
import Mathlib.Data.List.Basic

/-!
# The text of highlighted code

Highlighted code is the code with its characters written as HTML, and with tags around stretches of
it. Whatever stretches a tokenizer finds, they are the code cut into pieces, so taking the tags away
and reading the entities gives the code back.

## Main definitions

* `spanTag`: the rule for the tags of stretches.
* `unescapeHtml`: a text of HTML without tags as the characters it stands for.
* `codeOf`: the code of stretches.

## Main results

* `codeOf_lineStretches`, `codeOf_stretches`: stretches are a code cut into pieces.
* `removeAll_spanTag_stretchesHtml`: without its tags, highlighted code is the code as HTML.
* `unescapeHtml_removeAll_highlightWith`: the code is what highlighted code shows.
-/

namespace DocPreview.Highlight

open Text Artifact Document

variable {ss : List Stretch} {s t : Text}

/-! ### Reading HTML -/

/-- The tags around a stretch: `<span class="…">` and `</span>`. -/
def spanTag : Matcher := fun s =>
  match after? "</span>".toList s with
  | some rest => some rest
  | none => do
    let inner ← after? "<span class=\"".toList s
    let (_, rest) ← findText "\">".toList inner
    return rest

/-- A text of HTML without tags as the characters that it stands for. -/
def unescapeHtml : Text → Text
  | '&' :: 'a' :: 'm' :: 'p' :: ';' :: r => '&' :: unescapeHtml r
  | '&' :: 'l' :: 't' :: ';' :: r => '<' :: unescapeHtml r
  | '&' :: 'g' :: 't' :: ';' :: r => '>' :: unescapeHtml r
  | '&' :: 'q' :: 'u' :: 'o' :: 't' :: ';' :: r => '"' :: unescapeHtml r
  | c :: r => c :: unescapeHtml r
  | [] => []

theorem unescapeHtml_cons {c : Char} (hc : c ≠ '&') (r : Text) :
    unescapeHtml (c :: r) = c :: unescapeHtml r := by
  rw [unescapeHtml]
  all_goals
    rintro _ rfl
    exact absurd rfl hc

theorem unescapeHtml_escapeChar (c : Char) (r : Text) :
    unescapeHtml (escapeChar c ++ r) = c :: unescapeHtml r := by
  unfold escapeChar
  split
  case h_5 hamp _ _ _ => exact unescapeHtml_cons (fun h => hamp h) r
  all_goals rfl

/-- The entities of a text are read back. -/
theorem unescapeHtml_escapeHtml (s : Text) : unescapeHtml (escapeHtml s) = s := by
  induction s with
  | nil => rfl
  | cons c s ih =>
    rw [escapeHtml, List.flatMap_cons, unescapeHtml_escapeChar]
    exact congrArg (List.cons c) ih

theorem langle_notMem_escapeHtml (s : Text) : '<' ∉ escapeHtml s := by
  intro h
  obtain ⟨c, -, hc⟩ := List.mem_flatMap.1 h
  unfold escapeChar at hc
  split at hc
  case h_5 hlt _ _ => exact hlt (List.mem_singleton.1 hc).symm
  all_goals exact absurd hc (by decide)

/-! ### Tags -/

/-- A text is found where it stands if one of its characters does not occur before. -/
theorem findText_append {p q a : Text} {m : Char} (ha : m ∉ a) (hp : m ∉ p) (r : Text) :
    findText (p ++ m :: q) (a ++ (p ++ m :: q ++ r)) = some (a, r) := by
  induction a with
  | nil =>
    obtain ⟨c, t, hpat⟩ := List.exists_cons_of_ne_nil (show p ++ m :: q ≠ [] by simp)
    have hafter := after?_append (c :: t) r
    rw [hpat, List.nil_append]
    rw [List.cons_append] at hafter ⊢
    rw [findText, hafter]
  | cons c a ih =>
    rw [List.mem_cons, not_or] at ha
    have hnone : after? (p ++ m :: q) (c :: (a ++ (p ++ m :: q ++ r))) = none := by
      rw [Option.eq_none_iff_forall_not_mem]
      intro rest hrest
      have heq : (c :: (a ++ p)) ++ m :: (q ++ r) = p ++ m :: (q ++ rest) := by
        simpa using eq_append_of_after? hrest
      have hap : m ∉ c :: (a ++ p) := by
        simp [ha.1, ha.2, hp]
      have hplace := congrArg (List.idxOf m) heq
      rw [List.idxOf_append_of_notMem hap, List.idxOf_append_of_notMem hp, List.idxOf_cons_self,
        List.idxOf_cons_self, List.length_cons, List.length_append] at hplace
      omega
    rw [List.cons_append, findText, hnone, ih ha.2]
    rfl

theorem spanTag_eq_none_of_head? (h : s.head? ≠ some '<') : spanTag s = none := by
  cases s with
  | nil => rfl
  | cons c s =>
    have hc : ¬ '<' = c := fun hc => h (by rw [← hc]; rfl)
    have hclose : after? "</span>".toList (c :: s) = none := if_neg hc
    have hopen : after? "<span class=\"".toList (c :: s) = none := if_neg hc
    rw [spanTag, hclose, hopen]
    rfl

/-- Each tag has a character. -/
theorem advances_spanTag : Advances spanTag := by
  intro s rest h
  rw [spanTag] at h
  split at h
  · next r hclose =>
    cases h
    exact ⟨"</span>".toList, by simp, eq_append_of_after? hclose⟩
  · obtain ⟨inner, hopen, h⟩ := Option.bind_eq_some_iff.1 h
    obtain ⟨⟨cls, r⟩, hfind, h⟩ := Option.bind_eq_some_iff.1 h
    cases h
    refine ⟨"<span class=\"".toList ++ cls ++ "\">".toList, by simp, ?_⟩
    rw [eq_append_of_after? hopen, eq_append_of_findText hfind]
    simp only [List.append_assoc]

theorem spanTag_opening {cls : Text} (hcls : '"' ∉ cls) (r : Text) :
    spanTag ("<span class=\"".toList ++ cls ++ "\">".toList ++ r) = some r := by
  have hclose : after? "</span>".toList ("<span class=\"".toList ++ cls ++ "\">".toList ++ r) =
      none := rfl
  have hfind : findText "\">".toList (cls ++ ("\">".toList ++ r)) = some (cls, r) :=
    findText_append (p := []) (q := ['>']) hcls List.not_mem_nil r
  rw [spanTag, hclose]
  simp only [List.append_assoc, after?_append, Option.bind_eq_bind, Option.bind_some, hfind]
  rfl

theorem spanTag_closing (r : Text) : spanTag ("</span>".toList ++ r) = some r := by
  rw [spanTag, after?_append]

/-- The text of a stretch is kept. -/
theorem removal_escapeHtml_append {r u : Text} {ps : List Text} (s : Text)
    (h : Removal spanTag .all r ps u) :
    Removal spanTag .all (escapeHtml s ++ r) ps (escapeHtml s ++ u) := by
  refine h.append_of_none fun y hy hne => spanTag_eq_none_of_head? fun hhead => ?_
  rw [List.head?_append_of_ne_nil _ hne] at hhead
  exact langle_notMem_escapeHtml s (hy.subset (List.mem_of_mem_head? hhead))

/-- A class that can be written between the quotes of an attribute. -/
def Stretch.IsPlain (s : Stretch) : Prop := ∀ cls, s.cls = some cls → '"' ∉ cls.toList

/-- The tags of a stretch are cut out. -/
theorem exists_removal_html_append {x : Stretch} (hx : x.IsPlain) {r u : Text} {ps : List Text}
    (h : Removal spanTag .all r ps u) :
    ∃ qs, Removal spanTag .all (x.html ++ r) qs (escapeHtml x.text ++ u) := by
  rw [Stretch.html]
  split
  · exact ⟨ps, removal_escapeHtml_append x.text h⟩
  · next cls hcls =>
    have hinner := removal_escapeHtml_append x.text (h.cut (by simp) (spanTag_closing r))
    have houter := hinner.cut (by simp) (spanTag_opening (hx cls hcls) _)
    exact ⟨_, by simpa only [List.append_assoc] using houter⟩

/-! ### Stretches -/

/-- The code of stretches. -/
def codeOf (ss : List Stretch) : Text := ss.flatMap Stretch.text

theorem codeOf_consStretch (x : Stretch) (ss : List Stretch) :
    codeOf (consStretch x ss) = x.text ++ codeOf ss := by
  unfold consStretch
  split
  · rfl
  · split_ifs <;> simp [codeOf]

theorem codeOf_mergeStretches (ss : List Stretch) : codeOf (mergeStretches ss) = codeOf ss := by
  induction ss with
  | nil => rfl
  | cons x ss ih =>
    rw [mergeStretches]
    split_ifs with h
    · rw [ih, codeOf, codeOf, List.flatMap_cons, List.isEmpty_iff.1 h, List.nil_append]
    · rw [codeOf_consStretch, ih, codeOf, codeOf, List.flatMap_cons]

theorem isPlain_of_mem_consStretch {x y : Stretch} (hx : x.IsPlain) (hss : ∀ z ∈ ss, z.IsPlain)
    (hy : y ∈ consStretch x ss) : y.IsPlain := by
  unfold consStretch at hy
  split at hy
  · exact List.mem_singleton.1 hy ▸ hx
  · obtain ⟨hfirst, hrest⟩ := List.forall_mem_cons.1 hss
    split_ifs at hy with hcls
    · rcases List.mem_cons.1 hy with rfl | hy
      · exact hx
      · exact hrest y hy
    · rcases List.mem_cons.1 hy with rfl | hy
      · exact hx
      · exact hss y hy

theorem isPlain_of_mem_mergeStretches (hss : ∀ z ∈ ss, z.IsPlain) :
    ∀ y ∈ mergeStretches ss, y.IsPlain := by
  induction ss with
  | nil => simp [mergeStretches]
  | cons x ss ih =>
    obtain ⟨hx, hss⟩ := List.forall_mem_cons.1 hss
    rw [mergeStretches]
    split_ifs
    · exact ih hss
    · exact fun y => isPlain_of_mem_consStretch hx (ih hss)

/-- Without its tags, the HTML of stretches is their code as HTML. -/
theorem removeAll_spanTag_stretchesHtml (hss : ∀ z ∈ ss, z.IsPlain) :
    removeAll spanTag (stretchesHtml ss) = escapeHtml (codeOf ss) := by
  rw [← codeOf_mergeStretches, stretchesHtml]
  refine (removal_iff advances_spanTag (x := .all)).1 ?_
  have hplain := isPlain_of_mem_mergeStretches hss
  generalize mergeStretches ss = xs at hplain
  induction xs with
  | nil => exact ⟨[], .nil⟩
  | cons x xs ih =>
    obtain ⟨hx, hplain⟩ := List.forall_mem_cons.1 hplain
    obtain ⟨ps, hps⟩ := ih hplain
    rw [List.flatMap_cons, codeOf, List.flatMap_cons, escapeHtml, List.flatMap_append]
    exact exists_removal_html_append hx hps

/-! ### The code of a tokenizer -/

/-- The class of a token comes from the table. -/
theorem exists_mem_classTable {scopes : List Scope} {cls : TokenClass}
    (h : tokenClass scopes = some cls) : ∃ e ∈ classTable, e.2 = cls := by
  obtain ⟨scope, -, hscope⟩ := List.exists_of_findSome?_eq_some h
  obtain ⟨e, he, rfl⟩ := Option.map_eq_some_iff.1 hscope
  exact ⟨e, List.mem_of_find?_eq_some he, rfl⟩

/-- The classes of tokens can be written between the quotes of an attribute. -/
theorem quote_notMem_tokenClass {scopes : List Scope} {cls : TokenClass}
    (h : tokenClass scopes = some cls) : '"' ∉ cls.toList := by
  have htable : ∀ e ∈ classTable, '"' ∉ e.2.toList := by decide
  obtain ⟨e, he, rfl⟩ := exists_mem_classTable h
  exact htable e he

/-- The stretches of a line are the line cut into pieces, wherever the scopes change. -/
theorem codeOf_lineStretches {stack last : ScopeStack} {position : Nat} {rest : Text}
    {es : List Edit} (h : lineStretches stack position rest es = some (ss, last)) :
    codeOf ss = rest ∧ ∀ z ∈ ss, z.IsPlain := by
  induction es generalizing stack position rest ss with
  | nil =>
    cases h
    exact ⟨by simp [codeOf],
      List.forall_mem_singleton.2 fun cls hcls => quote_notMem_tokenClass hcls⟩
  | cons e es ih =>
    rw [lineStretches] at h
    dsimp only at h
    split at h
    · cases h
    · obtain ⟨⟨xs, _⟩, hxs, h⟩ := Option.map_eq_some_iff.1 h
      cases h
      obtain ⟨hcode, hplain⟩ := ih hxs
      refine ⟨?_, List.forall_mem_cons.2 ⟨fun cls hcls => quote_notMem_tokenClass hcls, hplain⟩⟩
      rw [codeOf, List.flatMap_cons, ← codeOf, hcode, List.take_append_drop]

/-- The stretches of lines are the lines cut into pieces. -/
theorem codeOf_stretches {k : Tokenizer} {state : k.State} {stack : ScopeStack} {ls : List Text}
    (h : k.stretches state stack ls = some ss) :
    codeOf ss = ls.flatten ∧ ∀ z ∈ ss, z.IsPlain := by
  induction ls generalizing state stack ss with
  | nil =>
    cases h
    exact ⟨rfl, by simp⟩
  | cons l ls ih =>
    obtain ⟨⟨edits, next⟩, -, h⟩ := Option.bind_eq_some_iff.1 h
    obtain ⟨⟨xs, last⟩, hline, h⟩ := Option.bind_eq_some_iff.1 h
    obtain ⟨ys, hrest, h⟩ := Option.bind_eq_some_iff.1 h
    cases h
    obtain ⟨hcode, hplain⟩ := codeOf_lineStretches hline
    obtain ⟨hcodes, hplains⟩ := ih hrest
    refine ⟨?_, List.forall_mem_append.2 ⟨hplain, hplains⟩⟩
    rw [codeOf, List.flatMap_append, ← codeOf, ← codeOf, hcode, hcodes, List.flatten_cons]

/-- The code is what highlighted code shows, whatever a tokenizer finds and also if it fails. -/
theorem unescapeHtml_removeAll_highlightWith (k : Tokenizer) (code : Text) :
    unescapeHtml (removeAll spanTag (highlightWith k code)) = code := by
  rw [highlightWith]
  split
  · next ss hss =>
    obtain ⟨hcode, hplain⟩ := codeOf_stretches hss
    rw [removeAll_spanTag_stretchesHtml hplain, unescapeHtml_escapeHtml, hcode, flatten_lines]
  · have hkept : removeAll spanTag (escapeHtml code) = escapeHtml code :=
      remove_eq_self advances_spanTag .all fun y hy => spanTag_eq_none_of_head? fun hhead =>
        langle_notMem_escapeHtml code (hy.subset (List.mem_of_mem_head? hhead))
    rw [hkept, unescapeHtml_escapeHtml]

end DocPreview.Highlight
