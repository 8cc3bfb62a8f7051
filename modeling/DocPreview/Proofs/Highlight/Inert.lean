import DocPreview.Proofs.Highlight.Element
import DocPreview.Proofs.Highlight.Run
import DocPreview.Proofs.Text.Reference

/-!
# What a highlighted element cannot do

The text of a document stands in three places of an element: in the value of an attribute, in a
string of the expression behind it, and in the HTML that the string stands for. In none of them can
it end what it stands in. The value is made of the characters of a word, the string is one literal
without braces, and in the HTML the characters with a meaning stand in tags of spans or are written
as references.

## Main definitions

* `IsClassValue`: the values of the class attribute.
* `IsSpanTag`, `htmlReferences`: what has a meaning in highlighted code.
* `IsInertHtml`: HTML that is made of such tags and references, and of other characters.
* `IsInertElement`: elements from which nothing gets out.

## Main results

* `isInertHtml_highlightWith`: highlighted code is inert, whatever a tokenizer finds.
* `isInertElement_elementWith`: so is the element for a fence.
-/

namespace DocPreview.Highlight

open Text Document

/-! ### Highlighted code -/

/-- The tags around a stretch of a class that a page styles. -/
inductive IsSpanTag : Text → Prop
  | opening {e : String × TokenClass} (h : e ∈ classTable) : IsSpanTag (openSpan (some e.2))
  | closing : IsSpanTag "</span>".toList

/-- The references that code is written with. -/
def htmlReferences : List Text :=
  ["&amp;".toList, "&lt;".toList, "&gt;".toList, "&quot;".toList]

/-- The pieces of highlighted code: a tag, a reference, or a character without a meaning. -/
inductive IsHtmlPiece : Text → Prop
  | tag {t : Text} (h : IsSpanTag t) : IsHtmlPiece t
  | reference {r : Text} (h : r ∈ htmlReferences) : IsHtmlPiece r
  | char {c : Char} (h : c ∉ ['<', '>', '"', '&']) : IsHtmlPiece [c]

/-- HTML that is made of pieces of highlighted code. -/
def IsInertHtml (s : Text) : Prop := ∃ ps : List Text, s = ps.flatten ∧ ∀ p ∈ ps, IsHtmlPiece p

variable {s t x y : Text} {c : Char}

theorem isInertHtml_nil : IsInertHtml [] := ⟨[], rfl, by simp⟩

theorem IsHtmlPiece.isInertHtml (h : IsHtmlPiece s) : IsInertHtml s :=
  ⟨[s], (List.flatten_singleton).symm, List.forall_mem_singleton.2 h⟩

theorem IsInertHtml.append (hs : IsInertHtml s) (ht : IsInertHtml t) : IsInertHtml (s ++ t) := by
  obtain ⟨ps, rfl, hps⟩ := hs
  obtain ⟨qs, rfl, hqs⟩ := ht
  exact ⟨ps ++ qs, List.flatten_append.symm, List.forall_mem_append.2 ⟨hps, hqs⟩⟩

theorem isInertHtml_flatMap {α : Type} {f : α → Text} {xs : List α}
    (h : ∀ a ∈ xs, IsInertHtml (f a)) : IsInertHtml (xs.flatMap f) := by
  induction xs with
  | nil => exact isInertHtml_nil
  | cons a xs ih =>
    obtain ⟨ha, hxs⟩ := List.forall_mem_cons.1 h
    exact ha.append (ih hxs)

theorem isInertHtml_escapeHtml (s : Text) : IsInertHtml (escapeHtml s) := by
  refine isInertHtml_flatMap fun c _ => IsHtmlPiece.isInertHtml ?_
  unfold escapeChar
  split
  case h_5 hamp hlt hgt hquote =>
    refine .char ?_
    simp only [List.mem_cons, List.not_mem_nil, or_false, not_or]
    exact ⟨fun h => hlt h, fun h => hgt h, fun h => hquote h, fun h => hamp h⟩
  all_goals exact .reference (by decide)

/-- The classes of characters come from the table. -/
theorem mem_classTable_of_lineClasses {t : Tokenizer} {state : t.State} {stack : ScopeStack}
    {ls : List Text} {ks : List (Option TokenClass)} (h : t.lineClasses state stack ls = some ks)
    {cls : TokenClass} (hcls : some cls ∈ ks) : ∃ e ∈ classTable, e.2 = cls := by
  induction ls generalizing state stack ks with
  | nil =>
    cases h
    cases hcls
  | cons l ls ih =>
    obtain ⟨⟨edits, next⟩, -, h⟩ := Option.bind_eq_some_iff.1 h
    obtain ⟨last, -, h⟩ := Option.bind_eq_some_iff.1 h
    obtain ⟨rest, hrest, h⟩ := Option.bind_eq_some_iff.1 h
    cases h
    rcases List.mem_append.1 hcls with hcls | hcls
    · obtain ⟨i, -, hi⟩ := List.mem_map.1 hcls
      obtain ⟨stack', -, hclass⟩ := Option.bind_eq_some_iff.1 hi
      exact exists_mem_classTable hclass
    · exact ih hrest hcls

/-- The class of a run is the class of its characters. -/
theorem IsRuns.cls_mem {ks : List (Option TokenClass)} {code : Text} {ss : List Stretch}
    (h : IsRuns (ks.zip code) ss) {r : Stretch} (hr : r ∈ ss) : r.cls ∈ ks := by
  obtain ⟨c, text, htext⟩ := List.exists_cons_of_ne_nil (h.nonempty r hr)
  have hmem : (r.cls, c) ∈ ks.zip code := by
    rw [← h.labelled]
    exact List.mem_flatMap.2 ⟨r, hr, List.mem_map.2 ⟨c, by simp [htext], rfl⟩⟩
  exact (List.of_mem_zip hmem).1

/-- Highlighted code is inert, whatever a tokenizer finds and also if it fails. -/
theorem isInertHtml_highlightWith (t : Tokenizer) (code : Text) :
    IsInertHtml (highlightWith t code) := by
  rw [highlightWith_eq_elim]
  cases hks : t.classes code with
  | none => exact isInertHtml_escapeHtml code
  | some ks =>
    refine isInertHtml_flatMap fun r hr => ?_
    have hcls : r.cls ∈ ks := (isRuns_runs _).cls_mem hr
    have htext := isInertHtml_escapeHtml r.text
    rw [Stretch.html_eq]
    cases hr : r.cls with
    | none => exact isInertHtml_nil.append (htext.append isInertHtml_nil)
    | some cls =>
      obtain ⟨e, he, rfl⟩ := mem_classTable_of_lineClasses hks (hr ▸ hcls)
      have hopen := IsHtmlPiece.tag (.opening he)
      have hclose := IsHtmlPiece.tag .closing
      exact hopen.isInertHtml.append (htext.append hclose.isInertHtml)

theorem IsSpanTag.amp_notMem (h : IsSpanTag s) : '&' ∉ s := by
  have htable : ∀ e ∈ classTable, '&' ∉ openSpan (some e.2) := by decide
  cases h with
  | @opening e he => exact htable e he
  | closing => decide

/-- Every ampersand of inert HTML begins a reference. -/
theorem IsInertHtml.refersTo (h : IsInertHtml s) : RefersTo htmlReferences s := by
  obtain ⟨ps, rfl, hps⟩ := h
  have hrefs : ∀ r ∈ htmlReferences, ∃ t, r = '&' :: t ∧ '&' ∉ t := by
    simp [htmlReferences]
  refine refersTo_flatten hrefs fun p hp => ?_
  cases hps p hp with
  | tag h => exact Or.inr h.amp_notMem
  | reference h => exact Or.inl h
  | char h => exact Or.inr fun hc => h (List.mem_singleton.1 hc ▸ by decide)

/-- The angle brackets and quotes of inert HTML stand in tags of spans. -/
theorem IsInertHtml.exists_spanTag (h : IsInertHtml s) (hc : c ∈ ['<', '>', '"'])
    (hs : s = x ++ c :: y) :
    ∃ a u v b, x = a ++ u ∧ y = v ++ b ∧ IsSpanTag (u ++ c :: v) := by
  obtain ⟨ps, rfl, hps⟩ := h
  obtain ⟨qs, u, v, rs, rfl, rfl, rfl⟩ := exists_piece_of_flatten_eq hs
  have hmem : c ∈ u ++ c :: v := List.mem_append_right u List.mem_cons_self
  refine ⟨qs.flatten, u, v, rs.flatten, rfl, rfl, ?_⟩
  have hpiece := hps (u ++ c :: v) (by simp)
  generalize u ++ c :: v = p at hmem hpiece
  cases hpiece with
  | tag h => exact h
  | reference h =>
    have hrefs : ∀ r ∈ htmlReferences, ∀ c ∈ r, c ∉ ['<', '>', '"'] := by simp [htmlReferences]
    exact absurd hc (hrefs p h c hmem)
  | char h =>
    obtain rfl := List.mem_singleton.1 hmem
    exact absurd (List.mem_append_left ['&'] hc) h

/-! ### Elements -/

/-- The values of the class attribute: `hljs`, alone or with the class of a language that is named by
a word. -/
def IsClassValue (cls : Text) : Prop :=
  cls = "hljs".toList ∨
    ∃ word, word ≠ [] ∧ (∀ c ∈ word, isClassChar c) ∧ cls = "hljs language-".toList ++ word

/-- An element that shows some HTML. Nothing in it ends the attribute, the string or the expression
that it stands in, and the HTML has only tags of spans. -/
structure IsInertElement (html element : Text) : Prop where
  shape : ∃ cls l, element = "<pre><code className=\"".toList ++ cls ++
      "\" dangerouslySetInnerHTML=\x7b\x7b__html: ".toList ++ l ++ "\x7d\x7d /></pre>".toList ∧
    IsClassValue cls ∧ Json.IsLiteralOf html l ∧ '\x7b' ∉ l ∧ '\x7d' ∉ l
  no_lineBreak : '\n' ∉ element ∧ '\r' ∉ element
  braces : element.count '\x7b' = 2 ∧ element.count '\x7d' = 2
  tags : ∀ c ∈ ['<', '>', '"'], ∀ x y, html = x ++ c :: y →
    ∃ a u v b, x = a ++ u ∧ y = v ++ b ∧ IsSpanTag (u ++ c :: v)
  references : RefersTo htmlReferences html

theorem isClassValue_className (language : Text) :
    IsClassValue (className (classLanguage? language)) := by
  cases h : classLanguage? language with
  | none => exact Or.inl rfl
  | some word =>
    refine Or.inr ⟨word, ?_, fun c hc => isClassChar_of_mem_classLanguage? h hc, rfl⟩
    rw [classLanguage?, Option.ite_none_right_eq_some, Bool.and_eq_true] at h
    obtain ⟨⟨hne, -⟩, heq⟩ := h
    simpa [Option.some.inj heq] using hne

/-- The element for a fence is inert, whatever its info and its body are and whatever a tokenizer
finds. -/
theorem isInertElement_elementWith (tokenizer : Option Text → Tokenizer) (f : Fence) :
    IsInertElement (highlightWith (tokenizer (classLanguage? f.language)) f.code)
      (elementWith tokenizer f) := by
  have hvalue := isClassValue_className f.language
  have hclass {x : Char} (hx : isClassChar x = false) (hname : x ∉ "hljs language-".toList) :
      x ∉ className (classLanguage? f.language) := notMem_className hx hname f.language
  have hhtml := isInertHtml_highlightWith (tokenizer (classLanguage? f.language)) f.code
  delta elementWith
  dsimp only
  generalize className _ = cls at hvalue hclass ⊢
  generalize highlightWith _ _ = html at hhtml ⊢
  have hliteral := isLiteralOf_bracelessString html
  have hbrace := brace_notMem_bracelessString html
  generalize bracelessString html = l at hliteral hbrace ⊢
  exact {
    shape := ⟨cls, l, rfl, hvalue, hliteral, hbrace⟩
    no_lineBreak := by
      have hlf : '\n' ∉ cls := hclass (by decide) (by decide)
      have hcr : '\r' ∉ cls := hclass (by decide) (by decide)
      simp [hlf, hcr, hliteral.no_lineBreak]
    braces := by
      have hopen : '\x7b' ∉ cls := hclass (by decide) (by decide)
      have hclose : '\x7d' ∉ cls := hclass (by decide) (by decide)
      simp only [List.count_append, List.count_eq_zero.2 hopen, List.count_eq_zero.2 hclose,
        List.count_eq_zero.2 hbrace.1, List.count_eq_zero.2 hbrace.2]
      decide
    tags := fun c hc x y => hhtml.exists_spanTag hc
    references := hhtml.refersTo }

end DocPreview.Highlight
