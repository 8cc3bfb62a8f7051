import DocPreview.Proofs.Diagram.Fragment
import DocPreview.Proofs.Text.Reference

/-!
# The paragraph of a failure

A diagram that was not rendered leaves a paragraph with the text of the failure. In it the
characters that markup reads in its own way stand as character references, carriage returns are
left out and line feeds have become spaces. So the paragraph is a single line, its tags are the only
ones in it, and no expression begins in it. Reading the references gives the text of the failure on
one line: nothing else of the text is lost, whatever references, tags or line breaks it holds
itself. Hence failures that are not told apart by their paragraphs differ in line breaks and spaces
at most.

## Main definitions

* `onOneLine`: a text with its line breaks folded.
* `readInline`: a text with its references read.

## Main results

* `readInline_inlineText`: what is written inline is read as the text on one line.
* `failureParagraph_shows_message`: the paragraph of a failure.
-/

namespace DocPreview.Diagram

open Text

/-- A text on one line: carriage returns go, and line feeds become spaces. -/
def onOneLine (s : Text) : Text :=
  (s.filter (· ≠ '\r')).map fun c => if c = '\n' then ' ' else c

/-- Whether a character is more than a line break or a space. -/
def isInked (c : Char) : Bool := c ≠ '\r' && c ≠ '\n' && c ≠ ' '

/-- The references that stand for characters in a text that is written inline. -/
def inlineReferences : List Text :=
  ["&amp;".toList, "&lt;".toList, "&gt;".toList, "&#123;".toList, "&#125;".toList]

/-- A text with the references in it replaced by the characters that they stand for. -/
def readInline : Text → Text
  | '&' :: 'a' :: 'm' :: 'p' :: ';' :: r => '&' :: readInline r
  | '&' :: 'l' :: 't' :: ';' :: r => '<' :: readInline r
  | '&' :: 'g' :: 't' :: ';' :: r => '>' :: readInline r
  | '&' :: '#' :: '1' :: '2' :: '3' :: ';' :: r => '\x7b' :: readInline r
  | '&' :: '#' :: '1' :: '2' :: '5' :: ';' :: r => '\x7d' :: readInline r
  | c :: r => c :: readInline r
  | [] => []

/-! ### Texts on one line -/

theorem onOneLine_append (s t : Text) : onOneLine (s ++ t) = onOneLine s ++ onOneLine t := by
  rw [onOneLine, List.filter_append, List.map_append]
  rfl

theorem onOneLine_singleton {c : Char} (hcr : c ≠ '\r') (hlf : c ≠ '\n') : onOneLine [c] = [c] := by
  rw [onOneLine, List.filter_cons_of_pos (by simpa using hcr), List.filter_nil, List.map_singleton,
    if_neg hlf]

/-- What is put together from the characters of a text is the same for the text on one line, if
carriage returns give nothing to it and line feeds what spaces give. -/
theorem flatMap_onOneLine {f : Char → Text} (hcr : f '\r' = []) (hlf : f '\n' = f ' ') (s : Text) :
    (onOneLine s).flatMap f = s.flatMap f := by
  induction s with
  | nil => rfl
  | cons c s ih =>
    have hchar : (onOneLine [c]).flatMap f = f c := by
      by_cases hc : c = '\r'
      · rw [hc, hcr]
        rfl
      · by_cases hn : c = '\n'
        · rw [hn, hlf]
          exact List.flatMap_singleton f ' '
        · rw [onOneLine_singleton hc hn, List.flatMap_singleton]
    have hcons := onOneLine_append [c] s
    rw [List.singleton_append] at hcons
    rw [hcons, List.flatMap_append, hchar, ih, List.flatMap_cons]

/-- Folding line breaks keeps all characters but line breaks and spaces. -/
theorem filter_isInked_onOneLine (s : Text) : (onOneLine s).filter isInked = s.filter isInked := by
  simp only [← List.filterMap_eq_filter, List.filterMap_eq_flatMap_toList]
  exact flatMap_onOneLine rfl rfl s

/-! ### Reading what was written inline -/

theorem readInline_cons {c : Char} (hc : c ≠ '&') (r : Text) :
    readInline (c :: r) = c :: readInline r := by
  rw [readInline]
  all_goals
    rintro _ rfl
    exact absurd rfl hc

/-- A character is read back, unless it is part of a line break. -/
theorem readInline_inlineChar_append (c : Char) (r : Text) :
    readInline (inlineChar c ++ r) = onOneLine [c] ++ readInline r := by
  unfold inlineChar
  split
  case h_8 hamp _ _ _ _ hcr hlf =>
    rw [onOneLine_singleton (fun h => hcr h) fun h => hlf h]
    exact readInline_cons (fun h => hamp h) r
  all_goals rfl

/-- A text that is written inline is read as the text on one line. -/
theorem readInline_inlineText (s : Text) : readInline (inlineText s) = onOneLine s := by
  induction s with
  | nil => rfl
  | cons c s ih =>
    have hcons := onOneLine_append [c] s
    rw [List.singleton_append] at hcons
    rw [inlineText, List.flatMap_cons, ← inlineText, readInline_inlineChar_append, ih, hcons]

/-- A character is written inline as a reference or without ampersands. -/
theorem inlineChar_mem_or (c : Char) : inlineChar c ∈ inlineReferences ∨ '&' ∉ inlineChar c := by
  unfold inlineChar
  split
  case h_8 hamp _ _ _ _ _ _ => exact Or.inr fun h => hamp (List.mem_singleton.1 h).symm
  all_goals decide

theorem refersTo_inlineText (s : Text) : RefersTo inlineReferences (inlineText s) := by
  rw [inlineText, List.flatMap_def]
  refine refersTo_flatten ?_ fun p hp => ?_
  · simp [inlineReferences]
  · obtain ⟨c, -, rfl⟩ := List.mem_map.1 hp
    exact inlineChar_mem_or c

/-- A text on one line is written inline as the text is. -/
theorem inlineText_onOneLine (s : Text) : inlineText (onOneLine s) = inlineText s :=
  flatMap_onOneLine rfl rfl s

/-! ### The paragraph -/

variable (d d' : Dialect) (e e' : Failure)

/-- The tags of its own are the only ones in the paragraph of a failure. -/
theorem count_failureParagraph {x : Char} (hx : x ∈ ['<', '>', '\x7b', '\x7d', '\r', '\n']) :
    (failureParagraph d e).count x = "<p></p>".toList.count x := by
  have hname : ∀ y ∈ ['<', '>', '\x7b', '\x7d', '\r', '\n'],
      y ∉ d.displayName.toList ++ " Error: ".toList := by
    cases d <;> simp [Dialect.displayName]
  have hbefore := List.count_eq_zero.2 (hname x hx)
  have hmessage := List.count_eq_zero.2 (notMem_inlineText hx e.message.toList)
  have htags : "<p></p>".toList = "<p>".toList ++ "</p>".toList := rfl
  rw [failureParagraph_eq, List.append_assoc "<p>".toList, List.count_append, List.count_append,
    List.count_append, hbefore, hmessage, htags, List.count_append]
  rfl

/-- Paragraphs of failures are equal if the texts of the failures are so on one line. -/
theorem failureParagraph_eq_iff : failureParagraph d e = failureParagraph d' e' ↔
    d = d' ∧ onOneLine e.message.toList = onOneLine e'.message.toList := by
  constructor
  · intro h
    obtain rfl : d = d' := by
      revert h
      cases d <;> cases d' <;> simp [failureParagraph_eq, Dialect.displayName]
    rw [failureParagraph_eq, failureParagraph_eq, List.append_cancel_right_eq,
      List.append_cancel_left_eq] at h
    exact ⟨rfl, by rw [← readInline_inlineText, h, readInline_inlineText]⟩
  · rintro ⟨rfl, h⟩
    rw [failureParagraph_eq, failureParagraph_eq, ← inlineText_onOneLine, h, inlineText_onOneLine]

/-- The paragraph of a failure holds its text between the tags, without characters that begin a tag
or an expression or end a line. Each ampersand begins a reference, and with the references read it
is the text of the failure on one line. The paragraph is a single line and has no other tag and no
expression. Failures have equal paragraphs exactly if the dialects are equal and the texts are equal
on one line, so that they differ in line breaks and spaces alone. -/
theorem failureParagraph_shows_message :
    (∃ t, failureParagraph d e =
        "<p>".toList ++ d.displayName.toList ++ " Error: ".toList ++ t ++ "</p>".toList ∧
      (∀ x ∈ ['<', '>', '\x7b', '\x7d', '\r', '\n'], x ∉ t) ∧
      RefersTo inlineReferences t ∧ readInline t = onOneLine e.message.toList) ∧
    ((∀ x ∈ ['\x7b', '\x7d', '\r', '\n'], x ∉ failureParagraph d e) ∧
      (failureParagraph d e).count '<' = 2 ∧ (failureParagraph d e).count '>' = 2) ∧
    (failureParagraph d e = failureParagraph d' e' ↔
      d = d' ∧ onOneLine e.message.toList = onOneLine e'.message.toList) ∧
    (failureParagraph d e = failureParagraph d' e' →
      e.message.toList.filter isInked = e'.message.toList.filter isInked) := by
  refine ⟨⟨inlineText e.message.toList, failureParagraph_eq d e,
    fun x hx => notMem_inlineText hx _, refersTo_inlineText _, readInline_inlineText _⟩,
    ⟨fun x hx => ?_, count_failureParagraph d e (by simp), count_failureParagraph d e (by simp)⟩,
    failureParagraph_eq_iff d d' e e', fun h => ?_⟩
  · have hmem : x ∈ ['<', '>', '\x7b', '\x7d', '\r', '\n'] :=
      List.mem_cons_of_mem _ (List.mem_cons_of_mem _ hx)
    have htags : ∀ y ∈ ['\x7b', '\x7d', '\r', '\n'], y ∉ "<p></p>".toList := by simp
    rw [← List.count_eq_zero, count_failureParagraph d e hmem]
    exact List.count_eq_zero.2 (htags x hx)
  · have hline := ((failureParagraph_eq_iff d d' e e').1 h).2
    rw [← filter_isInked_onOneLine, hline, filter_isInked_onOneLine]

/-- A line feed and a space with a carriage return are not told apart. -/
theorem failureParagraph_shows_message_of_lineBreak :
    let e : Failure := .http "a\nb"
    let e' : Failure := .http "a\r b"
    failureParagraph .mermaid e = failureParagraph .mermaid e' ∧
      e.message.toList.filter isInked = e'.message.toList.filter isInked := by
  intro e e'
  have h : failureParagraph .mermaid e = failureParagraph .mermaid e' := by decide +kernel
  obtain ⟨-, -, -, hinked⟩ := failureParagraph_shows_message .mermaid .mermaid e e'
  exact ⟨h, hinked h⟩

end DocPreview.Diagram
