import DocPreview.Proofs.Diagram.Extraction
import DocPreview.Proofs.Text.Line

/-!
# The line at which a diagram fence ends

A diagram fence ends at the first line that begins with three backticks, where the line right
behind its opening line is not looked at: the line break of the opening line belongs to the opening,
and a closing needs one of its own. So no later line of a source begins with three backticks, and
its first line does exactly if the fence is closed by the line behind its opening line. Such a fence
is empty to a reader, but its source goes on to the next line with three backticks.

## Main results

* `IsClosedBy.eq_nil_of_endsLine`: behind a line break in a source no three backticks stand.
* `block_ends_at_line`: the lines of a block.
* `empty_fence_swallows_text`: a source whose first line is the closing line of its fence.
-/

namespace DocPreview.Diagram

open Text

variable {d : Dialect} {s t u z a e : Text} {b : Block}

/-! ### Lines -/

/-- Characters other than line breaks begin the first line. -/
theorem exists_lines_append_eq {c : Text} (hc : '\n' ∉ c) (hne : c ≠ []) (s : Text) :
    ∃ l ls, lines (c ++ s) = (c ++ l) :: ls := by
  cases hs : lines s with
  | nil =>
    obtain rfl : s = [] := by rw [← flatten_lines s, hs]; rfl
    exact ⟨[], [], by rw [List.append_nil, (isLine_of_notMem hc hne).lines_eq]⟩
  | cons l ls => exact ⟨l, ls, lines_append_of_notMem hc hs⟩

theorem lf_notMem_backticks : '\n' ∉ backticks := by decide

theorem backticks_ne_nil : backticks ≠ [] := by decide

/-- A text begins with three backticks exactly if one does that is its first line. -/
theorem backticks_prefix_head_iff {l : Text} {ls : List Text} (h : lines s = l :: ls) :
    backticks <+: l ↔ backticks <+: s := by
  constructor
  · intro hl
    rw [← flatten_lines s, h]
    exact hl.trans (List.prefix_append l ls.flatten)
  · rintro ⟨t, rfl⟩
    obtain ⟨k, ks, hk⟩ := exists_lines_append_eq lf_notMem_backticks backticks_ne_nil t
    rw [h] at hk
    exact (List.cons.inj hk).1 ▸ List.prefix_append backticks k

/-! ### Sources -/

/-- Three backticks at the start of a line of a source or its closing end the closing. -/
theorem IsClosedBy.eq_nil_of_endsLine (h : IsClosedBy a e) (hu : EndsLine u) (hne : u ≠ [])
    (heq : a ++ e = u ++ (backticks ++ z)) : z = [] := by
  obtain ⟨v, rfl⟩ := List.getLast?_eq_some_iff.1 (hu.resolve_left hne)
  exact h.shortest v z (by rw [heq]; simp [closing])

/-- Behind the first line of a source with the line break of its closing no line begins with three
backticks. -/
theorem IsClosedBy.not_backticks_prefix (h : IsClosedBy a e) (heq : t ++ z = a ++ e)
    (hz : z ≠ []) {l : Text} {ls : List Text} (ht : lines t = l :: ls) :
    ∀ k ∈ ls, ¬ backticks <+: k := by
  rintro k hk ⟨w, rfl⟩
  obtain ⟨ls, ms, rfl⟩ := List.append_of_mem hk
  have hend : EndsLine (l :: ls).flatten := endsLine_flatten_of_lines_eq (l := backticks ++ w) ht
  have hl : IsLine l := isLine_of_mem_lines (s := t) (by simp [ht])
  have hnil := h.eq_nil_of_endsLine (z := w ++ (ms.flatten ++ z)) hend (by simp [hl.ne_nil]) (by
    rw [← heq, ← flatten_lines t, ht]
    simp)
  simp [hz] at hnil

/-- A source has a line that begins with three backticks exactly if it begins so itself. -/
theorem IsClosedBy.exists_line_iff (h : IsClosedBy a e) :
    (∃ l ∈ lines a, backticks <+: l) ↔ backticks <+: a := by
  cases ha : lines a with
  | nil =>
    obtain rfl : a = [] := by rw [← flatten_lines a, ha]; rfl
    simp [backticks_ne_nil]
  | cons k ks =>
    rw [← backticks_prefix_head_iff ha]
    constructor
    · rintro ⟨l, hl, hpre⟩
      rcases List.mem_cons.1 hl with rfl | hl
      · exact hpre
      · exact absurd hpre (h.not_backticks_prefix rfl h.isClosing.ne_nil ha l hl)
    · exact fun hpre => ⟨k, List.mem_cons_self, hpre⟩

theorem backticks_prefix_append_lineBreak_iff {brk : Text} (hbrk : IsLineBreak brk) :
    backticks <+: a ++ brk ↔ backticks <+: a := by
  refine ⟨fun h => ?_, fun h => h.trans (List.prefix_append a brk)⟩
  rcases hbrk with rfl | rfl
  · exact prefix_of_prefix_append_cons (by decide) h
  · exact prefix_of_prefix_append_cons (by decide) h

/-- A fence ends at the first line with three backticks behind the line `first` that follows its
opening line, whatever that line is. A line of the source begins with three backticks exactly if
`first` does. -/
theorem block_ends_at_line (h : b ∈ blocks d s) : ∃ p o y first later last rest brk,
    s = p ++ (o ++ y) ∧ b.start = byteSize p ∧ IsOpening d o ∧
      lines y = first :: (later ++ last :: rest) ∧
      (∀ l ∈ later, ¬ backticks <+: l) ∧ backticks <+: last ∧
      b.matched = o ++ (first ++ later.flatten ++ backticks) ∧
      IsLineBreak brk ∧ b.source ++ brk = first ++ later.flatten ∧
      ((∃ l ∈ lines b.source, backticks <+: l) ↔ backticks <+: first) := by
  obtain ⟨p, o, e, r, hs, hstart, hmatched, ho, he⟩ := exists_fence_of_mem_blocks h
  obtain ⟨brk, hbrk, rfl⟩ := he.isClosing
  have hend : EndsLine (b.source ++ brk) := by
    rcases hbrk with rfl | rfl
    · exact endsLine_append_lf b.source
    · exact List.append_cons .. ▸ endsLine_append_lf (b.source ++ ['\r'])
  obtain ⟨first, later, hinner⟩ : ∃ first later, lines (b.source ++ brk) = first :: later := by
    refine List.exists_cons_of_ne_nil fun hnil => ?_
    have hempty := flatten_lines (b.source ++ brk)
    rw [hnil] at hempty
    rcases hbrk with rfl | rfl <;> simp at hempty
  obtain ⟨l, rest, hlast⟩ := exists_lines_append_eq lf_notMem_backticks backticks_ne_nil r
  have hflat : b.source ++ brk = first ++ later.flatten := by
    rw [← flatten_lines (b.source ++ brk), hinner, List.flatten_cons]
  refine ⟨p, o, b.source ++ brk ++ (backticks ++ r), first, later, backticks ++ l, rest, brk, ?_,
    hstart, ho, ?_, ?_, List.prefix_append backticks l, ?_, hbrk, hflat, ?_⟩
  · rw [hs, hmatched]
    simp only [List.append_assoc]
  · rw [lines_append hend, hinner, hlast, List.cons_append]
  · exact he.not_backticks_prefix (List.append_assoc ..) backticks_ne_nil hinner
  · rw [hmatched, ← hflat, List.append_assoc]
  · rw [he.exists_line_iff, backticks_prefix_head_iff hinner,
      backticks_prefix_append_lineBreak_iff hbrk]

/-- The line behind an opening line is not looked at, and the next line with three backticks is the
end. -/
theorem block_ends_at_line_sample :
    let text : Text := "```plantuml\n```\n\n```js\ncode\n```\n".toList
    let b : Block := ⟨.plantUml, "```\n".toList, "```plantuml\n```\n\n```".toList, 0, 0⟩
    b ∈ blocks .plantUml text ∧ ∃ p o y first later last rest brk,
      text = p ++ (o ++ y) ∧ b.start = byteSize p ∧ IsOpening .plantUml o ∧
        lines y = first :: (later ++ last :: rest) ∧
        (∀ l ∈ later, ¬ backticks <+: l) ∧ backticks <+: last ∧
        b.matched = o ++ (first ++ later.flatten ++ backticks) ∧
        IsLineBreak brk ∧ b.source ++ brk = first ++ later.flatten ∧
        ((∃ l ∈ lines b.source, backticks <+: l) ↔ backticks <+: first) := by
  intro text b
  have hb : b ∈ blocks .plantUml text := List.mem_singleton_self _
  exact ⟨hb, block_ends_at_line hb⟩

/-- An empty fence takes the text behind it up to the next line with three backticks, so its own
closing line is a line of its source. -/
theorem empty_fence_swallows_text :
    ¬ ∀ (d : Dialect) (s : Text), ∀ b ∈ blocks d s, ∀ l ∈ lines b.source, ¬ backticks <+: l := by
  intro h
  have hb : ⟨.plantUml, "```\n".toList, "```plantuml\n```\n\n```".toList, 0, 0⟩ ∈
      blocks .plantUml "```plantuml\n```\n\n```js\ncode\n```\n".toList := List.mem_singleton_self _
  exact h .plantUml _ _ hb "```\n".toList List.mem_cons_self (by decide)

end DocPreview.Diagram
