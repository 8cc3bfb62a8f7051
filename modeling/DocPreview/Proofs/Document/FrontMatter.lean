import DocPreview.Document.FrontMatter
import DocPreview.Proofs.Text.Line

/-!
# Front matter and the lines of a document

Front matter is read line by line: it is there exactly if the first line and a later one are
delimiters, and it ends with the first such line. What is read makes up the document.

## Main results

* `splitAtDelimiter_eq_some_iff`: lines are cut at the first delimiter line.
* `frontMatter?_eq_some_iff`, `frontMatter?_eq_none_iff`: the documents with front matter.
* `endsLine_block_or`: the body of a document begins with a line.
* `frontMatter?_block_append`: front matter stays with another body behind it.
-/

namespace DocPreview.Document

open Text

/-- Lines are cut at the first one that is a delimiter. -/
theorem splitAtDelimiter_eq_some_iff {ls before after : List Text} {d : Text} :
    splitAtDelimiter ls = some (before, d, after) ↔
      ls = before ++ d :: after ∧ isDelimiter d = true ∧ ∀ l ∈ before, isDelimiter l = false := by
  induction ls generalizing before with
  | nil => simp [splitAtDelimiter]
  | cons l ls ih =>
    rw [splitAtDelimiter]
    split_ifs with hl
    · constructor
      · intro h
        cases h
        exact ⟨rfl, hl, by simp⟩
      · rintro ⟨heq, -, hbefore⟩
        cases before with
        | nil =>
          obtain ⟨rfl, rfl⟩ := List.cons.inj heq
          rfl
        | cons k before =>
          obtain ⟨rfl, -⟩ := List.cons.inj heq
          simp [hl] at hbefore
    · rw [Option.map_eq_some_iff]
      constructor
      · rintro ⟨⟨before', d', after'⟩, h, heq⟩
        simp only [Prod.mk.injEq] at heq
        obtain ⟨rfl, rfl, rfl⟩ := heq
        obtain ⟨rfl, hd, hbefore⟩ := ih.1 h
        exact ⟨rfl, hd, List.forall_mem_cons.2 ⟨by simpa using hl, hbefore⟩⟩
      · rintro ⟨heq, hd, hbefore⟩
        cases before with
        | nil =>
          obtain ⟨rfl, -⟩ := List.cons.inj heq
          exact absurd hd hl
        | cons k before =>
          obtain ⟨rfl, rfl⟩ := List.cons.inj heq
          exact ⟨(before, d, after), ih.2 ⟨rfl, hd, (List.forall_mem_cons.1 hbefore).2⟩, rfl⟩

theorem splitAtDelimiter_eq_none_iff {ls : List Text} :
    splitAtDelimiter ls = none ↔ ∀ l ∈ ls, isDelimiter l = false := by
  induction ls with
  | nil => simp [splitAtDelimiter]
  | cons l ls ih =>
    rw [splitAtDelimiter, List.forall_mem_cons, ← ih]
    split_ifs with hl
    · simp [hl]
    · simp [hl, Option.map_eq_none_iff]

theorem frontMatter?_eq_some_iff {text : Text} {f : FrontMatter} : frontMatter? text = some f ↔
    ∃ before after, lines text = f.opened :: (before ++ f.closed :: after) ∧
      isDelimiter f.opened = true ∧ isDelimiter f.closed = true ∧
      (∀ l ∈ before, isDelimiter l = false) ∧ f.yaml = before.flatten ∧ f.body = after.flatten := by
  rw [frontMatter?]
  constructor
  · intro h
    split at h
    · cases h
    · rename_i first rest hlines
      split_ifs at h with hfirst
      obtain ⟨⟨before, closed, after⟩, hsplit, rfl⟩ := Option.map_eq_some_iff.1 h
      obtain ⟨rfl, hclosed, hbefore⟩ := splitAtDelimiter_eq_some_iff.1 hsplit
      exact ⟨before, after, hlines, hfirst, hclosed, hbefore, rfl, rfl⟩
  · obtain ⟨opened, yaml, closed, body⟩ := f
    rintro ⟨before, after, hlines, hopened, hclosed, hbefore, rfl, rfl⟩
    rw [hlines]
    simp only [if_pos hopened, splitAtDelimiter_eq_some_iff.2 ⟨rfl, hclosed, hbefore⟩,
      Option.map_some]

/-- A document has no front matter if its first line or no later one is a delimiter. -/
theorem frontMatter?_eq_none_iff {text : Text} : frontMatter? text = none ↔
    ∀ l ls, lines text = l :: ls → isDelimiter l = true → ∀ k ∈ ls, isDelimiter k = false := by
  rw [frontMatter?]
  constructor
  · rintro h l ls hlines hl
    rw [hlines] at h
    simp only [if_pos hl, Option.map_eq_none_iff] at h
    exact splitAtDelimiter_eq_none_iff.1 h
  · intro h
    cases hlines : lines text with
    | nil => rfl
    | cons l ls =>
      simp only
      split_ifs with hl
      · rw [Option.map_eq_none_iff]
        exact splitAtDelimiter_eq_none_iff.2 (h l ls hlines hl)
      · rfl

/-- Front matter and what follows it make up the document. -/
theorem block_append_body {text : Text} {f : FrontMatter} (h : frontMatter? text = some f) :
    f.block ++ f.body = text := by
  obtain ⟨before, after, hlines, -, -, -, hyaml, hbody⟩ := frontMatter?_eq_some_iff.1 h
  rw [← flatten_lines text, hlines, FrontMatter.block, hyaml, hbody]
  simp only [List.flatten_cons, List.flatten_append, List.append_assoc]

/-- The lines of front matter are those that were read. -/
theorem lines_block {text : Text} {f : FrontMatter} {before after : List Text}
    (hlines : lines text = f.opened :: (before ++ f.closed :: after))
    (hyaml : f.yaml = before.flatten) : lines f.block = (f.opened :: before) ++ [f.closed] := by
  have htake := lines_flatten_take (before.length + 2) text
  have hcut : f.opened :: (before ++ f.closed :: after) =
      (f.opened :: before ++ [f.closed]) ++ after := by simp
  rwa [hlines, hcut, List.take_left' (by simp),
    show (f.opened :: before ++ [f.closed]).flatten = f.block by
      simp [FrontMatter.block, hyaml]] at htake

/-- The line that closes front matter ends where the body begins. -/
theorem endsLine_closed_or {text : Text} {f : FrontMatter} (h : frontMatter? text = some f) :
    EndsLine f.closed ∨ f.body = [] := by
  obtain ⟨before, after, hlines, -, -, -, hyaml, -⟩ := frontMatter?_eq_some_iff.1 h
  have hline : IsLine f.closed := isLine_of_mem_lines (s := text) (by simp [hlines])
  have htext := lines_append_of_lines_eq (lines_block hlines hyaml) f.body
  rw [block_append_body h, hlines] at htext
  have hbody : lines (f.closed ++ f.body) = f.closed :: after := by simpa using htext.symm
  exact hline.endsLine_or_nil hbody

/-- The body of a document begins with a line. -/
theorem endsLine_block_or {text : Text} {f : FrontMatter} (h : frontMatter? text = some f) :
    EndsLine f.block ∨ f.body = [] := by
  refine (endsLine_closed_or h).imp_left fun hend => ?_
  rcases hend with hnil | hlast
  · obtain ⟨before, after, hlines, -⟩ := frontMatter?_eq_some_iff.1 h
    have hline : IsLine f.closed := isLine_of_mem_lines (s := text) (by simp [hlines])
    exact absurd hnil hline.ne_nil
  · exact Or.inr (by rw [FrontMatter.block, List.getLast?_append, hlast]; rfl)

/-- Front matter stays with another body behind it. -/
theorem frontMatter?_block_append {text b : Text} {f : FrontMatter}
    (h : frontMatter? text = some f) (hb : f.body = [] → b = []) :
    frontMatter? (f.block ++ b) = some { f with body := b } := by
  obtain ⟨before, after, hlines, hopened, hclosed, hbefore, hyaml, -⟩ :=
    frontMatter?_eq_some_iff.1 h
  have hline : IsLine f.closed := isLine_of_mem_lines (s := text) (by simp [hlines])
  refine frontMatter?_eq_some_iff.2
    ⟨before, lines b, ?_, hopened, hclosed, hbefore, hyaml, (flatten_lines b).symm⟩
  rw [lines_append_of_lines_eq (lines_block hlines hyaml),
    hline.lines_append ((endsLine_closed_or h).imp_right hb), List.cons_append]

end DocPreview.Document
