import DocPreview.Markup.Outline
import DocPreview.Proofs.Text.Line

/-!
# Lines of Markdown and lines of a text

Markdown cuts a document into lines without their line breaks, and the empty line behind the last
line break is none. Without carriage returns these are the lines of the text.

## Main definitions

* `Line.raw`: a line with its line break.
* `Line.IsWhole`: a line of which no container has taken anything.

## Main results

* `isWhole_of_mem_split`: a document is read in whole lines.
* `map_raw_dropLast_split`: they are the lines of its text.
-/

namespace DocPreview.Markup

open Text

variable {l : Line} {a s : Text} {n : Nat}

/-- A line as it stands in its document. -/
def Line.raw (l : Line) : Text := l.text ++ l.ending

/-- A line as it stands in its document, cut at its end. -/
structure Line.IsWhole (l : Line) : Prop where
  text : ∀ c ∈ l.text, ¬ isLineEnd c
  ending : ∀ c ∈ l.ending, isLineEnd c
  isLazy : l.isLazy = false

theorem isWhole_of_mem_splitFrom (h : l ∈ Line.splitFrom n a s) (ha : ∀ c ∈ a, ¬ isLineEnd c) :
    l.IsWhole := by
  have hreverse : ∀ c ∈ a.reverse, ¬ isLineEnd c := fun c hc => ha c (List.mem_reverse.1 hc)
  fun_induction Line.splitFrom n a s with
  | case1 n a =>
    obtain rfl := List.mem_singleton.1 h
    exact ⟨hreverse, by simp, rfl⟩
  | case2 n a r ih =>
    obtain rfl | h := List.mem_cons.1 h
    · exact ⟨hreverse, by simp [isLineEnd], rfl⟩
    · exact ih h (by simp) (by simp)
  | case3 n a c r _ hc ih =>
    obtain rfl | h := List.mem_cons.1 h
    · exact ⟨hreverse, by simpa [isLineEnd] using hc, rfl⟩
    · exact ih h (by simp) (by simp)
  | case4 n a c r _ hc ih =>
    have hca : ∀ x ∈ c :: a, ¬ isLineEnd x :=
      List.forall_mem_cons.2 ⟨by simpa [isLineEnd] using hc, ha⟩
    exact ih h hca fun x hx => hca x (List.mem_reverse.1 hx)

/-- A document is read in whole lines. -/
theorem isWhole_of_mem_split (h : l ∈ Line.split s) : l.IsWhole := by
  unfold Line.split at h
  split at h <;> exact isWhole_of_mem_splitFrom h (by simp)

theorem mem_of_mem_dropLast {ls : List Line} (h : l ∈ Outline.dropLast ls) : l ∈ ls := by
  rw [Outline.dropLast] at h
  split at h
  · split_ifs at h
    · exact List.dropLast_subset ls h
    · exact h
  · exact h

theorem splitFrom_ne_nil (n : Nat) (a s : Text) : Line.splitFrom n a s ≠ [] := by
  fun_induction Line.splitFrom n a s with
  | case4 n a c r _ hc ih => exact ih
  | _ => simp

theorem dropLast_cons (l : Line) {ls : List Line} (h : ls ≠ []) :
    Outline.dropLast (l :: ls) = l :: Outline.dropLast ls := by
  rw [Outline.dropLast, Outline.dropLast, List.getLast?_cons_of_ne_nil h]
  split
  · split_ifs
    · rw [List.dropLast_cons_of_ne_nil h]
    · rfl
  · rfl

theorem map_raw_dropLast_splitFrom (ha : '\n' ∉ a) (hs : '\r' ∉ s) :
    (Outline.dropLast (Line.splitFrom n a s)).map Line.raw = lines (a.reverse ++ s) := by
  fun_induction Line.splitFrom n a s with
  | case1 n a =>
    rw [List.append_nil]
    cases a with
    | nil => rfl
    | cons c a =>
      rw [(isLine_of_notMem (mt List.mem_reverse.1 ha) (by simp)).lines_eq]
      simp [Outline.dropLast, Line.raw]
  | case2 => simp at hs
  | case3 n a c r _ hc ih =>
    obtain rfl : c = '\n' := by
      rcases (by simpa using hc : c = '\n' ∨ c = '\r') with rfl | rfl
      · rfl
      · simp at hs
    rw [dropLast_cons _ (splitFrom_ne_nil _ _ _), List.map_cons, ih (by simp)
      (fun h => hs (List.mem_cons_of_mem _ h)), lines_append_lf (mt List.mem_reverse.1 ha)]
    rfl
  | case4 n a c r _ hc ih =>
    have hca : '\n' ∉ c :: a := by
      simp only [List.mem_cons, not_or]
      exact ⟨by rintro rfl; simp at hc, ha⟩
    rw [ih hca (fun h => hs (List.mem_cons_of_mem _ h)), List.reverse_cons, List.append_assoc]
    rfl

/-- Without carriage returns a document is read in the lines of its text. -/
theorem map_raw_dropLast_split (hs : '\r' ∉ s) (hmark : s.head? ≠ some '\uFEFF') :
    (Outline.dropLast (Line.split s)).map Line.raw = lines s := by
  unfold Line.split
  split
  · simp at hmark
  · exact map_raw_dropLast_splitFrom (by simp) hs

end DocPreview.Markup
