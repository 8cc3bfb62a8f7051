import DocPreview.Files.Tree
import DocPreview.Proofs.Text.Except
import Mathlib.Tactic.SplitIfs

/-!
# Writing a file

A file is written where its path leads, and nothing else in the tree changes. The path leads to the
same place afterwards: the steps on the way to it go through directories, and a file is never put
in the place of a directory. So the text that was written is what is read there.

## Main definitions

* `Tree.ChangedAt`: trees that differ at one place, which holds a file in the later one.

## Main results

* `write_eq_ok_iff`: when a file can be written.
* `changedAt_of_write`, `read_of_write`: what a tree holds after a file is written.
-/

namespace DocPreview.Files.Tree

variable {t t' : Tree} {directory place : Place} {p : Path} {n : Node}

/-- Two trees that differ at one place, where the later one holds a file. -/
structure ChangedAt (t t' : Tree) (place : Place) (content : ByteArray) : Prop where
  file : t'.find? place = some (.file content)
  /-- What is at any other place is as it was. -/
  elsewhere : ∀ other, other ≠ place → t'.find? other = t.find? other

/-! ### Putting something at a place -/

theorem find?_put_self (t : Tree) (hplace : place ≠ []) (n : Node) :
    (t.put place n).find? place = some n := by
  simp [find?, put, hplace]

theorem find?_put_of_ne (t : Tree) {other : Place} (h : other ≠ place) (n : Node) :
    (t.put place n).find? other = t.find? other := by
  have hkept (m : Place × Node) : (m.1 ≠ place ∧ m.1 = other) ↔ m.1 = other :=
    and_iff_right_of_imp fun hm => hm ▸ h
  simp only [find?, put, List.find?_cons, h.symm, decide_false, List.find?_filter,
    decide_eq_true_eq, hkept]

/-! ### Following a path -/

/-- A step depends on what is at the place where it starts. -/
theorem step_congr (h : t'.find? place = t.find? place) (name : Text) :
    t'.step place name = t.step place name := by
  rw [step, step, h]

theorem find?_of_step {next : Place} {name : Text} (h : t.step place name = .ok next) :
    t.find? place = some .directory := by
  rw [step] at h
  split at h
  · cases h
  · cases h
  · assumption

/-- Steps lead to the same place if something is put where no directory was. -/
theorem foldlM_step_put {target : Place} (htarget : t.find? target ≠ some .directory) (n : Node)
    {names : List Text} {start : Place} (h : names.foldlM t.step start = .ok place) :
    names.foldlM (t.put target n).step start = .ok place := by
  induction names generalizing start with
  | nil => exact h
  | cons name names ih =>
    rw [List.foldlM_cons] at h ⊢
    obtain ⟨next, hnext, hrest⟩ := exists_of_bind_eq_ok h
    have hne : start ≠ target := by
      rintro rfl
      exact htarget (find?_of_step hnext)
    rw [step_congr (t.find?_put_of_ne hne n), hnext]
    exact ih hrest

theorem follow_put {target : Place} (htarget : t.find? target ≠ some .directory) (n : Node)
    (h : t.follow directory p = .ok place) : (t.put target n).follow directory p = .ok place := by
  rw [follow] at h ⊢
  split_ifs at h ⊢
  all_goals exact foldlM_step_put htarget n h

theorem node_eq_file {content : ByteArray} (hfollow : t.follow directory p = .ok place)
    (hfile : t.find? place = some (.file content)) (hslash : Path.endsInSlash p = false) :
    t.node directory p = .ok (.file content) := by
  rw [node, hfollow]
  simp only [bind, Except.bind, hfile, hslash]
  rfl

/-! ### Writing -/

/-- The content of a file is the text that it was made of. -/
theorem textOf_toUTF8 (s : Text) : textOf (String.ofList s).toUTF8 = .ok s := by
  have hvalid : (String.ofList s).toUTF8.IsValidUTF8 := (String.ofList s).isValidUTF8
  rw [textOf, String.fromUTF8?, dif_pos hvalid]
  exact congrArg Except.ok String.toList_ofList

/-- A file can be written at a place that is no directory, by a path that does not ask for one. -/
theorem write_eq_ok_iff {text : Text} : t.write directory p text = .ok t' ↔
    ∃ place, t.follow directory p = .ok place ∧ Path.endsInSlash p = false ∧
      t.find? place ≠ some .directory ∧ t' = t.put place (.file (String.ofList text).toUTF8) := by
  constructor
  · intro h
    obtain ⟨place, hfollow, h⟩ := exists_of_bind_eq_ok h
    refine ⟨place, hfollow, ?_⟩
    cases hslash : Path.endsInSlash p with
    | true =>
      rw [hslash] at h
      cases h
    | false =>
      simp only [hslash, Bool.false_or] at h
      split at h
      · cases h
      · rename_i hplace
        refine ⟨rfl, fun hdirectory => hplace ?_, (Except.ok.inj h).symm⟩
        rw [hdirectory]
  · rintro ⟨place, hfollow, hslash, hplace, rfl⟩
    rw [write, hfollow]
    simp only [bind, Except.bind, hslash, Bool.false_or]
    rfl

/-- A tree in which a file is written differs only there. -/
theorem changedAt_of_write {text : Text} (h : t.write directory p text = .ok t') :
    ∃ place, t.follow directory p = .ok place ∧
      t.ChangedAt t' place (String.ofList text).toUTF8 := by
  obtain ⟨place, hfollow, -, hplace, rfl⟩ := write_eq_ok_iff.1 h
  have hne : place ≠ [] := by
    rintro rfl
    exact hplace rfl
  exact ⟨place, hfollow, t.find?_put_self hne _, fun other hother => t.find?_put_of_ne hother _⟩

/-- A text that is written is what is read then. -/
theorem read_of_write {text : Text} (h : t.write directory p text = .ok t') :
    t'.read directory p = .ok text := by
  obtain ⟨place, hfollow, hslash, hplace, rfl⟩ := write_eq_ok_iff.1 h
  have hne : place ≠ [] := by
    rintro rfl
    exact hplace rfl
  rw [read, node_eq_file (follow_put hplace _ hfollow) (t.find?_put_self hne _) hslash]
  exact textOf_toUTF8 text

end DocPreview.Files.Tree
