import DocPreview.Diagram.Server
import DocPreview.Proofs.Text.Line
import DocPreview.Proofs.Text.Occurrence

/-!
# Images behind a declaration

A server may send a declaration of XML in front of an image. A declaration ends at the first `>`
behind its name, so a question mark in it does not end it, and no markup of the image is taken for
its end. What stands before it is white space, which is trimmed with what stands behind it. So the
image is the same with and without the declaration, and a second declaration stays.

## Main definitions

* `declared`: an image behind white space and a declaration.

## Main results

* `declarationRest?_eq_some_iff`: where a declaration ends.
* `removeDeclaration_eq_self`: a text without a declaration.
* `stripDeclaration_declared`: a declaration does not matter.
-/

namespace DocPreview.Diagram

open Text

/-- An image behind white space `w` and a declaration of XML with the inside `a`. -/
def declared (w a s : Text) : Text := w ++ ("<?xml".toList ++ (a ++ '?' :: '>' :: s))

/-- A declaration ends at the first `>` behind its name, if a question mark stands before that. -/
theorem declarationRest?_eq_some_iff {s rest : Text} :
    declarationRest? s = some rest ↔ ∃ a, '>' ∉ a ∧ s = a ++ '?' :: '>' :: rest := by
  constructor
  · intro h
    obtain ⟨r, hr⟩ := List.takeWhile_prefix (l := s) (· ≠ '>')
    have hdrop : (s.takeWhile (· ≠ '>') ++ r).drop (s.takeWhile (· ≠ '>')).length = r :=
      List.drop_left
    rw [hr] at hdrop
    have hnot : '>' ∉ s.takeWhile (· ≠ '>') := fun hmem => by
      simpa using List.mem_takeWhile_imp hmem
    simp only [declarationRest?, hdrop] at h
    split at h
    · rename_i t rest' hinner
      cases h
      have hinside : s.takeWhile (· ≠ '>') = t.reverse ++ ['?'] := by
        rw [← List.reverse_reverse (s.takeWhile _), hinner, List.reverse_cons]
      rw [hinside] at hr hnot
      refine ⟨t.reverse, fun hmem => hnot (List.mem_append_left _ hmem), ?_⟩
      rw [← hr, List.append_assoc]
      rfl
    · cases h
  · rintro ⟨a, ha, rfl⟩
    have hinside : (a ++ '?' :: '>' :: rest).takeWhile (· ≠ '>') = a ++ ['?'] := by
      rw [List.takeWhile_append_of_pos fun c hc => by
        simpa using fun (heq : c = '>') => ha (heq ▸ hc)]
      rfl
    have hdrop : (a ++ ['?'] ++ '>' :: rest).drop (a ++ ['?']).length = '>' :: rest :=
      List.drop_left
    rw [← List.append_cons] at hdrop
    simp only [declarationRest?, hinside, hdrop, List.reverse_append, List.reverse_singleton,
      List.singleton_append]

/-- No declaration begins where there is no `<`. -/
theorem removeDeclaration_append {w : Text} (hw : '<' ∉ w) (s : Text) :
    removeDeclaration (w ++ s) = w ++ removeDeclaration s := by
  induction w with
  | nil => rfl
  | cons c w ih =>
    rw [List.mem_cons, not_or] at hw
    have hnone : after? "<?xml".toList (c :: (w ++ s)) = none := if_neg hw.1
    rw [List.cons_append, removeDeclaration, hnone, Option.bind_none, ih hw.2, List.cons_append]

theorem removeDeclaration_declaration {a : Text} (ha : '>' ∉ a) (s : Text) :
    removeDeclaration ("<?xml".toList ++ (a ++ '?' :: '>' :: s)) = s := by
  have hrest : declarationRest? (a ++ '?' :: '>' :: s) = some s :=
    declarationRest?_eq_some_iff.2 ⟨a, ha, rfl⟩
  obtain ⟨c, r, hcr⟩ := List.exists_cons_of_ne_nil (l := "<?xml".toList ++ (a ++ '?' :: '>' :: s))
    nofun
  rw [hcr, removeDeclaration, ← hcr, after?_append, Option.bind_some, hrest]

theorem removeDeclaration_eq_self {s : Text} (h : ¬ "<?xml".toList <:+: s) :
    removeDeclaration s = s := by
  induction s with
  | nil => rfl
  | cons c s ih =>
    rw [List.infix_cons_iff, not_or, ← after?_eq_none_iff] at h
    rw [removeDeclaration, h.1, Option.bind_none, ih h.2]

/-- The image of a server is the same with and without a declaration in front of it, as the rest
of the text is left as it is. -/
theorem stripDeclaration_declared {w a : Text} (hw : ∀ c ∈ w, isBlank c) (ha : '>' ∉ a)
    (s : Text) :
    stripDeclaration (declared w a s) = trim s ∧
      (¬ "<?xml".toList <:+: s → stripDeclaration s = trim s ∧
        ∀ status, 200 ≤ status → status < 300 →
          Response.image ⟨status, .ok (declared w a s)⟩ = Response.image ⟨status, .ok s⟩) := by
  have hlt : '<' ∉ w := fun hmem => absurd (hw _ hmem) (by decide)
  have hdeclared : stripDeclaration (declared w a s) = trim s := by
    rw [stripDeclaration, declared, removeDeclaration_append hlt,
      removeDeclaration_declaration ha, trim_blank_append hw]
  refine ⟨hdeclared, fun hnone => ?_⟩
  have hself : stripDeclaration s = trim s := by
    rw [stripDeclaration, removeDeclaration_eq_self hnone]
  refine ⟨hself, fun status hlow hhigh => ?_⟩
  have hok : (200 ≤ status && status < 300) = true := by
    simp only [hlow, hhigh, decide_true, Bool.and_self]
  simp only [Response.image, hok, if_true, hdeclared, hself]

/-- Question marks in a declaration, and white space around it and the image. -/
theorem stripDeclaration_declared_sample :
    (∀ c ∈ " \n".toList, isBlank c) ∧ '>' ∉ " a='?'?".toList ∧
      ¬ "<?xml".toList <:+: "\n<svg/> ".toList ∧
      stripDeclaration (declared " \n".toList " a='?'?".toList "\n<svg/> ".toList) =
        "<svg/>".toList ∧
      Response.image ⟨200, .ok (declared " \n".toList " a='?'?".toList "\n<svg/> ".toList)⟩ =
        Response.image ⟨200, .ok "\n<svg/> ".toList⟩ := by
  have hw : ∀ c ∈ " \n".toList, isBlank c := List.all_eq_true.1 (by decide)
  have ha : '>' ∉ " a='?'?".toList := by decide
  have hs : ¬ "<?xml".toList <:+: "\n<svg/> ".toList := by decide
  obtain ⟨hdeclared, hplain⟩ := stripDeclaration_declared hw ha "\n<svg/> ".toList
  exact ⟨hw, ha, hs, hdeclared, (hplain hs).2 200 (by decide) (by decide)⟩

end DocPreview.Diagram
