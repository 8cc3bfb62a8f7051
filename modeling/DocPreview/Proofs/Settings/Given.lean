import DocPreview.Proofs.Text.Except
import DocPreview.Settings.Load

/-!
# What a document gives

A document in TOML changes settings without looking at them: what it sets, and whether it is of the
right types, is the same whatever held before. So what it gives is a choice of settings, as for one
run, and what holds with the document is the standard with this choice in its place.

## Main definitions

* `Overrides.followedBy`: two choices, of which the later one counts more.
* `IsUniform`: a change that does not look at the settings that it changes.
* `Gives`: the choice that a document makes.

## Main results

* `isUniform_setMembers`, `isUniform_setGroup`: what members and groups of them set.
* `ofToml_eq_ok_iff`: the settings of a document.
-/

namespace DocPreview

/-- Two choices of settings, of which the later one counts more. -/
def Overrides.followedBy (g h : Overrides) : Overrides where
  serverUrl := h.serverUrl.orElse fun _ => g.serverUrl
  timeoutSecs := h.timeoutSecs.orElse fun _ => g.timeoutSecs
  isRendering := h.isRendering.orElse fun _ => g.isRendering
  isHighlighting := h.isHighlighting.orElse fun _ => g.isHighlighting

namespace Settings

open Toml

@[simp] theorem override_none (s : Settings) : s.override .none = s := rfl

theorem override_override (s : Settings) (g h : Overrides) :
    (s.override g).override h = s.override (g.followedBy h) := by
  obtain ⟨url, seconds, rendering, highlighting⟩ := h
  cases url <;> cases seconds <;> cases rendering <;> cases highlighting <;> rfl

/-! ### Changes that do not look at what they change -/

/-- A change that does not look at the settings that it changes: it has the same mismatch for all
of them, or it puts the same choice in their place. -/
def IsUniform (change : Settings → Except Mismatch Settings) : Prop :=
  (∃ m, ∀ s, change s = .error m) ∨ ∃ g : Overrides, ∀ s, change s = .ok (s.override g)

variable {change change' : Settings → Except Mismatch Settings}

theorem isUniform_ok : IsUniform .ok := Or.inr ⟨.none, fun _ => rfl⟩

theorem IsUniform.bind (h : IsUniform change) (h' : IsUniform change') :
    IsUniform fun s => change s >>= change' := by
  obtain ⟨m, hm⟩ | ⟨g, hg⟩ := h
  · exact Or.inl ⟨m, fun s => by simp only [hm]; rfl⟩
  · obtain ⟨m, hm⟩ | ⟨g', hg'⟩ := h'
    · exact Or.inl ⟨m, fun s => by simp only [hg]; exact hm _⟩
    · refine Or.inr ⟨g.followedBy g', fun s => ?_⟩
      simp only [hg, ← override_override]
      exact hg' _

theorem IsUniform.located (h : IsUniform change) (span : Option Span) :
    IsUniform fun s => located span (change s) := by
  obtain ⟨m, hm⟩ | ⟨g, hg⟩ := h
  · exact Or.inl ⟨{ m with span := m.span.orElse fun _ => span }, fun s => by simp only [hm]; rfl⟩
  · exact Or.inr ⟨g, fun s => by simp only [hg]; rfl⟩

theorem isUniform_foldlM {α : Type} {step : Settings → α → Except Mismatch Settings} {as : List α}
    (h : ∀ a ∈ as, IsUniform fun s => step s a) : IsUniform fun s => as.foldlM step s := by
  induction as with
  | nil => exact isUniform_ok
  | cons a as ih =>
    simp only [List.foldlM_cons]
    exact (h a List.mem_cons_self).bind (ih fun b hb => h b (List.mem_cons_of_mem a hb))

/-- A change by a value that is read first. -/
theorem isUniform_read {α : Type} {x : Except Mismatch α} {set : Settings → α → Settings}
    (choice : α → Overrides) (h : ∀ s a, set s a = s.override (choice a)) :
    IsUniform fun s => do return set s (← x) := by
  cases x with
  | error m => exact Or.inl ⟨m, fun _ => rfl⟩
  | ok a => exact Or.inr ⟨choice a, fun s => congrArg Except.ok (h s a)⟩

/-! ### Members and groups -/

variable {fields : List (String × Setter)}

theorem isUniform_setMembers (h : ∀ p ∈ fields, ∀ v, IsUniform (p.2 · v)) (ms : Members) :
    IsUniform (setMembers fields · ms) := by
  refine isUniform_foldlM fun (key, v, span) _ => ?_
  cases hfind : fields.find? fun p => p.1.toList = key.name with
  | none => simpa only [hfind] using isUniform_ok
  | some p => simpa only [hfind] using
      (h p (List.mem_of_find?_eq_some hfind) (v, span)).located (some key.span)

theorem isUniform_setItems (h : ∀ p ∈ fields, ∀ v, IsUniform (p.2 · v)) (items : List Placed) :
    IsUniform (setItems fields · items) := by
  refine isUniform_foldlM fun (p, v) hp => ?_
  exact h p (List.of_mem_zip hp).1 v

theorem isUniform_setGroup (name : String) (h : ∀ p ∈ fields, ∀ v, IsUniform (p.2 · v))
    (v : Placed) : IsUniform (setGroup name fields · v) := by
  obtain ⟨value, span⟩ := v
  refine IsUniform.located ?_ span
  cases value with
  | table origin ms => exact isUniform_setMembers h ms
  | array items => exact isUniform_setItems h items
  | tables items => exact isUniform_setItems h items
  | dateTime => exact isUniform_ok
  | string s => exact Or.inl ⟨_, fun _ => rfl⟩
  | integer n => exact Or.inl ⟨_, fun _ => rfl⟩
  | number x => exact Or.inl ⟨_, fun _ => rfl⟩
  | boolean b => exact Or.inl ⟨_, fun _ => rfl⟩

theorem isUniform_diagramSetters : ∀ p ∈ diagramSetters, ∀ v, IsUniform (p.2 · v) := by
  simp only [diagramSetters, List.forall_mem_cons, List.not_mem_nil, false_implies, implies_true,
    and_true]
  exact
    ⟨fun v => isUniform_read (fun url => { Overrides.none with serverUrl := some url })
        fun _ _ => rfl,
      fun v => isUniform_read (fun n => { Overrides.none with timeoutSecs := some n })
        fun _ _ => rfl,
      fun v => isUniform_read (fun b => { Overrides.none with isRendering := some b })
        fun _ _ => rfl⟩

theorem isUniform_compilerSetters : ∀ p ∈ compilerSetters, ∀ v, IsUniform (p.2 · v) := by
  simp only [compilerSetters, List.forall_mem_cons, List.not_mem_nil, false_implies, implies_true,
    and_true]
  exact fun v => isUniform_read (fun b => { Overrides.none with isHighlighting := some b })
    fun _ _ => rfl

theorem isUniform_setters : ∀ p ∈ setters, ∀ v, IsUniform (p.2 · v) := by
  simp only [setters, List.forall_mem_cons, List.not_mem_nil, false_implies, implies_true,
    and_true]
  exact ⟨isUniform_setGroup _ isUniform_diagramSetters,
    isUniform_setGroup _ isUniform_compilerSetters⟩

/-! ### Documents -/

/-- Settings changed by a table. -/
def changedBy (t : Table) (s : Settings) : Except Mismatch Settings :=
  located t.span (setMembers setters s t.members)

theorem isUniform_changedBy (t : Table) : IsUniform (changedBy t) :=
  (isUniform_setMembers isUniform_setters t.members).located t.span

/-- The choice that a document makes: it is put in the place of any settings. -/
def Gives (text : Text) (g : Overrides) : Prop :=
  ∃ t, parse text = .ok t ∧ ∀ s, changedBy t s = .ok (s.override g)

/-- What holds with a document is the standard with the choice that the document makes. -/
theorem ofToml_eq_ok_iff {text : Text} {s : Settings} :
    ofToml text = .ok s ↔ ∃ g, Gives text g ∧ s = standard.override g := by
  constructor
  · intro h
    obtain ⟨t, ht, hs⟩ := exists_of_bind_eq_ok h
    have hs : changedBy t standard = .ok s := eq_ok_of_mapError_eq_ok hs
    obtain ⟨m, hm⟩ | ⟨g, hg⟩ := isUniform_changedBy t
    · rw [hm] at hs
      cases hs
    · rw [hg] at hs
      exact ⟨g, ⟨t, ht, hg⟩, (Except.ok.inj hs).symm⟩
  · rintro ⟨g, ⟨t, ht, hg⟩, rfl⟩
    have hs : ofTable t = .ok (standard.override g) := hg standard
    rw [ofToml, ht]
    show (ofTable t).mapError _ = _
    rw [hs]
    rfl

end Settings

end DocPreview
