import DocPreview.Proofs.Files.Tree
import DocPreview.Proofs.Settings.Load
import DocPreview.Proofs.Settings.Variable

/-!
# Settings that are hidden

What is given for a run hides what a file sets: a file that differs only in hidden settings leads to
the same settings. The address of the server is an exception as long as the references in it cannot
be replaced, since this is found when the file is read, before anything is hidden. So two files that
differ only in hidden settings come to the same, up to their paths, exactly if the same reference in
their addresses fails, or none in either.

## Main definitions

* `Overrides.Hides`: settings that differ only where settings are given for the run.
* `Sets`: what the file that counts sets.

## Main results

* `override_eq_iff_hides`: hidden settings do not matter to the settings of a run.
* `load_eq_iff_of_hides`: hidden settings do not matter if the addresses of both files can be used.
-/

namespace DocPreview

/-- Settings that do not differ but where settings are given for the run. -/
structure Overrides.Hides (o : Overrides) (s s' : Settings) : Prop where
  serverUrl : o.serverUrl = .none → s.serverUrl = s'.serverUrl
  timeoutSecs : o.timeoutSecs = .none → s.timeoutSecs = s'.timeoutSecs
  isRendering : o.isRendering = .none → s.isRendering = s'.isRendering
  isHighlighting : o.isHighlighting = .none → s.isHighlighting = s'.isHighlighting

namespace Settings

open Text Files

variable {o : Overrides} {s s' : Settings}

theorem override_eq_iff_hides : s.override o = s'.override o ↔ o.Hides s s' := by
  obtain ⟨url, seconds, rendering, highlighting⟩ := o
  constructor
  · intro h
    injection h with hurl hseconds hrendering hhighlighting
    constructor
    · rintro rfl
      exact hurl
    · rintro rfl
      exact hseconds
    · rintro rfl
      exact hrendering
    · rintro rfl
      exact hhighlighting
  · rintro ⟨hurl, hseconds, hrendering, hhighlighting⟩
    rw [override, override, Settings.mk.injEq]
    refine ⟨?_, ?_, ?_, ?_⟩
    · cases url with
      | none => exact hurl rfl
      | some url => rfl
    · cases seconds with
      | none => exact hseconds rfl
      | some n => rfl
    · cases rendering with
      | none => exact hrendering rfl
      | some b => rfl
    · cases highlighting with
      | none => exact hhighlighting rfl
      | some b => rfl

/-- The file that counts is a document that sets `s`. -/
def Sets (around : Surroundings) (path : Option Path) (s : Settings) : Prop :=
  ∃ p text, Chosen around path (some p) ∧ around.tree.read around.directory p = .ok text ∧
    ofToml text = .ok s

variable {around around' : Surroundings} {path path' : Option Path}

theorem ofText_of_ofToml (values : Variable.Assignment) {text : Text} (h : ofToml text = .ok s) :
    ofText values text =
      ((Variable.expand values s.serverUrl).mapError Failure.unset).map fun url =>
        { s with serverUrl := url } := by
  rw [ofText, h]
  show ((Variable.expand values s.serverUrl).mapError Failure.unset >>= _) = _
  cases Variable.expand values s.serverUrl <;> rfl

/-- A run with a file has the settings that the file sets, with the references in its address
replaced and those for the run in their place. -/
theorem Sets.load_eq (h : Sets around path s) (o : Overrides) :
    (load around path o).map Prod.fst =
      ((Variable.expand around.values s.serverUrl).mapError .unset >>= fun url =>
        validated ({ s with serverUrl := url }.override o)) := by
  obtain ⟨p, text, hchosen, hread, htoml⟩ := h
  rw [load_of_text hchosen hread, ofText_of_ofToml _ htoml]
  cases Variable.expand around.values s.serverUrl with
  | error u => rfl
  | ok url =>
    show (validated ({ s with serverUrl := url }.override o) >>= _).map _ =
      validated ({ s with serverUrl := url }.override o)
    cases validated ({ s with serverUrl := url }.override o) <;> rfl

/-- Rules are not about variables. -/
theorem validated_ne_unset (s : Settings) (u : Variable.Unset) :
    validated s ≠ .error (.unset u) := by
  rw [validated]
  intro h
  cases hviolation : s.violation? with
  | none =>
    rw [hviolation] at h
    cases h
  | some v =>
    rw [hviolation] at h
    cases h

/-- The address that is given for the run is put in the place of the one of a file, but only if the
references in that one can be replaced. -/
theorem bind_validated_eq_iff {x x' : Except Variable.Unset Text} (hhides : o.Hides s s')
    (hx : o.serverUrl = none → x = x') :
    (x.mapError Failure.unset >>= fun url => validated ({ s with serverUrl := url }.override o)) =
        (x'.mapError Failure.unset >>= fun url =>
          validated ({ s' with serverUrl := url }.override o)) ↔
      ∀ u, x = .error u ↔ x' = .error u := by
  cases x with
  | error u =>
    cases x' with
    | error u' =>
      constructor
      · intro heq
        obtain rfl : u = u' := Failure.unset.inj (Except.error.inj heq)
        exact fun _ => Iff.rfl
      · intro heq
        obtain rfl : u' = u := Except.error.inj ((heq u).1 rfl)
        rfl
    | ok url' =>
      constructor
      · exact fun heq => absurd heq.symm (validated_ne_unset _ u)
      · exact fun heq => nomatch (heq u).1 rfl
  | ok url =>
    cases x' with
    | error u' =>
      constructor
      · exact fun heq => absurd heq (validated_ne_unset _ u')
      · exact fun heq => nomatch (heq u').2 rfl
    | ok url' =>
      have hsame : { s with serverUrl := url }.override o =
          { s' with serverUrl := url' }.override o :=
        override_eq_iff_hides.2 ⟨fun hnone => Except.ok.inj (hx hnone), hhides.timeoutSecs,
          hhides.isRendering, hhides.isHighlighting⟩
      exact ⟨fun _ _ => ⟨nofun, nofun⟩, fun _ => congrArg validated hsame⟩

/-- Two files that differ only in settings that are given for the run lead to the same failure or to
the same settings, but for the path of the file, exactly if the same variable of their addresses is
missing, or none of either. So they do if their addresses are the same. -/
theorem load_eq_iff_of_hides (hvalues : around.values = around'.values) (h : Sets around path s)
    (h' : Sets around' path' s') (hhides : o.Hides s s') :
    ((load around path o).map Prod.fst = (load around' path' o).map Prod.fst ↔
      ∀ u, Variable.expand around.values s.serverUrl = .error u ↔
        Variable.expand around.values s'.serverUrl = .error u) ∧
    (s.serverUrl = s'.serverUrl →
      (load around path o).map Prod.fst = (load around' path' o).map Prod.fst) := by
  have hiff : (load around path o).map Prod.fst = (load around' path' o).map Prod.fst ↔
      ∀ u, Variable.expand around.values s.serverUrl = .error u ↔
        Variable.expand around.values s'.serverUrl = .error u := by
    rw [h.load_eq, h'.load_eq, ← hvalues]
    exact bind_validated_eq_iff hhides fun hnone => by rw [hhides.serverUrl hnone]
  exact ⟨hiff, fun hurl => hiff.2 fun u => by rw [hurl]⟩

/-! ### An address that is hidden -/

/-- Surroundings with a file `c` and without variables. -/
def withFile (content : Text) : Surroundings where
  tree := ⟨[(["c".toList], .file (String.ofList content).toUTF8)]⟩
  directory := []
  values := fun _ => none

@[simp] theorem values_withFile (content : Text) : (withFile content).values = fun _ => none := rfl

theorem sets_withFile {content : Text} (h : (ofToml content).toOption = some s) :
    Sets (withFile content) (some "c".toList) s := by
  have hnode : (withFile content).tree.node [] "c".toList =
      .ok (.file (String.ofList content).toUTF8) := rfl
  refine ⟨"c".toList, content, .named ?_, ?_, eq_ok_of_toOption_eq_some h⟩
  · show Tree.exists? _ [] _ = true
    rw [Tree.exists?, hnode]
  · show Tree.read _ [] _ = _
    rw [Tree.read, hnode]
    exact Tree.textOf_toUTF8 content

/-- A document with an address that refers to a variable without a default. -/
def requiredDocument : Text := "[diagrams]\nserver_url = \"$\x7bX\x7d\"\n".toList

/-- A document with an address that refers to a variable with a default. -/
def optionalDocument : Text := "[diagrams]\nserver_url = \"$\x7bX:-b\x7d\"\n".toList

/-- A document with an address without references. -/
def plainDocument : Text := "[diagrams]\nserver_url = \"ftp://a\"\n".toList

/-- The settings without a file, but for the address. -/
def standardAt (url : Text) : Settings := { standard with serverUrl := url }

/-- A run that gives an address. -/
def addressed (url : Text) : Overrides := { Overrides.none with serverUrl := some url }

theorem hides_addressed (url url₁ url₂ : Text) :
    (addressed url).Hides (standardAt url₁) (standardAt url₂) :=
  ⟨nofun, fun _ => rfl, fun _ => rfl, fun _ => rfl⟩

theorem expand_plainDocument (values : Variable.Assignment) :
    Variable.expand values "ftp://a".toList = .ok "ftp://a".toList :=
  Variable.expand_of_not_isInfix (by decide) values

/-- Addresses that could not be used are hidden by the one for the run. -/
theorem load_eq_iff_of_hides_default :
    Sets (withFile optionalDocument) (some "c".toList) (standardAt "$\x7bX:-b\x7d".toList) ∧
      Sets (withFile plainDocument) (some "c".toList) (standardAt "ftp://a".toList) ∧
      (load (withFile optionalDocument) (some "c".toList) (addressed "http://ok".toList)).map
          Prod.fst =
        (load (withFile plainDocument) (some "c".toList) (addressed "http://ok".toList)).map
          Prod.fst := by
  have hoptional : Sets (withFile optionalDocument) (some "c".toList)
      (standardAt "$\x7bX:-b\x7d".toList) := sets_withFile (by decide +kernel)
  have hplain : Sets (withFile plainDocument) (some "c".toList) (standardAt "ftp://a".toList) :=
    sets_withFile (by decide +kernel)
  have hexpand : Variable.expand (fun _ => none) "$\x7bX:-b\x7d".toList = .ok "b".toList := by
    decide +kernel
  have hfailures (u : Variable.Unset) :
      Variable.expand (fun _ => none) "$\x7bX:-b\x7d".toList = .error u ↔
        Variable.expand (fun _ => none) "ftp://a".toList = .error u := by
    rw [hexpand, expand_plainDocument]
    constructor
    · intro h
      cases h
    · intro h
      cases h
  -- not by `rfl`, which would compare the documents
  have hvalues : (withFile optionalDocument).values = (withFile plainDocument).values := by
    rw [values_withFile, values_withFile]
  have hiff := load_eq_iff_of_hides hvalues hoptional hplain
    (hides_addressed "http://ok".toList _ _)
  exact ⟨hoptional, hplain, hiff.1.2 hfailures⟩

/-- A reference to a variable that is not set is a failure also in an address that is hidden. -/
theorem hidden_address_is_expanded :
    Sets (withFile requiredDocument) (some "c".toList) (standardAt "$\x7bX\x7d".toList) ∧
      Sets (withFile plainDocument) (some "c".toList) (standardAt "ftp://a".toList) ∧
      (addressed "http://ok".toList).Hides (standardAt "$\x7bX\x7d".toList)
        (standardAt "ftp://a".toList) ∧
      (load (withFile requiredDocument) (some "c".toList) (addressed "http://ok".toList)).map
          Prod.fst = .error (.unset ⟨"X".toList⟩) ∧
      (load (withFile plainDocument) (some "c".toList) (addressed "http://ok".toList)).map
          Prod.fst = .ok (standardAt "http://ok".toList) := by
  have hrequired : Sets (withFile requiredDocument) (some "c".toList)
      (standardAt "$\x7bX\x7d".toList) := sets_withFile (by decide +kernel)
  have hplain : Sets (withFile plainDocument) (some "c".toList) (standardAt "ftp://a".toList) :=
    sets_withFile (by decide +kernel)
  have hexpand : Variable.expand (fun _ => none) "$\x7bX\x7d".toList = .error ⟨"X".toList⟩ := by
    decide +kernel
  have hload : (load (withFile requiredDocument) (some "c".toList)
      (addressed "http://ok".toList)).map Prod.fst = .error (.unset ⟨"X".toList⟩) := by
    rw [hrequired.load_eq]
    exact congrArg (fun x : Except Variable.Unset Text => x.mapError Failure.unset >>= fun url =>
      validated ((standardAt url).override (addressed "http://ok".toList))) hexpand
  have hload' : (load (withFile plainDocument) (some "c".toList)
      (addressed "http://ok".toList)).map Prod.fst = .ok (standardAt "http://ok".toList) := by
    rw [hplain.load_eq]
    exact congrArg (fun x : Except Variable.Unset Text => x.mapError Failure.unset >>= fun url =>
      validated ((standardAt url).override (addressed "http://ok".toList)))
      (expand_plainDocument fun _ => none)
  exact ⟨hrequired, hplain, hides_addressed _ _ _, hload, hload'⟩

end Settings

end DocPreview
