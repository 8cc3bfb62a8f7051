import DocPreview.Proofs.Settings.Given
import DocPreview.Settings.Load
import Mathlib.Data.List.Infix

/-!
# Which settings hold

Settings are read from at most one file: the one that is named, or else the nearest one in the
working directory and the directories around it. Each setting is the one for this run if there is
one, else the one that the file gives, else the standard. What is wrong with the file is found
before what is wrong with the result, and what is wrong with the result is looked for in the
settings that hold in the end, so that a setting for this run also hides a wrong one of the file.

## Main definitions

* `IsNearest`, `Chosen`: the directory and the file that count.
* `expanded`: the choice of a file with the references in its address replaced.
* `Found`: the choice that is found, with its file.
* `Settings.Violates`, `Settings.IsValid`: the rules for settings.
* `SeesSame`: trees that do not differ where settings are looked for.

## Main results

* `nearestFile_eq_some_iff`, `chosenFile_eq_ok_iff`: the file that counts.
* `load_outcome`: what loading settings comes to.
-/

namespace DocPreview.Settings

open Text Files

variable {around : Surroundings} {path : Option Path} {o : Overrides}

/-! ### The file that counts -/

/-- The nearest directory that has an entry for settings, among a directory and those around it. -/
structure IsNearest (t : Tree) (directory outer : Place) : Prop where
  isAround : outer <+: directory
  hasFile : (t.find? (outer ++ [fileName])).isSome
  /-- No directory between them has such an entry. -/
  first : ∀ d, d <+: directory → outer.length < d.length → t.find? (d ++ [fileName]) = none

theorem nearestFile_eq_map (t : Tree) (directory : Place) :
    nearestFile t directory = ((List.range (directory.length + 1)).find? fun up =>
      (t.find? (directory.take (directory.length - up) ++ [fileName])).isSome).map fun up =>
        directory.take (directory.length - up) ++ [fileName] := by
  rw [nearestFile]
  induction List.range (directory.length + 1) with
  | nil => rfl
  | cons up ups ih =>
    rw [List.findSome?_cons, List.find?_cons]
    cases hentry : (t.find? (directory.take (directory.length - up) ++ [fileName])).isSome with
    | true => simp only [hentry, if_true, Option.map_some]
    | false => simpa only [hentry, Bool.false_eq_true, if_false] using ih

/-- The directories around a directory, and itself, by how many steps up they are. -/
theorem eq_take_of_prefix {d directory : Place} (h : d <+: directory) :
    d = directory.take (directory.length - (directory.length - d.length)) := by
  rw [Nat.sub_sub_self h.length_le]
  exact List.prefix_iff_eq_take.1 h

theorem nearestFile_eq_some_iff {t : Tree} {directory place : Place} :
    nearestFile t directory = some place ↔
      ∃ outer, IsNearest t directory outer ∧ place = outer ++ [fileName] := by
  rw [nearestFile_eq_map, Option.map_eq_some_iff]
  constructor
  · rintro ⟨up, hup, rfl⟩
    obtain ⟨hhas, hmem, hfirst⟩ := List.find?_range_eq_some.1 hup
    refine ⟨_, ⟨List.take_prefix .., hhas, fun d hd hlt => ?_⟩, rfl⟩
    have hle := hd.length_le
    rw [List.length_take] at hlt
    have hnot := hfirst (directory.length - d.length) (by omega)
    rw [← eq_take_of_prefix hd] at hnot
    simpa using hnot
  · rintro ⟨outer, ⟨houter, hhas, hfirst⟩, rfl⟩
    refine ⟨directory.length - outer.length, List.find?_range_eq_some.2 ⟨?_, ?_, ?_⟩, ?_⟩
    · rwa [← eq_take_of_prefix houter]
    · exact List.mem_range.2 (by omega)
    · intro up hup
      have hle := houter.length_le
      have hnot := hfirst (directory.take (directory.length - up)) (List.take_prefix ..)
        (by rw [List.length_take]; omega)
      rw [hnot]
      rfl
    · rw [← eq_take_of_prefix houter]

theorem nearestFile_eq_none_iff {t : Tree} {directory : Place} :
    nearestFile t directory = none ↔
      ∀ d, d <+: directory → t.find? (d ++ [fileName]) = none := by
  rw [nearestFile_eq_map, Option.map_eq_none_iff, List.find?_range_eq_none]
  constructor
  · intro h d hd
    have hnot := h (directory.length - d.length) (by omega)
    rw [← eq_take_of_prefix hd] at hnot
    simpa using hnot
  · intro h up _
    rw [h _ (List.take_prefix ..)]
    rfl

/-- The file that counts, if there is one: the one that is named, which must be there, or else the
nearest one. -/
inductive Chosen (around : Surroundings) : Option Path → Option Path → Prop
  | named {p : Path} (h : around.tree.exists? around.directory p) : Chosen around (some p) (some p)
  | nearest {outer : Place} (h : IsNearest around.tree around.directory outer) :
      Chosen around none (some (Path.ofPlace (outer ++ [fileName])))
  | standard (h : ∀ d, d <+: around.directory → around.tree.find? (d ++ [fileName]) = none) :
      Chosen around none none

theorem chosenFile_eq_ok_iff {file : Option Path} :
    chosenFile around path = .ok file ↔ Chosen around path file := by
  constructor
  · intro h
    cases path with
    | some p =>
      simp only [chosenFile] at h
      split_ifs at h with hexists
      cases h
      exact .named hexists
    | none =>
      cases hnearest : nearestFile around.tree around.directory with
      | some place =>
        obtain ⟨outer, houter, rfl⟩ := nearestFile_eq_some_iff.1 hnearest
        rw [chosenFile, hnearest] at h
        cases h
        exact .nearest houter
      | none =>
        rw [chosenFile, hnearest] at h
        cases h
        exact .standard (nearestFile_eq_none_iff.1 hnearest)
  · intro h
    cases h with
    | named hexists => exact if_pos hexists
    | nearest houter => rw [chosenFile, nearestFile_eq_some_iff.2 ⟨_, houter, rfl⟩]; rfl
    | standard hnone => rw [chosenFile, nearestFile_eq_none_iff.2 hnone]; rfl

theorem chosenFile_eq_error_iff {f : Failure} : chosenFile around path = .error f ↔
    ∃ p, path = some p ∧ around.tree.exists? around.directory p = false ∧ f = .notFound p := by
  cases path with
  | none => simp [chosenFile]
  | some p =>
    rw [chosenFile]
    cases hexists : around.tree.exists? around.directory p with
    | true => simp [hexists]
    | false =>
      constructor
      · intro h
        exact ⟨p, rfl, hexists, (Except.error.inj h).symm⟩
      · rintro ⟨q, hq, -, rfl⟩
        cases hq
        rfl

/-! ### What the file gives -/

/-- A choice with the references in its address replaced. -/
def expanded (values : Variable.Assignment) (g : Overrides) : Except Variable.Unset Overrides :=
  match g.serverUrl with
  | none => .ok g
  | some url => (Variable.expand values url).map fun url => { g with serverUrl := some url }

/-- The standard address refers to no variable. -/
theorem expand_standard (values : Variable.Assignment) :
    Variable.expand values standard.serverUrl = .ok standard.serverUrl := rfl

/-- The settings that a text gives are the standard with the choice of the text, whose address is
expanded. -/
theorem ofText_eq (values : Variable.Assignment) {text : Text} {g : Overrides}
    (h : Gives text g) : ofText values text =
      ((expanded values g).map standard.override).mapError .unset := by
  have hs : ofToml text = .ok (standard.override g) := ofToml_eq_ok_iff.2 ⟨g, h, rfl⟩
  rw [ofText, hs, expanded]
  cases hurl : g.serverUrl with
  | none =>
    have hstandard : (standard.override g).serverUrl = standard.serverUrl := by
      rw [override, hurl, Option.getD_none]
    show ((Variable.expand values (standard.override g).serverUrl).mapError Failure.unset >>= _) = _
    rw [hstandard, expand_standard]
    show Except.ok { standard.override g with serverUrl := standard.serverUrl } = _
    rw [← hstandard]
    rfl
  | some url =>
    have hfile : (standard.override g).serverUrl = url := by
      rw [override, hurl, Option.getD_some]
    show ((Variable.expand values (standard.override g).serverUrl).mapError Failure.unset >>= _) = _
    rw [hfile]
    dsimp only
    cases Variable.expand values url with
    | error u => rfl
    | ok url' => rfl

/-- The choice that is found, with the file that makes it. -/
inductive Found (around : Surroundings) (path : Option Path) : Overrides → Option Path → Prop
  | standard (h : Chosen around path none) : Found around path .none none
  | file {p : Path} {text : Text} {g g' : Overrides} (h : Chosen around path (some p))
      (hread : around.tree.read around.directory p = .ok text) (hgives : Gives text g)
      (hexpanded : expanded around.values g = .ok g') : Found around path g' (some p)

/-! ### Rules -/

/-- The rule that settings violate, the first one if there are several. -/
def Violates (s : Settings) : Violation → Prop
  | .emptyUrl => s.serverUrl = []
  | .urlScheme => s.serverUrl ≠ [] ∧ ¬ "http://".toList <+: s.serverUrl ∧
      ¬ "https://".toList <+: s.serverUrl
  | .zeroTimeout => ("http://".toList <+: s.serverUrl ∨ "https://".toList <+: s.serverUrl) ∧
      s.timeoutSecs = some 0

/-- Settings that keep to the rules. -/
def IsValid (s : Settings) : Prop :=
  ("http://".toList <+: s.serverUrl ∨ "https://".toList <+: s.serverUrl) ∧ s.timeoutSecs ≠ some 0

theorem isSome_after?_iff {pat s : Text} : (after? pat s).isSome ↔ pat <+: s := by
  rw [Option.isSome_iff_exists]
  constructor
  · rintro ⟨rest, h⟩
    exact ⟨rest, (eq_append_of_after? h).symm⟩
  · rintro ⟨rest, rfl⟩
    exact ⟨rest, after?_append pat rest⟩

theorem isWebUrl_iff {url : Text} :
    isWebUrl url ↔ "http://".toList <+: url ∨ "https://".toList <+: url := by
  rw [isWebUrl, Bool.or_eq_true, isSome_after?_iff, isSome_after?_iff]

theorem ne_nil_of_isWebUrl {url : Text} (h : isWebUrl url) : url ≠ [] := by
  rintro rfl
  cases h

theorem violation?_eq_some_iff {s : Settings} {v : Violation} :
    s.violation? = some v ↔ s.Violates v := by
  have hne : isWebUrl s.serverUrl → s.serverUrl ≠ [] := ne_nil_of_isWebUrl
  cases v <;> simp only [violation?, Violates, ← not_or, ← isWebUrl_iff, List.isEmpty_iff] <;>
    split_ifs <;> simp_all

theorem violation?_eq_none_iff {s : Settings} : s.violation? = none ↔ s.IsValid := by
  have hne : isWebUrl s.serverUrl → s.serverUrl ≠ [] := ne_nil_of_isWebUrl
  simp only [violation?, IsValid, ← isWebUrl_iff, List.isEmpty_iff]
  split_ifs <;> simp_all

/-! ### Loading -/

/-- What loading settings comes to. Each step is reached if the ones before it succeed. -/
inductive Loads (around : Surroundings) (path : Option Path) (o : Overrides) :
    Except Failure (Settings × Option Path) → Prop
  | notFound {p : Path} (hpath : path = some p)
      (hmissing : around.tree.exists? around.directory p = false) :
      Loads around path o (.error (.notFound p))
  | unreadable {p : Path} {f : Files.Failure} (hchosen : Chosen around path (some p))
      (hread : around.tree.read around.directory p = .error f) :
      Loads around path o (.error (.unreadable f))
  | malformed {p : Path} {text : Text} {f : Toml.Failure} (hchosen : Chosen around path (some p))
      (hread : around.tree.read around.directory p = .ok text) (htoml : ofToml text = .error f) :
      Loads around path o (.error (.malformed text f))
  | unset {p : Path} {text : Text} {g : Overrides} {u : Variable.Unset}
      (hchosen : Chosen around path (some p))
      (hread : around.tree.read around.directory p = .ok text) (hgives : Gives text g)
      (hexpanded : expanded around.values g = .error u) : Loads around path o (.error (.unset u))
  | invalid {g : Overrides} {file : Option Path} {v : Violation} (hfound : Found around path g file)
      (hviolates : ((standard.override g).override o).Violates v) :
      Loads around path o (.error (.invalid v))
  | loaded {g : Overrides} {file : Option Path} (hfound : Found around path g file)
      (hvalid : ((standard.override g).override o).IsValid) :
      Loads around path o (.ok ((standard.override g).override o, file))

theorem load_of_chosen {file : Option Path} (h : Chosen around path file) (o : Overrides) :
    load around path o = do
      let s ← match file with
        | some p => ofFile around p
        | none => pure standard
      return (← validated (s.override o), file) := by
  rw [load, chosenFile_eq_ok_iff.2 h]
  rfl

theorem load_of_file {p : Path} (h : Chosen around path (some p)) (o : Overrides) :
    load around path o = do
      let s ← ofFile around p
      return (← validated (s.override o), some p) := load_of_chosen h o

theorem load_of_text {p : Path} {text : Text} (h : Chosen around path (some p))
    (hread : around.tree.read around.directory p = .ok text) (o : Overrides) :
    load around path o = do
      let s ← ofText around.values text
      return (← validated (s.override o), some p) := by
  rw [load_of_file h, ofFile, hread]
  rfl

theorem load_of_found {g : Overrides} {file : Option Path} (h : Found around path g file)
    (o : Overrides) : load around path o =
      (validated ((standard.override g).override o)).map fun s => (s, file) := by
  cases h with
  | standard h =>
    rw [load_of_chosen h]
    rfl
  | file h hread hgives hexpanded =>
    rw [load_of_text h hread, ofText_eq around.values hgives, hexpanded]
    rfl

theorem loads_of_found {g : Overrides} {file : Option Path} (h : Found around path g file)
    (o : Overrides) : Loads around path o
      ((validated ((standard.override g).override o)).map fun s => (s, file)) := by
  rw [validated]
  cases hviolation : ((standard.override g).override o).violation? with
  | some v => exact .invalid h (violation?_eq_some_iff.1 hviolation)
  | none => exact .loaded h (violation?_eq_none_iff.1 hviolation)

theorem loads_load (around : Surroundings) (path : Option Path) (o : Overrides) :
    Loads around path o (load around path o) := by
  cases hchosen : chosenFile around path with
  | error f =>
    obtain ⟨p, hpath, hmissing, rfl⟩ := chosenFile_eq_error_iff.1 hchosen
    rw [load, hchosen]
    exact .notFound hpath hmissing
  | ok file =>
    have hchosen := chosenFile_eq_ok_iff.1 hchosen
    cases file with
    | none =>
      rw [load_of_found (.standard hchosen)]
      exact loads_of_found (.standard hchosen) o
    | some p =>
      cases hread : around.tree.read around.directory p with
      | error f =>
        rw [load_of_file hchosen, ofFile, hread]
        exact .unreadable hchosen hread
      | ok text =>
        cases htoml : ofToml text with
        | error f =>
          rw [load_of_text hchosen hread, ofText, htoml]
          exact .malformed hchosen hread htoml
        | ok s =>
          obtain ⟨g, hgives, -⟩ := ofToml_eq_ok_iff.1 htoml
          cases hexpanded : expanded around.values g with
          | error u =>
            rw [load_of_text hchosen hread, ofText_eq around.values hgives, hexpanded]
            exact .unset hchosen hread hgives hexpanded
          | ok g' =>
            rw [load_of_found (.file hchosen hread hgives hexpanded)]
            exact loads_of_found (.file hchosen hread hgives hexpanded) o

theorem Loads.load_eq {r : Except Failure (Settings × Option Path)} (h : Loads around path o r) :
    load around path o = r := by
  cases h with
  | notFound hpath hmissing =>
    rw [load, chosenFile_eq_error_iff.2 ⟨_, hpath, hmissing, rfl⟩]
    rfl
  | unreadable hchosen hread =>
    rw [load_of_file hchosen, ofFile, hread]
    rfl
  | malformed hchosen hread htoml =>
    rw [load_of_text hchosen hread, ofText, htoml]
    rfl
  | unset hchosen hread hgives hexpanded =>
    rw [load_of_text hchosen hread, ofText_eq around.values hgives, hexpanded]
    rfl
  | invalid hfound hviolates =>
    rw [load_of_found hfound, validated, violation?_eq_some_iff.2 hviolates]
    rfl
  | loaded hfound hvalid =>
    rw [load_of_found hfound, validated, violation?_eq_none_iff.2 hvalid]
    rfl

/-! ### Files that are not looked at -/

/-- Trees that do not differ where settings are looked for: at the path that is named, or else in
the directories up to the nearest one with an entry for settings, and at that entry. -/
structure SeesSame (around : Surroundings) (path : Option Path) (t : Tree) : Prop where
  named : ∀ p, path = some p → t.node around.directory p = around.tree.node around.directory p
  entries : path = none → ∀ d, d <+: around.directory →
    (∀ outer, IsNearest around.tree around.directory outer → outer.length ≤ d.length) →
    (t.find? (d ++ [fileName])).isSome = (around.tree.find? (d ++ [fileName])).isSome
  content : path = none → ∀ outer, IsNearest around.tree around.directory outer →
    t.node around.directory (Path.ofPlace (outer ++ [fileName])) =
      around.tree.node around.directory (Path.ofPlace (outer ++ [fileName]))

variable {t : Tree}

theorem IsNearest.length_eq {directory outer outer' : Place} (h : IsNearest t directory outer)
    (h' : IsNearest t directory outer') : outer.length = outer'.length := by
  have hle {a b : Place} (ha : IsNearest t directory a) (hb : IsNearest t directory b) :
      b.length ≤ a.length := by
    by_contra hlt
    have hnone := ha.first b hb.isAround (Nat.lt_of_not_le hlt)
    have hhas := hb.hasFile
    rw [hnone] at hhas
    cases hhas
  exact Nat.le_antisymm (hle h' h) (hle h h')

theorem SeesSame.chosen {file : Option Path} (h : SeesSame around path t)
    (hchosen : Chosen around path file) : Chosen { around with tree := t } path file := by
  cases hchosen with
  | named hexists =>
    refine .named ?_
    rw [Tree.exists?, h.named _ rfl]
    exact hexists
  | @nearest outer houter =>
    have hsame (d : Place) (hd : d <+: around.directory) (hle : outer.length ≤ d.length) :
        (t.find? (d ++ [fileName])).isSome = (around.tree.find? (d ++ [fileName])).isSome :=
      h.entries rfl d hd fun outer' houter' => (houter'.length_eq houter).le.trans hle
    refine .nearest ⟨houter.isAround, ?_, fun d hd hlt => ?_⟩
    · rw [hsame outer houter.isAround le_rfl]
      exact houter.hasFile
    · have hnone := hsame d hd hlt.le
      rw [houter.first d hd hlt] at hnone
      exact Option.not_isSome_iff_eq_none.1 (by simp [hnone])
  | standard hnone =>
    refine .standard fun d hd => ?_
    have hsame := h.entries rfl d hd fun outer houter => by
      have hhas := houter.hasFile
      rw [hnone outer houter.isAround] at hhas
      cases hhas
    rw [hnone d hd] at hsame
    exact Option.not_isSome_iff_eq_none.1 (by simp [hsame])

theorem SeesSame.read_eq {p : Path} (h : SeesSame around path t)
    (hchosen : Chosen around path (some p)) :
    t.read around.directory p = around.tree.read around.directory p := by
  have hnode : t.node around.directory p = around.tree.node around.directory p := by
    cases hchosen with
    | named _ => exact h.named p rfl
    | nearest houter => exact h.content rfl _ houter
  rw [Tree.read, Tree.read, hnode]

theorem SeesSame.load_eq (h : SeesSame around path t) (o : Overrides) :
    load { around with tree := t } path o = load around path o := by
  cases hchosen : chosenFile around path with
  | error f =>
    obtain ⟨p, hpath, hmissing, rfl⟩ := chosenFile_eq_error_iff.1 hchosen
    have hmissing' : t.exists? around.directory p = false := by
      rw [Tree.exists?, h.named p hpath]
      exact hmissing
    have hload : Loads { around with tree := t } path o (.error (.notFound p)) :=
      .notFound hpath hmissing'
    rw [(Loads.notFound hpath hmissing).load_eq, hload.load_eq]
  | ok file =>
    have hchosen := chosenFile_eq_ok_iff.1 hchosen
    cases file with
    | none =>
      rw [load_of_chosen hchosen, load_of_chosen (h.chosen hchosen)]
    | some p =>
      rw [load_of_file hchosen, load_of_file (h.chosen hchosen), ofFile, ofFile, h.read_eq hchosen]

/-- Loading settings comes to what the first step that fails says, or else to the settings that
hold with the file that counts, and no other file matters. -/
theorem load_outcome (around : Surroundings) (path : Option Path) (o : Overrides) :
    (∀ r, load around path o = r ↔ Loads around path o r) ∧
      ∀ t, SeesSame around path t → load { around with tree := t } path o = load around path o := by
  refine ⟨fun r => ⟨?_, Loads.load_eq⟩, fun t h => h.load_eq o⟩
  rintro rfl
  exact loads_load around path o

/-- The settings of the nearest file hold; a timeout that it forbids itself is hidden by the one for
this run, and a file further up does not matter. -/
theorem load_outcome_nearest :
    let file (s : String) : Node := .file s.toUTF8
    let near : Place × Node := (["a".toList, fileName], file "[diagrams]\ntimeout_secs = 0\n")
    let tree : Tree := ⟨[near, ([fileName], file "x"), (["a".toList], .directory)]⟩
    let around : Surroundings := ⟨tree, ["a".toList], fun _ => none⟩
    let o : Overrides := { Overrides.none with timeoutSecs := some 5 }
    let outer : Tree := ⟨[near, (["a".toList], .directory)]⟩
    SeesSame around none outer ∧
      Loads around none o
        (.ok ({ standard with timeoutSecs := some 5 }, some "/a/mdxview.toml".toList)) ∧
      load { around with tree := outer } none o = load around none o := by
  intro file near tree around o outer
  have hload : load around none o =
      .ok ({ standard with timeoutSecs := some 5 }, some "/a/mdxview.toml".toList) := by
    refine eq_ok_of_toOption_eq_some ?_
    decide +kernel
  have hnear : IsNearest tree ["a".toList] ["a".toList] :=
    ⟨List.prefix_rfl, by decide +kernel, fun d hd hlt => absurd hd.length_le (Nat.not_le.2 hlt)⟩
  have heq (d : Place) (hd : d <+: ["a".toList]) (hle : 1 ≤ d.length) : d = ["a".toList] :=
    hd.eq_of_length (Nat.le_antisymm hd.length_le hle)
  have hsame : SeesSame around none outer :=
    { named := nofun
      entries := fun _ d hd hle => by
        rw [heq d hd (hle _ hnear)]
        rfl
      content := fun _ d hd => by
        rw [heq d hd.isAround (hnear.length_eq hd).le]
        rfl }
  exact ⟨hsame, ((load_outcome around none o).1 _).1 hload,
    (load_outcome around none o).2 outer hsame⟩

end DocPreview.Settings
