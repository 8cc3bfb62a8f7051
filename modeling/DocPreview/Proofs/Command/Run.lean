import DocPreview.Command.Run
import DocPreview.Proofs.Files.Tree

/-!
# What a command leaves

A command stops at the first thing that goes wrong: its settings, its document, building the code
when it is asked for code, or writing what it gives. A diagram that fails stops no command, and a
document that cannot be built stops only the command that is asked for its code. Whatever goes
wrong, nothing is printed and the files stay as they are. Else what the command gives is printed,
or it is what the file that it was to be written to holds, and no other file is changed.

## Main definitions

* `Reads`: the settings and the document of a command.
* `Gives`, `Stops`: what a command gives, and what stops it before it gives anything.
* `Leaves`: what a command leaves, by how it ends.
* `Fails`: the failures of a command.

## Main results

* `run_eq_iff`: a command leaves what `Leaves` says.
* `run_effect`: a command that fails changes nothing, and one that succeeds changes one file or
  none.
-/

namespace DocPreview.Command

open Diagram Artifact

/-- What renders diagrams under some settings. -/
abbrev rendererFor (transport : Transport) (s : Settings) : Renderer :=
  (Server.ofUrl s.serverUrl).render transport

/-- The settings and the document that a command reads. -/
structure Reads (around : Surroundings) (i : Invocation) (s : Settings) (text : Text) : Prop where
  settings : ∃ file, Settings.load around i.settingsFile i.overrides = .ok (s, file)
  document : around.tree.read around.directory i.document = .ok text

/-- What a command gives for what it reads. -/
inductive Gives (transport : Transport) (around : Surroundings) (i : Invocation) : Result → Prop
  | render {s : Settings} {text : Text} {p : Preview} (hjob : i.job = .render)
      (hreads : Reads around i s text)
      (hp : p = Preview.render (rendererFor transport s) (.ofSettings s) text) :
      Gives transport around i
        ⟨p.failed.map diagramWarning ++ p.failure.toList.map buildWarning, p.message⟩
  | compile {s : Settings} {text code : Text} (hjob : i.job = .compile)
      (hreads : Reads around i s text) (hcode : Preview.codeOf (.ofSettings s) text = .ok code) :
      Gives transport around i ⟨[], code⟩
  | diagrams {s : Settings} {text : Text} {d : Substitution} (hjob : i.job = .diagrams)
      (hreads : Reads around i s text)
      (hd : d = Preview.diagrams (rendererFor transport s) (.ofSettings s) text) :
      Gives transport around i ⟨d.failed.map diagramWarning ++ [diagramCount d], d.text⟩

/-- What stops a command before it gives anything. -/
inductive Stops (around : Surroundings) (i : Invocation) : Failure → Prop
  | settings {f : Settings.Failure}
      (hload : Settings.load around i.settingsFile i.overrides = .error f) :
      Stops around i (.settings f)
  | document {s : Settings × Option Files.Path} {f : Files.Failure}
      (hload : Settings.load around i.settingsFile i.overrides = .ok s)
      (hread : around.tree.read around.directory i.document = .error f) : Stops around i (.file f)
  | build {s : Settings} {text : Text} {f : BuildFailure} (hjob : i.job = .compile)
      (hreads : Reads around i s text)
      (hcode : Preview.codeOf (.ofSettings s) text = .error f) : Stops around i (.build f)

variable {transport : Transport} {around : Surroundings} {i : Invocation} {r : Result}
  {f : Failure} {o : Outcome}

/-! ### What is asked for -/

theorem answer_of_reads {s : Settings} {text : Text} (h : Reads around i s text) :
    answer transport around i = work (rendererFor transport s) (.ofSettings s) i.job text := by
  obtain ⟨⟨file, hload⟩, hread⟩ := h
  rw [answer, hload, hread]
  rfl

/-- A command reads its settings and its document, or it is stopped. -/
theorem reads_or_stops (around : Surroundings) (i : Invocation) :
    (∃ s text, Reads around i s text) ∨ ∃ f, Stops around i f := by
  cases hload : Settings.load around i.settingsFile i.overrides with
  | error f => exact Or.inr ⟨_, .settings hload⟩
  | ok s =>
    cases hread : around.tree.read around.directory i.document with
    | error f => exact Or.inr ⟨_, .document hload hread⟩
    | ok text => exact Or.inl ⟨s.1, text, ⟨s.2, hload⟩, hread⟩

theorem Gives.answer_eq (h : Gives transport around i r) : answer transport around i = .ok r := by
  cases h with
  | render hjob hreads hp =>
    rw [answer_of_reads hreads, hjob, hp]
    rfl
  | compile hjob hreads hcode =>
    rw [answer_of_reads hreads, hjob, work, hcode]
    rfl
  | diagrams hjob hreads hd =>
    rw [answer_of_reads hreads, hjob, hd]
    rfl

theorem Stops.answer_eq (transport : Transport) (h : Stops around i f) :
    answer transport around i = .error f := by
  cases h with
  | settings hload =>
    rw [answer, hload]
    rfl
  | document hload hread =>
    rw [answer, hload, hread]
    rfl
  | build hjob hreads hcode =>
    rw [answer_of_reads hreads, hjob, work, hcode]
    rfl

/-- A command gives something, or it is stopped. -/
theorem gives_or_stops (transport : Transport) (around : Surroundings) (i : Invocation) :
    (∃ r, Gives transport around i r) ∨ ∃ f, Stops around i f := by
  rcases reads_or_stops around i with ⟨s, text, hreads⟩ | hstops
  · cases hjob : i.job with
    | render => exact Or.inl ⟨_, .render hjob hreads rfl⟩
    | diagrams => exact Or.inl ⟨_, .diagrams hjob hreads rfl⟩
    | compile =>
      cases hcode : Preview.codeOf (.ofSettings s) text with
      | ok code => exact Or.inl ⟨_, .compile hjob hreads hcode⟩
      | error f => exact Or.inr ⟨_, .build hjob hreads hcode⟩
  · exact Or.inr hstops

/-! ### What is left -/

/-- What a command leaves, by how it ends. -/
inductive Leaves (transport : Transport) (around : Surroundings) (i : Invocation) : Outcome → Prop
  | stopped {f : Failure} (hstops : Stops around i f) :
      Leaves transport around i ⟨[], [], some f, around.tree⟩
  /-- What it gives cannot be written. -/
  | unwritten {r : Result} {p : Files.Path} {f : Files.Failure}
      (hgives : Gives transport around i r) (houtput : i.output = some p)
      (hwrite : around.tree.write around.directory p r.text = .error f) :
      Leaves transport around i ⟨[], r.notes, some (.file f), around.tree⟩
  | written {r : Result} {p : Files.Path} {tree : Files.Tree}
      (hgives : Gives transport around i r) (houtput : i.output = some p)
      (hwrite : around.tree.write around.directory p r.text = .ok tree) :
      Leaves transport around i ⟨[], r.notes, none, tree⟩
  | printed {r : Result} (hgives : Gives transport around i r) (houtput : i.output = none) :
      Leaves transport around i ⟨endLine r.text, r.notes, none, around.tree⟩

theorem Leaves.run_eq (h : Leaves transport around i o) : run transport around i = o := by
  cases h with
  | stopped hstops => rw [run, hstops.answer_eq]
  | unwritten hgives houtput hwrite =>
    rw [run, hgives.answer_eq]
    simp only [deliver, houtput, hwrite]
  | written hgives houtput hwrite =>
    rw [run, hgives.answer_eq]
    simp only [deliver, houtput, hwrite]
  | printed hgives houtput =>
    rw [run, hgives.answer_eq]
    simp only [deliver, houtput]

/-- A command ends in one of the four ways. -/
theorem exists_leaves (transport : Transport) (around : Surroundings) (i : Invocation) :
    ∃ o, Leaves transport around i o := by
  rcases gives_or_stops transport around i with ⟨r, hgives⟩ | ⟨f, hstops⟩
  · cases houtput : i.output with
    | none => exact ⟨_, .printed hgives houtput⟩
    | some p =>
      cases hwrite : around.tree.write around.directory p r.text with
      | error f => exact ⟨_, .unwritten hgives houtput hwrite⟩
      | ok tree => exact ⟨_, .written hgives houtput hwrite⟩
  · exact ⟨_, .stopped hstops⟩

theorem leaves_run (transport : Transport) (around : Surroundings) (i : Invocation) :
    Leaves transport around i (run transport around i) := by
  obtain ⟨o, ho⟩ := exists_leaves transport around i
  rwa [ho.run_eq]

/-- A command leaves what its end says, and nothing else. -/
theorem run_eq_iff : run transport around i = o ↔ Leaves transport around i o := by
  constructor
  · rintro rfl
    exact leaves_run transport around i
  · exact Leaves.run_eq

/-! ### What is changed -/

/-- The failures of a command: what stops it, and what keeps it from writing what it gives. -/
inductive Fails (transport : Transport) (around : Surroundings) (i : Invocation) : Failure → Prop
  | stopped {f : Failure} (hstops : Stops around i f) : Fails transport around i f
  | unwritten {r : Result} {p : Files.Path} {f : Files.Failure}
      (hgives : Gives transport around i r) (houtput : i.output = some p)
      (hwrite : around.tree.write around.directory p r.text = .error f) :
      Fails transport around i (.file f)

theorem failure_run_eq_some_iff :
    (run transport around i).failure = some f ↔ Fails transport around i f := by
  constructor
  · intro h
    generalize ho : run transport around i = o at h
    cases run_eq_iff.1 ho with
    | stopped hstops =>
      cases h
      exact .stopped hstops
    | unwritten hgives houtput hwrite =>
      cases h
      exact .unwritten hgives houtput hwrite
    | written hgives houtput hwrite => cases h
    | printed hgives houtput => cases h
  · intro h
    cases h with
    | stopped hstops => rw [(Leaves.stopped hstops).run_eq]
    | unwritten hgives houtput hwrite => rw [(Leaves.unwritten hgives houtput hwrite).run_eq]

/-- A command that fails prints nothing and keeps all files. One that succeeds gives a result: it
prints it with a line break at its end and keeps all files, or it prints nothing and changes the
file at its output path, and no other, to the result. -/
theorem run_effect (transport : Transport) (around : Surroundings) (i : Invocation) :
    let o := run transport around i
    (∀ f, o.failure = some f ↔ Fails transport around i f) ∧
    match o.failure with
    | some _ => o.output = [] ∧ o.tree = around.tree
    | none => ∃ r, Gives transport around i r ∧
      match i.output with
      | none =>
        o.output = (if r.text.getLast? = some '\n' then r.text else r.text ++ ['\n']) ∧
          o.tree = around.tree
      | some p =>
        o.output = [] ∧ o.tree.read around.directory p = .ok r.text ∧
          ∃ place, around.tree.follow around.directory p = .ok place ∧
            around.tree.ChangedAt o.tree place (String.ofList r.text).toUTF8 := by
  intro o
  refine ⟨fun f => failure_run_eq_some_iff, ?_⟩
  have hleaves : Leaves transport around i o := leaves_run transport around i
  clear_value o
  cases hleaves with
  | stopped hstops => exact ⟨rfl, rfl⟩
  | unwritten hgives houtput hwrite => exact ⟨rfl, rfl⟩
  | @written r p tree hgives houtput hwrite =>
    refine ⟨r, hgives, ?_⟩
    rw [houtput]
    exact ⟨rfl, Files.Tree.read_of_write hwrite, Files.Tree.changedAt_of_write hwrite⟩
  | @printed r hgives houtput =>
    refine ⟨r, hgives, ?_⟩
    rw [houtput]
    exact ⟨rfl, rfl⟩

end DocPreview.Command
