import DocPreview.Proofs.Command.Run
import DocPreview.Proofs.Preview.Message
import DocPreview.Proofs.Settings.Load

/-!
# The commands agree

A preview can be made in two steps: one command replaces the diagrams of a document, and another
one compiles what it writes. With the same flags this comes to the same as rendering the document:
the code is the same, both fail for the same documents and with the same message, and the warnings
for diagrams are the same. Each command changes the settings in its own way, but none of these
changes matters to the steps that the commands share.

## Main definitions

* `received`: what a command leaves where it was to be written.
* `Sends`: commands that leave a message with a given update.
* `CanWrite`: commands that can write to their output.
* `SameFlags`, `Chained`: commands with the same flags, of which the second one reads what the first
  one leaves.

## Main results

* `SameFlags.settings_eq`: the settings that the commands share are the same.
* `commands_agree`: rendering a document is replacing its diagrams and compiling what is left.
-/

namespace DocPreview.Command

open Text Diagram Artifact Files

variable {transport : Transport} {around around' : Surroundings} {i : Invocation} {r : Result}
  {f : Failure} {o : Outcome}

/-! ### What is received -/

/-- What is found after a command where its result was to be written. -/
def received (around : Surroundings) (i : Invocation) (o : Outcome) : Option Text :=
  match o.failure, i.output with
  | some _, _ => none
  | none, none => some o.output
  | none, some p => (o.tree.read around.directory p).toOption

/-- A result in the form in which it is received. -/
def Invocation.form (i : Invocation) (s : Text) : Text :=
  match i.output with
  | none => endLine s
  | some _ => s

/-- The output of a command can be written to, if it is a file. -/
def CanWrite (around : Surroundings) (i : Invocation) : Prop :=
  ∀ p, i.output = some p → ∃ place, around.tree.follow around.directory p = .ok place ∧
    Path.endsInSlash p = false ∧ around.tree.find? place ≠ some .directory

/-- The update that a message stands for. -/
def sent? (message : Text) : Option Preview.Update :=
  (Json.read? message).bind Preview.Update.ofJson?

/-- A command succeeds with a message that stands for an update. -/
def Sends (transport : Transport) (around : Surroundings) (i : Invocation) (u : Preview.Update) :
    Prop :=
  ∃ message, received around i (run transport around i) = some message ∧ sent? message = some u

/-- A command that gives something and can write it succeeds. -/
theorem Gives.run_of_canWrite (h : Gives transport around i r) (hwrite : CanWrite around i) :
    received around i (run transport around i) = some (i.form r.text) ∧
      (run transport around i).failure = none ∧ (run transport around i).notes = r.notes := by
  cases houtput : i.output with
  | none =>
    rw [(Leaves.printed h houtput).run_eq, received, Invocation.form, houtput]
    exact ⟨rfl, rfl, rfl⟩
  | some p =>
    obtain ⟨place, hfollow, hslash, hplace⟩ := hwrite p houtput
    have hwritten : around.tree.write around.directory p r.text =
        .ok (around.tree.put place (.file (String.ofList r.text).toUTF8)) :=
      Tree.write_eq_ok_iff.2 ⟨place, hfollow, hslash, hplace, rfl⟩
    rw [(Leaves.written h houtput hwritten).run_eq, received, Invocation.form, houtput]
    refine ⟨?_, rfl, rfl⟩
    simp only [Tree.read_of_write hwritten]
    rfl

/-- A command of which something is received gives it. -/
theorem exists_gives_of_received {s : Text}
    (h : received around i (run transport around i) = some s) :
    ∃ r, Gives transport around i r ∧ s = i.form r.text ∧
      (run transport around i).notes = r.notes := by
  generalize ho : run transport around i = o at h
  cases run_eq_iff.1 ho with
  | stopped hstops => cases h
  | unwritten hgives houtput hwrite => cases h
  | written hgives houtput hwrite =>
    simp only [received, houtput, Tree.read_of_write hwrite] at h
    exact ⟨_, hgives, by rw [Invocation.form, houtput, ← Option.some.inj h], rfl⟩
  | printed hgives houtput =>
    simp only [received, houtput] at h
    exact ⟨_, hgives, by rw [Invocation.form, houtput, ← Option.some.inj h], rfl⟩

/-- A message is read as the update of its preview, also if a line break follows it. -/
theorem sent?_form_message (i : Invocation) (p : Preview) :
    sent? (i.form p.message) = some p.update := by
  have hread : Json.read? (i.form p.message) = some p.json := by
    rw [Invocation.form]
    split
    · rw [endLine]
      split_ifs
      · exact Preview.read?_message p
      · exact Json.read?_compact_append p.isWellFormed_json (by simp [Json.isSpace])
    · exact Preview.read?_message p
  rw [sent?, hread]
  exact Preview.ofJson?_json p

/-- Executable code ends in a line break, so that it is received as it is. -/
theorem form_of_build {isHighlighting : Bool} {text code : Text}
    (h : build isHighlighting text = .ok code) (i : Invocation) : i.form code = code := by
  obtain ⟨artifact, -, hassemble⟩ := exists_of_bind_eq_ok h
  obtain ⟨lowered, -, hfinish⟩ := exists_of_bind_eq_ok hassemble
  have hcode := eq_ok_of_mapError_eq_ok hfinish
  rw [finish] at hcode
  split_ifs at hcode
  obtain rfl := Except.ok.inj hcode
  rw [Invocation.form]
  split
  · rw [endLine, if_pos List.getLast?_concat]
  · rfl

/-! ### The settings of the commands -/

/-- Settings that are loaded with different choices for one run come from the same settings. -/
theorem exists_base_of_load (around : Surroundings) (path : Option Path) :
    ∃ base : Settings, ∀ o s, Settings.load around path o = .ok s → s.1 = base.override o := by
  by_cases hfound : ∃ g file, Settings.Found around path g file
  · obtain ⟨g, file, hfound⟩ := hfound
    refine ⟨Settings.standard.override g, fun o s h => ?_⟩
    rw [Settings.load_of_found hfound, Settings.validated] at h
    split at h
    · cases h
    · rw [← Except.ok.inj h]
  · refine ⟨Settings.standard, fun o s h => ?_⟩
    have hloads := Settings.loads_load around path o
    rw [h] at hloads
    cases hloads with
    | loaded hg => exact absurd ⟨_, _, hg⟩ hfound

/-- Flags for rendering, replacing diagrams and compiling that do not differ in what more than one
of the commands uses. -/
structure SameFlags (gr gd gc : Given) : Prop where
  settingsFile_diagrams : gd.value? .settingsFile = gr.value? .settingsFile
  settingsFile_compile : gc.value? .settingsFile = gr.value? .settingsFile
  serverUrl : gd.value? .serverUrl = gr.value? .serverUrl
  noHighlight : gc.has .noHighlight = gr.has .noHighlight

variable {g gr gd gc : Given} {document text text' : Text} {url : Option Text}

/-- The settings that a command loads with some flags. -/
def loadFor (around : Surroundings) (j : Job) (g : Given) (url : Option Text) :
    Except Settings.Failure (Settings × Option Path) :=
  let i := Invocation.ofGiven j g [] url
  Settings.load around i.settingsFile i.overrides

theorem reads_of_loadFor {j : Job} {s : Settings × Option Path}
    (hload : loadFor around j g url = .ok s)
    (hread : around.tree.read around.directory document = .ok text) :
    Reads around (.ofGiven j g document url) s.1 text := ⟨⟨s.2, hload⟩, hread⟩

/-- What each command changes in the settings does not matter to what the commands share. -/
theorem SameFlags.settings_eq (h : SameFlags gr gd gc) {s₁ s₂ s₃ : Settings × Option Path}
    (hrender : loadFor around .render gr url = .ok s₁)
    (hdiagrams : loadFor around .diagrams gd url = .ok s₂)
    (hcompile : loadFor around .compile gc url = .ok s₃) :
    s₂.1.isRendering = true ∧ s₂.1.serverUrl = s₁.1.serverUrl ∧
      s₃.1.isHighlighting = s₁.1.isHighlighting := by
  obtain ⟨base, hbase⟩ := exists_base_of_load around (gr.value? .settingsFile)
  simp only [loadFor, Invocation.ofGiven, h.settingsFile_diagrams, h.settingsFile_compile,
    h.serverUrl, h.noHighlight] at hrender hdiagrams hcompile
  rw [hbase _ _ hrender, hbase _ _ hdiagrams, hbase _ _ hcompile]
  exact ⟨rfl, rfl, rfl⟩

/-! ### Both ways -/

section Preview

variable {renderer : Renderer} {options : Preview.Options}

/-- The preview of a document whose text without diagrams can be built. -/
theorem render_of_build_eq_ok {code : Text}
    (h : build options.isHighlighting (Preview.diagrams renderer options text).text = .ok code) :
    (Preview.render renderer options text).failure = none ∧
      (Preview.render renderer options text).update =
        ⟨code, some (Preview.diagrams renderer options text).rendered⟩ := by
  simp only [Preview.update, Preview.render, buildOrReport, h, and_self]

/-- The preview of a document whose text without diagrams cannot be built. -/
theorem render_of_build_eq_error {f : BuildFailure}
    (h : build options.isHighlighting (Preview.diagrams renderer options text).text = .error f) :
    (Preview.render renderer options text).failure = some f ∧
      (Preview.render renderer options text).update = ⟨report f.message.toList, none⟩ := by
  simp only [Preview.update, Preview.render, buildOrReport, h, and_self]

end Preview

/-- The commands are run with the same flags, all of them load their settings, with which diagrams
are rendered, and what is compiled is the document that is left without its diagrams. -/
structure Chained (transport : Transport) (around around' : Surroundings) (gr gd gc : Given)
    (document : Text) (url : Option Text) (text' : Text) : Prop where
  flags : SameFlags gr gd gc
  loads_render : ∃ s, loadFor around .render gr url = .ok s ∧ s.1.isRendering = true
  loads_diagrams : ∃ s, loadFor around .diagrams gd url = .ok s
  /-- Highlighting is set for the document that is left as it is for the document. -/
  loads_compile : ∃ s s', loadFor around .compile gc url = .ok s ∧
    loadFor around' .compile gc url = .ok s' ∧ s'.1.isHighlighting = s.1.isHighlighting
  /-- The document that is left is written to a file. -/
  output : (gd.value? .output).isSome
  left : let i := Invocation.ofGiven .diagrams gd document url
    received around i (run transport around i) = some text'
  read : around'.tree.read around'.directory document = .ok text'

/-- The document from which the commands start, and what rendering and compiling use. -/
theorem Chained.exists_reads (h : Chained transport around around' gr gd gc document url text') :
    ∃ (text : Text) (s s' : Settings) (d : Substitution),
      Reads around (.ofGiven .render gr document url) s text ∧
      Reads around' (.ofGiven .compile gc document url) s' text' ∧
      s'.isHighlighting = s.isHighlighting ∧
      d = Preview.diagrams (rendererFor transport s) (.ofSettings s) text ∧ d.text = text' ∧
      (run transport around (.ofGiven .diagrams gd document url)).notes =
        d.failed.map diagramWarning ++ [diagramCount d] := by
  obtain ⟨s₁, hrender, henabled⟩ := h.loads_render
  obtain ⟨s₂, hdiagrams⟩ := h.loads_diagrams
  obtain ⟨s₃, s', hcompile, hcompile', hsame⟩ := h.loads_compile
  obtain ⟨hrendering, hurl, hhighlighting⟩ := h.flags.settings_eq hrender hdiagrams hcompile
  obtain ⟨r, hgives, htext, hnotes⟩ := exists_gives_of_received h.left
  obtain ⟨p, hp⟩ := Option.isSome_iff_exists.1 h.output
  have hp : (Invocation.ofGiven .diagrams gd document url).output = some p := hp
  rw [Invocation.form, hp] at htext
  cases hgives with
  | render hjob => cases hjob
  | compile hjob => cases hjob
  | @diagrams s text d hjob hreads hd =>
    obtain ⟨⟨file, hload⟩, hread⟩ := hreads
    obtain rfl : s₂ = (s, file) := Except.ok.inj (hdiagrams.symm.trans hload)
    refine ⟨text, s₁.1, s'.1, d, reads_of_loadFor hrender hread, reads_of_loadFor hcompile' h.read,
      hsame.trans hhighlighting, ?_, htext.symm, hnotes⟩
    have hrendering : s.isRendering = true := hrendering
    have hurl : s.serverUrl = s₁.1.serverUrl := hurl
    rw [hd, Preview.diagrams, Preview.diagrams, rendererFor, hurl]
    simp only [Preview.Options.ofSettings, hrendering, henabled]

/-- Rendering a document comes to the same as replacing its diagrams and compiling what is left:
the code is the same, and both fail in the same cases, with the same message. The diagrams that are
sent are those that are counted, and the warnings for the others are the same. -/
theorem commands_agree (h : Chained transport around around' gr gd gc document url text')
    (hrender : CanWrite around (.ofGiven .render gr document url))
    (hcompile : CanWrite around' (.ofGiven .compile gc document url)) :
    let render := Invocation.ofGiven .render gr document url
    let compile := Invocation.ofGiven .compile gc document url
    let diagrams := Invocation.ofGiven .diagrams gd document url
    let rendered := run transport around render
    let compiled := run transport around' compile
    let replaced := run transport around diagrams
    (∀ code, received around' compile compiled = some code ↔
      ∃ ds, Sends transport around render ⟨code, some ds⟩) ∧
    (∀ e : Text, (∃ f, compiled.failure = some (.build f) ∧ f.message.toList = e) ↔
      Sends transport around render ⟨report e, none⟩) ∧
    ∃ (failed : List Failed) (count : Nat),
      replaced.notes = failed.map diagramWarning ++ [(toString count ++ " diagram(s) rendered, " ++
        toString failed.length ++ " failed").toList] ∧
      rendered.notes = failed.map diagramWarning ++ compiled.failure.toList.map
        (fun f => ("Warning: compilation failed: " ++ f.message).toList) ∧
      ∀ code ds, Sends transport around render ⟨code, some ds⟩ → ds.length = count := by
  intro render compile diagrams rendered compiled replaced
  obtain ⟨text, s, s', d, hreads, hreads', hsame, rfl, rfl, hnotes⟩ := h.exists_reads
  have hgives : Gives transport around render _ := .render rfl hreads rfl
  obtain ⟨hmessage, -, hwarnings⟩ := hgives.run_of_canWrite hrender
  have hsends (u : Preview.Update) : Sends transport around render u ↔
      (Preview.render (rendererFor transport s) (.ofSettings s) text).update = u := by
    rw [Sends, hmessage]
    simp only [Option.some_inj, exists_eq_left', sent?_form_message]
  cases hbuild : build (Preview.Options.ofSettings s).isHighlighting
      (Preview.diagrams (rendererFor transport s) (.ofSettings s) text).text with
  | ok code =>
    obtain ⟨hnone, hupdate⟩ := render_of_build_eq_ok hbuild
    have hcompiles : Gives transport around' compile _ :=
      .compile rfl hreads' (by rw [Preview.codeOf, Preview.Options.ofSettings, hsame]; exact hbuild)
    obtain ⟨hreceived, hfailure, -⟩ := hcompiles.run_of_canWrite hcompile
    rw [form_of_build hbuild] at hreceived
    simp only [hsends, hupdate]
    refine ⟨fun code' => ?_, fun e => ?_, _, _, hnotes, ?_, ?_⟩
    · rw [hreceived]
      simp
    · rw [hfailure]
      simp
    · rw [hwarnings, hfailure, hnone]
      rfl
    · simp
  | error f =>
    obtain ⟨hsome, hupdate⟩ := render_of_build_eq_error hbuild
    have hstops : Stops around' compile (.build f) :=
      .build rfl hreads' (by rw [Preview.codeOf, Preview.Options.ofSettings, hsame]; exact hbuild)
    have hcompiled : compiled = ⟨[], [], some (.build f), around'.tree⟩ :=
      (Leaves.stopped hstops).run_eq
    simp only [hsends, hupdate]
    refine ⟨fun code' => ?_, fun e => ?_, _, _, hnotes, ?_, ?_⟩
    · rw [hcompiled]
      simp [received]
    · rw [hcompiled]
      simp [report_injective.eq_iff]
    · rw [hwarnings, hcompiled, hsome]
      rfl
    · simp

/-- The commands agree on a document with one diagram, which the server renders. -/
theorem commands_agree_mermaid :
    let tree (s : String) : Tree := ⟨[(["doc.mdx".toList], .file s.toUTF8)]⟩
    let around (s : String) : Surroundings := ⟨tree s, [], fun _ => none⟩
    let transport : Transport := fun _ _ => .ok ⟨200, .ok "<svg/>".toList⟩
    let before := around "```mermaid\nA\n```\n"
    let after := around "<div id=\"mermaid-0\"></div>\n"
    let gd : Given := ⟨[(.output, "out.mdx".toList)], none⟩
    let render := Invocation.ofGiven .render ⟨[], none⟩ "doc.mdx".toList none
    let compile := Invocation.ofGiven .compile ⟨[], none⟩ "doc.mdx".toList none
    Chained transport before after ⟨[], none⟩ gd ⟨[], none⟩ "doc.mdx".toList none
        "<div id=\"mermaid-0\"></div>\n".toList ∧
      CanWrite before render ∧ CanWrite after compile ∧
      ∀ code, received after compile (run transport after compile) = some code ↔
        ∃ ds, Sends transport before render ⟨code, some ds⟩ := by
  intro tree around transport before after gd render compile
  have hrender : loadFor before .render ⟨[], none⟩ none = .ok (Settings.standard, none) :=
    eq_ok_of_toOption_eq_some (by decide +kernel)
  have hdiagrams : loadFor before .diagrams gd none = .ok (Settings.standard, none) :=
    eq_ok_of_toOption_eq_some (by decide +kernel)
  have hcompile : loadFor before .compile ⟨[], none⟩ none =
      .ok ({ Settings.standard with isRendering := false }, none) :=
    eq_ok_of_toOption_eq_some (by decide +kernel)
  have hcompile' : loadFor after .compile ⟨[], none⟩ none =
      .ok ({ Settings.standard with isRendering := false }, none) :=
    eq_ok_of_toOption_eq_some (by decide +kernel)
  have hchained : Chained transport before after ⟨[], none⟩ gd ⟨[], none⟩ "doc.mdx".toList none
      "<div id=\"mermaid-0\"></div>\n".toList :=
    { flags := ⟨rfl, rfl, rfl, rfl⟩
      loads_render := ⟨_, hrender, rfl⟩
      loads_diagrams := ⟨_, hdiagrams⟩
      loads_compile := ⟨_, _, hcompile, hcompile', rfl⟩
      output := rfl
      left := by decide +kernel
      read := eq_ok_of_toOption_eq_some (by decide +kernel) }
  have hprinted (around : Surroundings) {i : Invocation} (h : i.output = none) :
      CanWrite around i := fun p hp => by rw [h] at hp; cases hp
  have hagree := commands_agree hchained (hprinted before rfl) (hprinted after rfl)
  exact ⟨hchained, hprinted before rfl, hprinted after rfl, hagree.1⟩

end DocPreview.Command
