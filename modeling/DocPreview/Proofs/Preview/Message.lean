import DocPreview.Preview.Basic
import DocPreview.Proofs.Artifact.Report
import DocPreview.Proofs.Text.JsonValue

/-!
# What the host is sent

The host parses a message as JSON and takes from it the code to run and the diagrams to show. What
it finds is what rendering the document gave: texts of the document stand in the message as strings,
so that none of them is taken for a part of the message. If building failed, the code is a report,
in which the message of the failure is a string once more, and no diagrams are sent.

## Main definitions

* `Preview.Update`: what the host takes from a message.
* `Json.member?`, `Update.ofJson?`: how it finds it.

## Main results

* `read?_message`: a message is read as the update of its preview.
* `message_render`: what the host is sent for a document.
-/

namespace DocPreview

open Text Artifact Diagram

/-- The member of an object with a name. -/
def Json.member? (name : String) : Json → Option Json
  | .object members => members.lookup name
  | _ => none

namespace Preview

variable {p : Preview}

/-- What the host takes from a message. -/
structure Update where
  /-- The code to run. -/
  code : Text
  /-- The diagrams to show, if any are sent. -/
  diagrams : Option (List Rendered)
  deriving Repr, DecidableEq

/-- The diagram that an item stands for. -/
def readDiagram? (v : Json) : Option Rendered :=
  match v.member? "id", v.member? "svg" with
  | some (.string id), some (.string svg) => some ⟨id, svg⟩
  | _, _ => none

/-- The update that a value stands for. -/
def Update.ofJson? (v : Json) : Option Update :=
  match v.member? "type", v.member? "code", v.member? "diagrams" with
  | some (.string "update"), some (.string code), none => some ⟨code.toList, none⟩
  | some (.string "update"), some (.string code), some (.array items) =>
    (items.mapM readDiagram?).map fun diagrams => ⟨code.toList, some diagrams⟩
  | _, _, _ => none

/-- The update that a preview is sent as. -/
def update (p : Preview) : Update :=
  ⟨p.code, match p.failure with
    | none => some p.rendered
    | some _ => none⟩

theorem readDiagram?_diagramJson (d : Rendered) : readDiagram? (diagramJson d) = some d := rfl

theorem mapM_readDiagram? (ds : List Rendered) :
    (ds.map diagramJson).mapM readDiagram? = some ds := by
  induction ds with
  | nil => rfl
  | cons d ds ih => rw [List.map_cons, List.mapM_cons, ih, readDiagram?_diagramJson]; rfl

theorem itemsWellFormed_diagrams (ds : List Rendered) :
    Json.ItemsWellFormed (ds.map diagramJson) := by
  induction ds with
  | nil => trivial
  | cons d ds ih =>
    refine ⟨?_, ih⟩
    simp only [diagramJson, Json.IsWellFormed, Json.MembersWellFormed, and_self]

theorem isWellFormed_json (p : Preview) : p.json.IsWellFormed := by
  have hdiagrams := itemsWellFormed_diagrams p.rendered
  rw [json]
  cases p.failure <;>
    simp [Json.IsWellFormed, Json.MembersWellFormed, hdiagrams]

/-- A message is read as the value that was written. -/
theorem read?_message (p : Preview) : Json.read? p.message = some p.json :=
  Json.read?_compact p.isWellFormed_json

/-- No two members of a message have one name. -/
theorem exists_members (p : Preview) : ∃ members, p.json = .object members ∧
    (members.map Prod.fst).Nodup ∧ ("diagrams" ∈ members.map Prod.fst ↔ p.failure = none) := by
  rw [json]
  cases p.failure with
  | none => exact ⟨_, rfl, by simp, by simp⟩
  | some e => exact ⟨_, rfl, by simp, by simp⟩

theorem ofJson?_json (p : Preview) : Update.ofJson? p.json = some p.update := by
  rw [json, update]
  cases p.failure with
  | none =>
    show ((p.rendered.map diagramJson).mapM readDiagram?).map _ = _
    rw [mapM_readDiagram?, String.toList_ofList]
    rfl
  | some e =>
    show some (Update.mk (String.ofList p.code).toList none) = _
    rw [String.toList_ofList]

/-- A failed build is reported by its message. -/
theorem code_render_of_failure {renderer : Renderer} {o : Options} {text : Text} {e : BuildFailure}
    (h : (render renderer o text).failure = some e) :
    (render renderer o text).code = report e.message.toList := by
  simp only [render, buildOrReport] at h ⊢
  split at h
  · cases h
  · cases h
    rfl

/-- The host is sent the code of the preview, with the diagrams that were rendered if building did
not fail. If it failed, the code is a call of `console.error` and nothing else, whose argument is a
literal for the message of the failure. -/
theorem message_render (renderer : Renderer) (o : Options) (text : Text) :
    let p := render renderer o text
    (∃ members, Json.read? p.message = some (.object members) ∧ (members.map Prod.fst).Nodup ∧
      ("diagrams" ∈ members.map Prod.fst ↔ p.failure = none) ∧
      Update.ofJson? (.object members) = some ⟨p.code, match p.failure with
        | none => some (diagrams renderer o text).rendered
        | some _ => none⟩) ∧
    ∀ e, p.failure = some e → ∃ literal,
      p.code = "console.error(".toList ++ literal ++ ");".toList ∧
      Json.IsLiteralOf ("MDX Error: ".toList ++ e.message.toList) literal ∧
      ('\n' ∉ literal ∧ '\r' ∉ literal) ∧
      ∃ span callSpan calleeSpan objectSpan nameSpan argumentSpan,
        (Script.Module.parse p.code).map Script.Module.body = .ok [.exprStmt span (.call callSpan
          (.member calleeSpan (.ident objectSpan "console") (.ident nameSpan "error") false)
          [.string argumentSpan (String.ofList ("MDX Error: ".toList ++ e.message.toList))
            (some (String.ofList literal))] false)] := by
  intro p
  refine ⟨?_, fun e he => ?_⟩
  · obtain ⟨members, hjson, hnodup, hdiagrams⟩ := exists_members p
    refine ⟨members, ?_, hnodup, hdiagrams, ?_⟩
    · rw [read?_message, hjson]
    · rw [← hjson, ofJson?_json]
      rfl
  · rw [code_render_of_failure he]
    have hliteral := Json.isLiteralOf_quote (reported e.message.toList)
    exact ⟨_, rfl, hliteral, hliteral.no_lineBreak, parse_report e.message.toList⟩

end Preview

end DocPreview
