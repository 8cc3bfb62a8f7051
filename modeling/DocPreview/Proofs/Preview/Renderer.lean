import DocPreview.Proofs.Artifact.Outcome
import DocPreview.Proofs.Artifact.Splicing
import DocPreview.Proofs.Diagram.Outline
import DocPreview.Proofs.Markup.Replacement

/-!
# Renderers that fail

What stands in the place of a diagram is read as markup again: an element if there is an image, and
otherwise a paragraph with the message of the failure. Both make one node, and the document around
them is read in the same way, where nothing is open in front of the diagram and a blank line follows
it. The backslashes at the end of the message have to come in pairs, since one that is left over
escapes the end tag behind it. Then a failure does not keep a document from being built.

## Main definitions

* `StandsFree`: diagrams around which markup is read on its own.
* `Failure.IsPaired`: messages that leave the tag behind them alone.

## Main results

* `convertedAlike_of_fragment`: a failure in the place of an image.
* `build_of_failures`: documents are built with failures as they are with images.
* `backslash_in_message_fails_build`: a message that keeps its document from being built.
-/

namespace DocPreview.Diagram

open Text Document Artifact

variable {render render' : Renderer} {d : Dialect} {b : Bool} {size i : Nat}
  {before text y : Text} {doc : Outline} {parts after : List Part} {count : Dialect → Nat}

/-! ### Messages -/

/-- A failure the message of which ends in no backslash that is left over when the backslashes at
its end are taken in pairs. Carriage returns are not shown. -/
def Failure.IsPaired (e : Failure) : Prop :=
  Markup.HasPairedEnd (e.message.toList.filter (· ≠ '\r'))

instance (e : Failure) : Decidable e.IsPaired :=
  inferInstanceAs (Decidable (Markup.HasPairedEnd _))

/-- What stands in the place of a diagram is one line of markup. -/
theorem isFragment_fragment (d e : Dialect) (i : Nat) {outcome : Except Failure String}
    (h : ∀ f, outcome = .error f → f.IsPaired) :
    Markup.IsFragment (fragment d (diagramId e i) outcome) := by
  cases outcome with
  | ok svg =>
    refine Markup.isFragment_placeholder fun c hc => ⟨?_, ?_⟩
    · rintro rfl
      exact notMem_diagramId (by decide) e i hc
    · by_contra hend
      rw [Bool.not_eq_false, isLineEnd, Bool.or_eq_true, decide_eq_true_eq, decide_eq_true_eq]
        at hend
      rcases hend with rfl | rfl
      · exact notMem_diagramId (by decide) e i hc
      · exact notMem_diagramId (by decide) e i hc
  | error f => exact Markup.isFragment_failureParagraph (h f rfl)

/-! ### Places of diagrams -/

/-- The text of a document behind a diagram, which is empty, a line break or begins with a blank
line. -/
def IsSetOff (y : Text) : Prop := y = [] ∨ y = ['\n'] ∨ ['\n', '\n'] <+: y

/-- A diagram that stands free in a document of `size` lines: nothing is open behind the text in
front of it, for those who prepare the document and for those who read it as Markdown. -/
structure StandsFree (b : Bool) (size : Nat) (before : Text) : Prop where
  outside : StandsOutside before
  front : (Markup.dropFrontMatter (Markup.Line.split (prepare b before))).2 = 0
  outline : ∀ o, Markup.outlineOf size (prepare b before) = .ok o → o.leaf = .none ∧
    ∀ f ∈ o.frames, f.container.IsMarked

theorem prepareBody_lf (show? : Option (Fence → Text)) (y : Text) :
    prepareBody show? ('\n' :: y) = '\n' :: prepareBody show? y :=
  prepareBody_line (s := []) List.not_mem_nil
    (not_opensFence_of_blank (List.forall_mem_singleton.2 rfl)) (fun _ => rfl) y

theorem IsSetOff.prepareBody {show? : Option (Fence → Text)} (h : IsSetOff y) :
    IsSetOff (prepareBody show? y) := by
  rcases h with rfl | rfl | ⟨z, rfl⟩
  · exact .inl rfl
  · exact .inr (.inl (prepareBody_lf show? []))
  · refine .inr (.inr ⟨Artifact.prepareBody show? z, ?_⟩)
    exact ((prepareBody_lf show? _).trans (congrArg _ (prepareBody_lf show? z))).symm

/-- A fragment is kept when a document is prepared. -/
theorem prepareBody_fragment {show? : Option (Fence → Text)} (d e : Dialect) (i : Nat)
    (outcome : Except Failure String) (hy : y = [] ∨ y.head? = some '\n') :
    Artifact.prepareBody show? (fragment d (diagramId e i) outcome ++ y) =
      fragment d (diagramId e i) outcome ++ Artifact.prepareBody show? y := by
  have helement := isElement_fragment d e i outcome
  have hlf := (isInert_fragment d e i outcome).lf_notMem
  have hhead : ∀ c, (fragment d (diagramId e i) outcome)[1]? = some c → c ≠ '!' := by
    cases outcome <;> simp [fragment, placeholder, failureParagraph_eq]
  generalize fragment d (diagramId e i) outcome = x at helement hlf hhead
  have hcomment : NoCommentBegins x := by
    refine noCommentBegins_of_suffixes fun v hv => ?_
    rcases helement.suffix_cases hv with heq | hslash
    · obtain ⟨a, _, rfl, -, -, hne, -⟩ := helement.shape
      obtain ⟨c, a, rfl⟩ := List.exists_cons_of_ne_nil hne
      obtain rfl : v = _ := (List.cons.inj heq).2
      exact ⟨by simp, by simpa using hhead c rfl⟩
    · refine ⟨?_, by rw [hslash]; decide⟩
      rintro rfl
      cases hslash
  have hfence (z : Text) : ¬ OpensFence (x ++ z) := by
    obtain ⟨a, _, rfl, -⟩ := helement.shape
    exact not_opensFence_append_cons (a := []) (by simp) (by decide) (by decide) _
  rcases hy with rfl | hy
  · have hnone : Artifact.prepareBody show? [] = [] := rfl
    rw [hnone, List.append_nil]
    exact prepareBody_last_line hlf (List.append_nil x ▸ hfence []) hcomment
  · obtain ⟨z, rfl⟩ := List.head?_eq_some_iff.1 hy
    rw [prepareBody_line hlf (hfence _) hcomment, prepareBody_lf]

/-- Documents that are converted alike and have as many lines and the same metadata. -/
structure PreparedAlike (b : Bool) (t t' : Text) : Prop where
  converted : Markup.ConvertedAlike (prepare b t) (prepare b t')
  lines : (Markup.bodyLines (prepare b t)).length = (Markup.bodyLines (prepare b t')).length
  metadata : metadataOf t = metadataOf t'

theorem PreparedAlike.refl (b : Bool) (t : Text) : PreparedAlike b t t := ⟨.refl _, rfl, rfl⟩

theorem PreparedAlike.trans {t t' t'' : Text} (h : PreparedAlike b t t')
    (h' : PreparedAlike b t' t'') : PreparedAlike b t t'' :=
  ⟨h.converted.trans h'.converted, h.lines.trans h'.lines, h.metadata.trans h'.metadata⟩

/-- What stands in the place of a diagram that stands free makes no difference to what its document
is converted to. -/
theorem preparedAlike_of_fragment (d e : Dialect) (i : Nat) {x x' : Except Failure String}
    (hx : ∀ f, x = .error f → f.IsPaired) (hx' : ∀ f, x' = .error f → f.IsPaired)
    (h : StandsFree b (Markup.bodyLines (prepare b
      (before ++ (fragment d (diagramId e i) x ++ y)))).length before) (hy : IsSetOff y) :
    PreparedAlike b (before ++ (fragment d (diagramId e i) x ++ y))
      (before ++ (fragment d (diagramId e i) x' ++ y)) := by
  have hhead (x : Except Failure String) :
      (fragment d (diagramId e i) x ++ y).head? = some '<' := by
    obtain ⟨a, _, ha, -⟩ := (isElement_fragment d e i x).shape
    rw [ha]
    rfl
  have hlf : y = [] ∨ y.head? = some '\n' := by
    rcases hy with rfl | rfl | ⟨z, rfl⟩
    · exact .inl rfl
    · exact .inr rfl
    · exact .inr rfl
  have hprepare (x : Except Failure String) :
      prepare b (before ++ (fragment d (diagramId e i) x ++ y)) =
        prepare b before ++ (fragment d (diagramId e i) x ++
          prepareBody (if b then some Highlight.element else none) y) := by
    rw [prepare, prepareWith_append h.outside (hhead x), prepareBody_fragment d e i x hlf, prepare]
  have hend : EndsLine (prepare b before) := endsLine_prepareWith h.outside
  obtain ⟨halike, hlines⟩ := Markup.convertedAlike_of_fragment hend h.front hy.prepareBody
    h.outline (by rw [hprepare x]) (isFragment_fragment d e i hx) (isFragment_fragment d e i hx')
  rw [← hprepare x, ← hprepare x'] at halike
  rw [← hprepare x'] at hlines
  exact ⟨halike, hlines.symm,
    by rw [metadataOf_append h.outside (hhead x), metadataOf_append h.outside (hhead x')]⟩

/-! ### Documents -/

/-- A renderer with an image for each diagram. -/
def images : Renderer := fun _ _ => .ok ""

/-- The number of the fences of each dialect up to some parts. -/
def countedAll (count : Dialect → Nat) (ps : List Part) : Dialect → Nat :=
  ps.foldl (fun count p => p.counted count) count

theorem shownFrom_append (render : Renderer) (done : List Dialect) (count : Dialect → Nat)
    (ps qs : List Part) : shownFrom render done count (ps ++ qs) =
      shownFrom render done count ps ++ shownFrom render done (countedAll count ps) qs := by
  induction ps generalizing count with
  | nil => rfl
  | cons p ps ih => rw [List.cons_append, shownFrom, shownFrom, ih, List.append_assoc]; rfl

/-- The text of a document in front of a diagram, with images in the place of those before. -/
def textBefore (ps : List Part) : Text := shownFrom images Dialect.all (fun _ => 0) ps

/-- A blank line follows, or nothing. -/
def EndsFree (qs : List Part) : Prop :=
  qs = [] ∨ qs = [.text ['\n']] ∨ ∃ t rest, qs = .text ('\n' :: '\n' :: t) :: rest

/-- Each diagram of a document stands free among the images. -/
def Outline.StandsFree (b : Bool) (doc : Outline) : Prop :=
  ∀ ps p qs, doc.parts = ps ++ p :: qs → p.dialect?.isSome →
    Diagram.StandsFree b (Markup.bodyLines (prepare b (doc.shown images Dialect.all))).length
      (textBefore ps) ∧ EndsFree qs

/-- The failures that a renderer reports for a document leave the tags behind them alone. -/
def Outline.FailsPaired (doc : Outline) (render : Renderer) : Prop :=
  ∀ f ∈ (substituteAll render doc.text).failed, f.failure.IsPaired

theorem isSetOff_shownFrom (h : EndsFree after) (render : Renderer) (count : Dialect → Nat) :
    IsSetOff (shownFrom render Dialect.all count after) := by
  rcases h with rfl | rfl | ⟨t, rest, rfl⟩
  · exact .inl rfl
  · exact .inr (.inl rfl)
  · exact .inr (.inr ⟨_, rfl⟩)

/-- Failures are reported for the diagrams of a document. -/
theorem isPaired_of_mem_parts (h : doc.FailsPaired render) {info code : Text}
    (hp : Part.fence info code ∈ doc.parts) (hinfo : info = d.label.toList) {e : Failure}
    (he : render d code = .error e) : e.IsPaired := by
  obtain ⟨c, hc, hsource⟩ : ∃ c ∈ blocks d doc.text, c.source = code := by
    have hsources : (blocks d (doc.shown render [])).map Block.source =
        doc.parts.filterMap (Part.source? d) := doc.map_source_blocks_shown List.not_mem_nil
    rw [doc.shown_nil] at hsources
    refine List.mem_map.1 (hsources ▸ List.mem_filterMap.2 ⟨_, hp, ?_⟩)
    rw [Part.source?, if_pos hinfo]
  have hfailed := (mem_failed_substitute_iff render d doc.text hc e).2 (by rw [hsource, he])
  refine h ⟨c.id, e⟩ ?_
  obtain ⟨-, -, hall⟩ := doc.substituteIn_outline render (show Dialect.all.Nodup by decide)
  rw [substituteAll, hall]
  exact List.mem_flatMap.2 ⟨d, by cases d <;> decide, hfailed⟩

/-- A document with images in the place of the diagrams in its first parts, and with what a renderer
gives in the place of the others. -/
def mixed (render : Renderer) (ps qs : List Part) : Text :=
  textBefore ps ++ shownFrom render Dialect.all (countedAll (fun _ => 0) ps) qs

theorem mixed_cons (render : Renderer) (ps : List Part) (p : Part) (qs : List Part) :
    mixed render ps (p :: qs) = textBefore ps ++
      (p.shown render Dialect.all (countedAll (fun _ => 0) ps) ++
        shownFrom render Dialect.all (countedAll (fun _ => 0) (ps ++ [p])) qs) := by
  rw [mixed, shownFrom, countedAll, countedAll, List.foldl_append]
  rfl

theorem mixed_append_singleton (render : Renderer) (ps : List Part) (p : Part) (qs : List Part) :
    mixed render (ps ++ [p]) qs = textBefore ps ++
      (p.shown images Dialect.all (countedAll (fun _ => 0) ps) ++
        shownFrom render Dialect.all (countedAll (fun _ => 0) (ps ++ [p])) qs) := by
  rw [mixed, textBefore, shownFrom_append, shownFrom, shownFrom, List.append_nil, List.append_assoc]
  rfl

/-- One diagram after the other, from the last one on, is replaced by what a renderer gives. -/
theorem preparedAlike_mixed (hfree : doc.StandsFree b) (hpaired : doc.FailsPaired render)
    (ps qs : List Part) (hparts : doc.parts = ps ++ qs) :
    PreparedAlike b (doc.shown images Dialect.all) (mixed render ps qs) := by
  induction qs generalizing ps with
  | nil =>
    rw [List.append_nil] at hparts
    have heq : mixed render ps [] = doc.shown images Dialect.all := by
      rw [mixed, shownFrom, List.append_nil, textBefore, Outline.shown, hparts]
    rw [heq]
    exact .refl b _
  | cons p qs ih =>
    have hnext := ih (ps ++ [p]) (by rw [hparts]; simp)
    refine hnext.trans ?_
    have hfree := hfree ps p qs hparts
    rw [hnext.lines] at hfree
    rw [mixed_append_singleton] at hfree ⊢
    rw [mixed_cons]
    cases p with
    | text s => exact .refl b _
    | fence info code =>
      rw [Part.shown] at hfree
      rw [Part.shown, Part.shown]
      cases hdialect : (Part.fence info code).dialect? with
      | none => exact .refl b _
      | some d =>
        have hinfo := Part.dialect?_fence_eq_some_iff.1 hdialect
        have hall : d ∈ Dialect.all := by cases d <;> decide
        rw [hdialect] at hfree
        simp only [if_pos hall] at hfree ⊢
        obtain ⟨hplace, hafter⟩ := hfree rfl
        refine preparedAlike_of_fragment d d _ (fun f hf => by cases hf) (fun f hf => ?_) hplace
          (isSetOff_shownFrom hafter render _)
        exact isPaired_of_mem_parts hpaired (hparts ▸ by simp) hinfo hf

/-- Two renderers leave documents that are prepared alike. -/
theorem preparedAlike_substituteAll (hfree : doc.StandsFree b) (hpaired : doc.FailsPaired render) :
    PreparedAlike b (doc.shown images Dialect.all) (substituteAll render doc.text).text := by
  rw [(substituteAll_outline render doc).1]
  exact preparedAlike_mixed hfree hpaired [] doc.parts rfl

/-- Failures do not keep a document from being built, if its diagrams stand free and no message ends
in a backslash that is left over: whatever two renderers fail on, the texts that they leave have the
same metadata, both are converted or none is, and both are built or none is. -/
theorem build_of_failures (hfree : doc.StandsFree b) (hpaired : doc.FailsPaired render)
    (hpaired' : doc.FailsPaired render') :
    let t := (substituteAll render doc.text).text
    let t' := (substituteAll render' doc.text).text
    metadataOf t = metadataOf t' ∧
      (Markup.moduleText (prepare b t)).toBool = (Markup.moduleText (prepare b t')).toBool ∧
      (IsReadBack b t → IsReadBack b t' → (build b t).toBool = (build b t').toBool) := by
  intro t t'
  have h := preparedAlike_substituteAll hfree hpaired
  have h' := preparedAlike_substituteAll hfree hpaired'
  have hmetadata : metadataOf t = metadataOf t' := h.metadata.symm.trans h'.metadata
  have hconverted : Markup.ConvertedAlike (prepare b t) (prepare b t') :=
    h.converted.symm.trans h'.converted
  exact ⟨hmetadata, hconverted.toBool_moduleText, toBool_build_eq hmetadata hconverted⟩

/-- Whether a diagram behind a text stands free. -/
def isFree (b : Bool) (size : Nat) (before : Text) : Bool :=
  let body := dropBytes (bodyStart before) before
  (before.isEmpty || before.getLast? = some '\n') &&
    ((frontMatter? before).isSome || (lines before).head?.all (! isDelimiter ·)) &&
    (openAfter none (lines body)).isNone &&
    (segments body).getLast?.all (fun
      | .text s => (findText commentOpener s).isNone
      | .fence _ => true) &&
    (Markup.dropFrontMatter (Markup.Line.split (prepare b before))).2 = 0 &&
    (Markup.outlineOf size (prepare b before)).toOption.all fun o =>
      (match o.leaf with
        | .none => true
        | _ => false) && o.frames.all fun f => f.container.IsMarked

theorem standsFree_of_isFree (h : isFree b size before) : StandsFree b size before := by
  simp only [isFree, Bool.and_eq_true, decide_eq_true_eq] at h
  obtain ⟨⟨⟨⟨⟨hline, hfront⟩, hcode⟩, hcomment⟩, hdata⟩, houtline⟩ := h
  refine ⟨⟨by simpa [EndsLine] using hline, ?_, by simpa using hcode, fun s hs => ?_⟩, hdata,
    fun o ho => ?_⟩
  · rw [Bool.or_eq_true] at hfront
    refine hfront.imp_right fun hall l hl => ?_
    rw [hl] at hall
    simpa using hall
  · rw [hs] at hcomment
    have hnone := findText_eq_none_iff.1 (Option.isNone_iff_eq_none.1 hcomment)
    refine ⟨[s], [], .last fun u v huv _ => hnone ⟨u, v, by rw [huv, List.append_assoc]⟩, ?_⟩
    simpa using hnone
  · rw [ho] at houtline
    obtain ⟨hleaf, hframes⟩ := Bool.and_eq_true_iff.1 houtline
    refine ⟨?_, by simpa using hframes⟩
    cases hopen : o.leaf with
    | none => rfl
    | _ => rw [hopen] at hleaf; cases hleaf

/-- A document with a diagram behind a list. -/
def sample : Outline where
  parts := [.text "- a\n\n".toList, .fence "mermaid".toList "A".toList, .text "\n".toList]
  ok := by decide
  meets := by decide

theorem standsFree_sample : sample.StandsFree true := by
  have hfree : isFree true
      (Markup.bodyLines (prepare true (sample.shown images Dialect.all))).length
      (textBefore (sample.parts.take 1)) := by
    decide +kernel
  intro ps p qs hparts hp
  rcases ps with - | ⟨_, - | ⟨_, - | ⟨_, - | ⟨_, ps⟩⟩⟩⟩ <;> cases hparts
  · cases hp
  · exact ⟨standsFree_of_isFree hfree, .inr (.inl rfl)⟩
  · cases hp

/-- A message with marks of all kinds makes no difference to whether this document is built. -/
theorem build_of_failures_sample :
    let failing : Renderer := fun _ _ => .error (.http "\x60C:\\\\ **\x7bx\x7d [a](b \\\\")
    let t := (substituteAll failing sample.text).text
    let t' := (substituteAll images sample.text).text
    (sample.StandsFree true ∧ sample.FailsPaired failing ∧ sample.FailsPaired images ∧
      IsReadBack true t ∧ IsReadBack true t') ∧
      (build true t).toBool = (build true t').toBool := by
  intro failing t t'
  have hpaired : ∀ f ∈ (substituteAll failing sample.text).failed, f.failure.IsPaired := by
    decide +kernel
  have hpaired' : ∀ f ∈ (substituteAll images sample.text).failed, f.failure.IsPaired := by
    decide +kernel
  have hread : isReadBack true t ∧ isReadBack true t' := by
    decide +kernel
  have hread' := isReadBack_of_check hread.2
  have hread := isReadBack_of_check hread.1
  obtain ⟨-, -, hbuild⟩ := build_of_failures standsFree_sample hpaired hpaired'
  exact ⟨⟨standsFree_sample, hpaired, hpaired', hread, hread'⟩, hbuild hread hread'⟩

/-- A backslash at the end of a message escapes the tag behind it, which is then missing: the text
with the element for an image is markup, and the text with the failure is not. -/
theorem backslash_in_message_fails_build :
    let rendering : Renderer := fun _ _ => .ok ""
    let failing : Renderer := fun _ _ => .error (.http "C:\\")
    let text := "```plantuml\nA\n```\n".toList
    (substituteAll failing text).text = "<p>PlantUML Error: HTTP error: C:\\</p>\n".toList ∧
      ∀ isHighlighting,
        (Markup.moduleText (prepare isHighlighting (substituteAll rendering text).text)).toBool ∧
          (Markup.moduleText (prepare isHighlighting (substituteAll failing text).text)).toBool =
            false ∧
          (build isHighlighting (substituteAll failing text).text).toBool = false := by
  decide +kernel

end DocPreview.Diagram
