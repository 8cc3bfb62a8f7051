import DocPreview.Artifact.Build
import DocPreview.Proofs.Artifact.FrontMatter
import DocPreview.Proofs.Document.CommentSplit
import DocPreview.Proofs.Document.OpenFence

/-!
# Preparing a document in two parts

Where neither front matter nor a fence nor a comment is open, what follows is prepared on its own. A
line without fences and comments is kept as it is, and so is the line break behind it.

## Main definitions

* `StandsOutside`: texts behind which nothing is open.

## Main results

* `prepare_append`: what follows such a text is prepared on its own.
* `prepareBody_line`: a line without fences and comments is kept.
-/

namespace DocPreview.Artifact

open Text Document

variable {show? : Option (Fence → Text)} {a b s t y z : Text} {f : Fence} {segs : List Segment}

/-! ### Texts behind which nothing is open -/

/-- A text that ends a line, behind which neither front matter nor a fence nor a comment is open. -/
structure StandsOutside (a : Text) : Prop where
  line : EndsLine a
  front : (frontMatter? a).isSome ∨ ∀ l ∈ (lines a).head?, isDelimiter l = false
  code : openAfter none (lines (dropBytes (bodyStart a) a)) = none
  comment : ∀ s, (segments (dropBytes (bodyStart a) a)).getLast? = some (.text s) →
    IsOutsideComment s

/-- A fence that is closed does not end a line. -/
theorem not_endsLine_raw (hf : f.IsClosed) : ¬ EndsLine f.raw := by
  obtain ⟨o, head, inner, closing, ho, -, -, htrim, hlines, -⟩ := hf
  have hclosing : IsLine closing := isLine_of_mem_lines (s := f.raw) (by simp [hlines])
  have hraw : f.raw = (head :: inner).flatten ++ closing := by
    rw [← flatten_lines f.raw, hlines]
    simp
  intro hend
  rw [hraw] at hend
  rcases hend.of_append with hnil | hlast
  · exact hclosing.ne_nil hnil
  · exact hclosing.lf_notMem htrim (List.mem_of_getLast? hlast)

theorem flatMap_prepareSegment_markup (s : Text) :
    (markup s).flatMap (prepareSegment show?) = escapeComments s := by
  cases s with
  | nil => rfl
  | cons c s => simp [markup, prepareSegment]

/-- A text in front of another one, where no line of it opens a fence, goes on in that one's first
text. -/
theorem prepareBody_text_append (show? : Option (Fence → Text)) (hs : ∀ l ∈ lines s, ¬ OpensFence l) (hend : EndsLine s)
    (hescape : ∀ r, r <+: y → escapeComments (s ++ r) = t ++ escapeComments r) :
    prepareBody show? (s ++ y) = t ++ prepareBody show? y := by
  have hscan : scan none (lines (s ++ y)) =
      { scan none (lines y) with current := s ++ (scan none (lines y)).current } := by
    rw [lines_append hend, scan_none_append fun l hl => opening?_eq_none_iff.2 (hs l hl),
      flatten_lines]
  rw [prepareBody, prepareBody, segments, segments, hscan, List.flatMap_append,
    List.flatMap_append, flatMap_prepareSegment_markup, flatMap_prepareSegment_markup]
  obtain ⟨hall, hclosing⟩ := flatMap_raw_scan none (lines y)
  rw [flatten_lines] at hall
  rw [hescape _ ⟨_, hall⟩, List.append_assoc]

/-- Where no fence and no comment is open, what follows is prepared on its own. -/
theorem prepareBody_flatMap_append (show? : Option (Fence → Text)) (h : IsSegmentation segs)
    (hend : EndsLine (segs.flatMap Segment.raw)) (hcode : ¬ EndsInFence segs)
    (hcomment : ∀ s, segs.getLast? = some (.text s) → IsOutsideComment s)
    (hy : y.head? = some '<') :
    prepareBody show? (segs.flatMap Segment.raw ++ y) =
      segs.flatMap (prepareSegment show?) ++ prepareBody show? y ∧
    ∀ f rest, segs = .fence f :: rest →
      ∃ more, segments (segs.flatMap Segment.raw ++ y) = .fence f :: more := by
  induction segs with
  | nil => exact ⟨rfl, by simp⟩
  | cons x segs ih =>
    have hrest (hne : segs ≠ []) := ih
      ⟨fun y hy => h.ok y (List.mem_cons_of_mem _ hy), h.meets.tail⟩
      (List.flatMap_cons ▸ hend).of_append (mt (endsInFence_cons_iff hne).2 hcode)
      fun s hs => hcomment s (by rw [List.getLast?_cons_of_ne_nil hne, hs])
    rw [List.flatMap_cons, List.flatMap_cons, List.append_assoc, List.append_assoc]
    cases x with
    | text s =>
      refine ⟨?_, fun f rest heq => by cases heq⟩
      have hs := h.ok (.text s) List.mem_cons_self
      cases segs with
      | nil =>
        rw [List.flatMap_cons, List.flatMap_nil, List.append_nil] at hend
        refine prepareBody_text_append show? hs.2 hend fun r hr => ?_
        cases r with
        | nil =>
          rw [List.append_nil]
          exact (List.append_nil _).symm
        | cons c r =>
          obtain ⟨r', rfl⟩ := hr
          exact (hcomment s rfl).escapeComments_append hy
      | cons x segs =>
        have hmeets := (List.isChain_cons_cons.1 h.meets).1
        cases x with
        | text t => exact hmeets.elim
        | fence f =>
          obtain ⟨hprepare, hfirst⟩ := hrest (List.cons_ne_nil _ _)
          obtain ⟨more, hmore⟩ := hfirst f segs rfl
          rw [← hprepare, prepareBody, Segment.raw, segments_text_append hs hmeets hmore]
          rfl
    | fence f =>
      cases segs with
      | nil =>
        rw [List.flatMap_cons, List.flatMap_nil, List.append_nil] at hend
        have hclosed : f.IsClosed := by
          by_contra hopen
          exact hcode (endsInFence_singleton_iff.2 hopen)
        exact absurd hend (not_endsLine_raw hclosed)
      | cons x segs =>
        have hmeets := (List.isChain_cons_cons.1 h.meets).1
        cases x with
        | fence g => exact hmeets.elim
        | text t =>
          have hblank : StartsBlank ((.text t :: segs).flatMap Segment.raw ++ y) := by
            refine (startsBlank_of_isSegmentation h).append ?_ (.inl ?_)
            · simp [Segment.raw, (h.ok (.text t) (by simp)).1]
            · exact (List.flatMap_cons ▸ hend).of_append
          have hsegments := segments_raw_append hmeets.1 hblank
          refine ⟨?_, fun f' rest heq => ?_⟩
          · rw [← (hrest (List.cons_ne_nil _ _)).1, prepareBody, Segment.raw, hsegments]
            rfl
          · cases heq
            exact ⟨_, hsegments⟩

/-- A text without comments that a comment does not begin in. -/
def NoCommentBegins (s : Text) : Prop := ∀ r, escapeComments (s ++ r) = s ++ escapeComments r

/-- No comment begins where no bracket has an exclamation mark behind it. -/
theorem noCommentBegins_of_suffixes
    (h : ∀ v, '<' :: v <:+ s → v ≠ [] ∧ v.head? ≠ some '!') : NoCommentBegins s := by
  intro r
  induction s with
  | nil => rfl
  | cons c s ih =>
    have hnone : comment? (c :: (s ++ r)) = none := by
      refine comment?_eq_none_iff.2 fun b hb _ => ?_
      obtain ⟨rfl, hrest⟩ : c = '<' ∧ s ++ r = "!--".toList ++ b := List.cons.inj hb
      obtain ⟨hne, hhead⟩ := h s (List.suffix_refl _)
      obtain ⟨d, s, rfl⟩ := List.exists_cons_of_ne_nil hne
      exact hhead (congrArg some (List.cons.inj hrest).1)
    rw [List.cons_append, escapeComments_cons hnone,
      ih fun v hv => h v (hv.trans (List.suffix_cons c s)), List.cons_append]

/-- A line without fences and comments is kept, with the line break behind it. -/
theorem prepareBody_line (hlf : '\n' ∉ s) (hs : ¬ OpensFence (s ++ ['\n']))
    (hescape : NoCommentBegins s) (y : Text) : prepareBody show? (s ++ '\n' :: y) = s ++ '\n' :: prepareBody show? y := by
  have hlines : lines (s ++ ['\n']) = [s ++ ['\n']] := (isLine_append_lf hlf).lines_eq
  have hkept := prepareBody_text_append show? (y := y) (t := s ++ ['\n'])
    (by rw [hlines]; simpa using hs) (endsLine_append_lf s) fun r _ => by
      rw [List.append_assoc, hescape, List.singleton_append, escapeComments_cons rfl,
        List.append_assoc]
      rfl
  rwa [List.append_assoc, List.append_assoc] at hkept

/-- A last line without fences and comments is kept. -/
theorem prepareBody_last_line (hlf : '\n' ∉ s) (hs : ¬ OpensFence s) (hescape : NoCommentBegins s) :
    prepareBody show? s = s := by
  have hlines : ∀ l ∈ lines s, ¬ OpensFence l := by
    cases s with
    | nil => simp
    | cons c s => simpa [(isLine_of_notMem hlf (List.cons_ne_nil c s)).lines_eq] using hs
  have hkept : escapeComments (s ++ []) = s ++ escapeComments [] := hescape []
  rw [List.append_nil] at hkept
  rw [prepareBody, segments_eq_markup hlines, flatMap_prepareSegment_markup, hkept]
  exact List.append_nil s

/-! ### Behind front matter -/

theorem head?_of_mem_head?_lines {l : Text} (h : l ∈ (lines y).head?) : l.head? = y.head? := by
  obtain ⟨ls, hls⟩ := List.head?_eq_some_iff.1 h
  have hne : l ≠ [] := (isLine_of_mem_lines (s := y) (hls ▸ List.mem_cons_self)).ne_nil
  rw [← flatten_lines y, hls, List.flatten_cons, List.head?_append_of_ne_nil _ hne]

/-- Where no front matter is open, it ends before what follows. -/
theorem frontMatter?_append (h : StandsOutside a) (hy : y.head? = some '<') :
    frontMatter? (a ++ y) = (frontMatter? a).map fun f => { f with body := f.body ++ y } := by
  have hlines : lines (a ++ y) = lines a ++ lines y := lines_append h.line y
  cases hfront : frontMatter? a with
  | some f =>
    obtain ⟨before, after, ha, hopened, hclosed, hbefore, hyaml, hbody⟩ :=
      frontMatter?_eq_some_iff.1 hfront
    refine frontMatter?_eq_some_iff.2 ⟨before, after ++ lines y, by rw [hlines, ha]; simp, hopened,
      hclosed, hbefore, hyaml, ?_⟩
    rw [List.flatten_append, flatten_lines]
    exact congrArg (· ++ y) hbody
  | none =>
    refine frontMatter?_eq_none_iff.2 fun l ls hcut hl => ?_
    have hhead : (lines a ++ lines y).head? = some l := by rw [← hlines, hcut]; rfl
    rw [hlines] at hcut
    exfalso
    cases ha : lines a with
    | nil =>
      rw [ha, List.nil_append] at hhead
      have hsolid : IsSolid l :=
        ⟨'<', List.mem_of_head? ((head?_of_mem_head?_lines hhead).trans hy),
        by decide, by decide⟩
      rw [hsolid.isDelimiter_eq_false] at hl
      cases hl
    | cons k ks =>
      have hfirst := h.front.resolve_left (by simp [hfront]) k (by rw [ha]; rfl)
      rw [ha] at hhead
      obtain rfl : k = l := Option.some.inj hhead
      rw [hfirst] at hl
      cases hl

/-- What follows a text behind which nothing is open is prepared on its own. -/
theorem prepareWith_append (h : StandsOutside a) (hy : y.head? = some '<') :
    prepareWith show? (a ++ y) = prepareWith show? a ++ prepareBody show? y := by
  have hbody (b : Text) (hb : dropBytes (bodyStart a) a = b) (hend : EndsLine b) :
      prepareBody show? (b ++ y) = prepareBody show? b ++ prepareBody show? y := by
    have hcode := h.code
    have hcomment := h.comment
    rw [hb] at hcode hcomment
    have hopen : ¬ EndsInFence (segments b) := by
      rw [← isSome_openAfter_iff, hcode]
      exact Bool.false_ne_true
    have happend := (prepareBody_flatMap_append show? (isSegmentation_segments b)
      (by rwa [flatMap_raw_segments]) hopen hcomment hy).1
    rwa [flatMap_raw_segments] at happend
  rw [prepareWith, frontMatter?_append h hy, prepareWith]
  cases hfront : frontMatter? a with
  | none =>
    refine hbody a ?_ h.line
    simp [bodyStart, hfront]
  | some f =>
    have htext := block_append_body hfront
    have hb : dropBytes (bodyStart a) a = f.body := by
      rw [bodyStart, hfront, ← htext]
      exact dropBytes_byteSize _ _
    have hend : EndsLine f.body := (htext ▸ h.line).of_append
    change f.block ++ prepareBody show? (f.body ++ y) = f.block ++ prepareBody show? f.body ++ _
    rw [hbody f.body hb hend, List.append_assoc]

theorem endsLine_prepareBody (hend : EndsLine b) (hcode : ¬ EndsInFence (segments b)) :
    EndsLine (prepareBody show? b) := by
  rw [prepareBody]
  rw [← flatMap_raw_segments b] at hend
  have hok := (isSegmentation_segments b).ok
  generalize segments b = segs at hend hcode hok
  cases segs using List.reverseRecOn with
  | nil => exact .inl rfl
  | append_singleton segs x =>
    rw [List.flatMap_append, List.flatMap_singleton] at hend ⊢
    cases x with
    | fence f =>
      refine absurd hend.of_append (not_endsLine_raw ?_)
      by_contra hopen
      exact hcode ⟨f, by simp, hopen⟩
    | text s =>
      rcases hend.of_append with hnil | hlast
      · exact absurd hnil (hok (.text s) (by simp)).1
      · obtain ⟨t, rfl⟩ := List.getLast?_eq_some_iff.1 hlast
        obtain ⟨t', ht'⟩ := exists_escapeCommentsWithin_append_lf (t ++ ['\n']).length t
        rw [prepareSegment, escapeComments, ht', ← List.append_assoc]
        exact endsLine_append_lf _

/-- A text behind which nothing is open still ends a line when it has been prepared. -/
theorem endsLine_prepareWith (h : StandsOutside a) : EndsLine (prepareWith show? a) := by
  have hcode := h.code
  rw [prepareWith]
  cases hfront : frontMatter? a with
  | none =>
    refine endsLine_prepareBody h.line ?_
    rw [← isSome_openAfter_iff]
    simpa [bodyStart, hfront] using hcode
  | some f =>
    have htext := block_append_body hfront
    have hb : dropBytes (bodyStart a) a = f.body := by
      rw [bodyStart, hfront, ← htext]
      exact dropBytes_byteSize _ _
    have hbody : EndsLine (prepareBody show? f.body) := by
      refine endsLine_prepareBody (htext ▸ h.line).of_append ?_
      rw [← isSome_openAfter_iff, ← hb, hcode]
      exact Bool.false_ne_true
    rcases endsLine_block_or hfront with hblock | hnil
    · exact hblock.append hbody
    · change EndsLine (f.block ++ prepareBody show? f.body)
      rw [hnil, List.append_nil] at htext
      rw [hnil, htext]
      exact (List.append_nil a).symm ▸ h.line

/-- The metadata of a document do not depend on what follows a text behind which its front matter
has ended. -/
theorem metadataOf_append (h : StandsOutside a) (hy : y.head? = some '<') :
    metadataOf (a ++ y) = metadataOf a := by
  rw [metadataOf, metadataOf, frontMatter?_append h hy]
  cases frontMatter? a <;> rfl

end DocPreview.Artifact
