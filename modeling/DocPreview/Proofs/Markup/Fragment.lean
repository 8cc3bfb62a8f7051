import DocPreview.Markup.Document
import DocPreview.Proofs.Diagram.Fragment
import DocPreview.Proofs.Markup.Behind
import DocPreview.Proofs.Markup.Outline

/-!
# Fragments as lines of a document

What is put in the place of a diagram is a line of its own. The element for an image is two tags,
and the paragraph of a failure is text with a tag at each end, which goes on until a blank line.

## Main definitions

* `Tag.Opens`, `Tag.Closes`: the tags of an element.
-/

namespace DocPreview.Markup

open Text
open Script (Cursor)

variable {x r : Text} {l blank : Line} {o : Outline} {n : Nat}

/-! ### Tags -/

section Tags

variable {α β : Type} {t : Tag α} {name : String} {attributes : List (Attribute α)}

/-- A tag that opens an element. -/
structure Tag.Opens (t : Tag α) (name : String) (attributes : List (Attribute α)) : Prop where
  name : t.name = some name
  isClosing : t.isClosing = false
  isSelfClosing : t.isSelfClosing = false
  attributes : t.attributes = attributes

/-- A tag that closes an element. -/
structure Tag.Closes (t : Tag α) (name : String) : Prop where
  name : t.name = some name
  isClosing : t.isClosing = true
  isSelfClosing : t.isSelfClosing = false
  attributes : t.attributes = []

theorem Tag.Opens.map (h : t.Opens name attributes) (f : α → β) :
    (t.map f).Opens name (attributes.map (Attribute.map f)) :=
  ⟨h.name, h.isClosing, h.isSelfClosing, congrArg (List.map (Attribute.map f)) h.attributes⟩

theorem Tag.Closes.map (h : t.Closes name) (f : α → β) : (t.map f).Closes name :=
  ⟨h.name, h.isClosing, h.isSelfClosing, congrArg (List.map (Attribute.map f)) h.attributes⟩

theorem quoted_append {q : Char} (hq : q ∉ x) (hx : ∀ c ∈ x, isLineEnd c = false) (pos : Nat) :
    Tag.quoted q false (x ++ q :: r) pos = some (x, ⟨r, pos + x.length + 1⟩) := by
  induction x generalizing pos with
  | nil => simp [Tag.quoted]
  | cons c x ih =>
    rw [List.mem_cons, not_or] at hq
    rw [List.forall_mem_cons, isLineEnd] at hx
    rw [List.cons_append, Tag.quoted, if_neg (Ne.symm hq.1), if_neg (by simp), hx.1,
      ih hq.2 hx.2, Option.map_some, List.length_cons, Nat.add_right_comm pos, ← Nat.add_assoc]

theorem readValue_quoted (hq : '"' ∉ x) (hx : ∀ c ∈ x, isLineEnd c = false) (pos : Nat) :
    Tag.readValue.run ⟨'"' :: (x ++ '"' :: r), pos⟩ =
      .ok (.text (Entity.decode x), ⟨r, pos + 1 + x.length + 1⟩) := by
  have hquoted := quoted_append (r := r) hq hx (pos + 1)
  simp [Tag.readValue, Tag.next, Tag.pass, Script.Cursor.advance, hquoted]
  rfl

/-- The attribute of an element for an image, up to the end of its tag. -/
theorem exists_readAttributes_id (hq : '"' ∉ x) (hx : ∀ c ∈ x, isLineEnd c = false) (pos : Nat) :
    ∃ stop, (Tag.readAttributes (n + 2)).run ⟨"id=\"".toList ++ (x ++ '"' :: '>' :: r), pos⟩ =
      .ok (([.named "id" (some (.text (Entity.decode x)))], false), ⟨r, stop⟩) := by
  have hrun : (Tag.readAttributes (n + 2)).run ⟨"id=\"".toList ++ (x ++ '"' :: '>' :: r), pos⟩ =
      (do
        let v ← Tag.readValue
        let rest ← Tag.readAttributes (n + 1)
        return (Attribute.named "id" (some v) :: rest.1, rest.2) :
          Tag.Scanner (List (Attribute Nat) × Bool)).run
        ⟨'"' :: (x ++ '"' :: '>' :: r), pos + 3⟩ := by
    rw [Tag.readAttributes]
    rfl
  rw [hrun, StateT.run_bind, readValue_quoted hq hx]
  exact ⟨_, rfl⟩

/-- A tag that opens an element is read from its name on. -/
theorem scan_lt_cons {c : Char} (hspace : Tag.isSpace c = false) (hslash : c ≠ '/') (hgt : c ≠ '>')
    (s : Text) (pos : Nat) : Tag.scan ⟨'<' :: c :: s, pos⟩ =
      (do
        let name ← Tag.readElementName .beforeName
        let (attributes, isSelfClosing) ← Tag.readAttributes ((← get).rest.length + 1)
        return ⟨some (String.ofList name), false, isSelfClosing, attributes, pos, (← get).pos⟩ :
          Tag.Scanner (Tag Nat)).run ⟨c :: s, pos + 1⟩ := by
  have hnext : Tag.next.run ⟨c :: s, pos + 1⟩ = .ok (c, ⟨c :: s, pos + 1⟩) := rfl
  have hadvance : Cursor.advance ⟨'<' :: c :: s, pos⟩ = ⟨c :: s, pos + 1⟩ := rfl
  rw [Tag.scan, Tag.readTag, hadvance]
  simp [bind_eq_of_eq_ok hnext, hspace, hslash, hgt]

/-- The opening tag of the element for an image. -/
theorem exists_scan_div (hq : '"' ∉ x) (hx : ∀ c ∈ x, isLineEnd c = false) (pos : Nat) :
    ∃ t stop, Tag.scan ⟨"<div id=\"".toList ++ (x ++ '"' :: '>' :: r), pos⟩ = .ok (t, ⟨r, stop⟩) ∧
      t.Opens "div" [.named "id" (some (.text (Entity.decode x)))] := by
  obtain ⟨rest, hrest⟩ : ∃ rest, rest = "id=\"".toList ++ (x ++ '"' :: '>' :: r) := ⟨_, rfl⟩
  obtain ⟨n, hn⟩ : ∃ n, rest.length + 1 = n + 2 := ⟨_, by rw [hrest]; rfl⟩
  obtain ⟨stop, hattributes⟩ := exists_readAttributes_id (r := r) (n := n) hq hx (pos + 5)
  rw [← hrest, ← hn] at hattributes
  have hname : (Tag.readElementName .beforeName).run ⟨'d' :: ("iv ".toList ++ rest), pos + 1⟩ =
      .ok ("div".toList, ⟨rest, pos + 5⟩) := by
    rw [hrest]
    rfl
  have hscan := scan_lt_cons (c := 'd') rfl (by decide) (by decide) ("iv ".toList ++ rest) pos
  rw [StateT.run_bind, bind_eq_of_eq_ok hname] at hscan
  have hsplit : "<div id=\"".toList ++ (x ++ '"' :: '>' :: r) =
      '<' :: 'd' :: ("iv ".toList ++ rest) := by
    rw [hrest]
    rfl
  rw [hsplit, hscan, StateT.run_bind]
  change ∃ t stop, ((Tag.readAttributes (rest.length + 1)).run ⟨rest, pos + 5⟩ >>= _) = _ ∧ _
  rw [bind_eq_of_eq_ok hattributes]
  exact ⟨_, _, rfl, rfl, rfl, rfl, rfl⟩

/-- The closing tag of the element for an image. -/
theorem exists_scan_div_closing (pos : Nat) :
    ∃ t stop, Tag.scan ⟨'<' :: "/div>".toList, pos⟩ = .ok (t, ⟨[], stop⟩) ∧ t.Closes "div" :=
  ⟨⟨some "div", true, false, [], pos, pos + 6⟩, _, rfl, rfl, rfl, rfl, rfl⟩

end Tags

/-! ### The line of an image -/

theorem readMarkup_lt (c : Content) (n pos : Nat) (s : Text) (out : List Piece) :
    Outline.readMarkup c (n + 1) ⟨'<' :: s, pos⟩ out =
      Tag.scan ⟨'<' :: s, pos⟩ >>= fun (t, next) =>
        Outline.readMarkup c n next (.tag (t.map c.pointAt) :: out) := rfl

/-- The element for an image is made of two tags. -/
theorem exists_markupPieces_placeholder {id : String} (hl : l.text = Diagram.placeholder id)
    (hid : ∀ c ∈ id.toList, c ≠ '"' ∧ isLineEnd c = false) :
    ∃ t t' : Tag Point, Outline.markupPieces [l] = .ok [.tag t, .tag t'] ∧
      t.Opens "div" [.named "id" (some (.text (Entity.decode id.toList)))] ∧ t'.Closes "div" := by
  have htext : l.text = "<div id=\"".toList ++ (id.toList ++ '"' :: '>' :: "</div>".toList) := by
    rw [hl, Diagram.placeholder]
    simp
  obtain ⟨t, stop, hscan, hopens⟩ := exists_scan_div (r := "</div>".toList)
    (fun h => (hid _ h).1 rfl) (fun c hc => (hid c hc).2) 0
  rw [← htext] at hscan
  obtain ⟨s, hs⟩ : ∃ s, l.text = '<' :: s := ⟨_, htext⟩
  obtain ⟨n, hn⟩ : ∃ n, l.text.length + 1 = n + 3 := ⟨_, by rw [htext]; rfl⟩
  obtain ⟨t', stop', hscan', hcloses⟩ := exists_scan_div_closing stop
  have hread : Outline.readMarkup [l] (n + 3) ⟨l.text, 0⟩ [] =
      .ok [.tag (t'.map (Content.pointAt [l])), .tag (t.map (Content.pointAt [l]))] := by
    rw [hs, readMarkup_lt, ← hs, bind_eq_of_eq_ok hscan]
    change Outline.readMarkup [l] (n + 1 + 1) ⟨'<' :: "/div>".toList, stop⟩ _ = _
    rw [readMarkup_lt, bind_eq_of_eq_ok hscan']
    rfl
  refine ⟨_, _, ?_, hopens.map (Content.pointAt [l]), hcloses.map (Content.pointAt [l])⟩
  rw [Outline.markupPieces, Content.text, hn, hread]
  rfl

/-- The paragraph of a failure is text with a tag before it. -/
theorem markupPieces_failureParagraph {d : Diagram.Dialect} {e : Diagram.Failure}
    (hl : l.text = Diagram.failureParagraph d e) : Outline.markupPieces [l] = .error .notTag := by
  obtain ⟨c, s, hs, hc⟩ : ∃ c s, l.text = '<' :: 'p' :: '>' :: c :: s ∧ (c = 'P' ∨ c = 'M') := by
    rw [hl]
    cases d
    · exact ⟨_, _, rfl, .inl rfl⟩
    · exact ⟨_, _, rfl, .inr rfl⟩
  have hscan : Tag.scan ⟨'<' :: 'p' :: '>' :: c :: s, 0⟩ =
    .ok (⟨some "p", false, false, [], 0, 3⟩, ⟨c :: s, 3⟩) := rfl
  rw [Outline.markupPieces, Content.text, hs, readMarkup_lt, bind_eq_of_eq_ok hscan]
  rcases hc with rfl | rfl <;> rfl

/-! ### A line that begins with a tag -/

/-- An outline of which all containers are closed. -/
def Outline.closed (o : Outline) : Outline := o.closeContainers o.frames.length

theorem Outline.frames_closed (o : Outline) : o.closed.frames = [] := by
  rw [← List.length_eq_zero_iff, Outline.closed, (closeContainers_spec _ _).2, Nat.sub_self]

theorem Outline.leaf_closed (o : Outline) : o.closed.leaf = o.leaf := (closeContainers_spec _ _).1

theorem Outline.closed_eq_self (h : o.frames = []) : o.closed = o := by
  rw [Outline.closed, h]
  rfl

section Lines

variable {s : Text} (hl : l.text = '<' :: s)

include hl

theorem text_trimmed_of_lt : l.trimmed.text = '<' :: s := by
  rw [text_trimmed, hl]
  rfl

/-- A tag starts no container. -/
theorem container_opening?_of_lt (b : Bool) : Container.opening? b l = none := by
  have htrimmed := text_trimmed_of_lt hl
  have hquote : quoteMark? l = none := by
    rw [quoteMark?, htrimmed]
    rfl
  have hitem : itemStart? b l = none := by
    rw [itemStart?, htrimmed]
    rfl
  have hnote : noteStart? l = none := by
    rw [noteStart?, htrimmed]
    rfl
  rw [Container.opening?, hquote, hitem, hnote]

/-- A line that begins with a tag ends the containers that it does not go on with. -/
theorem readLine_of_lt (ho : o.leaf = .none)
    (hframes : ∀ f ∈ o.frames, f.container.continue? l = none) (n : Nat) :
    Outline.readLine n o l = Outline.readLeafLine n o.closed l >>= fun o =>
      .ok { o with lastEnd := l.stop } := by
  have hcontinue : Outline.continueFrames o.frames.reverse l = (o.frames.reverse, o.frames.length,
      l) := by
    rw [continueFrames_eq fun c hc => hframes c (List.mem_reverse.1 hc), List.length_reverse]
  have hopaque : o.isOpaque = false := by rw [Outline.isOpaque, ho]
  have hlazy : o.acceptsLazily l = false := by rw [Outline.acceptsLazily, ho]
  have hend : Outline.endLeaf n l.start o = .ok o := by
    obtain ⟨frames, blocks, leaf, definitions, notes, lastEnd⟩ := o
    subst ho
    cases n <;> rfl
  rw [Outline.readLine, hcontinue]
  simp only [List.reverse_reverse, hopaque, Bool.and_false, Bool.false_eq_true, ↓reduceIte,
    container_opening?_of_lt hl, hlazy, hend]
  split
  · rename_i hlength
    rw [Outline.closed_eq_self (List.length_eq_zero_iff.1 hlength)]
    rfl
  · rfl

/-- A line that begins with a tag is read as tags, where nothing is open. -/
theorem readLeafLine_of_lt (ho : o.leaf = .none) (n : Nat) :
    Outline.readLeafLine (n + 2) o l = Outline.readMarkupLines n o .none [l] := by
  have hblank : l.isBlank = false := by
    rw [Line.isBlank, hl]
    rfl
  have hmodule : startsModule l = false := by
    have himport : after? "import ".toList l.text = none := by
      rw [hl]
      rfl
    have hexport : after? "export ".toList l.text = none := by
      rw [hl]
      rfl
    rw [startsModule, himport, hexport]
    simp
  have hfence : CodeFence.opening? l = none := by
    simp [CodeFence.opening?, text_trimmed_of_lt hl]
  have hstart : Outline.readLeafLine (n + 2) o l = Outline.startLeaf (n + 1) o l := by
    rw [Outline.readLeafLine, ho]
  rw [hstart, Outline.startLeaf]
  simp [hblank, hmodule, hfence, text_trimmed_of_lt hl, ho]

/-- A text that begins with a tag defines no label. -/
theorem readDefinitions_of_lt : readDefinitions [l] = ([], [l]) := by
  have hdefinition : definition? ('<' :: s) = none := rfl
  rw [readDefinitions, Content.text, hl]
  dsimp only
  rw [List.length_cons, definitionsWithin, hdefinition]
  simp [Content.drop, Line.drop, Point.afterAll]

end Lines

/-! ### A blank line -/

theorem readLine_outside (hframes : o.frames = []) (h : ∀ b, Container.opening? b l = none)
    (n : Nat) : Outline.readLine n o l = Outline.readLeafLine n o l >>= fun o =>
      .ok { o with lastEnd := l.stop } := by
  obtain ⟨frames, blocks, leaf, definitions, notes, lastEnd⟩ := o
  subst hframes
  rw [Outline.readLine]
  simp only [List.reverse_nil, Outline.continueFrames, h]
  split <;> rfl

/-- A blank line outside of all containers ends the text before it. -/
theorem readLine_of_empty {b : Line} (hb : b.text = []) (hend : b.ending ≠ [])
    (hframes : o.frames = []) (ho : o.isOpaque = false) (n : Nat) :
    Outline.readLine (n + 2) o b = Outline.endLeaf n o.lastEnd o >>= fun o =>
      .ok { o.push .blank with lastEnd := b.stop } := by
  have htrimmed : b.trimmed.text = [] := by
    rw [text_trimmed, hb]
    rfl
  have hopening (interrupts : Bool) : Container.opening? interrupts b = none := by
    rw [Container.opening?, quoteMark?, itemStart?, noteStart?, htrimmed]
    rfl
  have hblank : b.isBlank = true := by
    rw [Line.isBlank, hb]
    rfl
  have hending : b.ending.isEmpty = false := by simpa using hend
  have hstart : Outline.startLeaf (n + 1) o b = Outline.endLeaf n o.lastEnd o >>= fun o =>
      .ok (o.push .blank) := by
    rw [Outline.startLeaf]
    simp only [hblank, hending, ↓reduceIte]
    rfl
  have hleaf : Outline.readLeafLine (n + 2) o b = Outline.startLeaf (n + 1) o b := by
    rw [Outline.readLeafLine]
    split
    all_goals first
      | rfl
      | (rename_i hleaf; simp [Outline.isOpaque, hleaf] at ho)
  rw [readLine_outside hframes hopening, hleaf, hstart]
  cases Outline.endLeaf n o.lastEnd o <;> rfl

/-! ### What a fragment leaves -/

/-- A line, which is read as some blocks outside of all containers, at the end of a document or in
front of a blank line. -/
structure Outline.Leaves (n : Nat) (o : Outline) (l : Line) (bs : List Block) : Prop where
  last : ∀ stop, ∃ e, Outline.readLine n o l >>= Outline.endLeaf n stop =
    .ok (Outline.behind (bs ++ o.closed.blocks)
      ⟨[], [], .none, o.closed.definitions, o.closed.notes, e⟩)
  blank : ∀ b : Line, b.text = [] → b.ending ≠ [] →
    Outline.readLine n o l >>= (Outline.readLine n · b) =
      .ok (Outline.behind (bs ++ o.closed.blocks)
        ⟨[], [.blank], .none, o.closed.definitions, o.closed.notes, b.stop⟩)

/-- The element for an image leaves its tags. -/
theorem exists_leaves_placeholder {id : String} (hl : l.text = Diagram.placeholder id)
    (hid : ∀ c ∈ id.toList, c ≠ '"' ∧ isLineEnd c = false) (ho : o.leaf = .none)
    (hframes : ∀ f ∈ o.frames, f.container.continue? l = none) (n : Nat) :
    ∃ t t' : Tag Point, o.Leaves (n + 6) l [.piece (.tag t'), .piece (.tag t)] ∧
      t.Opens "div" [.named "id" (some (.text (Entity.decode id.toList)))] ∧ t'.Closes "div" := by
  obtain ⟨t, t', hpieces, hopens, hcloses⟩ := exists_markupPieces_placeholder hl hid
  refine ⟨t, t', ?_, hopens, hcloses⟩
  obtain ⟨s, hs⟩ : ∃ s, l.text = '<' :: s := by
    refine ⟨"div id=\"".toList ++ (id.toList ++ "\"></div>".toList), ?_⟩
    rw [hl, Diagram.placeholder]
    simp
  have hmarkup (c : Outline) (hc : c.leaf = .none) (hf : c.frames = []) :
      Outline.readMarkupLines (n + 4) c .none [l] = .ok ⟨[],
        .piece (.tag t') :: .piece (.tag t) :: c.blocks, .none, c.definitions, c.notes,
          c.lastEnd⟩ := by
    obtain ⟨frames, blocks, leaf, definitions, notes, lastEnd⟩ := c
    subst hc hf
    rw [Outline.readMarkupLines]
    simp only [List.reverse_singleton, hpieces]
    rfl
  have hread := readLine_of_lt hs ho hframes (n + 6)
  rw [readLeafLine_of_lt hs (o.leaf_closed.trans ho),
    hmarkup _ (o.leaf_closed.trans ho) o.frames_closed] at hread
  refine ⟨fun stop => ⟨l.stop, ?_⟩, fun b hb hend => ?_⟩
  · rw [hread]
    rfl
  · have hblank := readLine_of_empty hb hend (o := ⟨[], .piece (.tag t') :: .piece (.tag t) ::
      o.closed.blocks, .none, o.closed.definitions, o.closed.notes, l.stop⟩) rfl rfl (n + 4)
    rw [hread]
    exact hblank

/-- The paragraph of a failure leaves itself. -/
theorem leaves_failureParagraph {d : Diagram.Dialect} {e : Diagram.Failure}
    (hl : l.text = Diagram.failureParagraph d e) (ho : o.leaf = .none)
    (hframes : ∀ f ∈ o.frames, f.container.continue? l = none) (n : Nat) :
    o.Leaves (n + 6) l [.paragraph [l]] := by
  obtain ⟨s, hs⟩ : ∃ s, l.text = '<' :: s := by
    rw [hl]
    exact ⟨_, rfl⟩
  have hmarkup (c : Outline) (hc : c.leaf = .none) (hf : c.frames = []) :
      Outline.readMarkupLines (n + 4) c .none [l] = .ok ⟨[], c.blocks, .paragraph [l],
        c.definitions, c.notes, c.lastEnd⟩ := by
    obtain ⟨frames, blocks, leaf, definitions, notes, lastEnd⟩ := c
    subst hc hf
    rw [Outline.readMarkupLines]
    simp only [List.reverse_singleton, markupPieces_failureParagraph hl]
    rfl
  have hdefinitions := readDefinitions_of_lt hs
  have hparagraph (n : Nat) (p e : Point) (c : Outline) :
      Outline.endLeaf (n + 1) p ⟨[], c.blocks, .paragraph [l], c.definitions, c.notes, e⟩ =
        .ok ⟨[], .paragraph [l] :: c.blocks, .none, c.definitions, c.notes, e⟩ := by
    rw [Outline.endLeaf]
    simp only [Outline.endParagraph, List.reverse_singleton, hdefinitions, List.append_nil]
    rfl
  have hread := readLine_of_lt hs ho hframes (n + 6)
  rw [readLeafLine_of_lt hs (o.leaf_closed.trans ho),
    hmarkup _ (o.leaf_closed.trans ho) o.frames_closed] at hread
  refine ⟨fun stop => ⟨l.stop, ?_⟩, fun b hb hend => ?_⟩
  · rw [hread]
    exact hparagraph (n + 5) stop l.stop o.closed
  · have hblank := readLine_of_empty hb hend (o := ⟨[], o.closed.blocks, .paragraph [l],
      o.closed.definitions, o.closed.notes, l.stop⟩) rfl rfl (n + 4)
    rw [hparagraph (n + 3)] at hblank
    rw [hread]
    exact hblank

/-! ### The document around a fragment -/

/-- The blocks of a document, and the labels that it explains. -/
def Outline.content (o : Outline) : List Block × Labels := (o.blocks, ⟨o.definitions, o.notes⟩)

/-- What is read from a fragment on is the same for all fragments, but for the blocks that the
fragment leaves. -/
theorem exists_read_of_leaves (n : Nat) (o : Outline) (stop : Point) {rest : List Line}
    (hrest : ∀ b ∈ rest.head?, b.text = [] ∧ b.ending ≠ []) :
    ∃ y : Except Failure (List Block × Labels), ∀ l bs stop', o.Leaves n l bs →
      (rest ≠ [] → stop' = stop) →
        ((l :: rest).foldlM (Outline.readLine n) o >>= Outline.finish n stop').map
          Outline.content = y.map fun (blocks, labels) =>
            (blocks ++ (bs ++ o.closed.blocks), labels) := by
  cases rest with
  | nil =>
    refine ⟨.ok ([], ⟨o.closed.definitions, o.closed.notes⟩), fun l bs stop' hl _ => ?_⟩
    obtain ⟨e, hlast⟩ := hl.last stop'
    obtain ⟨o₁, hline, hend⟩ := exists_of_bind_eq_ok hlast
    rw [List.foldlM_cons, bind_eq_of_eq_ok hline]
    change (Outline.finish n stop' o₁).map _ = _
    rw [Outline.finish, bind_eq_of_eq_ok hend]
    rfl
  | cons b ls =>
    obtain ⟨hb, hend⟩ := hrest b rfl
    let start : Outline := ⟨[], [.blank], .none, o.closed.definitions, o.closed.notes, b.stop⟩
    refine ⟨(ls.foldlM (Outline.readLine n) start >>= Outline.finish n stop).map Outline.content,
      fun l bs stop' hl hstop => ?_⟩
    rw [hstop (List.cons_ne_nil b ls)]
    obtain ⟨o₁, hline, hblank⟩ := exists_of_bind_eq_ok (hl.blank b hb hend)
    rw [List.foldlM_cons, bind_eq_of_eq_ok hline, List.foldlM_cons, bind_eq_of_eq_ok hblank]
    have hbehind : Outline.IsBehind (bs ++ o.closed.blocks) _ _ :=
      (Outline.foldlM_readLine_behind n start ls).bind (Outline.finish_behind n stop)
    rw [hbehind]
    generalize ls.foldlM (Outline.readLine n) start >>= Outline.finish n stop = y
    cases y <;> rfl

end DocPreview.Markup
