import DocPreview.Proofs.Markup.Conversion
import DocPreview.Proofs.Markup.Plain
import Mathlib.Data.Bool.AllAny

/-!
# One fragment in the place of another

The element for an image and the paragraph of a failure both make one node without imports and
exports, whose attributes can be written. So where only such a fragment differs, documents are
converted alike.

## Main definitions

* `AreInert`: blocks that make one such node.
* `IsFragment`: one line that leaves such blocks wherever no paragraph, code or markup is open.

## Main results

* `areInert_paragraph`, `areInert_element`: what is put in the place of a diagram.
* `sameModules_shownOf`: documents that differ in inert blocks.
* `convertedAlike_of_fragment`: one fragment in the place of another.
-/

namespace DocPreview.Markup

open Text
open Piece (OpenTags OuterTags Surroundings nestAll nestOne)

variable {labels : Labels} {bs bs' cs base : List Block} {ps qs : List Part} {xs ys : List Piece}

/-! ### Blocks one after the other -/

theorem partsOf_append (labels : Labels) (bs cs : List Block) : partsOf labels (bs ++ cs) =
    partsOf labels bs >>= fun ps => (partsOf labels cs).map (ps ++ ·) := by
  induction bs with
  | nil =>
    rw [List.nil_append, partsOf]
    change partsOf labels cs = (partsOf labels cs).map ([] ++ ·)
    cases partsOf labels cs <;> rfl
  | cons b bs ih =>
    rw [List.cons_append, partsOf, partsOf, ih]
    cases partOf labels b with
    | error e => rfl
    | ok p =>
      change (partsOf labels bs >>= _) >>= _ = (partsOf labels bs >>= _) >>= _
      cases partsOf labels bs with
      | error e => rfl
      | ok ps =>
        change (partsOf labels cs).map _ >>= _ = (partsOf labels cs).map _
        cases partsOf labels cs <;> rfl

/-- Pieces that belong to no list end the list before them. -/
theorem joinParts_append (o : Option OpenList) (wasBlank : Bool) (ps qs : List Part)
    (xs : List Piece) : joinParts o wasBlank (ps ++ .pieces xs :: qs) =
      joinParts o wasBlank ps ++ (xs ++ joinParts none false qs) := by
  induction ps generalizing o wasBlank with
  | nil => cases o <;> simp [joinParts]
  | cons p ps ih =>
    cases o with
    | none => cases p <;> simp [joinParts, ih]
    | some l =>
      cases p with
      | item i =>
        simp only [List.cons_append, joinParts]
        split <;> simp [ih]
      | _ => simp [joinParts, ih]

theorem joinParts_map_pieces (xss : List (List Piece)) (qs : List Part) :
    joinParts none false (xss.map .pieces ++ qs) = xss.flatten ++ joinParts none false qs := by
  induction xss with
  | nil => rfl
  | cons xs xss ih => simp [joinParts, ih]

/-! ### Inert blocks -/

/-- Pieces that make one node without imports and exports, whose attributes can be written. -/
def MakesNode (xs : List Piece) : Prop :=
  ∀ stop around outer openTags done, ∃ n : Node, n.IsSound ∧ n.module? = none ∧
    ∀ rest, nestAll stop around outer openTags done (xs ++ rest) =
      nestAll stop around outer openTags (n :: done) rest

/-- Blocks that make one such node, the latest block first. -/
def AreInert (bs : List Block) : Prop :=
  ∀ labels, ∃ xss : List (List Piece), xss ≠ [] ∧ MakesNode xss.flatten ∧
    partsOf labels bs.reverse = .ok (xss.map .pieces)

/-- The element for an image is inert. -/
theorem areInert_element {t t' : Tag Point} {name : String} {value : Text}
    (ht : t.Opens name [.named "id" (some (.text value))]) (ht' : t'.Closes name) :
    AreInert [.piece (.tag t'), .piece (.tag t)] := by
  refine fun labels => ⟨[[.tag t], [.tag t']], by simp, ?_, rfl⟩
  intro stop around outer openTags done
  refine ⟨.group (.element (some name) [.named "id" (some (.text value))]) [],
    .group (List.forall_mem_singleton.2 rfl) (by simp), rfl, fun rest => ?_⟩
  exact (nestAll_open ht _).trans (nestAll_close ht ht' rest)

/-- The paragraph of a failure is inert, if the backslashes at the end of its message come in
pairs. -/
theorem areInert_paragraph {l : Line} {x : Text}
    (hl : l.text = "<p>".toList ++ (x ++ closingTag)) (hpaired : HasPairedEnd x)
    (hchars : ∀ d ∈ x, d ≠ '<' ∧ d ≠ '\x7b' ∧ isLineEnd d = false) :
    AreInert [.paragraph [l]] := by
  intro labels
  obtain ⟨t, t', qs, ht, ht', hqs, hpieces⟩ := exists_piecesFrom_paragraph hl hpaired hchars labels
  let p : Piece := .group .paragraph (Content.pointAt [l] 0)
    (Content.pointAt [l] (Content.text [l]).length) (.tag t :: (qs ++ [.tag t']))
  refine ⟨[[p]], by simp, ?_, ?_⟩
  · intro stop around outer openTags done
    obtain ⟨inner, hinner, hread⟩ := exists_nestAll_plain
      (Content.pointAt [l] (Content.text [l]).length)
      (some ("Paragraph", Content.pointAt [l] 0)) (openTags.map (·.1) ++ outer) [(t, [])] [] qs hqs
      (by simp)
    have hnode : nestOne (openTags.map (·.1) ++ outer) p =
        .ok (.group .paragraph [.group (.element (some "p") []) inner.reverse]) := by
      have hnest := (nestAll_open ht (qs ++ [.tag t'])).trans
        ((hread [.tag t']).trans (nestAll_close ht ht' []))
      simp only [p]
      rw [nestOne]
      exact bind_eq_of_eq_ok hnest _
    refine ⟨.group .paragraph [.group (.element (some "p") []) inner.reverse], ?_, rfl,
      fun rest => ?_⟩
    · refine .group trivial fun n hn => ?_
      rw [List.mem_singleton.1 hn]
      exact .group (by simp [Group.IsSound]) fun m hm => hinner m (List.mem_reverse.1 hm)
    · change (nestOne (openTags.map (·.1) ++ outer) p >>= _) = _
      rw [hnode]
      rfl
  · have hparagraph : paragraphPiece labels 0 [l] = .ok p := by
      rw [paragraphPiece, hpieces]
      rfl
    simp only [List.reverse_singleton, partsOf, partOf, leafPieces, hparagraph]
    rfl

/-! ### Documents that differ in inert blocks -/

/-- The end of what is shown of a document, from its blocks and labels on. -/
def shownOf (stop : Point) (blocks : List Block) (labels : Labels) :
    Except Failure (List Html) := do
  let parts ← partsOf labels blocks.reverse
  Html.ofDocument (← Piece.nest stop (joinParts none false parts))

theorem shownOf_append (stop : Point) (blocks bs base : List Block) (labels : Labels) :
    shownOf stop (blocks ++ (bs ++ base)) labels =
      partsOf labels base.reverse >>= fun ps => partsOf labels bs.reverse >>= fun qs =>
        partsOf labels blocks.reverse >>= fun rs =>
          Piece.nest stop (joinParts none false (ps ++ (qs ++ rs))) >>= Html.ofDocument := by
  rw [shownOf, List.reverse_append, List.reverse_append, List.append_assoc, partsOf_append,
    partsOf_append]
  cases partsOf labels base.reverse with
  | error e => rfl
  | ok ps =>
    cases partsOf labels bs.reverse with
    | error e => rfl
    | ok qs => cases partsOf labels blocks.reverse <;> rfl

theorem joinParts_inert {xss : List (List Piece)} (hne : xss ≠ []) (ps rs : List Part) :
    joinParts none false (ps ++ (xss.map .pieces ++ rs)) =
      joinParts none false ps ++ (xss.flatten ++ joinParts none false rs) := by
  cases xss with
  | nil => exact absurd rfl hne
  | cons xs xss =>
    rw [List.map_cons, List.cons_append, joinParts_append, joinParts_map_pieces, List.flatten_cons,
      List.append_assoc]

/-- Documents that differ in inert blocks are shown with the same imports and exports. -/
theorem sameModules_shownOf (hbs : AreInert bs) (hbs' : AreInert bs') (stop stop' : Point)
    (blocks base : List Block) (labels : Labels) :
    SameOutcome Html.SameModules (shownOf stop (blocks ++ (bs ++ base)) labels)
      (shownOf stop' (blocks ++ (bs' ++ base)) labels) := by
  obtain ⟨xss, hne, hnode, hparts⟩ := hbs labels
  obtain ⟨yss, hne', hnode', hparts'⟩ := hbs' labels
  rw [shownOf_append, shownOf_append]
  refine (SameOutcome.refl (r := Eq) (fun _ => rfl) _).bind ?_
  rintro ps _ rfl
  rw [hparts, hparts']
  change SameOutcome _ (partsOf labels blocks.reverse >>= _) (partsOf labels blocks.reverse >>= _)
  refine (SameOutcome.refl (r := Eq) (fun _ => rfl) _).bind ?_
  rintro rs _ rfl
  refine SameOutcome.bind (r := SameUse) ?_ Html.sameModules_ofDocument
  rw [joinParts_inert hne, joinParts_inert hne']
  refine nestAll_append .nil (.refl []) (fun {openTags openTags' xs ys} htags huse => ?_) _
  obtain ⟨n, hn, hmodule, hread⟩ := hnode stop none [] openTags xs
  obtain ⟨m, hm, hmodule', hread'⟩ := hnode' stop' none [] openTags' ys
  rw [hread, hread', ← List.append_nil (joinParts none false rs)]
  refine nestAll_append htags (huse.cons (iff_of_true hn hm) (hmodule.trans hmodule'.symm))
    (fun htags huse => ?_) _
  cases htags with
  | nil => exact .ok huse.reverse
  | cons _ _ => exact .error _ _

/-! ### Lines -/

section Lines

open Line (splitFrom)

variable {t p x y : Text} {l e : Line} {ls ms : List Line}

theorem splitFrom_cons_of_isLineEnd {c : Char} (n : Nat) (a : Text) {r : Text}
    (hc : isLineEnd c) (hr : c = '\r' → r.head? ≠ some '\n') : splitFrom n a (c :: r) =
      ⟨a.reverse, [c], ⟨n, 1⟩, false⟩ :: splitFrom (n + 1) [] r := by
  have hend : (c = '\n' || c = '\r') = true := by simpa [isLineEnd, or_comm] using hc
  rw [splitFrom, if_pos hend]
  rintro s rfl rfl
  exact hr rfl rfl

theorem splitFrom_cons_of_not_isLineEnd {c : Char} (n : Nat) (a r : Text)
    (hc : isLineEnd c = false) : splitFrom n a (c :: r) = splitFrom n (c :: a) r := by
  have hend : ¬ (c = '\n' || c = '\r') = true := by simpa [isLineEnd, or_comm] using hc
  rw [splitFrom, if_neg hend]
  rintro s rfl rfl
  cases hc

theorem exists_cons_splitFrom {n : Nat} (l : Line) {s : Text → Text} (h : ∃ ls, ∀ y,
    splitFrom (n + 1) [] (s y) = ls ++ splitFrom (n + 1 + ls.length) [] y) :
    ∃ ls, ∀ y, l :: splitFrom (n + 1) [] (s y) = ls ++ splitFrom (n + ls.length) [] y := by
  obtain ⟨ls, hls⟩ := h
  refine ⟨l :: ls, fun y => ?_⟩
  rw [hls, List.length_cons, Nat.add_right_comm n, Nat.add_assoc n]
  rfl

/-- A text that ends a line is split on its own. -/
theorem exists_splitFrom_append (n : Nat) (a p : Text) : ∃ ls, ∀ y,
    splitFrom n a (p ++ '\n' :: y) = ls ++ splitFrom (n + ls.length) [] y := by
  fun_induction splitFrom n a p with
  | case1 n a => exact ⟨[⟨a.reverse, ['\n'], ⟨n, 1⟩, false⟩], fun y => by simp [splitFrom]⟩
  | case2 n a r ih => exact exists_cons_splitFrom _ ih
  | case3 n a c r hcr hc ih =>
    have hend : isLineEnd c := by simpa [isLineEnd, or_comm] using hc
    by_cases hlast : c = '\r' ∧ r = []
    · obtain ⟨rfl, rfl⟩ := hlast
      exact ⟨[⟨a.reverse, ['\r', '\n'], ⟨n, 1⟩, false⟩], fun y => rfl⟩
    · have hcons (y : Text) := splitFrom_cons_of_isLineEnd n a (r := r ++ '\n' :: y) hend ?_
      · simp only [List.cons_append, hcons]
        exact exists_cons_splitFrom _ ih
      · intro hcr' hhead
        cases r with
        | nil => exact hlast ⟨hcr', rfl⟩
        | cons d r => exact hcr r hcr' (by rw [← Option.some.inj hhead])
  | case4 n a c r hcr hc ih =>
    have hend : isLineEnd c = false := by simpa [isLineEnd, or_comm] using hc
    simp only [List.cons_append, splitFrom_cons_of_not_isLineEnd n a _ hend]
    exact ih

/-- A text that ends a line is split on its own, in front of a text without a byte order mark. -/
theorem exists_split_append (hp : EndsLine p) : ∃ ls, ∀ y : Text, y.head? ≠ some '\uFEFF' →
    Line.split (p ++ y) = ls ++ splitFrom (1 + ls.length) [] y := by
  rcases hp with rfl | hp
  · refine ⟨[], fun y hy => ?_⟩
    rw [List.nil_append, Line.split]
    · rfl
    · rintro r rfl
      exact hy rfl
  · obtain ⟨p, rfl⟩ := List.getLast?_eq_some_iff.1 hp
    cases p with
    | nil => exact ⟨[⟨[], ['\n'], ⟨1, 1⟩, false⟩], fun y _ => rfl⟩
    | cons c p =>
      by_cases hc : c = '\uFEFF'
      · subst hc
        obtain ⟨ls, hls⟩ := exists_splitFrom_append 1 [] p
        exact ⟨ls, fun y _ => by simpa [Line.split] using hls y⟩
      · obtain ⟨ls, hls⟩ := exists_splitFrom_append 1 [] (c :: p)
        refine ⟨ls, fun y _ => ?_⟩
        rw [List.append_assoc, Line.split]
        · exact hls y
        · rintro r hr
          exact hc (List.cons.inj hr).1

theorem splitFrom_append (n : Nat) (a : Text) {x : Text} (hx : ∀ c ∈ x, isLineEnd c = false)
    (y : Text) : splitFrom n a (x ++ y) = splitFrom n (x.reverse ++ a) y := by
  induction x generalizing a with
  | nil => rfl
  | cons c x ih =>
    rw [List.forall_mem_cons] at hx
    rw [List.cons_append, splitFrom_cons_of_not_isLineEnd n a _ hx.1, ih _ hx.2, List.reverse_cons,
      List.append_assoc]
    rfl

/-- A line of a text, and the lines behind it, the first of which is empty. -/
theorem exists_splitFrom_line (n : Nat) (hy : y = [] ∨ y = ['\n'] ∨ ['\n', '\n'] <+: y) :
    ∃ ending rest, (∀ b ∈ (Outline.dropLast rest).head?, b.text = [] ∧ b.ending ≠ []) ∧
      ∀ x : Text, (∀ c ∈ x, isLineEnd c = false) →
        splitFrom n [] (x ++ y) = ⟨x, ending, ⟨n, 1⟩, false⟩ :: rest := by
  have hread {ending : Text} {rest : List Line} (h : ∀ a, splitFrom n a y =
      ⟨a.reverse, ending, ⟨n, 1⟩, false⟩ :: rest) (x : Text) (hx : ∀ c ∈ x, isLineEnd c = false) :
      splitFrom n [] (x ++ y) = ⟨x, ending, ⟨n, 1⟩, false⟩ :: rest := by
    rw [splitFrom_append n [] hx, h, List.append_nil, List.reverse_reverse]
  rcases hy with rfl | rfl | ⟨z, rfl⟩
  · exact ⟨[], [], by simp [Outline.dropLast], hread fun a => rfl⟩
  · exact ⟨['\n'], [⟨[], [], ⟨n + 1, 1⟩, false⟩], by simp [Outline.dropLast], hread fun a => rfl⟩
  · refine ⟨['\n'], ⟨[], ['\n'], ⟨n + 1, 1⟩, false⟩ :: splitFrom (n + 1 + 1) [] z, ?_,
      hread fun a => rfl⟩
    rw [dropLast_cons _ (splitFrom_ne_nil _ _ _)]
    intro b hb
    obtain rfl := Option.some.inj hb
    exact ⟨rfl, by simp⟩

theorem dropLast_append (ls : List Line) (hms : ms ≠ []) :
    Outline.dropLast (ls ++ ms) = ls ++ Outline.dropLast ms := by
  induction ls with
  | nil => rfl
  | cons l ls ih => rw [List.cons_append, dropLast_cons l (by simp [hms]), ih, List.cons_append]

/-- A container whose further lines start with a mark or with blanks. -/
def Container.IsMarked (c : Container) : Prop := c.kind = .quote ∨ 0 < c.size

instance (c : Container) : Decidable c.IsMarked := inferInstanceAs (Decidable (_ ∨ _))

/-- No container goes on with a line that begins with an angle bracket. -/
theorem Container.IsMarked.continue?_eq_none {c : Container} (hc : c.IsMarked)
    (hl : l.text.head? = some '<') : c.continue? l = none := by
  obtain ⟨s, hs⟩ := List.head?_eq_some_iff.1 hl
  have htake : l.text.takeWhile Line.isIndent = [] := by rw [hs]; rfl
  have htrimmed : l.trimmed.text = '<' :: s := by rw [text_trimmed, hs]; rfl
  have hindent : l.indent = 0 := by rw [Line.indent, htake]; exact Nat.sub_self _
  have hblank : l.isBlank = false := by rw [Line.isBlank, hs]; rfl
  unfold Container.continue?
  split
  · simp [quoteMark?, htrimmed]
  · rename_i hkind
    have hsize : ¬ c.size ≤ 0 := Nat.not_le.2 (hc.resolve_left hkind)
    simp [hblank, hindent, hsize]

/-! ### Data before a document -/

theorem afterMark?_append (mark : Char) (ls ms : List Line) : afterMark? mark (ls ++ ms) =
    match afterMark? mark ls with
    | some body => some (body ++ ms)
    | none => afterMark? mark ms := by
  induction ls with
  | nil => rfl
  | cons l ls ih =>
    rw [List.cons_append, afterMark?, afterMark?]
    split
    · rfl
    · exact ih

theorem exists_of_afterMark? {mark : Char} {body : List Line} (h : afterMark? mark ls = some body) :
    ∃ front, ls = front ++ body := by
  induction ls with
  | nil => cases h
  | cons l ls ih =>
    rw [afterMark?] at h
    split at h
    · cases h
      exact ⟨[l], rfl⟩
    · obtain ⟨front, rfl⟩ := ih h
      exact ⟨l :: front, rfl⟩

theorem isFrontMatterMark_of_lt (hl : l.text.head? = some '<') {mark : Char} (hmark : mark ≠ '<') :
    isFrontMatterMark mark l = false := by
  refine decide_eq_false fun heq => hmark ?_
  obtain ⟨b, hb, -⟩ := exists_of_dropEndWhile Line.isIndent l.text
  rw [hb, heq] at hl
  exact Option.some.inj hl

/-- Where the data before a document have ended, they end there whatever follows. -/
theorem exists_dropFrontMatter_append (he : e.text = [])
    (h : (dropFrontMatter (ls ++ [e])).2 = 0) : ∃ front pre, ls = front ++ pre ∧
      dropFrontMatter (ls ++ [e]) = (pre ++ [e], 0) ∧
      ∀ l ms, l.text.head? = some '<' →
        dropFrontMatter (ls ++ l :: ms) = (pre ++ l :: ms, 0) := by
  have hunmarked (mark : Char) : isFrontMatterMark mark e = false := by
    simp [isFrontMatterMark, he, dropEndWhile]
  cases ls with
  | nil =>
    refine ⟨[], [], rfl, ?_, fun l ms hl => ?_⟩
    · simp [dropFrontMatter, hunmarked]
    · have hfind : ['-', '+'].find? (fun mark => isFrontMatterMark mark l) = none := by
        simp [isFrontMatterMark_of_lt hl]
      rw [List.nil_append, dropFrontMatter, hfind]
  | cons f ls =>
    cases hfind : ['-', '+'].find? fun mark => isFrontMatterMark mark f with
    | none =>
      refine ⟨[], f :: ls, rfl, ?_, fun l ms hl => ?_⟩ <;>
      · rw [List.cons_append, dropFrontMatter, hfind]
    | some mark =>
      have hlast : afterMark? mark [e] = none := by simp [afterMark?, hunmarked]
      simp only [List.cons_append, dropFrontMatter, hfind, afterMark?_append, hlast] at h ⊢
      cases hbody : afterMark? mark ls with
      | none =>
        rw [hbody] at h
        simp at h
      | some body =>
        obtain ⟨front, hfront⟩ := exists_of_afterMark? hbody
        exact ⟨f :: front, body, by rw [hfront]; rfl, rfl, fun _ _ _ => rfl⟩

end Lines

/-! ### Fragments in documents -/

section Fragments

open Line (splitFrom)

variable {p x x' y : Text} {size : Nat}

/-- The lines of a document that are read as Markdown. -/
def bodyLines (t : Text) : List Line := (dropFrontMatter (Line.split t)).1

/-- The outline of a text as the start of a document of `size` lines. -/
def outlineOf (size : Nat) (t : Text) : Except Failure Outline :=
  (Outline.dropLast (bodyLines t)).foldlM (Outline.readLine (4 * size + 8)) Outline.empty

/-- A text of one line, which begins with a tag and makes one node wherever it is read. -/
structure IsFragment (x : Text) : Prop where
  head : x.head? = some '<'
  oneLine : ∀ c ∈ x, isLineEnd c = false
  leaves : ∀ (n : Nat) (o : Outline) (l : Line), l.text = x → o.leaf = .none →
    (∀ f ∈ o.frames, f.container.continue? l = none) → ∃ bs, o.Leaves (n + 6) l bs ∧ AreInert bs

/-- The element for an image is a fragment. -/
theorem isFragment_placeholder {id : String}
    (hid : ∀ c ∈ id.toList, c ≠ '"' ∧ isLineEnd c = false) :
    IsFragment (Diagram.placeholder id) where
  head := by simp [Diagram.placeholder]
  oneLine := by
    have hends : ∀ c ∈ "<div id=\"".toList ++ (id.toList ++ "\"></div>".toList),
        isLineEnd c = false := by
      simp only [List.forall_mem_append]
      exact ⟨List.all_iff_forall_prop.1 (by decide), fun c hc => (hid c hc).2,
        List.all_iff_forall_prop.1 (by decide)⟩
    simpa [Diagram.placeholder] using hends
  leaves n o l hl ho hframes := by
    obtain ⟨t, t', hleaves, ht, ht'⟩ := exists_leaves_placeholder hl hid ho hframes n
    exact ⟨_, hleaves, areInert_element ht ht'⟩

/-- A text that is written on one line ends in the backslashes that it ends in without its carriage
returns. -/
theorem takeWhile_inlineText {u : Text} (hu : u.getLast? ≠ some '\\') (s : Text) :
    (u ++ Diagram.inlineText s).reverse.takeWhile (· = '\\') =
      (s.filter (· ≠ '\r')).reverse.takeWhile (· = '\\') := by
  induction s using List.reverseRecOn with
  | nil =>
    rw [List.getLast?_eq_head?_reverse] at hu
    change (u ++ []).reverse.takeWhile _ = []
    rw [List.append_nil]
    cases hrev : u.reverse with
    | nil => rfl
    | cons c r =>
      rw [hrev] at hu
      exact List.takeWhile_cons_of_neg (by simpa using hu)
  | append_singleton s c ih =>
    have hinline :
        Diagram.inlineText (s ++ [c]) = Diagram.inlineText s ++ Diagram.inlineChar c := by
      simp [Diagram.inlineText]
    rw [hinline, List.filter_append, ← List.append_assoc]
    generalize u ++ Diagram.inlineText s = left at ih ⊢
    generalize s.filter (· ≠ '\r') = right at ih ⊢
    rw [List.reverse_append, List.reverse_append]
    by_cases hcr : c = '\r'
    · subst hcr
      exact ih
    have hkept : [c].filter (· ≠ '\r') = [c] := by simp [hcr]
    rw [hkept]
    by_cases hslash : c = '\\'
    · subst hslash
      change List.takeWhile _ ('\\' :: _) = List.takeWhile _ ('\\' :: _)
      rw [List.takeWhile_cons_of_pos (by decide), List.takeWhile_cons_of_pos (by decide)]
      exact congrArg ('\\' :: ·) ih
    · obtain ⟨d, r, hd, hrev⟩ : ∃ d r, d ≠ '\\' ∧ (Diagram.inlineChar c).reverse = d :: r := by
        unfold Diagram.inlineChar
        split
        case h_6 => exact absurd rfl hcr
        case h_8 => exact ⟨c, [], hslash, rfl⟩
        all_goals exact ⟨_, _, by decide, rfl⟩
      rw [hrev, List.cons_append, List.takeWhile_cons_of_neg (by simpa using hd)]
      change [] = List.takeWhile _ (c :: _)
      rw [List.takeWhile_cons_of_neg (by simpa using hslash)]

/-- The paragraph of a failure is a fragment, if the backslashes at the end of its message come in
pairs. -/
theorem isFragment_failureParagraph {d : Diagram.Dialect} {e : Diagram.Failure}
    (hpaired : HasPairedEnd (e.message.toList.filter (· ≠ '\r'))) :
    IsFragment (Diagram.failureParagraph d e) := by
  let x := (d.displayName.toList ++ " Error: ".toList) ++ Diagram.inlineText e.message.toList
  have hx : Diagram.failureParagraph d e = "<p>".toList ++ (x ++ closingTag) := by
    simp [x, Diagram.failureParagraph_eq, closingTag]
  have hchars : ∀ c ∈ x, c ≠ '<' ∧ c ≠ '\x7b' ∧ isLineEnd c = false := by
    rw [List.forall_mem_append]
    constructor
    · exact List.all_iff_forall_prop.1 (by cases d <;> decide)
    · intro c hc
      have hne (e : Char) (he : e ∈ ['<', '>', '\x7b', '\x7d', '\r', '\n']) : c ≠ e := by
        rintro rfl
        exact Diagram.notMem_inlineText he _ hc
      exact ⟨hne _ (by decide), hne _ (by decide), by
        simp [isLineEnd, hne '\r' (by decide), hne '\n' (by decide)]⟩
  refine ⟨by simp [hx], ?_, fun n o l hl ho hframes => ?_⟩
  · rw [hx, List.forall_mem_append, List.forall_mem_append]
    exact ⟨List.all_iff_forall_prop.1 (by decide), fun c hc => (hchars c hc).2.2,
      List.all_iff_forall_prop.1 (by decide)⟩
  · refine ⟨_, leaves_failureParagraph hl ho hframes n, ?_⟩
    have hend : HasPairedEnd x := by
      rw [HasPairedEnd, takeWhile_inlineText (by cases d <;> decide)]
      exact hpaired
    exact areInert_paragraph (hl.trans hx) hend hchars

/-- The end of the last of some lines. -/
def endOf (ls : List Line) : Point := (ls.getLast?.map Line.stop).getD ⟨1, 1⟩

/-- What a document is shown as, from its blocks on. -/
theorem shownAs_eq {t : Text} {ls : List Line} (h : dropFrontMatter (Line.split t) = (ls, 0)) :
    shownAs t =
      ((Outline.dropLast ls).foldlM (Outline.readLine (4 * ls.length + 8)) Outline.empty >>=
        Outline.finish (4 * ls.length + 8) (endOf (Line.split t))).map
        Outline.content >>= fun (blocks, labels) =>
          shownOf (endOf (Line.split t)) blocks labels := by
  have hend : ((Line.split t).getLast?.map Line.stop).getD ⟨1, 1⟩ = endOf (Line.split t) := rfl
  rw [shownAs, parseDocument, h]
  simp only [Outline.ofLines, List.take_zero, List.drop_zero, List.foldlM_nil, pure_bind, hend]
  cases (Outline.dropLast ls).foldlM (Outline.readLine (4 * ls.length + 8)) Outline.empty with
  | error e => rfl
  | ok o =>
    change ((Outline.endLeaf _ _ o >>= _) >>= _) >>= _ = ((Outline.endLeaf _ _ o >>= _).map _ >>= _)
    cases Outline.endLeaf (4 * ls.length + 8) (endOf (Line.split t)) o with
    | error e => rfl
    | ok o =>
      obtain ⟨c, hc⟩ : ∃ c, o.closeContainers o.frames.length = c := ⟨_, rfl⟩
      change (partsOf ⟨(o.closeContainers _).definitions, (o.closeContainers _).notes⟩
        (o.closeContainers _).blocks.reverse >>= _) >>= _ =
        partsOf ⟨(o.closeContainers _).definitions, (o.closeContainers _).notes⟩
          (o.closeContainers _).blocks.reverse >>= _
      rw [hc]
      cases partsOf ⟨c.definitions, c.notes⟩ c.blocks.reverse with
      | error e => rfl
      | ok parts =>
        change (Piece.nest _ _ >>= _) >>= _ = Piece.nest _ _ >>= _
        cases Piece.nest (endOf (Line.split t)) (joinParts none false parts) <;> rfl

/-- A line that begins with an angle bracket and the lines behind it are read behind the lines in
front of it. -/
theorem exists_split_of_fragment (hp : EndsLine p) (hfront : (dropFrontMatter (Line.split p)).2 = 0)
    (hy : y = [] ∨ y = ['\n'] ∨ ['\n', '\n'] <+: y) :
    ∃ (ls pre rest : List Line) (line : Text → Line), Outline.dropLast (bodyLines p) = pre ∧
      (∀ b ∈ (Outline.dropLast rest).head?, b.text = [] ∧ b.ending ≠ []) ∧
      (∀ x, (line x).text = x) ∧
      ∀ x : Text, x.head? = some '<' → (∀ c ∈ x, isLineEnd c = false) →
        Line.split (p ++ (x ++ y)) = ls ++ line x :: rest ∧
        dropFrontMatter (Line.split (p ++ (x ++ y))) = (pre ++ line x :: rest, 0) ∧
        Outline.dropLast (pre ++ line x :: rest) = pre ++ line x :: Outline.dropLast rest := by
  obtain ⟨ls, hls⟩ := exists_split_append hp
  obtain ⟨ending, rest, hblank, hline⟩ := exists_splitFrom_line (1 + ls.length) hy
  have hend : Line.split p = ls ++ [⟨[], [], ⟨1 + ls.length, 1⟩, false⟩] := by
    simpa [splitFrom] using hls [] (by simp)
  rw [hend] at hfront
  obtain ⟨front, pre, -, hpre, hdrop⟩ := exists_dropFrontMatter_append rfl hfront
  refine ⟨ls, pre, rest, fun x => ⟨x, ending, ⟨1 + ls.length, 1⟩, false⟩, ?_, hblank, fun _ => rfl,
    fun x hx hends => ?_⟩
  · rw [bodyLines, hend, hpre, Outline.dropLast]
    simp
  · have hne : x ≠ [] := by
      rintro rfl
      cases hx
    have hsplit : Line.split (p ++ (x ++ y)) =
        ls ++ ⟨x, ending, ⟨1 + ls.length, 1⟩, false⟩ :: rest := by
      rw [hls, hline x hends]
      rw [List.head?_append_of_ne_nil _ hne, hx]
      simp
    refine ⟨hsplit, by rw [hsplit]; exact hdrop _ _ hx, ?_⟩
    rw [dropLast_append pre (List.cons_ne_nil _ _)]
    cases rest with
    | nil => simp [Outline.dropLast, hne]
    | cons b bs => rw [dropLast_cons _ (List.cons_ne_nil b bs)]

/-- One fragment in the place of another makes the same document, where no paragraph, code or markup
is open. -/
theorem convertedAlike_of_fragment (hp : EndsLine p)
    (hfront : (dropFrontMatter (Line.split p)).2 = 0)
    (hy : y = [] ∨ y = ['\n'] ∨ ['\n', '\n'] <+: y)
    (houtline : ∀ o, outlineOf size p = .ok o → o.leaf = .none ∧
      ∀ f ∈ o.frames, f.container.IsMarked)
    (hsize : (bodyLines (p ++ (x ++ y))).length = size) (hx : IsFragment x) (hx' : IsFragment x') :
    ConvertedAlike (p ++ (x ++ y)) (p ++ (x' ++ y)) ∧
      (bodyLines (p ++ (x' ++ y))).length = size := by
  obtain ⟨ls, pre, rest, line, hpre, hblank, htext, hlines⟩ := exists_split_of_fragment hp hfront hy
  obtain ⟨hsplit, hdrop, hlast⟩ := hlines x hx.head hx.oneLine
  obtain ⟨hsplit', hdrop', hlast'⟩ := hlines x' hx'.head hx'.oneLine
  have hlength : (pre ++ line x :: rest).length = size := by rw [← hsize, bodyLines, hdrop]
  have hlength' : (pre ++ line x' :: rest).length = size := by
    rw [← hlength]
    simp
  refine ⟨?_, by rw [bodyLines, hdrop', hlength']⟩
  rw [ConvertedAlike, shownAs_eq hdrop, shownAs_eq hdrop', hlast, hlast', hlength, hlength',
    hsplit, hsplit', List.foldlM_append, List.foldlM_append]
  rw [outlineOf, hpre] at houtline
  cases hread : pre.foldlM (Outline.readLine (4 * size + 8)) Outline.empty with
  | error e => exact .error e e
  | ok o =>
    obtain ⟨hleaf, hframes⟩ := houtline o hread
    let stop := endOf rest
    obtain ⟨r, hr⟩ := exists_read_of_leaves (4 * size + 8) o stop hblank
    have hshown {x : Text} (hx : IsFragment x) : ∃ bs, AreInert bs ∧
        ((line x :: Outline.dropLast rest).foldlM (Outline.readLine (4 * size + 8)) o >>=
          Outline.finish (4 * size + 8)
            (endOf (ls ++ line x :: rest))).map Outline.content =
          r.map fun (blocks, labels) => (blocks ++ (bs ++ o.closed.blocks), labels) := by
      obtain ⟨bs, hleaves, hinert⟩ := hx.leaves (4 * size + 2) o (line x) (htext x) hleaf
        fun f hf => (hframes f hf).continue?_eq_none ((htext x).symm ▸ hx.head)
      refine ⟨bs, hinert, hr _ _ _ hleaves fun hrest => ?_⟩
      have hne : rest ≠ [] := by
        rintro rfl
        exact hrest rfl
      rw [endOf, List.append_cons, List.getLast?_append_of_ne_nil _ hne]
      rfl
    obtain ⟨bs, hbs, hread⟩ := hshown hx
    obtain ⟨bs', hbs', hread'⟩ := hshown hx'
    change SameOutcome _ (Except.map _ (List.foldlM _ o _ >>= _) >>= _)
      (Except.map _ (List.foldlM _ o _ >>= _) >>= _)
    rw [hread, hread']
    cases r with
    | error e => exact .error e e
    | ok found => exact sameModules_shownOf hbs hbs' _ _ found.1 _ found.2

end Fragments

end DocPreview.Markup
