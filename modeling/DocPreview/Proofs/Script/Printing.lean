import DocPreview.Script.Writer.Printer
import Mathlib.Data.List.Infix

/-!
# Writing goes on

Whatever is written on a page stands behind what has been written before.

## Main definitions

* `Page.IsSound`: a page on which lines start where a line has ended.
* `Writer.Grows`: an action that writes behind what stands on a page.

## Main results

* `grows_write`: a node in any place.
-/

namespace DocPreview.Script

open Text

variable {α β : Type}

/-! ### Pages -/

/-- A page on which nothing stands on the current line only at the start of the text and behind a
line break. -/
def Page.IsSound (p : Page) : Prop := p.isLineStart → p.text = [] ∨ ['\n'] <:+ p.text

/-- A page on which more has been written; without comments on the one before it has none. -/
structure Page.LeadsTo (p q : Page) : Prop where
  isSound : q.IsSound
  text : p.text <+: q.text
  comments : p.comments = [] → q.comments = []

theorem Page.LeadsTo.trans {p q r : Page} (h : p.LeadsTo q) (h' : q.LeadsTo r) : p.LeadsTo r :=
  ⟨h'.isSound, h.text.trans h'.text, fun hp => h'.comments (h.comments hp)⟩

theorem Page.IsSound.leadsTo_self {p : Page} (h : p.IsSound) : p.LeadsTo p :=
  ⟨h, List.prefix_rfl, id⟩

namespace Writer

/-- An action that writes behind what stands on a page. -/
def Grows (w : Writer α) : Prop := ∀ p : Page, p.IsSound → p.LeadsTo (w p).2

theorem isSound_blank (comments : List PlacedComment) : (blank comments).IsSound :=
  fun _ => Or.inl rfl

/-! ### Actions -/

theorem text_push (p : Page) (s : String) (isLineStart : Bool) :
    Page.text { p with pieces := s :: p.pieces, isLineStart } = p.text ++ s.toList := by
  simp [Page.text]

theorem run_put_lineStart {p : Page} {s : String} (hs : s.isEmpty = false)
    (hp : p.isLineStart = true) : (put s p).2 =
      { p with pieces := s :: indentation p.level :: p.pieces, isLineStart := false } := by
  show (if s.isEmpty then p else _) = _
  rw [hs, if_neg Bool.false_ne_true, if_pos hp]

theorem run_put {p : Page} {s : String} (hs : s.isEmpty = false) (hp : p.isLineStart = false) :
    (put s p).2 = { p with pieces := s :: p.pieces, isLineStart := false } := by
  show (if s.isEmpty then p else _) = _
  rw [hs, if_neg Bool.false_ne_true, hp, if_neg Bool.false_ne_true]

theorem run_put_isEmpty {p : Page} {s : String} (hs : s.isEmpty = true) : (put s p).2 = p :=
  if_pos hs

/-- Where a text is written, at the start of a line behind its indentation. -/
theorem text_put {p : Page} {s : String} (hs : s.isEmpty = false) :
    (put s p).2.isLineStart = false ∧ (put s p).2.text = p.text ++
      ((if p.isLineStart then (indentation p.level).toList else []) ++ s.toList) := by
  cases hp : p.isLineStart with
  | true =>
    rw [run_put_lineStart hs hp]
    exact ⟨rfl, by simp [Page.text]⟩
  | false =>
    rw [run_put hs hp]
    exact ⟨rfl, by simp [Page.text]⟩

theorem grows_put (s : String) : Grows (put s) := by
  intro p hp
  cases hs : s.isEmpty with
  | true =>
    rw [run_put_isEmpty hs]
    exact hp.leadsTo_self
  | false =>
    obtain ⟨hline, htext⟩ := text_put (p := p) hs
    refine ⟨fun h => absurd h (by simp [hline]), htext ▸ List.prefix_append .., fun h => ?_⟩
    rw [← h]
    cases hp : p.isLineStart with
    | true => rw [run_put_lineStart hs hp]
    | false => rw [run_put hs hp]

theorem run_line (p : Page) : (line p).2 =
    if p.isLineStart then p else { p with pieces := "\n" :: p.pieces, isLineStart := true } := rfl

theorem isLineStart_line (p : Page) : (line p).2.isLineStart = true := by
  rw [run_line]
  split
  · assumption
  · rfl

theorem grows_line : Grows line := by
  intro p hp
  rw [run_line]
  split
  · exact hp.leadsTo_self
  · have htext := text_push p "\n" true
    exact ⟨fun _ => Or.inr (htext ▸ List.suffix_append ..), htext ▸ List.prefix_append .., id⟩

theorem grows_pure (a : α) : Grows (pure a : Writer α) := fun _ hp => hp.leadsTo_self

theorem grows_get : Grows (get : Writer Page) := fun _ hp => hp.leadsTo_self

theorem Grows.bind {w : Writer α} {f : α → Writer β} (hw : Grows w) (hf : ∀ a, Grows (f a)) :
    Grows (w >>= f) := fun p hp =>
  (hw p hp).trans (hf (w p).1 (w p).2 (hw p hp).isSound)

/-- One action after another. -/
theorem Grows.then {w v : Writer Unit} (hw : Grows w) (hv : Grows v) : Grows (do w; v) :=
  hw.bind fun _ => hv

/-- The level of a page does not matter. -/
theorem grows_level (f : Nat → Nat) :
    Grows (modify fun p => { p with level := f p.level } : Writer Unit) := fun _ hp =>
  ⟨hp, List.prefix_rfl, id⟩

/-! ### Actions made of actions -/

variable {w between : Writer Unit} {ws : List (Writer Unit)}

theorem Grows.indented (hw : Grows w) : Grows (indented w) :=
  (grows_level (· + 1)).bind fun _ => hw.bind fun _ => grows_level (· - 1)

theorem Grows.separated (hbetween : Grows between) (hws : ∀ w ∈ ws, Grows w) :
    Grows (separated between ws) := by
  fun_induction Writer.separated between ws with
  | case1 => exact grows_pure ()
  | case2 w => exact hws w List.mem_cons_self
  | case3 w ws _ ih =>
    obtain ⟨hw, hws⟩ := List.forall_mem_cons.1 hws
    exact hw.bind fun _ => hbetween.bind fun _ => ih hws

theorem grows_commas (hws : ∀ w ∈ ws, Grows w) : Grows (commas ws) :=
  (grows_put _).separated hws

theorem grows_lined (opener closer mark : String) (hws : ∀ w ∈ ws, Grows w) :
    Grows (lined opener closer mark ws) :=
  have hbetween : Grows (do put mark; line) := (grows_put _).bind fun _ => grows_line
  (grows_put _).bind fun _ => grows_line.bind fun _ =>
    (hbetween.separated hws).indented.bind fun _ => grows_line.bind fun _ => grows_put _

theorem grows_after (text : String) {w : Option (Writer Unit)} (hw : ∀ v ∈ w, Grows v) :
    Grows (after text w) := by
  cases w with
  | none => exact grows_pure ()
  | some v => exact (grows_put _).bind fun _ => hw v rfl

theorem grows_forM {f : α → Writer Unit} {as : List α} (hf : ∀ a ∈ as, Grows (f a)) :
    Grows (as.forM f) := by
  induction as with
  | nil => exact grows_pure ()
  | cons a as ih =>
    obtain ⟨ha, has⟩ := List.forall_mem_cons.1 hf
    exact ha.bind fun _ => ih has

/-! ### Comments -/

theorem grows_comment (blankBefore : Bool) (c : Comment) : Grows (comment blankBefore c) := by
  have hline : Grows (do put ("//" ++ c.text); line) := (grows_put _).bind fun _ => grows_line
  have hblock : Grows (do put ("/*" ++ c.text ++ "*/"); put " ") :=
    (grows_put _).bind fun _ => grows_put _
  unfold comment
  dsimp only
  repeat' split
  · exact (grows_put _).bind fun _ => hline
  · exact (grows_put _).bind fun _ => hblock
  · exact hline
  · exact hblock

/-- Taking comments from a page changes its comments only. -/
theorem exists_run_takeComments (isLeading : Bool) (place : Nat) (p : Page) :
    ∃ isKept : PlacedComment → Bool, (takeComments isLeading place p).2 =
      { p with comments := p.comments.filter isKept } := by
  let isMine (c : PlacedComment) : Bool := c.isLeading == isLeading && c.place == place
  by_cases hmine : (p.comments.filter isMine).isEmpty
  · refine ⟨fun _ => true, ?_⟩
    rw [List.filter_true]
    show ((if (p.comments.filter isMine).isEmpty then pure [] else _ : Writer (List Comment)) p).2 = _
    rw [if_pos hmine]
    rfl
  · refine ⟨fun c => !isMine c, ?_⟩
    show ((if (p.comments.filter isMine).isEmpty then pure [] else _ : Writer (List Comment)) p).2 = _
    rw [if_neg hmine]
    rfl

theorem grows_takeComments (isLeading : Bool) (place : Nat) :
    Grows (takeComments isLeading place) := by
  intro p hp
  obtain ⟨isKept, hrun⟩ := exists_run_takeComments isLeading place p
  rw [hrun]
  exact ⟨hp, List.prefix_rfl, fun h => by rw [h, List.filter_nil]⟩

/-- What is written before a position. -/
theorem run_leading (place : Nat) (p : Page) : (leading place p).2 =
    if p.comments.isEmpty then p
    else ((do (← takeComments true place).forM (comment false) : Writer Unit) p).2 := by
  show ((if p.comments.isEmpty then pure () else _ : Writer Unit) p).2 = _
  split <;> rfl

theorem grows_leading (place : Nat) : Grows (leading place) := by
  refine grows_get.bind fun p => ?_
  split
  · exact grows_pure ()
  · exact (grows_takeComments true place).bind fun cs => grows_forM fun c _ => grows_comment false c

theorem grows_trailing (place : Nat) : Grows (trailing place) := by
  refine grows_get.bind fun p => ?_
  split
  · exact grows_pure ()
  · exact (grows_takeComments false place).bind fun cs => grows_forM fun c _ => grows_comment true c

end Writer

open Writer

/-! ### Parts of a script -/

variable {w : Writer Unit} {ws params body : List (Writer Unit)}

theorem grows_printBlock (hws : ∀ w ∈ ws, Grows w) : Grows (printBlock ws) := by
  unfold printBlock
  split
  · exact grows_put _
  · exact grows_lined _ _ _ hws

theorem grows_printParts (opener closer : String) (hws : ∀ w ∈ ws, Grows w) :
    Grows (printParts opener closer ws) := by
  unfold printParts
  split
  · exact grows_put _
  · exact grows_lined _ _ _ hws

theorem grows_printNames (hws : ∀ w ∈ ws, Grows w) : Grows (printNames ws) := by
  unfold printNames
  refine (grows_put _).bind fun _ => (grows_commas hws).bind fun _ => ?_
  dsimp only
  split
  · exact (grows_put _).bind fun _ => grows_put _
  · exact grows_put _

theorem grows_printFunctionRest (hparams : ∀ w ∈ params, Grows w) (hbody : ∀ w ∈ body, Grows w) :
    Grows (printFunctionRest params body) :=
  (grows_put _).bind fun _ => (grows_commas hparams).bind fun _ => (grows_put _).bind fun _ =>
    grows_printBlock hbody

theorem grows_printTemplate (texts : List String) (hws : ∀ w ∈ ws, Grows w) :
    Grows (printTemplate texts ws) := by
  fun_induction printTemplate texts ws with
  | case1 t ts w ws ih =>
    obtain ⟨hw, hws⟩ := List.forall_mem_cons.1 hws
    exact (grows_put _).bind fun _ => (grows_put _).bind fun _ => hw.bind fun _ =>
      (grows_put _).bind fun _ => ih hws
  | case2 => exact grows_put _
  | case3 => exact grows_pure ()

theorem grows_printEach (text : String) (hws : ∀ w ∈ ws, Grows w) : Grows (printEach text ws) :=
  grows_forM fun w hw => (grows_put _).bind fun _ => hws w hw

theorem Writer.Grows.putEnd (hw : Grows w) : Grows (putEnd w) := hw.bind fun _ => grows_put _

theorem Writer.Grows.printStatement (hw : Grows w) (span : Span) :
    Grows (printStatement span w) :=
  (grows_leading _).bind fun _ => hw.bind fun _ => (grows_trailing _).bind fun _ => grows_line

theorem Writer.Grows.printExpr (hw : Grows w) (span : Span) : Grows (printExpr span w) :=
  (grows_leading _).bind fun _ => hw.bind fun _ => grows_trailing _

theorem Writer.Grows.printIn (hw : Grows w) (place : Place) (span : Span) :
    Grows (printIn place span w) := by
  unfold Script.printIn
  split
  · exact hw.printStatement span
  · exact hw.printExpr span

theorem Writer.Grows.methodHead (hw : Grows w) (place : Place) (kind : MethodKind)
    (isAsync isGenerator : Bool) : Grows (methodHead place kind w isAsync isGenerator) := by
  refine (grows_put _).bind fun _ => hw.bind fun _ => ?_
  split
  · exact grows_put _
  · exact grows_pure ()

theorem grows_printImports {outside braced : List (Writer Unit)} (houtside : ∀ w ∈ outside, Grows w)
    (hbraced : ∀ w ∈ braced, Grows w) : Grows (printImports outside braced) := by
  unfold printImports
  split
  · exact grows_commas houtside
  · exact grows_commas (List.forall_mem_append.2
      ⟨houtside, List.forall_mem_singleton.2 (grows_printNames hbraced)⟩)

/-! ### Nodes -/

/-- A place in which what is written before the node goes on behind what stands on a page. -/
def Place.Grows : Place → Prop
  | .method head => ∀ isAsync isGenerator, Writer.Grows (head isAsync isGenerator)
  | _ => True

theorem Place.grows_part (place : Place) : place.part.Grows := by
  cases place <;> exact True.intro

/-- A node that is written behind what stands on a page, whatever its place is. -/
def Node.Grows (n : Node) : Prop := ∀ place : Place, place.Grows → Writer.Grows (n.write place)

/-- Nodes of which each one is written behind what stands on a page. -/
abbrev AllGrow (ns : List Node) : Prop := ∀ n ∈ ns, n.Grows

/-- A node that is missing or written behind what stands on a page. -/
abbrev MayGrow (o : Option Node) : Prop := ∀ n ∈ o, n.Grows

section Nodes

variable {s : Span} {a b c : Node} {as bs : List Node} {o p q : Option Node}

theorem AllGrow.writeAll (h : AllGrow as) (place : Place) (hplace : place.Grows) :
    ∀ w ∈ writeAll place as, Grows w := by
  induction as with
  | nil => exact fun w hw => absurd hw List.not_mem_nil
  | cons n ns ih =>
    obtain ⟨hn, hns⟩ := List.forall_mem_cons.1 h
    exact List.forall_mem_cons.2 ⟨hn place hplace, ih hns⟩

theorem MayGrow.writeOption (h : MayGrow o) (place : Place) (hplace : place.Grows) :
    ∀ w ∈ writeOption place o, Grows w := by
  cases o with
  | none => exact fun w hw => absurd hw (Option.not_mem_none w)
  | some n =>
    rintro w hw
    cases Option.mem_some_iff.1 hw
    exact h n rfl place hplace

/-! #### Expressions -/

theorem grows_template {texts : List String} (has : AllGrow as) :
    (Node.template s texts as).Grows := fun _ _ =>
  ((grows_put _).then ((grows_printTemplate texts (has.writeAll .expr trivial)).then
    (grows_put _))).printExpr s

theorem grows_tagged (ha : a.Grows) (hb : b.Grows) : (Node.tagged s a b).Grows := fun _ _ =>
  ((ha .expr trivial).then (hb .expr trivial)).printExpr s

theorem grows_array (has : AllGrow as) : (Node.array s as).Grows := fun place _ => by
  have hparts := (grows_printParts "[" "]" (has.writeAll .expr trivial)).printExpr s
  cases place with
  | target =>
    exact ((grows_put _).then ((grows_commas (has.writeAll .target trivial)).then
      (grows_put _))).printExpr s
  | _ => exact hparts

theorem grows_object (has : AllGrow as) : (Node.object s as).Grows := fun place _ => by
  have hmembers :=
    (grows_printParts "\x7b" "\x7d" (has.writeAll .member trivial)).printExpr s
  cases place with
  | target => exact (grows_printNames (has.writeAll .target trivial)).printExpr s
  | _ => exact hmembers

theorem grows_keyValue (ha : a.Grows) (hb : b.Grows) : (Node.keyValue s a b).Grows :=
  fun place _ =>
    (ha .expr trivial).then ((grows_put _).then (hb place.part place.grows_part))

theorem grows_computedKey (ha : a.Grows) : (Node.computedKey s a).Grows := fun _ _ =>
  (grows_put _).then ((ha .expr trivial).then (grows_put _))

theorem grows_spread (ha : a.Grows) : (Node.spread s a).Grows := fun place _ => by
  have hspread (part : Place) (hpart : part.Grows) :=
    ((grows_put "...").then (ha part hpart)).printExpr s
  cases place with
  | markup =>
    exact ((grows_put _).then ((ha .expr trivial).then (grows_put _))).printExpr s
  | target => exact hspread .target trivial
  | _ => exact hspread .expr trivial

theorem grows_initialized (ha : a.Grows) (hb : b.Grows) : (Node.initialized s a b).Grows :=
  fun _ _ => (ha .target trivial).then ((grows_put _).then (hb .expr trivial))

theorem grows_unary {op : String} (ha : a.Grows) : (Node.unary s op a).Grows := fun _ _ =>
  ((grows_put _).then (ha .expr trivial)).printExpr s

theorem grows_update {op : String} {isBefore : Bool} (ha : a.Grows) :
    (Node.update s op isBefore a).Grows := fun _ _ => by
  have harg := ha .expr trivial
  cases isBefore with
  | true => exact ((grows_put _).then (harg.then (grows_pure ()))).printExpr s
  | false => exact (harg.then (grows_put _)).printExpr s

theorem grows_binary {op : String} (ha : a.Grows) (hb : b.Grows) :
    (Node.binary s op a b).Grows := fun _ _ =>
  ((ha .expr trivial).then ((grows_put _).then (hb .expr trivial))).printExpr s

theorem grows_assign {op : String} (ha : a.Grows) (hb : b.Grows) :
    (Node.assign s op a b).Grows := fun _ _ =>
  ((ha .target trivial).then ((grows_put _).then (hb .expr trivial))).printExpr s

theorem grows_conditional (ha : a.Grows) (hb : b.Grows) (hc : c.Grows) :
    (Node.conditional s a b c).Grows := fun _ _ =>
  ((ha .expr trivial).then ((grows_put _).then ((hb .expr trivial).then ((grows_put _).then
    (hc .expr trivial))))).printExpr s

theorem grows_call {isOptional : Bool} (ha : a.Grows) (has : AllGrow as) :
    (Node.call s a as isOptional).Grows := fun _ _ =>
  ((ha .expr trivial).then ((grows_put _).then ((grows_commas (has.writeAll .expr trivial)).then
    (grows_put _)))).printExpr s

theorem grows_construct {args : Option (List Node)} (ha : a.Grows)
    (hargs : ∀ ns ∈ args, AllGrow ns) : (Node.construct s a args).Grows := fun _ _ => by
  have hcallee := ha .expr trivial
  cases args with
  | none => exact ((grows_put _).then (hcallee.then (grows_pure ()))).printExpr s
  | some ns =>
    exact ((grows_put _).then (hcallee.then ((grows_put _).then
      ((grows_commas ((hargs ns rfl).writeAll .expr trivial)).then (grows_put _))))).printExpr s

theorem grows_member {isOptional : Bool} (ha : a.Grows) (hb : b.Grows) :
    (Node.member s a b isOptional).Grows := fun _ _ =>
  ((ha .expr trivial).then ((grows_put _).then (hb .expr trivial))).printExpr s

theorem grows_index {isOptional : Bool} (ha : a.Grows) (hb : b.Grows) :
    (Node.index s a b isOptional).Grows := fun _ _ =>
  ((ha .expr trivial).then ((grows_put _).then ((hb .expr trivial).then
    (grows_put _)))).printExpr s

theorem grows_sequence (has : AllGrow as) : (Node.sequence s as).Grows := fun _ _ =>
  (grows_commas (has.writeAll .expr trivial)).printExpr s

theorem grows_paren (ha : a.Grows) : (Node.paren s a).Grows := fun _ _ =>
  ((grows_put _).then ((ha .expr trivial).then (grows_put _))).printExpr s

theorem grows_yieldExpr {isDelegate : Bool} (ho : MayGrow o) :
    (Node.yieldExpr s o isDelegate).Grows := fun _ _ =>
  ((grows_put _).then (grows_after " " (ho.writeOption .expr trivial))).printExpr s

theorem grows_awaitExpr (ha : a.Grows) : (Node.awaitExpr s a).Grows := fun _ _ =>
  ((grows_put _).then (ha .expr trivial)).printExpr s

/-! #### Functions and classes -/

theorem grows_function {isAsync isGenerator : Bool} (ho : MayGrow o) (has : AllGrow as)
    (hbs : AllGrow bs) : (Node.function s o as bs isAsync isGenerator).Grows := fun place h => by
  have hrest := grows_printFunctionRest (has.writeAll .target trivial)
    (hbs.writeAll .stmt trivial)
  have hfunction := (grows_put (functionWords isAsync isGenerator)).then
    ((grows_after " " (ho.writeOption .expr trivial)).then hrest)
  cases place with
  | method head => exact (h isAsync isGenerator).then hrest
  | _ => exact hfunction.printIn _ s

theorem grows_arrow {isAsync : Bool} (has : AllGrow as) (ha : a.Grows) :
    (Node.arrow s as a isAsync).Grows := fun _ _ => by
  have hbody : Grows (if a.isBlock then a.write .expr else indented (a.write .expr)) := by
    have hbody := ha .expr trivial
    split
    exacts [hbody, hbody.indented]
  exact ((grows_put _).then ((grows_commas (has.writeAll .target trivial)).then
    ((grows_put _).then hbody))).printExpr s

theorem grows_method {kind : MethodKind} {isStatic : Bool} (ha : a.Grows) (hb : b.Grows) :
    (Node.method s kind isStatic a b).Grows := fun place _ => by
  have hfn := hb (.method (methodHead place kind (a.write .expr)))
    ((ha .expr trivial).methodHead place kind)
  cases isStatic with
  | true => exact ((grows_put _).then hfn).printExpr s
  | false => exact hfn.printExpr s

theorem grows_classNode (ho : MayGrow o) (hp : MayGrow p) (has : AllGrow as) :
    (Node.classNode s o p as).Grows := fun place _ =>
  ((grows_put _).then ((grows_after " " (ho.writeOption .expr trivial)).then
    ((grows_after " extends " (hp.writeOption .expr trivial)).then ((grows_put _).then
      (grows_lined _ _ _ (has.writeAll .expr trivial)))))).printIn place s

theorem grows_field {isStatic : Bool} (ha : a.Grows) (ho : MayGrow o) :
    (Node.field s isStatic a o).Grows := fun _ _ => by
  have hfield := (ha .expr trivial).then
    ((grows_after " = " (ho.writeOption .expr trivial)).then (grows_put ";"))
  cases isStatic with
  | true => exact ((grows_put _).then hfield).printExpr s
  | false => exact hfield.printExpr s

theorem grows_staticBlock (has : AllGrow as) : (Node.staticBlock s as).Grows := fun _ _ =>
  ((grows_put _).then (grows_printBlock (has.writeAll .stmt trivial))).printExpr s

/-! #### Elements -/

theorem grows_element {isSelfClosing : Bool} (ha : a.Grows) (has : AllGrow as) (hbs : AllGrow bs) :
    (Node.element s a as bs isSelfClosing).Grows := fun _ _ => by
  have hname := ha .expr trivial
  have hattributes := grows_printEach " " (has.writeAll .markup trivial)
  have hchildren := (grows_pure ()).separated (hbs.writeAll .markup trivial)
  cases isSelfClosing with
  | true => exact (grows_put _).then (hname.then (hattributes.then (grows_put _)))
  | false =>
    exact (grows_put _).then (hname.then (hattributes.then ((grows_put _).then (hchildren.then
      ((grows_put _).then (hname.then (grows_put _)))))))

theorem grows_fragment (has : AllGrow as) : (Node.fragment s as).Grows := fun _ _ =>
  (grows_put _).then (((grows_pure ()).separated (has.writeAll .markup trivial)).then (grows_put _))

theorem grows_attr (ha : a.Grows) (ho : MayGrow o) : (Node.attr s a o).Grows := fun _ _ =>
  (ha .expr trivial).then (grows_after "=" (ho.writeOption .expr trivial))

theorem grows_container (ho : MayGrow o) : (Node.container s o).Grows := fun _ _ =>
  (grows_put _).then ((grows_after "" (ho.writeOption .expr trivial)).then (grows_put _))

/-! #### Statements -/

theorem grows_exprStmt (ha : a.Grows) : (Node.exprStmt s a).Grows := fun _ _ =>
  (ha .expr trivial).putEnd.printStatement s

theorem grows_block (has : AllGrow as) : (Node.block s as).Grows := fun _ _ =>
  (grows_leading s.lo).then (grows_printBlock (has.writeAll .stmt trivial))

theorem grows_withStmt (ha : a.Grows) (hb : b.Grows) : (Node.withStmt s a b).Grows := fun _ _ =>
  ((grows_put _).then ((ha .expr trivial).then ((grows_put _).then
    (hb .stmt trivial)))).printStatement s

/-- A word that an expression or a label may follow. -/
theorem grows_putAfter (text : String) (ho : MayGrow o) :
    Grows (do put text; after " " (writeOption .expr o); put ";") :=
  (grows_put _).then ((grows_after " " (ho.writeOption .expr trivial)).then (grows_put _))

theorem grows_labeled (ha : a.Grows) (hb : b.Grows) : (Node.labeled s a b).Grows := fun _ _ =>
  ((ha .expr trivial).then ((grows_put _).then (hb .stmt trivial))).printStatement s

theorem grows_ifStmt (ha : a.Grows) (hb : b.Grows) (ho : MayGrow o) :
    (Node.ifStmt s a b o).Grows := fun _ _ => by
  have htest := ha .expr trivial
  have hyes := hb .stmt trivial
  cases o with
  | none =>
    exact ((grows_put _).then (htest.then ((grows_put _).then (hyes.then
      (grows_pure ()))))).printStatement s
  | some n =>
    exact ((grows_put _).then (htest.then ((grows_put _).then (hyes.then ((grows_put _).then
      (ho n rfl .stmt trivial)))))).printStatement s

theorem grows_switchStmt (ha : a.Grows) (has : AllGrow as) : (Node.switchStmt s a as).Grows :=
  fun _ _ => ((grows_put _).then ((ha .expr trivial).then ((grows_put _).then
    (grows_lined _ _ _ (has.writeAll .expr trivial))))).printStatement s

theorem grows_switchCase (ho : MayGrow o) (has : AllGrow as) : (Node.switchCase s o as).Grows :=
  fun _ _ => by
    have hbody := (grows_line.separated (has.writeAll .stmt trivial)).indented
    cases o with
    | none => exact (grows_leading s.lo).then ((grows_put _).then (grows_line.then hbody))
    | some n =>
      exact (grows_leading s.lo).then ((grows_put _).then ((ho n rfl .expr trivial).then
        ((grows_put _).then (grows_line.then hbody))))

theorem grows_throwStmt (ha : a.Grows) : (Node.throwStmt s a).Grows := fun _ _ =>
  ((grows_put _).then ((ha .expr trivial).then (grows_put _))).printStatement s

theorem grows_tryStmt (ha : a.Grows) (ho : MayGrow o) (hp : MayGrow p) :
    (Node.tryStmt s a o p).Grows := fun _ _ =>
  ((grows_put _).then ((ha .expr trivial).then ((grows_after " " (ho.writeOption .expr trivial)).then
    (grows_after " finally" (hp.writeOption .expr trivial))))).printStatement s

theorem grows_catchClause (ho : MayGrow o) (ha : a.Grows) : (Node.catchClause s o a).Grows :=
  fun _ _ => by
    have hbody := (grows_put " ").then (ha .expr trivial)
    cases o with
    | none => exact (grows_leading s.lo).then ((grows_put _).then hbody)
    | some n =>
      exact (grows_leading s.lo).then ((grows_put _).then ((grows_put _).then
        ((ho n rfl .target trivial).then ((grows_put _).then hbody))))

theorem grows_whileStmt (ha : a.Grows) (hb : b.Grows) : (Node.whileStmt s a b).Grows := fun _ _ =>
  ((grows_put _).then ((ha .expr trivial).then ((grows_put _).then
    (hb .stmt trivial)))).printStatement s

theorem grows_doWhile (ha : a.Grows) (hb : b.Grows) : (Node.doWhile s a b).Grows := fun _ _ =>
  ((grows_put _).then ((ha .stmt trivial).then ((grows_put _).then ((hb .expr trivial).then
    (grows_put _))))).printStatement s

theorem grows_forStmt (ho : MayGrow o) (hp : MayGrow p) (hq : MayGrow q) (ha : a.Grows) :
    (Node.forStmt s o p q a).Grows := fun _ _ =>
  ((grows_put _).then ((grows_after "" (ho.writeOption .expr trivial)).then ((grows_put _).then
    ((grows_after " " (hp.writeOption .expr trivial)).then ((grows_put _).then
      ((grows_after " " (hq.writeOption .expr trivial)).then ((grows_put _).then
        (ha .stmt trivial)))))))).printStatement s

/-- A loop over the members or the values of something. -/
theorem grows_forEach (opener between : String) (ha : a.Grows) (hb : b.Grows) (hc : c.Grows) :
    Grows (printStatement s do
      put opener; a.write .target; put between; b.write .expr; put ")"; c.write .stmt) :=
  ((grows_put _).then ((ha .target trivial).then ((grows_put _).then ((hb .expr trivial).then
    ((grows_put _).then (hc .stmt trivial)))))).printStatement s

theorem grows_varDecl {kind : VarKind} (has : AllGrow as) : (Node.varDecl s kind as).Grows :=
  fun place _ => by
    have hall := grows_commas (has.writeAll .expr trivial)
    cases place with
    | stmt => exact ((grows_put _).then (hall.then (grows_put _))).printStatement s
    | _ => exact (grows_leading s.lo).then ((grows_put _).then hall)

theorem grows_declarator (ha : a.Grows) (ho : MayGrow o) : (Node.declarator s a o).Grows :=
  fun _ _ => (grows_leading s.lo).then ((ha .target trivial).then
    (grows_after " = " (ho.writeOption .expr trivial)))

/-! #### Imports and exports -/

theorem grows_importDecl (has : AllGrow as) (ha : a.Grows) : (Node.importDecl s as a).Grows :=
  fun _ _ => by
    have hitems := has.writeAll .expr trivial
    have hpart (p : Writer Unit × Bool → Bool) : ∀ w ∈ (((writeAll .expr as).zip
        (as.map isBracedImport)).filter p).map (·.1), Grows w := by
      intro w hw
      obtain ⟨⟨v, b⟩, hv, rfl⟩ := List.mem_map.1 hw
      exact hitems v (List.of_mem_zip (List.mem_filter.1 hv).1).1
    have hsource := (ha .expr trivial).then (grows_put ";")
    have himports := grows_printImports (hpart (!·.2)) (hpart (·.2))
    cases as with
    | nil => exact ((grows_put _).then (himports.then hsource)).printStatement s
    | cons n ns =>
      exact ((grows_put _).then (himports.then ((grows_put _).then hsource))).printStatement s

/-- A name for all names of a module. -/
theorem grows_all (ha : a.Grows) : Grows (do put "* as "; a.write .expr) :=
  (grows_put _).then (ha .expr trivial)

theorem grows_importNamed (ho : MayGrow o) (ha : a.Grows) : (Node.importNamed s o a).Grows :=
  fun _ _ => by
    have hbinding := ha .expr trivial
    cases o with
    | none => exact hbinding
    | some n => exact (ho n rfl .expr trivial).then ((grows_put _).then hbinding)

theorem grows_exportNamed (has : AllGrow as) (ho : MayGrow o) : (Node.exportNamed s as o).Grows :=
  fun _ _ => by
    have hitems := has.writeAll .expr trivial
    have hsource := (grows_after " from " (ho.writeOption .expr trivial)).then
      (grows_put ";")
    refine Writer.Grows.printStatement ((grows_put "export ").then ?_) s
    dsimp only
    split
    · exact (grows_commas hitems).then hsource
    · exact (grows_printNames hitems).then hsource

theorem grows_exportSpecifier (ha : a.Grows) (ho : MayGrow o) :
    (Node.exportSpecifier s a o).Grows := fun _ _ =>
  (ha .expr trivial).then (grows_after " as " (ho.writeOption .expr trivial))

/-- What follows the words of an export up to its end. -/
theorem grows_exportEnd (text : String) (ha : a.Grows) :
    Grows (printStatement s do put text; a.write .expr; put ";") :=
  ((grows_put _).then ((ha .expr trivial).then (grows_put _))).printStatement s

end Nodes

mutual

/-- A node is written behind what stands on a page. -/
theorem Node.grows : (n : Node) → n.Grows
  | .hole => fun _ _ => grows_pure ()
  | .ident s _ | .privateName s _ | .this s | .super s | .importWord s | .metaProperty s _
  | .literal s _ | .string s _ _ => fun _ _ => (grows_put _).printExpr s
  | .template _ _ exprs => grows_template (all_grow exprs)
  | .tagged _ tag body => grows_tagged tag.grows body.grows
  | .array _ items => grows_array (all_grow items)
  | .object _ members => grows_object (all_grow members)
  | .keyValue _ key value => grows_keyValue key.grows value.grows
  | .computedKey _ key => grows_computedKey key.grows
  | .method _ _ _ key fn => grows_method key.grows fn.grows
  | .spread _ arg => grows_spread arg.grows
  | .initialized _ target value => grows_initialized target.grows value.grows
  | .function _ name params body _ _ =>
    grows_function (may_grow name) (all_grow params) (all_grow body)
  | .arrow _ params body _ => grows_arrow (all_grow params) body.grows
  | .classNode _ name base members =>
    grows_classNode (may_grow name) (may_grow base) (all_grow members)
  | .field _ _ key value => grows_field key.grows (may_grow value)
  | .staticBlock _ body => grows_staticBlock (all_grow body)
  | .unary _ _ arg => grows_unary arg.grows
  | .update _ _ _ arg => grows_update arg.grows
  | .binary _ _ left right => grows_binary left.grows right.grows
  | .assign _ _ target value => grows_assign target.grows value.grows
  | .conditional _ test yes no => grows_conditional test.grows yes.grows no.grows
  | .call _ callee args _ => grows_call callee.grows (all_grow args)
  | .construct _ callee none => grows_construct callee.grows (by simp)
  | .construct _ callee (some args) =>
    grows_construct callee.grows fun _ h => Option.some.inj h ▸ all_grow args
  | .member _ object property _ => grows_member object.grows property.grows
  | .index _ object property _ => grows_index object.grows property.grows
  | .sequence _ exprs => grows_sequence (all_grow exprs)
  | .paren _ expr => grows_paren expr.grows
  | .yieldExpr _ arg _ => grows_yieldExpr (may_grow arg)
  | .awaitExpr _ arg => grows_awaitExpr arg.grows
  | .element _ name attributes children _ =>
    grows_element name.grows (all_grow attributes) (all_grow children)
  | .fragment _ children => grows_fragment (all_grow children)
  | .spacedName _ _ _ | .text _ _ => fun _ _ => grows_put _
  | .attr _ name value => grows_attr name.grows (may_grow value)
  | .container _ expr => grows_container (may_grow expr)
  | .exprStmt _ expr => grows_exprStmt expr.grows
  | .block _ body => grows_block (all_grow body)
  | .empty s | .debuggerStmt s => fun _ _ => (grows_put _).printStatement s
  | .withStmt _ object body => grows_withStmt object.grows body.grows
  | .returnStmt s arg | .breakStmt s arg | .continueStmt s arg => fun _ _ =>
    (grows_putAfter _ (may_grow arg)).printStatement s
  | .labeled _ label body => grows_labeled label.grows body.grows
  | .ifStmt _ test yes no => grows_ifStmt test.grows yes.grows (may_grow no)
  | .switchStmt _ subject cases => grows_switchStmt subject.grows (all_grow cases)
  | .switchCase _ test body => grows_switchCase (may_grow test) (all_grow body)
  | .throwStmt _ arg => grows_throwStmt arg.grows
  | .tryStmt _ body handler finalizer =>
    grows_tryStmt body.grows (may_grow handler) (may_grow finalizer)
  | .catchClause _ param body => grows_catchClause (may_grow param) body.grows
  | .whileStmt _ test body => grows_whileStmt test.grows body.grows
  | .doWhile _ body test => grows_doWhile body.grows test.grows
  | .forStmt _ start test step body =>
    grows_forStmt (may_grow start) (may_grow test) (may_grow step) body.grows
  | .forIn _ target object body | .forOf _ _ target object body => fun _ _ =>
    grows_forEach _ _ target.grows object.grows body.grows
  | .varDecl _ _ declarators => grows_varDecl (all_grow declarators)
  | .declarator _ target value => grows_declarator target.grows (may_grow value)
  | .importDecl _ specifiers source => grows_importDecl (all_grow specifiers) source.grows
  | .importDefault _ binding => fun _ _ => binding.grows .expr trivial
  | .importAll _ binding | .exportSpace _ binding => fun _ _ => grows_all binding.grows
  | .importNamed _ imported binding => grows_importNamed (may_grow imported) binding.grows
  | .exportDecl s decl => fun _ _ =>
    ((grows_put _).then (decl.grows .stmt trivial)).printStatement s
  | .exportNamed _ specifiers source => grows_exportNamed (all_grow specifiers) (may_grow source)
  | .exportSpecifier _ localName exported => grows_exportSpecifier localName.grows (may_grow exported)
  | .exportAll _ source | .exportDefaultExpr _ source => fun _ _ => grows_exportEnd _ source.grows
  | .exportDefaultDecl s decl => fun _ _ =>
    ((grows_put _).then (decl.grows .expr trivial)).printStatement s

theorem all_grow : (ns : List Node) → AllGrow ns
  | [] => fun _ h => absurd h List.not_mem_nil
  | n :: ns => List.forall_mem_cons.2 ⟨n.grows, all_grow ns⟩

theorem may_grow : (o : Option Node) → MayGrow o
  | none => fun _ h => absurd h (Option.not_mem_none _)
  | some n => fun _ h => Option.mem_some_iff.1 h ▸ n.grows

end

theorem grows_write (place : Place) (n : Node) (h : place.Grows) : Grows (n.write place) :=
  n.grows place h

theorem grows_writeAll (place : Place) (ns : List Node) (h : place.Grows) :
    ∀ w ∈ writeAll place ns, Grows w := (all_grow ns).writeAll place h

theorem grows_writeOption (place : Place) (o : Option Node) (h : place.Grows) :
    ∀ w ∈ writeOption place o, Grows w := (may_grow o).writeOption place h

/-! ### Words -/

section Words

variable {word : Text} {p : Page} {s : String} {n : Node} {ns : List Node}
variable {comments : List PlacedComment}

/-- A word that stands in a text behind a blank and in front of a character of no word. -/
def StandsIn (word t : Text) : Prop :=
  ∃ before after, before ∈ [' ', '\n'] ∧ after ∈ [' ', ';', '('] ∧
    (before :: (word ++ [after])) <:+: t

theorem StandsIn.mono {t u : Text} (h : StandsIn word t) (htu : t <+: u) : StandsIn word u :=
  have ⟨before, after, hbefore, hafter, hstands⟩ := h
  ⟨before, after, hbefore, hafter, hstands.trans htu.isInfix⟩

theorem standsIn_of_suffix {t u : Text} {before after : Char} (hbefore : before ∈ [' ', '\n'])
    (hafter : after ∈ [' ', ';', '(']) (hword : before :: word <:+ t) (hu : t ++ [after] <+: u) :
    StandsIn word u := by
  obtain ⟨t, rfl⟩ := hword
  refine StandsIn.mono ⟨before, after, hbefore, hafter, t, [], ?_⟩ hu
  simp

/-- A page whose text ends with a blank. -/
def Page.EndsBlank (p : Page) : Prop := ∃ c ∈ [' ', '\n'], [c] <:+ p.text

theorem Page.EndsBlank.text_ne_nil (h : p.EndsBlank) : p.text ≠ [] := by
  obtain ⟨c, -, hc⟩ := h
  exact hc.ne_nil (List.cons_ne_nil _ _)

theorem endsBlank_line (hp : p.IsSound) (hne : p.text ≠ []) : (line p).2.EndsBlank := by
  have hline := (grows_line p hp).isSound (isLineStart_line p)
  refine ⟨'\n', by simp, hline.resolve_left fun h => hne ?_⟩
  exact List.prefix_nil.1 (h ▸ (grows_line p hp).text)

theorem run_put_inLine (hp : p.isLineStart = false) (s : String) :
    (put s p).2.isLineStart = false ∧ (put s p).2.text = p.text ++ s.toList ∧
      (put s p).2.comments = p.comments := by
  cases hs : s.isEmpty with
  | true =>
    rw [run_put_isEmpty hs, String.isEmpty_iff.1 hs]
    exact ⟨hp, by simp, rfl⟩
  | false =>
    rw [run_put hs hp]
    exact ⟨rfl, text_push .., rfl⟩

theorem endsBlank_put_blank (p : Page) : (put " " p).2.EndsBlank :=
  ⟨' ', by simp, by
    rw [(text_put (s := " ") rfl).2]
    exact (List.suffix_append ..).trans (List.suffix_append ..)⟩

theorem endsBlank_comment (hp : p.IsSound) (c : Comment) : (comment false c p).2.EndsBlank := by
  have hrun : (comment false c p).2 = if c.isLine then (line (put ("//" ++ c.text) p).2).2
      else (put " " (put ("/*" ++ c.text ++ "*/") p).2).2 := by
    unfold comment
    cases c.isLine <;> rfl
  rw [hrun]
  split
  · have hslashes : ("//" ++ c.text).isEmpty = false := by
      rw [Bool.eq_false_iff, ne_eq, String.isEmpty_iff]
      exact fun h => by simpa using congrArg String.toList h
    refine endsBlank_line (grows_put _ p hp).isSound fun h => ?_
    rw [(text_put hslashes).2] at h
    simp at h
  · exact endsBlank_put_blank _

theorem endsBlank_comments (hp : p.IsSound) (hblank : p.EndsBlank) (cs : List Comment) :
    (cs.forM (comment false) p).2.EndsBlank := by
  induction cs generalizing p with
  | nil => exact hblank
  | cons c cs ih => exact ih (grows_comment false c p hp).isSound (endsBlank_comment hp c)

theorem endsBlank_leading (hp : p.IsSound) (hblank : p.EndsBlank) (place : Nat) :
    (leading place p).2.EndsBlank := by
  rw [run_leading]
  split
  · exact hblank
  · obtain ⟨isKept, hrun⟩ := exists_run_takeComments true place p
    let cs := (takeComments true place p).1
    show (cs.forM (comment false) (takeComments true place p).2).2.EndsBlank
    rw [hrun]
    let q : Page := { p with comments := p.comments.filter isKept }
    exact endsBlank_comments (p := q) hp hblank cs

/-- A text that is written behind a blank stands behind a blank. -/
theorem exists_suffix_put (hblank : p.EndsBlank) (hs : s.isEmpty = false) :
    ∃ c ∈ [' ', '\n'], c :: s.toList <:+ (put s p).2.text := by
  obtain ⟨c, hc, t, ht⟩ := hblank
  rw [(text_put hs).2]
  cases p.isLineStart with
  | false => exact ⟨c, hc, t, by simp [← ht]⟩
  | true =>
    rw [if_pos rfl, indentation, String.toList_ofList]
    cases 4 * p.level with
    | zero => exact ⟨c, hc, t, by simp [← ht]⟩
    | succ n => exact ⟨' ', by simp, p.text ++ List.replicate n ' ', by simp [List.replicate_succ']⟩

/-- A return stands in what is written for it. -/
theorem standsIn_return (hp : p.IsSound) (hblank : p.EndsBlank) (span : Span) (arg : Option Node) :
    StandsIn "return".toList (((Node.returnStmt span arg).write .stmt) p).2.text := by
  let q := (leading span.lo p).2
  let r := (put "return" q).2
  have hq : q.IsSound := (grows_leading _ p hp).isSound
  have hr : r.IsSound := (grows_put _ q hq).isSound
  have hline : r.isLineStart = false := (text_put rfl).1
  have hend : Grows (do trailing span.hi; line) := (grows_trailing _).then grows_line
  obtain ⟨c, hc, hreturn⟩ :=
    exists_suffix_put (s := "return") (endsBlank_leading hp hblank span.lo) rfl
  cases arg with
  | none =>
    have hstop := (hend _ (grows_put ";" r hr).isSound).text
    rw [(run_put_inLine hline ";").2.1, show ";".toList = [';'] from rfl] at hstop
    exact standsIn_of_suffix hc (by simp) hreturn hstop
  | some n =>
    have hrest := (grows_write .expr n trivial).then ((grows_put ";").then hend)
    have hstop := (hrest _ (grows_put " " r hr).isSound).text
    rw [(run_put_inLine hline " ").2.1, show " ".toList = [' '] from rfl] at hstop
    exact standsIn_of_suffix hc (by simp) hreturn hstop

/-- A word stands in what is written for items if it does in what is written for one of them. -/
theorem standsIn_separated (mark : String) {w : Writer Unit} {ws : List (Writer Unit)}
    (hws : ∀ v ∈ ws, Grows v) (hw : w ∈ ws)
    (hword : ∀ q : Page, q.IsSound → q.EndsBlank → StandsIn word (w q).2.text)
    (hp : p.IsSound) (hblank : p.EndsBlank) :
    StandsIn word (separated (do put mark; line) ws p).2.text := by
  have hbetween : Grows (do put mark; line) := (grows_put _).then grows_line
  induction ws generalizing p with
  | nil => cases hw
  | cons v ws ih =>
    obtain ⟨hv, hrest⟩ := List.forall_mem_cons.1 hws
    have hfirst := hv p hp
    have hmark := grows_put mark _ hfirst.isSound
    cases ws with
    | nil =>
      rw [List.mem_singleton.1 hw] at hword
      exact hword p hp hblank
    | cons u ws =>
      obtain heq | hw := List.mem_cons.1 hw
      · have hlater := hbetween.then (hbetween.separated hrest) _ hfirst.isSound
        exact (heq ▸ hword p hp hblank).mono hlater.text
      · refine ih hrest hw (hbetween _ hfirst.isSound).isSound (endsBlank_line hmark.isSound ?_)
        exact fun h => hblank.text_ne_nil (List.prefix_nil.1 (h ▸ hfirst.text.trans hmark.text))

theorem standsIn_lined {opener closer mark : String} {w : Writer Unit} {ws : List (Writer Unit)}
    (hopener : opener.isEmpty = false) (hws : ∀ v ∈ ws, Grows v) (hw : w ∈ ws)
    (hword : ∀ q : Page, q.IsSound → q.EndsBlank → StandsIn word (w q).2.text)
    (hp : p.IsSound) : StandsIn word (lined opener closer mark ws p).2.text := by
  let q := (put opener p).2
  let r : Page := { (line q).2 with level := (line q).2.level + 1 }
  have hq : q.IsSound := (grows_put opener p hp).isSound
  have hr : r.IsSound := (grows_line q hq).isSound
  have hne : q.text ≠ [] := by
    rw [(text_put hopener).2]
    simp_all
  have hstands := standsIn_separated mark hws hw hword hr (endsBlank_line hq hne)
  have hbetween : Grows (do put mark; line) := (grows_put mark).then grows_line
  have hend := (grows_level (· - 1)).then (grows_line.then (grows_put closer))
  exact hstands.mono (hend _ (hbetween.separated hws r hr).isSound).text

theorem mem_writeAll (place : Place) (hn : n ∈ ns) : n.write place ∈ writeAll place ns := by
  induction ns with
  | nil => cases hn
  | cons m ns ih =>
    obtain rfl | hn := List.mem_cons.1 hn
    · exact List.mem_cons_self
    · exact List.mem_cons_of_mem _ (ih hn)

/-- A return among the statements of a function stands in what is written for the function. -/
theorem standsIn_functionReturn {span s : Span} {name arg : Option Node} {params body : List Node}
    {isAsync isGenerator : Bool} (hreturn : .returnStmt s arg ∈ body) (hp : p.IsSound) :
    StandsIn "return".toList
      (((Node.function span name params body isAsync isGenerator).write .stmt) p).2.text := by
  have hbody : ∀ w ∈ writeAll .stmt body, Grows w := grows_writeAll .stmt body trivial
  have hmem := mem_writeAll .stmt hreturn
  have hhead := (grows_leading span.lo).then ((grows_put (functionWords isAsync isGenerator)).then
    ((grows_after " " (grows_writeOption .expr name trivial)).then ((grows_put "(").then
      ((grows_commas (grows_writeAll .target params trivial)).then (grows_put ") ")))))
  have hend : Grows (do trailing span.hi; line) := (grows_trailing _).then grows_line
  have hstands (q : Page) (hq : q.IsSound) :
      StandsIn "return".toList (printBlock (writeAll .stmt body) q).2.text := by
    have hblock : printBlock (writeAll .stmt body) =
        lined "\x7b" "\x7d" "" (writeAll .stmt body) := by
      refine if_neg fun h => ?_
      rw [List.isEmpty_iff.1 h] at hmem
      cases hmem
    rw [hblock]
    exact standsIn_lined rfl hbody hmem
      (fun r hr hblank => standsIn_return hr hblank s arg) hq
  have hq := (hhead p hp).isSound
  exact (hstands _ hq).mono (hend _ (grows_printBlock hbody _ hq).isSound).text

/-- Without comments on a page none are written. -/
theorem run_comments_nil (hp : p.comments = []) (place : Nat) :
    (leading place p).2 = p ∧ (trailing place p).2 = p := by
  constructor
  · show ((if p.comments.isEmpty then pure () else _ : Writer Unit) p).2 = p
    rw [hp]
    rfl
  · show ((if p.comments.isEmpty then pure () else _ : Writer Unit) p).2 = p
    rw [hp]
    rfl

/-- The name of a function stands in what is written for it, if there are no comments. -/
theorem standsIn_functionName {span s : Span} {name : String} {params body : List Node}
    {isAsync isGenerator : Bool} (hp : p.IsSound) (hcomments : p.comments = []) :
    StandsIn name.toList (((Node.function span (some (.ident s name)) params body isAsync
      isGenerator).write .stmt) p).2.text := by
  let words := functionWords isAsync isGenerator
  let q := (put words p).2
  let r := (put " " q).2
  let t := (put name r).2
  have hwords : words.isEmpty = false := by
    cases isAsync <;> cases isGenerator <;> decide
  have hq := grows_put words p hp
  have hr := grows_put " " q hq.isSound
  have ht := grows_put name r hr.isSound
  obtain ⟨hrline, hrtext, hrcomments⟩ := run_put_inLine (text_put (p := p) hwords).1 " "
  obtain ⟨htline, httext, htcomments⟩ := run_put_inLine hrline name
  have hrnone : r.comments = [] := hrcomments.trans (hq.comments hcomments)
  have htnone : t.comments = [] := htcomments.trans hrnone
  let rest : Writer Unit := do
    commas (writeAll .target params)
    put ") "
    printBlock (writeAll .stmt body)
    trailing span.hi
    line
  have hrest : Grows rest := (grows_commas (grows_writeAll .target params trivial)).then
    ((grows_put ") ").then ((grows_printBlock (grows_writeAll .stmt body trivial)).then
      ((grows_trailing span.hi).then grows_line)))
  have hrun : (((Node.function span (some (.ident s name)) params body isAsync
      isGenerator).write .stmt) p).2 = (rest (put "(" t).2).2 := by
    show (rest (put "(" (trailing s.hi (put name (leading s.lo (put " " (put words
      (leading span.lo p).2).2).2).2).2).2).2).2 = _
    rw [(run_comments_nil hcomments _).1, (run_comments_nil hrnone _).1,
      (run_comments_nil htnone _).2]
  have hstop := (hrest _ (grows_put "(" t ht.isSound).isSound).text
  rw [(run_put_inLine htline "(").2.1, show "(".toList = ['('] from rfl] at hstop
  rw [hrun]
  refine standsIn_of_suffix (List.mem_cons_self) (by simp) ⟨q.text, ?_⟩ hstop
  rw [httext, hrtext, List.append_assoc]
  rfl

theorem standsIn_forM {ws : List (Writer Unit)} {w : Writer Unit} (hws : ∀ v ∈ ws, Grows v)
    (hw : w ∈ ws) (hp : p.IsSound) (hword : ∀ q : Page, p.LeadsTo q → StandsIn word (w q).2.text) :
    StandsIn word (ws.forM id p).2.text := by
  induction ws generalizing p with
  | nil => cases hw
  | cons v ws ih =>
    obtain ⟨hv, hrest⟩ := List.forall_mem_cons.1 hws
    have hfirst := hv p hp
    obtain heq | hw := List.mem_cons.1 hw
    · have hlater := grows_forM (f := id) hrest _ hfirst.isSound
      exact (heq ▸ hword p hp.leadsTo_self).mono hlater.text
    · exact ih hrest hw hfirst.isSound fun q hq => hword q (hfirst.trans hq)

/-- A word stands in the text of a module if it does in what is written for an item. -/
theorem standsIn_textWith {m : Module} (hn : n ∈ m.body)
    (hword : ∀ q : Page, q.IsSound → (comments = [] → q.comments = []) →
      StandsIn word (n.write .stmt q).2.text) : StandsIn word (m.textWith comments) := by
  obtain ⟨q, hq, hrun⟩ : ∃ q : Page, (blank comments).LeadsTo q ∧ m.textWith comments =
      (trailing m.span.hi ((writeAll .stmt m.body).forM id q).2).2.text := by
    unfold Module.textWith Module.write
    cases m.shebang with
    | none => exact ⟨_, (isSound_blank comments).leadsTo_self, rfl⟩
    | some text =>
      exact ⟨_, ((grows_put ("#!" ++ text)).then grows_line) _ (isSound_blank comments), rfl⟩
  have hitems := grows_writeAll .stmt m.body trivial
  have hstands := standsIn_forM hitems (mem_writeAll .stmt hn) hq.isSound fun r hr =>
    hword r hr.isSound fun h => hr.comments (hq.comments h)
  rw [hrun]
  exact hstands.mono (grows_trailing _ _ (grows_forM hitems q hq.isSound).isSound).text

end Words

end DocPreview.Script
