import DocPreview.Proofs.Script.Expression
import DocPreview.Proofs.Text.Except
import DocPreview.Script.Reader.Grammar

/-!
# The comments of a module

All rules of the grammar stay in the text, by induction on the depth of nesting that ties them
together. So the comments of a module stand in its text with their delimiters: a text in which no
comment is written is read as a module that has none.

Elements are read character by character: their rules lead from a place of the text to a place of
it.

## Main results

* `reads_jsxChildren`, `stays_element`: elements.
* `stays_statement`: statements and the items of modules.
* `rulesStay_rulesWithin`: all rules of the grammar.
* `standsIn_of_mem_comments`: the comments of a module stand in its text.
-/

set_option mvcgen.warning false

namespace DocPreview.Script

namespace Reader

open Std.Do

variable {α : Type} [Source] {rules : Rules} [RulesStay rules] {c : Cursor}

/-! ### Elements -/

@[grind ←]
theorem InText.advance (hc : InText c) : InText c.advance := (suffix_advance c).trans hc

@[grind ←]
theorem InText.drop (hc : InText c) (n pos : Nat) : InText ⟨c.rest.drop n, pos⟩ :=
  (List.drop_suffix n c.rest).trans hc

@[grind ←]
theorem InText.jsxName (hc : InText c) : InText (scanJsxName c).2 :=
  (scanJsxName_suffix c).trans hc

@[grind ←]
theorem InText.jsxText (hc : InText c) : InText (scanJsxText c).2 :=
  (scanJsxText_suffix c).trans hc

theorem InText.jsxString {quote : Char} {raw : Text} {d : Cursor} (hc : InText c)
    (h : scanJsxString quote c = some (raw, d)) : InText d :=
  (scanJsxString_suffix h).trans hc

@[grind ←]
theorem isIn_setLastToken {s : ReaderState} (h : s.IsIn) (x : Option Token) :
    ReaderState.IsIn { s with lastToken := x } := ⟨h.cur, h.start, h.comments⟩

theorem inText_start {s : ReaderState} (h : s.IsIn) : InText s.start := h.start

grind_pattern inText_start => s.IsIn, s.start

@[spec]
theorem reads_afterTrivia (hc : InText c) : Reads id (afterTrivia c) := by
  mvcgen [afterTrivia, stops_throw, -Spec.throw_MonadExcept]
  · exact False.elim
  · rename_i hs
    exact ⟨hs, (skipTrivia_spec ..).1.trans hc⟩

omit [Source] in
theorem stops_failInTag (c : Cursor) (wanted : String) :
    Stops (failInTag c wanted : Reader α) := by
  mvcgen [failInTag, stops_throw, stops_failAt, stops_failEnd, -Spec.throw_MonadExcept,
    -stays_failAt, -stays_failEnd]

@[spec]
theorem stays_failInTag (c : Cursor) (wanted : String) :
    Stays (failInTag c wanted : Reader α) :=
  (stops_failInTag c wanted).stays

@[spec]
theorem reads_jsxWord (hc : InText c) : Reads Prod.snd (jsxWord c) := by
  mvcgen [jsxWord, stops_failInTag, -stays_failInTag]
  all_goals grind

@[spec]
theorem reads_jsxMembers (lo n : Nat) (e : Node) (hc : InText c) :
    Reads Prod.snd (jsxMembers lo n e c) := by
  induction n generalizing e c with
  | zero => mvcgen [jsxMembers]
  | succ n ih =>
    mvcgen [jsxMembers, ih]
    all_goals grind

@[spec]
theorem reads_jsxElementName (hc : InText c) : Reads Prod.snd (jsxElementName c) := by
  mvcgen [jsxElementName]
  all_goals grind

@[spec]
theorem reads_jsxAttributeName (hc : InText c) : Reads Prod.snd (jsxAttributeName c) := by
  mvcgen [jsxAttributeName]
  all_goals grind

@[spec]
theorem stays_commitComments : Stays braced.commitComments := by
  intro scope s hs
  refine show ReaderState.IsIn _ from ⟨hs.cur, hs.start, ?_⟩
  refine List.forall_mem_append.2 ⟨fun c hc => ?_, hs.comments⟩
  exact standsIn_of_mem_placed hs.cur (List.mem_reverse.1 hc)

@[spec]
theorem reads_braced (hc : InText c) : Reads Prod.snd (braced rules c) := by
  mvcgen [braced, stops_fail, -stays_fail, reads_needToken, -stays_needToken]
  all_goals grind

@[spec]
theorem reads_quoted (start : Cursor) (name : Node) (hc : InText c) (quote : Char) :
    Reads Prod.snd (jsxAttribute.quoted start name c quote) := by
  mvcgen [jsxAttribute.quoted, stops_failAt, -stays_failAt]
  · exact False.elim
  · rename_i hscan _ _ _ _ hs
    exact ⟨hs, hc.advance.jsxString hscan⟩

@[spec]
theorem reads_jsxAttribute (hc : InText c) : Reads Prod.snd (jsxAttribute rules c) := by
  mvcgen [jsxAttribute, stops_failAt, -stays_failAt, stops_failEnd, -stays_failEnd]
  all_goals grind

@[spec]
theorem reads_jsxAttributes (n : Nat) (hc : InText c) :
    Reads Prod.snd (jsxAttributes rules n c) := by
  induction n generalizing c with
  | zero => mvcgen [jsxAttributes]
  | succ n ih =>
    mvcgen [jsxAttributes, ih, stops_failEnd, -stays_failEnd]
    all_goals grind

@[spec]
theorem reads_jsxTextFrom (n : Nat) (hc : InText c) : Reads Prod.snd (jsxTextFrom n c) := by
  induction n generalizing c with
  | zero => mvcgen [jsxTextFrom]
  | succ n ih =>
    mvcgen [jsxTextFrom, ih, stops_failAt, -stays_failAt]
    all_goals grind

@[spec]
theorem reads_jsxChildren (n : Nat) (hc : InText c) : Reads Prod.snd (jsxChildren rules n c) := by
  induction n generalizing c with
  | zero => mvcgen [jsxChildren]
  | succ n ih =>
    mvcgen [jsxChildren, ih, stops_failAt, -stays_failAt]
    all_goals grind

@[spec]
theorem reads_jsxClosing (hc : InText c) : Reads (fun r => r.2.2) (jsxClosing c) := by
  mvcgen [jsxClosing, stops_failInTag, -stays_failInTag]
  all_goals grind

@[spec]
theorem stays_jumpAfterElement (hc : InText c) : Stays (jumpAfterElement c) := by
  mvcgen [jumpAfterElement]
  rename_i hs _
  exact isIn_setLastToken hs _

@[spec]
theorem stays_element : Stays (element rules) := by
  mvcgen [element]
  all_goals grind

/-! ### Declarations -/

@[spec]
theorem stays_varKind? : Stays varKind? := by
  mvcgen [varKind?]

@[spec]
theorem stays_checkDeclarator (kind : VarKind) (target : Node) :
    Stays (checkDeclarator kind target) := by
  mvcgen [checkDeclarator]

@[spec]
theorem stays_declaratorFrom (kind : VarKind) (inHead : Bool) :
    Stays (declaratorFrom rules kind inHead) := by
  mvcgen [declaratorFrom]

@[spec]
theorem stays_varFrom (kind : VarKind) (inHead : Bool) : Stays (varFrom rules kind inHead) := by
  mvcgen [varFrom]

@[spec]
theorem stays_skipToEnd : Stays skipToEnd := by
  mvcgen [skipToEnd]

@[spec]
theorem stays_skipStatement : Stays (skipStatement rules) := by
  have hexpr : Stays (do let _ ← rules .expression) := by
    mvcgen
  exact Stays.bind (stays_tryCatch hexpr fun _ => by mvcgen) fun _ => stays_skipToEnd

@[spec]
theorem stays_varStatement (kind : VarKind) : Stays (varStatement rules kind) := by
  mvcgen [varStatement]

@[spec]
theorem stays_classBase : Stays (classBase rules) := by
  mvcgen [classBase]

@[spec]
theorem stays_declaration? : Stays (declaration? rules) := by
  mvcgen [declaration?]

/-! ### Statements -/

@[spec]
theorem stays_head : Stays (head rules) := by
  mvcgen [head]

@[spec]
theorem stays_blockFrom : Stays (blockFrom rules) := by
  mvcgen [blockFrom]

@[spec]
theorem stays_nested : Stays (nested rules) := by
  mvcgen [nested]

@[spec]
theorem stays_loopBody : Stays (loopBody rules) := stays_within _ stays_nested

@[spec]
theorem stays_forRest (lo : Nat) (start : Option Node) : Stays (forRest rules lo start) := by
  mvcgen [forRest]

@[spec]
theorem stays_forEach (lo : Nat) (isAwait : Bool) (target : Node) :
    Stays (forEach rules lo isAwait target) := by
  mvcgen [forEach]

@[spec]
theorem stays_forFrom : Stays (forFrom rules) := by
  mvcgen [forFrom]

@[spec]
theorem stays_caseBody : Stays (caseBody rules) := by
  mvcgen [caseBody]

@[spec]
theorem stays_caseFrom : Stays (caseFrom rules) := by
  mvcgen [caseFrom]

@[spec]
theorem stays_switchFrom : Stays (switchFrom rules) := by
  mvcgen [switchFrom]

@[spec]
theorem stays_tryFrom : Stays (tryFrom rules) := by
  mvcgen [tryFrom]

@[spec]
theorem stays_jumpLabel : Stays jumpLabel := by
  mvcgen [jumpLabel]

@[spec]
theorem stays_breakFrom : Stays breakFrom := by
  mvcgen [breakFrom]

@[spec]
theorem stays_continueFrom : Stays continueFrom := by
  mvcgen [continueFrom]

@[spec]
theorem stays_labeledFrom : Stays (labeledFrom rules) := by
  mvcgen [labeledFrom]

@[spec]
theorem stays_returnFrom : Stays (returnFrom rules) := by
  mvcgen [returnFrom]

@[spec]
theorem stays_throwFrom : Stays (throwFrom rules) := by
  mvcgen [throwFrom]

@[spec]
theorem stays_expressionStatement : Stays (expressionStatement rules) := by
  mvcgen [expressionStatement]

@[spec]
theorem stays_keywordStatement? (word : String) (lo : Nat) :
    Stays (keywordStatement? rules word lo) := by
  mvcgen [keywordStatement?]

/-! ### Module items -/

@[spec]
theorem stays_moduleName : Stays moduleName := by
  mvcgen [moduleName]

@[spec]
theorem stays_moduleSource : Stays moduleSource := by
  mvcgen [moduleSource]

@[spec]
theorem stays_importSpecifier : Stays importSpecifier := by
  mvcgen [importSpecifier]

@[spec]
theorem stays_importRest : Stays importRest := by
  mvcgen [importRest]

@[spec]
theorem stays_importDeclaration : Stays importDeclaration := by
  mvcgen [importDeclaration]

@[spec]
theorem stays_exportSpecifierFrom : Stays exportSpecifierFrom := by
  mvcgen [exportSpecifierFrom]

@[spec]
theorem stays_checkLocalExport (n : Node) : Stays (checkLocalExport n) := by
  mvcgen [checkLocalExport]

@[spec]
theorem stays_exportDefault (lo : Nat) : Stays (exportDefault rules lo) := by
  mvcgen [exportDefault]

@[spec]
theorem stays_exportDeclaration : Stays (exportDeclaration rules) := by
  mvcgen [exportDeclaration]

@[spec]
theorem stays_startsImport : Stays startsImport := by
  mvcgen [startsImport]

@[spec]
theorem stays_statement : Stays (statement rules) := by
  mvcgen [statement]

/-! ### Modules -/

instance rulesStay_rulesWithin (n : Nat) : RulesStay (rulesWithin n) := by
  induction n with
  | zero => exact ⟨fun _ => stays_fail _⟩
  | succ n ih =>
    refine ⟨fun g => ?_⟩
    cases g with
    | expression => exact stays_expression
    | assignment => exact stays_assignment
    | statement => exact stays_statement
    | binding => exact stays_bindingPattern
    | element => exact stays_element

@[spec]
theorem stays_items : Stays (items rules) := by
  mvcgen [items]

/-- The state in which the reading of a text starts. -/
theorem isIn_start (hc : InText c) (size : Nat) : (start size c).IsIn :=
  ⟨isIn_read hc, hc, by simp [start]⟩

omit [Source] in
theorem comment_placeLastComment (x : Option Token) (last : Span) (size : Nat) (f : FoundComment) :
    (placeLastComment x last size f).comment = f.comment := by
  cases x <;> rfl

/-- The comments of a text stand in it. -/
theorem standsIn_of_mem_placeRest {s : ReaderState} (hs : s.IsIn) {p : PlacedComment}
    (hp : p ∈ placeRest s) : p.comment.StandsIn Source.text := by
  rcases List.mem_append.1 hp with hp | hp
  · exact hs.comments p (List.mem_reverse.1 hp)
  · obtain ⟨f, hf, rfl⟩ := List.mem_map.1 hp
    have hstands := hs.cur.comments f hf
    dsimp only
    split
    · rwa [comment_placeLastComment]
    · rwa [comment_placeComment]

end Reader

open Reader

/-- The comments of a module stand in its text. -/
theorem standsIn_of_mem_comments {scope : Scope} {text : Text} {m : Module}
    (h : Module.parseIn scope text = .ok m) {p : PlacedComment} (hp : p ∈ m.comments) :
    p.comment.StandsIn text := by
  let _ : Source := ⟨text⟩
  unfold Module.parseIn at h
  extract_lets size shebang first rules at h
  have hfirst : InText first := by
    dsimp only [first]
    clear_value shebang
    split
    · exact List.suffix_rfl
    · exact suffix_skip ..
  obtain ⟨⟨body, s⟩, hrun, hok⟩ := exists_of_bind_eq_ok h
  have hitems : Stays (items rules) := stays_items
  have hs : s.IsIn := stays_iff.1 hitems scope _ (isIn_start hfirst size) _ hrun
  dsimp only at hok
  split at hok
  · cases hok
  · cases hok
    exact standsIn_of_mem_placeRest hs hp

end DocPreview.Script
