import DocPreview.Proofs.Script.Reading
import DocPreview.Script.Reader.Expression

/-!
# Expressions stay in the text

The rules for names, patterns, functions, classes and expressions are made of actions that stay in
the text, so they stay in it if the rules for what is nested in them do. Rules that are bounded by a
number of tokens or by a depth of nesting stay in the text by induction on this number. A template
and a regular expression are read character by character, and reading goes on behind them.

## Main results

* `stays_bindingPattern`, `stays_assignment`, `stays_expression`: the rules that are nested.
* `stays_functionFrom`, `stays_classFrom`: functions and classes, which are declarations as well.
-/

set_option mvcgen.warning false

namespace DocPreview.Script.Reader

open Std.Do

variable [Source] {rules : Rules} [RulesStay rules]

/-! ### Names -/

@[spec]
theorem stays_nameOf (span : Span) (word : String) : Stays (nameOf span word) := by
  mvcgen [nameOf]

@[spec]
theorem stays_checkBound (span : Span) (name : String) : Stays (checkBound span name) := by
  mvcgen [checkBound]

@[spec]
theorem stays_bindingName : Stays bindingName := by
  mvcgen [bindingName]

@[spec]
theorem stays_plainName : Stays plainName := by
  mvcgen [plainName]

@[spec]
theorem stays_anyWord : Stays anyWord := by
  mvcgen [anyWord]

@[spec]
theorem stays_memberName : Stays memberName := by
  mvcgen [memberName]

@[spec]
theorem stays_memberKey : Stays (memberKey rules) := by
  mvcgen [memberKey]

/-! ### Patterns -/

@[spec]
theorem stays_withDefault (lo : Nat) (target : Node) :
    Stays (withDefault rules lo target) := by
  mvcgen [withDefault]

@[spec]
theorem stays_bindingElement : Stays (bindingElement rules) := by
  mvcgen [bindingElement]

@[spec]
theorem stays_checkRest (n : Node) : Stays (checkRest n) := by
  mvcgen [checkRest]

@[spec]
theorem stays_arrayPattern (lo : Nat) :
    Stays (arrayPattern rules lo) := by
  mvcgen [arrayPattern]

@[spec]
theorem stays_patternMember : Stays (patternMember rules) := by
  unfold patternMember
  dsimp only
  refine Stays.bind stays_needToken fun l => Stays.bind (stays_eat _) fun isRest => ?_
  split
  · mvcgen
  · refine Stays.bind stays_memberKey fun key => Stays.bind (stays_eat _) fun hasValue => ?_
    split
    · mvcgen
    · split <;> mvcgen

@[spec]
theorem stays_bindingPattern : Stays (bindingPattern rules) := by
  mvcgen [bindingPattern]

@[spec]
theorem stays_checkTarget (n : Node) : Stays (checkTarget n) := by
  mvcgen [checkTarget]

@[spec]
theorem stays_toPattern (binds : Bool) (depth : Nat) (n : Node) :
    Stays (toPattern binds depth n) := by
  induction depth generalizing n with
  | zero => mvcgen [toPattern]
  | succ depth ih =>
    mvcgen [toPattern, ih]

@[spec]
theorem stays_checkExpression (n : Node) : Stays (checkExpression n) := by
  mvcgen [checkExpression]

/-! ### Functions and classes -/

@[spec]
theorem stays_statementsToBrace : Stays (statementsToBrace rules) := by
  mvcgen [statementsToBrace]

@[spec]
theorem stays_parameters : Stays (parameters rules) := by
  mvcgen [parameters]

@[spec]
theorem stays_functionBody : Stays (functionBody rules) := by
  mvcgen [functionBody]

@[spec]
theorem stays_functionRest (lo : Nat) (name : Option Node) (isAsync isGenerator : Bool) :
    Stays (functionRest rules lo name isAsync isGenerator) := by
  mvcgen [functionRest]

@[spec]
theorem stays_functionFrom (lo : Nat) (isAsync needsName : Bool) :
    Stays (functionFrom rules lo isAsync needsName) := by
  mvcgen [functionFrom]

@[spec]
theorem stays_methodRest (isAsync isGenerator allowsSuperCall : Bool) :
    Stays (methodRest rules isAsync isGenerator allowsSuperCall) := by
  mvcgen [methodRest]

@[spec]
theorem stays_checkAccessor (kind : MethodKind) (span : Span) (fn : Node) :
    Stays (checkAccessor kind span fn) := by
  mvcgen [checkAccessor]

@[spec]
theorem stays_modifiers : Stays modifiers := by
  mvcgen [modifiers]

@[spec]
theorem stays_checkConstructor (isStatic : Bool) (m : Modifiers) (key : Node) :
    Stays (checkConstructor isStatic m key) := by
  mvcgen [checkConstructor]

@[spec]
theorem stays_classMember (lo : Nat) (isStatic hasBase : Bool) :
    Stays (classMember rules lo isStatic hasBase) := by
  mvcgen [classMember]

@[spec]
theorem stays_classItem (hasBase : Bool) : Stays (classItem rules hasBase) := by
  mvcgen [classItem]

@[spec]
theorem stays_classBody (hasBase : Bool) : Stays (classBody rules hasBase) := by
  mvcgen [classBody]

/-- A class stays in a text if its base does. -/
@[spec]
theorem stays_classFrom {baseClass : Reader Node} (hbase : Stays baseClass) (needsName : Bool) :
    Stays (classFrom rules baseClass needsName) := by
  mvcgen [classFrom, hbase]

/-! ### Expressions -/

@[spec]
theorem stays_inBrackets {α : Type} {r : Reader α} (h : Stays r) : Stays (inBrackets r) :=
  stays_within _ h

/-! ### Templates -/

@[spec]
theorem stays_templateParts (n : Nat) {c : Cursor} (hc : InText c) :
    Stays (templateParts rules n c) := by
  induction n generalizing c with
  | zero => mvcgen [templateParts]
  | succ n ih =>
    rw [templateParts]
    split
    · mvcgen
    · rename_i hscan
      mvcgen
      exact (scanTemplate_suffix hscan).trans hc
    · rename_i hscan
      refine Stays.bind (stays_jump _ ((scanTemplate_suffix hscan).trans hc)) fun _ =>
        Stays.bind (stays_inBrackets (stays_rules _)) fun e =>
        Reads.bind reads_needToken fun l hl => ?_
      have hrest := ih hl
      mvcgen [hrest]

@[spec]
theorem stays_template : Stays (template rules) := by
  refine Reads.bind reads_cur fun l hl => Stays.bind stays_fuel fun n => ?_
  have hparts : Stays (templateParts rules n l.next) := stays_templateParts n hl
  mvcgen [hparts]

/-! ### Arguments, arrays, objects -/

@[spec]
theorem stays_spreadable : Stays (spreadable rules) := by
  mvcgen [spreadable]

@[spec]
theorem stays_arguments : Stays (arguments rules) := by
  mvcgen [arguments]

@[spec]
theorem stays_arrayFrom (lo : Nat) : Stays (arrayFrom rules lo) := by
  mvcgen [arrayFrom]

@[spec]
theorem stays_objectMember : Stays (objectMember rules) := by
  unfold objectMember
  dsimp only
  refine Stays.bind stays_needToken fun l => Stays.bind (stays_eat _) fun isRest => ?_
  split
  · mvcgen
  · refine Stays.bind stays_modifiers fun m => Stays.bind stays_cur fun keyLexeme =>
      Stays.bind stays_memberKey fun key => Stays.bind (stays_isPunct _) fun isMethod => ?_
    split
    · mvcgen
    · split
      · refine Stays.bind (stays_expect _) fun _ => Stays.bind (stays_eat _) fun hasValue => ?_
        split
        · mvcgen
        · split <;> mvcgen
      · refine Stays.bind (stays_eat _) fun hasValue => ?_
        split
        · mvcgen
        · split <;> mvcgen

@[spec]
theorem stays_objectFrom (lo : Nat) : Stays (objectFrom rules lo) := by
  mvcgen [objectFrom]

/-! ### Arrow functions -/

@[spec]
theorem stays_isArrow : Stays isArrow := by
  mvcgen [isArrow]

@[spec]
theorem stays_arrowFrom (lo : Nat) (params : List Node) (isAsync : Bool) :
    Stays (arrowFrom rules lo params isAsync) := by
  mvcgen [arrowFrom]

@[spec]
theorem stays_coverItem : Stays (coverItem rules) := by
  mvcgen [coverItem]

@[spec]
theorem stays_coverItems : Stays (coverItems rules) := by
  mvcgen [coverItems]

@[spec]
theorem stays_patternDepth : Stays patternDepth := by
  mvcgen [patternDepth]

@[spec]
theorem stays_arrowParameters (items : List Node) : Stays (arrowParameters items) := by
  mvcgen [arrowParameters]

@[spec]
theorem stays_parenthesized (canBeArrow : Bool) : Stays (parenthesized rules canBeArrow) := by
  unfold parenthesized
  dsimp only
  refine Stays.bind stays_position fun lo => Stays.bind stays_coverItems fun r => ?_
  split
  · refine Stays.bind stays_isArrow fun isArrow => ?_
    split
    · mvcgen
    · refine Stays.bind (stays_spanFrom _) fun span => ?_
      repeat' split
      all_goals mvcgen
  · refine Stays.bind (stays_spanFrom _) fun span => ?_
    repeat' split
    all_goals mvcgen

/-! ### Primary expressions -/

@[spec]
theorem stays_asyncFrom (canBeArrow : Bool) : Stays (asyncFrom rules canBeArrow) := by
  mvcgen [asyncFrom]

@[spec]
theorem stays_importFrom : Stays importFrom := by
  mvcgen [importFrom]

@[spec]
theorem stays_superFrom : Stays superFrom := by
  mvcgen [superFrom]

@[spec]
theorem stays_regexFrom : Stays regexFrom := by
  mvcgen [regexFrom, stops_throw, -Spec.throw_MonadExcept]
  · exact False.elim
  · rename_i hs _ _ hscan
    exact (scanRegex_suffix hscan).trans ((List.drop_suffix ..).trans hs.start)
  · rename_i hs _
    exact ⟨hs.cur, hs.start, hs.comments⟩

@[spec]
theorem stays_primary {baseClass : Reader Node} (hbase : Stays baseClass) (canBeArrow : Bool) :
    Stays (primary rules baseClass canBeArrow) := by
  mvcgen [primary, hbase]

/-! ### Members and calls -/

@[spec]
theorem stays_subscript (lo : Nat) (calls : Bool) (e : Node) :
    Stays (subscript rules lo calls e) := by
  mvcgen [subscript]

@[spec]
theorem stays_construction {base : Bool → Reader Node} (hbase : ∀ b, Stays (base b)) (n : Nat) :
    Stays (construction rules base n) := by
  induction n with
  | zero => mvcgen [construction]
  | succ n ih => mvcgen [construction, hbase, ih]

@[spec]
theorem stays_leftSide (canBeArrow : Bool) (n : Nat) : Stays (leftSide rules canBeArrow n) := by
  induction n generalizing canBeArrow with
  | zero => mvcgen [leftSide]
  | succ n ih =>
    mvcgen [leftSide]
    all_goals exact ih false

/-! ### Operators -/

@[spec]
theorem stays_unaryOperator? : Stays unaryOperator? := by
  mvcgen [unaryOperator?]

@[spec]
theorem stays_checkDelete (op : String) (arg : Node) : Stays (checkDelete op arg) := by
  mvcgen [checkDelete]

@[spec]
theorem stays_unary (canBeArrow : Bool) (n : Nat) : Stays (unary rules canBeArrow n) := by
  induction n generalizing canBeArrow with
  | zero => mvcgen [unary]
  | succ n ih => mvcgen [unary, ih]

@[spec]
theorem stays_binaryOperator? : Stays binaryOperator? := by
  mvcgen [binaryOperator?]

@[spec]
theorem stays_operators (n least lo : Nat) (left : Node) :
    Stays (operators rules n least lo left) := by
  induction n generalizing least lo left with
  | zero => mvcgen [operators]
  | succ n ih => mvcgen [operators, ih]

@[spec]
theorem stays_binary : Stays (binary rules) := by
  mvcgen [binary]

@[spec]
theorem stays_conditional : Stays (conditional rules) := by
  mvcgen [conditional]

@[spec]
theorem stays_yieldFrom : Stays (yieldFrom rules) := by
  mvcgen [yieldFrom]

@[spec]
theorem stays_assignment : Stays (assignment rules) := by
  mvcgen [assignment]

@[spec]
theorem stays_expression : Stays (expression rules) := by
  mvcgen [expression]

end DocPreview.Script.Reader
