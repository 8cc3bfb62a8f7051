import DocPreview.Artifact.Executable
import DocPreview.Proofs.Script.Literal
import DocPreview.Proofs.Script.Operand

/-!
# Reports

A report is code that shows a message, which stands in it as one string. Whatever the message is,
the code is one statement, a call of `console.error` with the message: nothing in the message ends
the string.

## Main definitions

* `IsCall`: a text with the tokens of a call of `console.error`.
* `reported`: the text that a report shows.

## Main results

* `parse_of_isCall`: a text with the tokens of such a call is one statement.
* `report_injective`: a report tells what was reported.
* `parse_report`: a report is one statement.
-/

namespace DocPreview.Artifact

open Text Script Script.Reader

variable {scope : Scope} {s s' : ReaderState} {e : Node} {rules rules₁ rules₂ rules₃ : Rules}
variable {v raw : String} {t : Text}

/-! ### The statement from its tokens -/

/-- The tokens of a call of `console.error` with one string. -/
structure AreCall (v raw : String) (token : Nat → Token) : Prop where
  object : token 0 = .word "console" false
  point : token 1 = .punct "."
  name : token 2 = .word "error" false
  opening : token 3 = .punct "("
  message : token 4 = .string v raw
  closing : token 5 = .punct ")"
  stop : token 6 = .punct ";"

/-- The tokens of a call of `console.error` with one string come next. -/
def AtCall (scope : Scope) (v raw : String) (s : ReaderState) : Prop :=
  AreCall v raw fun n => (behind scope n s).cur.token

/-- The call that begins at a state. -/
def callAt (scope : Scope) (v raw : String) (s : ReaderState) : Node :=
  .call ⟨s.cur.span.lo, (behind scope 6 s).last.hi⟩
    (.member ⟨s.cur.span.lo, (behind scope 3 s).last.hi⟩ (.ident s.cur.span "console")
      (.ident (behind scope 2 s).cur.span "error") false)
    [.string (behind scope 4 s).cur.span v (some raw)] false

theorem AtCall.startsOperand (h : AtCall scope v raw s) : StartsOperand s.cur.token := by
  have hobject : s.cur.token = .word "console" false := h.object
  rw [hobject]
  simp [StartsOperand, operatorWords]

theorem run_leftSide_call (h : AtCall (inner scope) v raw s)
    (hrules : rules .assignment = assignment rules₁) (n : Nat) :
    leftSide rules true (n + 1) (inner scope) s =
      .ok (callAt (inner scope) v raw s, behind (inner scope) 6 s) := by
  have hfirst : s.cur.token = .word "console" false := h.object
  have hobject (baseClass : Reader Node) : primary rules baseClass true (inner scope) s =
      .ok (.ident s.cur.span "console", behind (inner scope) 1 s) := by
    have hpoint : (next (inner scope) s).cur.token = .punct "." := h.point
    exact run_primary_name hfirst (by decide) (by simp [hpoint]) baseClass
  have hname : memberName (inner scope) (behind (inner scope) 2 s) =
      .ok (.ident (behind (inner scope) 2 s).cur.span "error", behind (inner scope) 3 s) := by
    have hoperand : StartsOperand (behind (inner scope) 2 s).cur.token := by
      rw [h.name]
      simp [StartsOperand, operatorWords]
    simp [memberName, run_needToken hoperand, h.name, next_behind]
  have hmessage : StartsOperand (behind (inner scope) 4 s).cur.token := by
    rw [h.message]
    trivial
  have hstring : rules .assignment (inner scope) (behind (inner scope) 4 s) =
      .ok (.string (behind (inner scope) 4 s).cur.span v (some raw), behind (inner scope) 5 s) := by
    rw [hrules]
    exact run_assignment hmessage (.inl h.closing)
      (run_leftSide_string h.message (.inl h.closing) _)
  have harguments : arguments rules (inner scope) (behind (inner scope) 3 s) =
      .ok ([.string (behind (inner scope) 4 s).cur.span v (some raw)], behind (inner scope) 6 s) :=
    run_arguments h.opening hmessage hstring h.closing
  let member : Node := .member ⟨s.cur.span.lo, (behind (inner scope) 3 s).last.hi⟩
    (.ident s.cur.span "console") (.ident (behind (inner scope) 2 s).cur.span "error") false
  have hmember : subscript rules s.cur.span.lo true (.ident s.cur.span "console") (inner scope)
      (behind (inner scope) 1 s) = .ok (some member, behind (inner scope) 3 s) := by
    simp [subscript, h.point, next_behind, hname, member]
  have hcall : subscript rules s.cur.span.lo true member (inner scope) (behind (inner scope) 3 s) =
      .ok (some (callAt (inner scope) v raw s), behind (inner scope) 6 s) :=
    run_subscript_call h.opening harguments _
  have hiterate (n : Nat) : iterate (subscript rules s.cur.span.lo true) (n + 2)
      (.ident s.cur.span "console") (inner scope) (behind (inner scope) 1 s) =
        .ok (callAt (inner scope) v raw s, behind (inner scope) 6 s) := by
    rw [run_iterate_some hmember, run_iterate_some hcall,
      run_iterate_none (run_subscript (.inr (.inl h.stop)) _)]
  simp [leftSide, hfirst, hobject, isArrowNode, hiterate]

/-- The statement that begins at a state. -/
def statementAt (scope : Scope) (v raw : String) (s : ReaderState) : Node :=
  .exprStmt ⟨s.cur.span.lo, (behind scope 6 s).cur.span.hi⟩ (callAt scope v raw s)

/-- The statement is read up to its semicolon. -/
theorem run_statement_call (rules : Rules) (h : AtCall (inner (inItem scope)) v raw s)
    (hexpression : rules .expression = expression rules₁)
    (hassignment : rules₁ .assignment = assignment rules₂)
    (hargument : rules₂ .assignment = assignment rules₃) :
    statement rules scope s = .ok (statementAt (inner (inItem scope)) v raw s,
      next (inItem scope) (behind (inner (inItem scope)) 6 s)) := by
  have hfirst : s.cur.token = .word "console" false := h.object
  have hcall : rules .expression (inner (inItem scope)) s = .ok
      (callAt (inner (inItem scope)) v raw s, behind (inner (inItem scope)) 6 s) := by
    rw [hexpression]
    refine run_expression (.inr (.inl h.stop)) ?_
    rw [hassignment]
    exact run_assignment h.startsOperand (.inr (.inl h.stop)) (run_leftSide_call h hargument _)
  have hpoint : (Lexeme.read s.cur.next).token = .punct "." := h.point
  have hkeyword (lo : Nat) : keywordStatement? rules "console" lo (inItem scope) s =
      .ok (none, s) := rfl
  have hdeclaration : declaration? rules (inItem scope) s = .ok (none, s) := by
    simp [declaration?, varKind?, hfirst]
  have hlast : (next (inItem scope) (behind (inner (inItem scope)) 6 s)).last =
      (behind (inner (inItem scope)) 6 s).cur.span := rfl
  simp [statement, run_needToken h.startsOperand, hfirst, startsImport, hkeyword, hdeclaration,
    expressionStatement, hpoint, eatEnd, hcall, h.stop, hlast, statementAt]

/-- One statement up to the end of a text is its only item. -/
theorem run_items (hrules : rules .statement = statement rules₁) (hs : s.cur.token ≠ .eof)
    (h : statement rules₁ scope s = .ok (e, s')) (hs' : s'.cur.token = .eof) :
    items rules scope s = .ok ([e], s') := by
  simp [items, many, hs, hrules, h, hs']

/-! ### The text of the statement -/

/-- A text that is a call of `console.error` with one string, and a semicolon. -/
structure IsCall (v raw : String) (t : Text) : Prop where
  tokens : AreCall v raw fun n => (lexemeAt ⟨t, 0⟩ n).token
  eof : (lexemeAt ⟨t, 0⟩ 7).token = .eof
  clean : ∀ n < 8, (lexemeAt ⟨t, 0⟩ n).problems = [] ∧ (lexemeAt ⟨t, 0⟩ n).comments = []
  shebang : shebang? t = none
  length : 2 ≤ t.length

/-- The statement that such a text is. -/
def callStatement (v raw : String) (t : Text) : Node :=
  let span (n : Nat) : Span := (lexemeAt ⟨t, 0⟩ n).span
  .exprStmt ⟨(span 0).lo, (span 6).hi⟩ (.call ⟨(span 0).lo, (span 5).hi⟩
    (.member ⟨(span 0).lo, (span 2).hi⟩ (.ident (span 0) "console") (.ident (span 2) "error") false)
    [.string (span 4) v (some raw)] false)

theorem statementAt_start (size : Nat) :
    statementAt scope v raw (Reader.start size ⟨t, 0⟩) = callStatement v raw t := by
  have hlast (n : Nat) : (behind scope (n + 1) (Reader.start size ⟨t, 0⟩)).last =
      (behind scope n (Reader.start size ⟨t, 0⟩)).cur.span := rfl
  rw [statementAt, callAt, hlast, hlast]
  simp only [cur_behind_start]
  rfl

/-- A text with the tokens of a call is one statement. -/
theorem parse_of_isCall (h : IsCall v raw t) : Module.parse t =
    .ok ⟨⟨(callStatement v raw t).span.lo, t.length⟩, none, [callStatement v raw t], []⟩ := by
  let s := Reader.start t.length ⟨t, 0⟩
  let stop := next (inItem Scope.moduleBody) (behind (inner (inItem Scope.moduleBody)) 6 s)
  have hcall : AtCall (inner (inItem Scope.moduleBody)) v raw s := by
    have htokens := h.tokens
    rwa [← funext fun n => congrArg Lexeme.token
      (cur_behind_start (inner (inItem Scope.moduleBody)) t.length ⟨t, 0⟩ n)] at htokens
  have hstop : stop.cur = lexemeAt ⟨t, 0⟩ 7 := cur_behind_start Scope.moduleBody t.length ⟨t, 0⟩ 7
  have hitems : items (rulesWithin (t.length + 2)) Scope.moduleBody
      (Reader.start t.length ⟨t, 0⟩) = .ok ([callStatement v raw t], stop) := by
    obtain ⟨n, hn⟩ := Nat.exists_eq_add_of_le' h.length
    have hstatement := run_statement_call (rulesWithin (n + 3)) hcall rfl rfl rfl
    rw [statementAt_start] at hstatement
    have hfirst : s.cur.token ≠ .eof := by
      rw [show s.cur.token = .word "console" false from h.tokens.object]
      exact Token.noConfusion
    have hlast : stop.cur.token = .eof := by rw [hstop, h.eof]
    have hrules : rulesWithin (t.length + 2) = rulesWithin (n + 4) := by rw [hn]
    rw [hrules]
    exact run_items rfl hfirst hstatement hlast
  obtain ⟨hfailures, hcomments⟩ : stop.failures = [] ∧ stop.comments = [] := by
    obtain ⟨hnoted, hread⟩ := notes_behind (s := s) rfl (inner (inItem Scope.moduleBody))
      fun n (hn : n < 6) => h.clean n (Nat.lt_trans hn (by decide))
    obtain ⟨hproblems, hcomments⟩ := h.clean 6 (by decide)
    rw [← cur_behind_start (inner (inItem Scope.moduleBody)) t.length] at hproblems hcomments
    exact ⟨(failures_next hproblems _).trans hnoted, (comments_next hcomments _).trans hread⟩
  obtain ⟨hproblems, hcomments'⟩ := h.clean 7 (by decide)
  have hrest : placeRest stop = [] := by
    rw [placeRest, hcomments, hstop, hcomments']
    rfl
  rw [Module.parse, Module.parseIn]
  simp only [h.shebang, ReaderT.run, StateT.run, hitems, Except.bind, bind, hfailures, hstop,
    hproblems, hrest, List.reverse_nil, List.append_nil]
  rfl

/-! ### The tokens of a report -/

/-- The tokens of a report before its message. -/
theorem read_report (t : Text) :
    Lexeme.read ⟨"console.error(".toList ++ '"' :: t, 0⟩ =
        ⟨.word "console" false, ⟨0, 7⟩, false, [], ⟨".error(".toList ++ '"' :: t, 7⟩, []⟩ ∧
      Lexeme.read ⟨".error(".toList ++ '"' :: t, 7⟩ =
        ⟨.punct ".", ⟨7, 8⟩, false, [], ⟨"error(".toList ++ '"' :: t, 8⟩, []⟩ ∧
      Lexeme.read ⟨"error(".toList ++ '"' :: t, 8⟩ =
        ⟨.word "error" false, ⟨8, 13⟩, false, [], ⟨"(".toList ++ '"' :: t, 13⟩, []⟩ ∧
      Lexeme.read ⟨"(".toList ++ '"' :: t, 13⟩ =
        ⟨.punct "(", ⟨13, 14⟩, false, [], ⟨'"' :: t, 14⟩, []⟩ :=
  ⟨rfl, rfl, rfl, rfl⟩

/-- The tokens of a report after its message. -/
theorem read_report_end (n : Nat) :
    Lexeme.read ⟨");".toList, n⟩ = ⟨.punct ")", ⟨n, n + 1⟩, false, [], ⟨";".toList, n + 1⟩, []⟩ ∧
      Lexeme.read ⟨";".toList, n⟩ = ⟨.punct ";", ⟨n, n + 1⟩, false, [], ⟨[], n + 1⟩, []⟩ ∧
      Lexeme.read ⟨[], n⟩ = ⟨.eof, ⟨n, n⟩, false, [], ⟨[], n⟩, []⟩ :=
  ⟨rfl, rfl, rfl⟩

/-- The text that a report of a message shows. -/
def reported (message : Text) : Text := "MDX Error: ".toList ++ message

theorem report_eq (message : Text) : report message =
    "console.error(".toList ++ (Json.quote (reported message) ++ ");".toList) := by
  unfold report reported
  exact List.append_assoc _ _ _

/-- Reports show what was reported. -/
theorem report_injective : Function.Injective report := by
  intro message message' h
  rw [report_eq, report_eq, List.append_cancel_left_eq] at h
  have hread := Json.unquote?_quote_append (reported message) ");".toList
  rw [h, Json.unquote?_quote_append, Option.some_inj, Prod.mk.injEq] at hread
  exact (List.append_cancel_left hread.1).symm

theorem isCall_report (message : Text) : IsCall (String.ofList (reported message))
    (String.ofList (Json.quote (reported message))) (report message) := by
  have hquote : Json.quote (reported message) ++ ");".toList =
      '"' :: (Json.escape (reported message) ++ '"' :: ");".toList) := by
    rw [Json.quote, List.append_assoc]
    rfl
  obtain ⟨hobject, hpoint, hname, hopening⟩ :=
    read_report (Json.escape (reported message) ++ '"' :: ");".toList)
  rw [← hquote, ← report_eq] at hobject
  rw [← hquote] at hpoint hname hopening
  -- Each token is read where the one before it ends.
  have h₀ : lexemeAt ⟨report message, 0⟩ 0 = _ := hobject
  have h₁ := lexemeAt_succ h₀ hpoint
  have h₂ := lexemeAt_succ h₁ hname
  have h₃ := lexemeAt_succ h₂ hopening
  have h₄ := lexemeAt_succ h₃ (read_quote_append (reported message) ");".toList 14)
  have h₅ := lexemeAt_succ h₄ (read_report_end _).1
  have h₆ := lexemeAt_succ h₅ (read_report_end _).2.1
  have h₇ := lexemeAt_succ h₆ (read_report_end _).2.2
  exact
    { tokens :=
        { object := congrArg Lexeme.token h₀, point := congrArg Lexeme.token h₁
          name := congrArg Lexeme.token h₂, opening := congrArg Lexeme.token h₃
          message := congrArg Lexeme.token h₄, closing := congrArg Lexeme.token h₅
          stop := congrArg Lexeme.token h₆ }
      eof := congrArg Lexeme.token h₇
      clean := by
        intro n hn
        obtain rfl | rfl | rfl | rfl | rfl | rfl | rfl | rfl :
          n = 0 ∨ n = 1 ∨ n = 2 ∨ n = 3 ∨ n = 4 ∨ n = 5 ∨ n = 6 ∨ n = 7 := by omega
        · rw [h₀]; exact ⟨rfl, rfl⟩
        · rw [h₁]; exact ⟨rfl, rfl⟩
        · rw [h₂]; exact ⟨rfl, rfl⟩
        · rw [h₃]; exact ⟨rfl, rfl⟩
        · rw [h₄]; exact ⟨rfl, rfl⟩
        · rw [h₅]; exact ⟨rfl, rfl⟩
        · rw [h₆]; exact ⟨rfl, rfl⟩
        · rw [h₇]; exact ⟨rfl, rfl⟩
      shebang := rfl
      length := by
        rw [report_eq, List.length_append]
        exact Nat.le_add_right_of_le (by decide) }

/-- A report is one statement, whatever its message is: a call of `console.error` with the message
as its only argument. -/
theorem parse_report (message : Text) :
    ∃ span, ∃ callSpan, ∃ calleeSpan, ∃ objectSpan, ∃ nameSpan, ∃ argumentSpan,
      (Module.parse (report message)).map Module.body = .ok [.exprStmt span (.call callSpan
        (.member calleeSpan (.ident objectSpan "console") (.ident nameSpan "error") false)
        [.string argumentSpan (String.ofList (reported message))
          (some (String.ofList (Json.quote (reported message))))] false)] := by
  rw [parse_of_isCall (isCall_report message)]
  exact ⟨_, _, _, _, _, _, rfl⟩

end DocPreview.Artifact
