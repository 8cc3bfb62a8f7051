import DocPreview.Artifact.Executable
import DocPreview.Proofs.Script.Operand
import DocPreview.Proofs.Script.Sequence

/-!
# The call of the entry point

Executable code ends with a return of a call of the entry point. Where a reader of items stands in
front of it, it is read as one item, wherever this is in the code and whatever stands before.

## Main definitions

* `IsEntryPointReturn`: the return of the call.
* `entryPointEnd`: the text of the return, on a line of its own.

## Main results

* `exists_run_statement_return`: the return is one item.
* `exists_run_statement_entryPointEnd`: at the end of executable code nothing follows it.
* `exists_parse_of_readsUpTo`: behind the items before it, it is the last item of a module.
-/

namespace DocPreview.Artifact

open Text Script Script.Reader

variable {scope : Scope} {s s' : ReaderState} {rules rules₁ rules₂ rules₃ rules₄ : Rules}

/-- The call `MDXContent({ components: {} })`. -/
inductive IsEntryPointCall : Node → Prop
  | mk {call name object member key value : Span} :
      IsEntryPointCall (.call call (.ident name "MDXContent")
        [.object object [.keyValue member (.ident key "components") (.object value [])]] false)

/-- The statement `return MDXContent({ components: {} });`. -/
inductive IsEntryPointReturn : Node → Prop
  | mk {span : Span} {call : Node} (h : IsEntryPointCall call) :
      IsEntryPointReturn (.returnStmt span (some call))

/-! ### The call from its tokens -/

/-- The tokens of the call and of the semicolon behind it. -/
structure AreEntryPointCall (token : Nat → Token) : Prop where
  name : token 0 = .word "MDXContent" false
  opening : token 1 = .punct "("
  object : token 2 = .punct "\x7b"
  key : token 3 = .word "components" false
  colon : token 4 = .punct ":"
  value : token 5 = .punct "\x7b"
  valueEnd : token 6 = .punct "\x7d"
  objectEnd : token 7 = .punct "\x7d"
  closing : token 8 = .punct ")"
  stop : token 9 = .punct ";"

/-- The tokens of the call come next. -/
def AtEntryPointCall (scope : Scope) (s : ReaderState) : Prop :=
  AreEntryPointCall fun n => (behind scope n s).cur.token

theorem AtEntryPointCall.startsOperand (h : AtEntryPointCall scope s) :
    StartsOperand s.cur.token := by
  have hname : s.cur.token = .word "MDXContent" false := h.name
  rw [hname]
  simp [StartsOperand, operatorWords]

/-- The member of the object, whose value is the empty object. -/
theorem exists_run_objectMember (h : AtEntryPointCall (inner scope) s)
    (hvalue : rules .assignment = assignment rules₁) :
    ∃ member key value, objectMember rules (inner scope) (behind (inner scope) 3 s) =
      .ok (.keyValue member (.ident key "components") (.object value []),
        behind (inner scope) 7 s) := by
  have hstarts : StartsOperand (behind (inner scope) 3 s).cur.token := by
    rw [h.key]
    simp [StartsOperand, operatorWords]
  have hempty : rules .assignment (inner scope) (behind (inner scope) 5 s) =
      .ok (.object ⟨(behind (inner scope) 5 s).cur.span.lo, (behind (inner scope) 7 s).last.hi⟩ [],
        behind (inner scope) 7 s) := by
    have hoperand : StartsOperand (behind (inner scope) 5 s).cur.token := by rw [h.value]; rfl
    rw [hvalue]
    refine run_assignment hoperand (.inr (.inr h.objectEnd)) ?_
    exact run_leftSide_object h.value (run_list_nil h.valueEnd) (.inr (.inr h.objectEnd)) _
  have hcolon : (Lexeme.read (behind (inner scope) 3 s).cur.next).token = .punct ":" := h.colon
  have hmodifiers : modifiers (inner scope) (behind (inner scope) 3 s) =
      .ok (⟨false, false, .method⟩, behind (inner scope) 3 s) := by
    simp [modifiers, h.key, hcolon, startsKey]
  have hkey : memberKey rules (inner scope) (behind (inner scope) 3 s) =
      .ok (.ident (behind (inner scope) 3 s).cur.span "components", behind (inner scope) 4 s) := by
    simp [memberKey, run_needToken hstarts, h.key, next_behind]
  refine ⟨⟨(behind (inner scope) 3 s).cur.span.lo, (behind (inner scope) 7 s).last.hi⟩,
    (behind (inner scope) 3 s).cur.span,
    ⟨(behind (inner scope) 5 s).cur.span.lo, (behind (inner scope) 7 s).last.hi⟩, ?_⟩
  simp [objectMember, run_needToken hstarts, h.key, hmodifiers, hkey, h.colon, next_behind, hempty]

/-- The object is one operand. -/
theorem exists_run_assignment_object (h : AtEntryPointCall (inner scope) s)
    (hvalue : rules .assignment = assignment rules₁) :
    ∃ object member key value, assignment rules (inner scope) (behind (inner scope) 2 s) =
      .ok (.object object [.keyValue member (.ident key "components") (.object value [])],
        behind (inner scope) 8 s) := by
  obtain ⟨member, key, value, hmember⟩ := exists_run_objectMember h hvalue
  have hoperand : StartsOperand (behind (inner scope) 2 s).cur.token := by rw [h.object]; rfl
  refine ⟨⟨(behind (inner scope) 2 s).cur.span.lo, (behind (inner scope) 8 s).last.hi⟩, member, key,
    value, run_assignment hoperand (.inl h.closing) ?_⟩
  refine run_leftSide_object h.object ?_ (.inl h.closing) _
  exact run_list_singleton (by simp [next_behind, h.key]) hmember h.objectEnd

/-- The call is an expression up to its semicolon. -/
theorem exists_run_expression_call (h : AtEntryPointCall (inner scope) s)
    (hcall : rules .assignment = assignment rules₁)
    (hargument : rules₁ .assignment = assignment rules₂)
    (hvalue : rules₂ .assignment = assignment rules₃) :
    ∃ call, IsEntryPointCall call ∧
      expression rules (inner scope) s = .ok (call, behind (inner scope) 9 s) := by
  obtain ⟨object, member, key, value, hobject⟩ := exists_run_assignment_object h hvalue
  have hname : s.cur.token = .word "MDXContent" false := h.name
  have hcallee (baseClass : Reader Node) : primary rules₁ baseClass true (inner scope) s =
      .ok (.ident s.cur.span "MDXContent", behind (inner scope) 1 s) := by
    have hopening : (next (inner scope) s).cur.token = .punct "(" := h.opening
    exact run_primary_name hname (by decide) (by simp [hopening]) baseClass
  have harguments : arguments rules₁ (inner scope) (behind (inner scope) 1 s) =
      .ok ([.object object [.keyValue member (.ident key "components") (.object value [])]],
        behind (inner scope) 9 s) := by
    have hoperand : StartsOperand (behind (inner scope) 2 s).cur.token := by rw [h.object]; rfl
    refine run_arguments h.opening hoperand ?_ h.closing
    rw [hargument]
    exact hobject
  let call : Node := .call ⟨s.cur.span.lo, (behind (inner scope) 9 s).last.hi⟩
    (.ident s.cur.span "MDXContent")
    [.object object [.keyValue member (.ident key "components") (.object value [])]] false
  have hsubscript : subscript rules₁ s.cur.span.lo true (.ident s.cur.span "MDXContent")
      (inner scope) (behind (inner scope) 1 s) = .ok (some call, behind (inner scope) 9 s) :=
    run_subscript_call h.opening harguments _
  have hiterate (n : Nat) : iterate (subscript rules₁ s.cur.span.lo true) (n + 1)
      (.ident s.cur.span "MDXContent") (inner scope) (behind (inner scope) 1 s) =
        .ok (call, behind (inner scope) 9 s) := by
    rw [run_iterate_some hsubscript, run_iterate_none (run_subscript (.inr (.inl h.stop)) _)]
  refine ⟨call, .mk, run_expression (.inr (.inl h.stop)) ?_⟩
  rw [hcall]
  refine run_assignment h.startsOperand (.inr (.inl h.stop)) ?_
  simp [leftSide, hname, hcallee, isArrowNode, hiterate]

/-! ### The statement -/

/-- The return is one item of a scope in which a statement can return. -/
theorem exists_run_statement_return (hreturn : s.cur.token = .word "return" false)
    (hnext : (next (inItem scope) s).cur.afterBreak = false)
    (h : AtEntryPointCall (inner (inItem scope)) (next (inItem scope) s))
    (hscope : scope.allowsReturn = true) (hexpression : rules .expression = expression rules₁)
    (hcall : rules₁ .assignment = assignment rules₂)
    (hargument : rules₂ .assignment = assignment rules₃)
    (hvalue : rules₃ .assignment = assignment rules₄) :
    ∃ n, IsEntryPointReturn n ∧ statement rules scope s = .ok (n,
      next (inItem scope) (behind (inner (inItem scope)) 9 (next (inItem scope) s))) := by
  obtain ⟨call, hentry, hrun⟩ := exists_run_expression_call h hcall hargument hvalue
  rw [← hexpression] at hrun
  let stop := next (inItem scope) (behind (inner (inItem scope)) 9 (next (inItem scope) s))
  let n : Node := .returnStmt ⟨s.cur.span.lo, stop.last.hi⟩ (some call)
  have hname : (next (inItem scope) s).cur.token = .word "MDXContent" false := h.name
  have hstarts : StartsOperand s.cur.token := by
    rw [hreturn]
    simp [StartsOperand, operatorWords]
  have hrule : returnFrom rules (inItem scope) s = .ok (n, stop) := by
    simp [returnFrom, expectWord, eatWord, hreturn, canEnd, hname, hnext, hrun, expectEnd, eatEnd,
      h.stop, hscope, n, stop]
  have hkeyword (lo : Nat) : keywordStatement? rules "return" lo (inItem scope) s =
      .ok (some n, stop) := by
    simp [keywordStatement?, hrule]
  refine ⟨n, .mk hentry, ?_⟩
  simp [statement, run_needToken hstarts, hreturn, startsImport, hkeyword, stop]

/-! ### The end of executable code -/

/-- What executable code ends with. -/
def entryPointEnd : Text := '\n' :: entryPointCall ++ ['\n']

/-- What stands behind the word of the return. -/
def entryPointRest : Text := " MDXContent(\x7b components: \x7b\x7d \x7d);\n".toList

/-- The tokens of the call and of the semicolon behind it. -/
def entryPointTokens : List Token :=
  [.word "MDXContent" false, .punct "(", .punct "\x7b", .word "components" false, .punct ":",
    .punct "\x7b", .punct "\x7d", .punct "\x7d", .punct ")", .punct ";"]

theorem areTokens_entryPointRest : AreTokens entryPointRest entryPointTokens ['\n'] :=
  .cons (u := "(\x7b components: \x7b\x7d \x7d);\n".toList) (fun _ => ⟨_, _, rfl⟩) <|
  .cons (u := "\x7b components: \x7b\x7d \x7d);\n".toList) (fun _ => ⟨_, _, rfl⟩) <|
  .cons (u := " components: \x7b\x7d \x7d);\n".toList) (fun _ => ⟨_, _, rfl⟩) <|
  .cons (u := ": \x7b\x7d \x7d);\n".toList) (fun _ => ⟨_, _, rfl⟩) <|
  .cons (u := " \x7b\x7d \x7d);\n".toList) (fun _ => ⟨_, _, rfl⟩) <|
  .cons (u := "\x7d \x7d);\n".toList) (fun _ => ⟨_, _, rfl⟩) <|
  .cons (u := " \x7d);\n".toList) (fun _ => ⟨_, _, rfl⟩) <|
  .cons (u := ");\n".toList) (fun _ => ⟨_, _, rfl⟩) <|
  .cons (u := ";\n".toList) (fun _ => ⟨_, _, rfl⟩) <|
  .cons (u := "\n".toList) (fun _ => ⟨_, _, rfl⟩) .nil

/-- In front of the end of executable code stands the word of the return. -/
theorem exists_read_entryPointEnd (pos : Nat) : ∃ span pos', Lexeme.read ⟨entryPointEnd, pos⟩ =
    ⟨.word "return" false, span, true, [], ⟨entryPointRest, pos'⟩, []⟩ :=
  ⟨_, _, rfl⟩

/-- At the end of executable code the return is read as one item, and nothing follows it. -/
theorem exists_run_statement_entryPointEnd {pos n : Nat}
    (hcur : s.cur = Lexeme.read ⟨entryPointEnd, pos⟩) (hfailures : s.failures = []) :
    ∃ e stop, IsEntryPointReturn e ∧
      rulesWithin (n + 5) .statement Scope.moduleBody s = .ok (e, stop) ∧
      stop.cur.token = .eof ∧ stop.failures = [] ∧ stop.cur.problems = [] := by
  obtain ⟨span, pos', hread⟩ := exists_read_entryPointEnd pos
  rw [hread] at hcur
  let first := next (inItem Scope.moduleBody) s
  have hfirst : first.cur = Lexeme.read ⟨entryPointRest, pos'⟩ :=
    congrArg (fun l : Lexeme => Lexeme.read l.next) hcur
  obtain ⟨htokens, pos'', hstop⟩ := areTokens_entryPointRest.exists_lexemeAt pos'
  have htoken {k : Nat} {token : Token} (hk : entryPointTokens[k]? = some token) :
      (behind (inner (inItem Scope.moduleBody)) k first).cur.token = token := by
    obtain ⟨_, _, hlexeme⟩ := htokens k token hk
    rw [cur_behind hfirst, hlexeme]
  have hclean : ∀ k < 10, (lexemeAt ⟨entryPointRest, pos'⟩ k).problems = [] ∧
      (lexemeAt ⟨entryPointRest, pos'⟩ k).comments = [] := by
    intro k (hk : k < entryPointTokens.length)
    obtain ⟨_, _, hlexeme⟩ := htokens k _ (List.getElem?_eq_getElem hk)
    rw [hlexeme]
    exact ⟨rfl, rfl⟩
  have hcall : AtEntryPointCall (inner (inItem Scope.moduleBody)) first :=
    ⟨htoken rfl, htoken rfl, htoken rfl, htoken rfl, htoken rfl, htoken rfl, htoken rfl, htoken rfl,
      htoken rfl, htoken rfl⟩
  have hline : first.cur.afterBreak = false := by
    obtain ⟨_, _, hlexeme⟩ := htokens 0 _ rfl
    rw [hfirst, ← lexemeAt.eq_1, hlexeme]
  obtain ⟨e, he, hrun⟩ : ∃ e, IsEntryPointReturn e ∧
      statement (rulesWithin (n + 4)) Scope.moduleBody s = .ok (e, next (inItem Scope.moduleBody)
        (behind (inner (inItem Scope.moduleBody)) 9 first)) :=
    exists_run_statement_return (by rw [hcur]) hline hcall rfl rfl rfl rfl rfl
  -- The semicolon is read outside the brackets; behind it stands the last line break.
  have hlast : (behind (inner (inItem Scope.moduleBody)) 9 first).cur =
      lexemeAt ⟨entryPointRest, pos'⟩ 9 := cur_behind hfirst _ 9
  have hend : (next (inItem Scope.moduleBody)
      (behind (inner (inItem Scope.moduleBody)) 9 first)).cur = Lexeme.read ⟨['\n'], pos''⟩ := by
    have hlength : entryPointTokens.length = 9 + 1 := rfl
    rw [← hstop, hlength, lexemeAt, ← hlast]
    rfl
  have hnoted : (behind (inner (inItem Scope.moduleBody)) 9 first).failures = [] := by
    rw [(notes_behind hfirst _ fun k hk => hclean k (Nat.lt_succ_of_lt hk)).1,
      failures_next (by rw [hcur]), hfailures]
  refine ⟨e, _, he, hrun, ?_, ?_, ?_⟩
  · rw [hend]
    rfl
  · have hproblems : (behind (inner (inItem Scope.moduleBody)) 9 first).cur.problems = [] := by
      rw [hlast, (hclean 9 (by decide)).1]
    exact (failures_next hproblems _).trans hnoted
  · rw [hend]
    rfl

/-- Behind items that are read up to the end of executable code, the return of the call is read,
and nothing follows it. -/
theorem exists_parse_of_readsUpTo {code : Text} {kinds : List ItemKind}
    (h : ReadsUpTo (code ++ entryPointEnd) entryPointEnd kinds) :
    ∃ m ns n, Module.parse (code ++ entryPointEnd) = .ok m ∧ m.body = ns ++ [n] ∧
      ns.map Node.kind = kinds ∧ IsEntryPointReturn n := by
  obtain ⟨ns, s, hitems, hkinds, ⟨pos, hcur⟩, hfailures⟩ := h
  obtain ⟨k, hk⟩ : ∃ k, (code ++ entryPointEnd).length + 2 = k + 5 := by
    have hlength : 3 ≤ entryPointEnd.length := by decide
    rw [List.length_append]
    exact ⟨code.length + entryPointEnd.length - 3, by omega⟩
  obtain ⟨e, stop, he, hrun, heof, hfail, hproblems⟩ :=
    exists_run_statement_entryPointEnd (n := k) hcur hfailures
  obtain ⟨span, pos', hread⟩ := exists_read_entryPointEnd pos
  have hrules : rulesOf (code ++ entryPointEnd) = rulesWithin (k + 5) := congrArg rulesWithin hk
  rw [hrules] at hitems
  have hall := run_items_of_takesItems hitems (by simp [hcur, hread]) hrun heof
  rw [← hrules] at hall
  obtain ⟨m, hparse, hbody⟩ := exists_parse_of_run hall hfail hproblems
  exact ⟨m, ns, e, hparse, hbody, hkinds, he⟩

end DocPreview.Artifact
