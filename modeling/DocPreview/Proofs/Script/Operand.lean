import DocPreview.Script.Reader.Grammar

/-!
# Expressions that are one operand

Between its first token and the parenthesis or semicolon that closes it, an expression of one
operand passes through all levels of precedence unchanged. What a reader does is followed from state
to state: each action is an equation between the state before it and what it gives.

## Main definitions

* `Reader.next`: the state behind the next token.
* `Reader.AreTokens`: texts that are made of given tokens.
* `Reader.StartsOperand`, `Reader.Closes`: where an operand begins, and where an expression ends.

## Main results

* `run_assignment`: an operand is an expression without a comma.
* `run_expression`: and an expression.
* `run_primary_name`, `run_leftSide_string`, `run_leftSide_object`: names, strings and objects.
* `run_arguments`, `run_subscript_call`: the arguments that are one operand, and calls.
-/

namespace DocPreview.Script.Reader

variable {α β : Type} {scope : Scope} {s s' : ReaderState} {rules rules' : Rules} {e : Node}
variable {isArrowAllowed : Bool} {v raw : String}

/-! ### Actions -/

/-- The state behind the next token. -/
def next (scope : Scope) (s : ReaderState) : ReaderState :=
  { s with
    cur := Lexeme.read s.cur.next
    start := s.cur.next
    lastToken := some s.cur.token
    last := s.cur.span
    failures := (s.cur.problems.filter fun f => counts scope f.problem).reverse ++ s.failures
    comments := (s.cur.comments.map (placeComment s.lastToken s.last s.cur.span.lo)).reverse ++
      s.comments }

@[simp] theorem run_pure (a : α) : (pure a : Reader α) scope s = .ok (a, s) := rfl

@[simp] theorem run_bind (x : Reader α) (f : α → Reader β) :
    (x >>= f) scope s =
      match x scope s with
      | .ok (a, s') => f a scope s'
      | .error e => .error e := by
  show (x scope s).bind _ = _
  cases x scope s <;> rfl

@[simp] theorem run_map (f : α → β) (x : Reader α) :
    (f <$> x) scope s =
      match x scope s with
      | .ok (a, s') => .ok (f a, s')
      | .error e => .error e := by
  show (x scope s).bind _ = _
  cases x scope s <;> rfl

@[simp] theorem run_ite (p : Prop) [Decidable p] (x y : Reader α) :
    (if p then x else y) scope s = if p then x scope s else y scope s := by
  split <;> rfl

@[simp] theorem run_cur : cur scope s = .ok (s.cur, s) := rfl

@[simp] theorem run_read : (read : Reader Scope) scope s = .ok (scope, s) := rfl

@[simp] theorem run_bump : bump scope s = .ok ((), next scope s) := rfl

@[simp] theorem run_position : position scope s = .ok (s.cur.span.lo, s) := rfl

@[simp] theorem run_spanFrom (lo : Nat) : spanFrom lo scope s = .ok (⟨lo, s.last.hi⟩, s) := rfl

@[simp] theorem run_fuel : fuel scope s = .ok (s.cur.next.rest.length + 2, s) := rfl

@[simp] theorem run_peek : peek scope s = .ok (Lexeme.read s.cur.next, s) := rfl

@[simp] theorem run_isPunct (p : String) :
    isPunct p scope s = .ok (decide (s.cur.token = .punct p), s) := rfl

@[simp] theorem run_isWord (w : String) :
    isWord w scope s = .ok (decide (s.cur.token = .word w false), s) := rfl

@[simp] theorem run_within (change : Scope → Scope) (r : Reader α) :
    within change r scope s = r (change scope) s := rfl

/-- The scope inside brackets. -/
abbrev inner (scope : Scope) : Scope := { scope with allowsIn := true }

/-- The scope inside an item of a module. -/
abbrev inItem (scope : Scope) : Scope := { scope with isTopLevel := false }

@[simp] theorem run_inBrackets (r : Reader α) : inBrackets r scope s = r (inner scope) s := rfl

@[simp] theorem run_eat (p : String) :
    eat p scope s = .ok (if s.cur.token = .punct p then (true, next scope s) else (false, s)) := by
  rw [eat]
  by_cases h : s.cur.token = .punct p <;> simp [h]

theorem run_expect {p : String} (h : s.cur.token = .punct p) :
    expect p scope s = .ok ((), next scope s) := by
  simp [expect, h]

/-- Where a step has nothing to do, repeating it changes nothing. -/
theorem run_iterate_none {step : α → Reader (Option α)} {a : α}
    (h : step a scope s = .ok (none, s)) (n : Nat) : iterate step n a scope s = .ok (a, s) := by
  cases n with
  | zero => rfl
  | succ n => simp [iterate, h]

/-- Where a step gives a value, repeating it goes on with that value. -/
theorem run_iterate_some {step : α → Reader (Option α)} {a b : α}
    (h : step a scope s = .ok (some b, s')) (n : Nat) :
    iterate step (n + 1) a scope s = iterate step n b scope s' := by
  simp [iterate, h]

/-! ### Tokens -/

/-- The state behind a number of tokens. -/
def behind (scope : Scope) : Nat → ReaderState → ReaderState
  | 0, s => s
  | n + 1, s => next scope (behind scope n s)

theorem next_behind (scope : Scope) (n : Nat) (s : ReaderState) :
    next scope (behind scope n s) = behind scope (n + 1) s := rfl

theorem failures_next (h : s.cur.problems = []) (scope : Scope) :
    (next scope s).failures = s.failures := by
  simp [next, h]

theorem comments_next (h : s.cur.comments = []) (scope : Scope) :
    (next scope s).comments = s.comments := by
  simp [next, h]

/-- The tokens of a text from a place on. -/
def lexemeAt (c : Cursor) : Nat → Lexeme
  | 0 => Lexeme.read c
  | n + 1 => Lexeme.read (lexemeAt c n).next

theorem lexemeAt_succ {c : Cursor} {n : Nat} {l l' : Lexeme} (h : lexemeAt c n = l)
    (hl : Lexeme.read l.next = l') : lexemeAt c (n + 1) = l' := by
  rw [lexemeAt, h, hl]

theorem lexemeAt_next (c : Cursor) (n : Nat) :
    lexemeAt (Lexeme.read c).next n = lexemeAt c (n + 1) := by
  induction n with
  | zero => rfl
  | succ n ih => rw [lexemeAt, ih, ← lexemeAt.eq_2]

theorem cur_behind {c : Cursor} (h : s.cur = Lexeme.read c) (scope : Scope) (n : Nat) :
    (behind scope n s).cur = lexemeAt c n := by
  induction n with
  | zero => exact h
  | succ n ih =>
    show Lexeme.read (behind scope n s).cur.next = _
    rw [ih, lexemeAt]

theorem cur_behind_start (scope : Scope) (size : Nat) (c : Cursor) (n : Nat) :
    (behind scope n (start size c)).cur = lexemeAt c n := cur_behind rfl scope n

/-- Over tokens without problems and comments nothing is noted. -/
theorem notes_behind {c : Cursor} (h : s.cur = Lexeme.read c) (scope : Scope) {n : Nat}
    (hclean : ∀ k < n, (lexemeAt c k).problems = [] ∧ (lexemeAt c k).comments = []) :
    (behind scope n s).failures = s.failures ∧ (behind scope n s).comments = s.comments := by
  induction n with
  | zero => exact ⟨rfl, rfl⟩
  | succ n ih =>
    obtain ⟨hproblems, hcomments⟩ := hclean n n.lt_succ_self
    obtain ⟨hnoted, hread⟩ := ih fun k hk => hclean k (Nat.lt_succ_of_lt hk)
    rw [← cur_behind h scope n] at hproblems hcomments
    exact ⟨(failures_next hproblems scope).trans hnoted, (comments_next hcomments scope).trans hread⟩

/-- A text that is made of tokens on one line, without comments and problems, and a rest. -/
inductive AreTokens : List Char → List Token → List Char → Prop
  | nil {rest : List Char} : AreTokens rest [] rest
  | cons {text u rest : List Char} {token : Token} {tokens : List Token}
      (h : ∀ pos, ∃ span pos', Lexeme.read ⟨text, pos⟩ =
        ⟨token, span, false, [], ⟨u, pos'⟩, []⟩)
      (hlater : AreTokens u tokens rest) : AreTokens text (token :: tokens) rest

/-- The tokens of a text are read one after another. -/
theorem AreTokens.exists_lexemeAt {text rest : List Char} {tokens : List Token}
    (h : AreTokens text tokens rest) (pos : Nat) :
    (∀ n token, tokens[n]? = some token → ∃ span next,
      lexemeAt ⟨text, pos⟩ n = ⟨token, span, false, [], next, []⟩) ∧
    ∃ pos', lexemeAt ⟨text, pos⟩ tokens.length = Lexeme.read ⟨rest, pos'⟩ := by
  induction h generalizing pos with
  | nil => exact ⟨by simp, pos, rfl⟩
  | @cons text _ _ _ _ h _ ih =>
    obtain ⟨span, pos', hread⟩ := h pos
    obtain ⟨htokens, hrest⟩ := ih pos'
    have hnext (n : Nat) := lexemeAt_next ⟨text, pos⟩ n
    simp only [hread] at hnext
    refine ⟨fun n token hn => ?_, ?_⟩
    · cases n with
      | zero =>
        obtain rfl := Option.some.inj hn
        exact ⟨_, _, hread⟩
      | succ n =>
        rw [← hnext]
        exact htokens n token hn
    · rw [List.length_cons, ← hnext]
      exact hrest

/-! ### Operands -/

/-- The words that stand before an operand. -/
def operatorWords : List String := ["typeof", "void", "delete", "new", "await", "yield"]

/-- The tokens that an operand can start with: strings, words that are no operators, and the brace
of an object. -/
def StartsOperand : Token → Prop
  | .string _ _ => True
  | .word w false => w ∉ operatorWords
  | .punct p => p = "\x7b"
  | _ => False

/-- The next token closes an expression. -/
def Closes (s : ReaderState) : Prop :=
  s.cur.token = .punct ")" ∨ s.cur.token = .punct ";" ∨ s.cur.token = .punct "\x7d"

/-- The punctuators that close an expression. -/
def closers : List String := [")", ";", "\x7d"]

theorem Closes.exists_punct (hs : Closes s) : ∃ p ∈ closers, s.cur.token = .punct p := by
  obtain hclose | hclose | hclose := hs
  all_goals exact ⟨_, by simp [closers], hclose⟩

theorem Closes.ne_punct (hs : Closes s) {p : String} (hp : p ∉ closers) :
    s.cur.token ≠ .punct p := by
  obtain ⟨q, hq, htoken⟩ := hs.exists_punct
  rw [htoken]
  rintro ⟨⟩
  exact hp hq

theorem StartsOperand.ne_punct {t : Token} (h : StartsOperand t) {p : String} (hp : p ≠ "\x7b") :
    t ≠ .punct p := by
  rintro rfl
  exact hp h

theorem StartsOperand.ne_word {t : Token} (h : StartsOperand t) {w : String}
    (hw : w ∈ operatorWords) : t ≠ .word w false := by
  rintro rfl
  exact h hw

theorem run_needToken (h : StartsOperand s.cur.token) : needToken scope s = .ok (s.cur, s) := by
  rw [needToken]
  cases htoken : s.cur.token with
  | string v raw => simp [htoken]
  | word w isEscaped => simp [htoken]
  | punct p => simp [htoken]
  | _ => rw [htoken] at h; cases h

theorem run_unaryOperator? (h : StartsOperand s.cur.token) :
    unaryOperator? scope s = .ok (none, s) := by
  rw [unaryOperator?]
  cases htoken : s.cur.token with
  | string v raw => simp [htoken]
  | word w isEscaped =>
    rw [htoken] at h
    cases isEscaped with
    | true => cases h
    | false =>
      have hsub : ∀ w ∈ unaryWords, w ∈ operatorWords := by decide
      have hw : w ∉ unaryWords := fun hmem => h (hsub w hmem)
      simp [htoken, hw]
  | punct p =>
    rw [htoken] at h
    obtain rfl : p = "\x7b" := h
    simp [htoken, unaryPunctuators]
  | _ => rw [htoken] at h; cases h

/-! ### Levels of precedence -/

theorem run_unary (hs : StartsOperand s.cur.token) (hs' : Closes s')
    (h : leftSide rules isArrowAllowed (s.cur.next.rest.length + 2) scope s = .ok (e, s'))
    (n : Nat) : unary rules isArrowAllowed (n + 1) scope s = .ok (e, s') := by
  have hupdate : s'.cur.token ≠ .punct "++" ∧ s'.cur.token ≠ .punct "--" :=
    ⟨hs'.ne_punct (by decide), hs'.ne_punct (by decide)⟩
  have hsign : s.cur.token ≠ .punct "++" ∧ s.cur.token ≠ .punct "--" :=
    ⟨hs.ne_punct (by decide), hs.ne_punct (by decide)⟩
  have hwords : "await" ∈ operatorWords := by decide
  simp [unary, run_needToken hs, run_unaryOperator? hs, hsign, hs.ne_word hwords, h, hupdate]

theorem run_binaryOperator? (hs' : Closes s') : binaryOperator? scope s' = .ok (none, s') := by
  obtain ⟨p, hp, htoken⟩ := hs'.exists_punct
  have hprecedence : ∀ p ∈ closers, precedence p = 0 := by decide
  simp [binaryOperator?, htoken, hprecedence p hp]

theorem run_operators (hs' : Closes s') (n least lo : Nat) :
    operators rules n least lo e scope s' = .ok (e, s') := by
  cases n with
  | zero => rfl
  | succ n =>
    simp [operators, run_binaryOperator? hs']

theorem run_conditional (hs : StartsOperand s.cur.token) (hs' : Closes s')
    (h : leftSide rules true (s.cur.next.rest.length + 2) scope s = .ok (e, s')) :
    conditional rules scope s = .ok (e, s') := by
  have hbinary : binary rules scope s = .ok (e, s') := by
    simp [binary, run_unary hs hs' h, run_operators hs']
  have hquestion : s'.cur.token ≠ .punct "?" := hs'.ne_punct (by decide)
  simp [conditional, hbinary, hquestion]

/-- An operand is an expression without a comma. -/
theorem run_assignment (hs : StartsOperand s.cur.token) (hs' : Closes s')
    (h : leftSide rules true (s.cur.next.rest.length + 2) scope s = .ok (e, s')) :
    assignment rules scope s = .ok (e, s') := by
  have hyield : s.cur.token ≠ .word "yield" false := hs.ne_word (by decide)
  obtain ⟨p, hp, htoken⟩ := hs'.exists_punct
  have hassign : ∀ p ∈ closers, p ∉ assignOperators := by decide
  simp [assignment, run_conditional hs hs' h, hyield, htoken, hassign p hp]

theorem run_expression (hs' : Closes s') (h : rules .assignment scope s = .ok (e, s')) :
    expression rules scope s = .ok (e, s') := by
  have hcomma : s'.cur.token ≠ .punct "," := hs'.ne_punct (by decide)
  simp [expression, h, hcomma]

/-! ### Strings, objects and calls -/

theorem run_subscript (hs' : Closes s') (lo : Nat) :
    subscript rules lo true e scope s' = .ok (none, s') := by
  rw [subscript]
  obtain hclose | hclose | hclose := hs' <;> simp [hclose]

/-- An operand that is neither a member nor a call. -/
theorem run_leftSide_primary (hs : s.cur.token ≠ .word "new" false) (hs' : Closes s')
    (h : ∀ baseClass, primary rules baseClass isArrowAllowed scope s = .ok (e, s')) (n : Nat) :
    leftSide rules isArrowAllowed (n + 1) scope s = .ok (e, s') := by
  simp [leftSide, hs, h, run_iterate_none (run_subscript hs' _)]

/-- The words that are no names, are names in some scopes only, or can start something else. -/
def specialWords : List String := reservedWords ++ strictWords ++ ["async", "await", "yield"]

/-- Any other word is an operand. -/
theorem run_primary_name {w : String} (hs : s.cur.token = .word w false) (hw : w ∉ specialWords)
    (hnext : (next scope s).cur.token ≠ .punct "=>") (baseClass : Reader Node) :
    primary rules baseClass true scope s = .ok (.ident s.cur.span w, next scope s) := by
  have hoperator : ∀ w ∈ operatorWords, w ∈ specialWords := by decide
  have hoperand : StartsOperand s.cur.token := by
    rw [hs]
    exact fun hmem => hw (hoperator w hmem)
  obtain ⟨⟨hreserved, hstrict⟩, hname⟩ := by
    simpa only [specialWords, List.mem_append, not_or] using hw
  have hreference : isReference scope w := by
    simp only [List.mem_cons, not_or] at hname
    simp [isReference, hreserved, hname]
  simp only [primary, run_bind, run_needToken hoperand, hs, Bool.not_false, if_true]
  split
  case h_10 => simp [hreference, nameOf, hstrict, isArrow, hnext]
  -- The words that start something else are special.
  all_goals exact absurd (by decide) hw

/-- A string is an operand. -/
theorem run_leftSide_string (hs : s.cur.token = .string v raw) (hs' : Closes (next scope s))
    (n : Nat) : leftSide rules isArrowAllowed (n + 1) scope s =
      .ok (.string s.cur.span v (some raw), next scope s) := by
  have hoperand : StartsOperand s.cur.token := by rw [hs]; trivial
  refine run_leftSide_primary (by simp [hs]) hs' (fun baseClass => ?_) n
  simp [primary, run_needToken hoperand, hs]

/-- The object of members up to a closing brace is an operand. -/
theorem run_leftSide_object {members : List Node} (hs : s.cur.token = .punct "\x7b")
    (hmembers : list (objectMember rules) "\x7d" (inner scope) (next scope s) = .ok (members, s'))
    (hs' : Closes s') (n : Nat) : leftSide rules isArrowAllowed (n + 1) scope s =
      .ok (.object ⟨s.cur.span.lo, s'.last.hi⟩ members, s') := by
  have hoperand : StartsOperand s.cur.token := by rw [hs]; rfl
  refine run_leftSide_primary (by simp [hs]) hs' (fun baseClass => ?_) n
  simp [primary, run_needToken hoperand, hs, objectFrom, hmembers]

/-- Nothing stands before a closing punctuator. -/
theorem run_list_nil {item : Reader Node} {closer : String} (h : s.cur.token = .punct closer) :
    list item closer scope s = .ok ([], next scope s) := by
  simp [list, many, h, run_expect h]

/-- One item stands before a closing punctuator. -/
theorem run_list_singleton {item : Reader Node} {closer : String}
    (hs : s.cur.token ≠ .punct closer) (hitem : item scope s = .ok (e, s'))
    (hs' : s'.cur.token = .punct closer) : list item closer scope s = .ok ([e], next scope s') := by
  simp [list, many, hs, hitem, hs', run_expect hs']

/-- The arguments of a call that are one operand. -/
theorem run_arguments (hopen : s.cur.token = .punct "(")
    (hs : StartsOperand (next scope s).cur.token)
    (hitem : rules .assignment (inner scope) (next scope s) = .ok (e, s'))
    (hclose : s'.cur.token = .punct ")") :
    arguments rules scope s = .ok ([e], next (inner scope) s') := by
  have hspread : spreadable rules (inner scope) (next scope s) = .ok (e, s') := by
    simp [spreadable, hs.ne_punct, hitem]
  simp [arguments, run_expect hopen,
    run_list_singleton (hs.ne_punct (by decide)) hspread hclose]

/-- Behind an operand, arguments make a call of it. -/
theorem run_subscript_call {ns : List Node} (hopen : s.cur.token = .punct "(")
    (hargs : arguments rules scope s = .ok (ns, s')) (lo : Nat) :
    subscript rules lo true e scope s = .ok (some (.call ⟨lo, s'.last.hi⟩ e ns false), s') := by
  simp [subscript, hopen, hargs]

end DocPreview.Script.Reader
