import DocPreview.Proofs.Script.Item

/-!
# Items that are read one after another

A module is read item by item up to the end of its text. Where the items up to some place are known,
reading goes on there as if they were all there is before it.

## Main definitions

* `Reader.TakesItems`, `Reader.takeItems?`: items that are read one after another.
* `ReadsUpTo`, `isReadUpTo`: a text whose items are read up to a rest of it.

## Main results

* `Reader.exists_cons_of_run_items`: the first item of a text.
* `Reader.run_items_of_takesItems`: items are read up to the end of a text.
* `exists_parse_of_run`: the module that items make.
* `exportsPlain_of_mem_parse`: what the exports of a module declare.
-/

namespace DocPreview.Script

deriving instance DecidableEq for Cursor, Lexeme

namespace Reader

variable {rules : Rules} {scope : Scope} {s s' s'' : ReaderState} {n : Node} {ns ms : List Node}

/-! ### Items one after another -/

/-- Items that are read one after another, each of which takes at least one character: `s'` is the
state behind the items that come next in `s`. -/
inductive TakesItems (rules : Rules) (scope : Scope) :
    ReaderState → List Node → ReaderState → Prop
  | nil {s : ReaderState} : TakesItems rules scope s [] s
  | cons {s t s' : ReaderState} {n : Node} {ns : List Node} (hnext : s.cur.token ≠ .eof)
      (hitem : rules .statement scope s = .ok (n, t))
      (hlength : t.cur.next.rest.length < s.cur.next.rest.length)
      (hrest : TakesItems rules scope t ns s') : TakesItems rules scope s (n :: ns) s'

theorem TakesItems.length_le (h : TakesItems rules scope s ns s') :
    ns.length + s'.cur.next.rest.length ≤ s.cur.next.rest.length := by
  induction h with
  | nil => simp
  | cons _ _ hlength _ ih =>
    rw [List.length_cons]
    omega

/-- The next items, of the given number, and the state behind them. -/
def takeItems? (rules : Rules) (scope : Scope) :
    Nat → ReaderState → Option (List Node × ReaderState)
  | 0, s => some ([], s)
  | n + 1, s =>
    if s.cur.token = .eof then none
    else
      match rules .statement scope s with
      | .error _ => none
      | .ok (k, t) =>
        if t.cur.next.rest.length < s.cur.next.rest.length then
          (takeItems? rules scope n t).map fun p => (k :: p.1, p.2)
        else none

theorem takesItems_of_takeItems? {count : Nat}
    (h : takeItems? rules scope count s = some (ns, s')) : TakesItems rules scope s ns s' := by
  induction count generalizing s ns with
  | zero =>
    cases h
    exact .nil
  | succ count ih =>
    rw [takeItems?] at h
    split_ifs at h with hnext
    split at h
    · cases h
    · rename_i k t hitem
      split_ifs at h with hlength
      obtain ⟨⟨ks, u⟩, hrest, heq⟩ := Option.map_eq_some_iff.1 h
      cases heq
      exact .cons hnext hitem hlength (ih hrest)

/-- The item of a module that comes next. -/
def nextItem? (rules : Rules) : Reader (Option Node) := do
  if (← cur).token = .eof then
    return none
  return some (← rules .statement)

theorem items_eq (rules : Rules) : items rules = fuel >>= many (nextItem? rules) := rfl

theorem run_nextItem? (hs : s.cur.token ≠ .eof) (h : rules .statement scope s = .ok (n, s')) :
    nextItem? rules scope s = .ok (some n, s') := by
  simp [nextItem?, hs, h]

/-- The first item is read where the items begin. -/
theorem exists_cons_of_run_items (hs : s.cur.token ≠ .eof)
    (h : items rules scope s = .ok (ns, s')) :
    ∃ n ms t, ns = n :: ms ∧ rules .statement scope s = .ok (n, t) := by
  have hmany : many (nextItem? rules) (s.cur.next.rest.length + 2) scope s = .ok (ns, s') := by
    rw [← h, items_eq]
    simp
  cases hitem : rules .statement scope s with
  | error e =>
    have hnext : nextItem? rules scope s = .error e := by
      simp [nextItem?, hs, hitem]
    simp [many, hnext] at hmany
  | ok p =>
    have hnext : nextItem? rules scope s = .ok (some p.1, p.2) := run_nextItem? hs hitem
    simp only [many, run_bind, hnext] at hmany
    split at hmany
    · cases hmany
      exact ⟨_, _, _, rfl, rfl⟩
    · cases hmany

/-- Reading goes on behind items that are read one after another. -/
theorem TakesItems.run_many (h : TakesItems rules scope s ns s') {k : Nat}
    (hrest : many (nextItem? rules) k scope s' = .ok (ms, s'')) :
    many (nextItem? rules) (ns.length + k) scope s = .ok (ns ++ ms, s'') := by
  induction h with
  | nil => simpa using hrest
  | @cons _ _ _ _ ns hnext hitem _ _ ih =>
    rw [List.length_cons, Nat.add_right_comm, many]
    simp [run_nextItem? hnext hitem, ih hrest]

/-- Items are read up to the end of the text if the last of them ends there. -/
theorem run_items_of_takesItems (h : TakesItems rules scope s ns s') (hs' : s'.cur.token ≠ .eof)
    (hlast : rules .statement scope s' = .ok (n, s'')) (hend : s''.cur.token = .eof) :
    items rules scope s = .ok (ns ++ [n], s'') := by
  obtain ⟨k, hk⟩ := Nat.exists_eq_add_of_le h.length_le
  have hone (k : Nat) : many (nextItem? rules) (k + 1 + 1) scope s' = .ok ([n], s'') := by
    have hnone : nextItem? rules scope s'' = .ok (none, s'') := by
      simp [nextItem?, hend]
    simp [many, run_nextItem? hs' hlast, hnone]
  have hall := h.run_many (hone (s'.cur.next.rest.length + k))
  have hfuel : s.cur.next.rest.length + 2 =
      ns.length + (s'.cur.next.rest.length + k + 1 + 1) := by
    omega
  simp [items_eq, hfuel, hall]

end Reader

/-! ### Modules -/

/-- The state in which the reading of a text as a module starts. -/
def moduleStart (text : List Char) : ReaderState :=
  Reader.start text.length (match shebang? text with
    | none => ⟨text, 0⟩
    | some line => Cursor.skip ⟨text, 0⟩ (line.length + 2))

/-- The rules for the depth of nesting of a text. -/
abbrev rulesOf (text : List Char) : Rules := Reader.rulesWithin (text.length + 2)

open Reader

/-- The items of a module are read up to a rest of its text, without a failure, and have these
kinds. -/
def ReadsUpTo (text rest : List Char) (kinds : List ItemKind) : Prop :=
  ∃ ns s, TakesItems (rulesOf text) Scope.moduleBody (moduleStart text) ns s ∧
    ns.map Node.kind = kinds ∧ (∃ pos, s.cur = Lexeme.read ⟨rest, pos⟩) ∧ s.failures = []

/-- Whether as many items as there are kinds are read up to a rest of a text. -/
def isReadUpTo (text rest : List Char) (kinds : List ItemKind) : Bool :=
  match takeItems? (rulesOf text) Scope.moduleBody kinds.length (moduleStart text) with
  | none => false
  | some (ns, s) => ns.map Node.kind = kinds && s.failures.isEmpty &&
      s.cur = Lexeme.read ⟨rest, text.length - rest.length⟩

theorem readsUpTo_of_isReadUpTo {text rest : List Char} {kinds : List ItemKind}
    (h : isReadUpTo text rest kinds) : ReadsUpTo text rest kinds := by
  unfold isReadUpTo at h
  split at h
  · cases h
  · rename_i ns s htake
    simp only [Bool.and_eq_true, decide_eq_true_eq, List.isEmpty_iff] at h
    obtain ⟨⟨hkinds, hfailures⟩, hcur⟩ := h
    exact ⟨ns, s, takesItems_of_takeItems? htake, hkinds, ⟨_, hcur⟩, hfailures⟩

theorem exists_run_of_parse {text : List Char} {m : Module} (h : Module.parse text = .ok m) :
    ∃ s, items (rulesOf text) Scope.moduleBody (moduleStart text) = .ok (m.body, s) := by
  obtain ⟨⟨body, s⟩, hrun, hok⟩ := exists_of_bind_eq_ok h
  refine ⟨s, hrun.trans ?_⟩
  dsimp only at hok
  split at hok
  · cases hok
  · cases hok
    rfl

theorem exists_parse_of_run {text : List Char} {body : List Node} {s : ReaderState}
    (h : items (rulesOf text) Scope.moduleBody (moduleStart text) = .ok (body, s))
    (hfailures : s.failures = []) (hproblems : s.cur.problems = []) :
    ∃ m, Module.parse text = .ok m ∧ m.body = body := by
  have hnil : s.failures.reverse ++ s.cur.problems = [] := by
    rw [hfailures, hproblems]
    rfl
  have hparse : Module.parse text = _ := bind_eq_of_eq_ok h _
  simp only [hnil] at hparse
  exact ⟨_, hparse, rfl⟩

/-- The exports of a module declare nothing that returns, imports or exports. -/
theorem exportsPlain_of_mem_parse {text : List Char} {m : Module} (h : Module.parse text = .ok m)
    {n : Node} (hn : n ∈ m.body) : ExportsPlain n := by
  obtain ⟨s, hs⟩ := exists_run_of_parse h
  exact gives_items (gives_rulesWithin _) _ _ _ _ hs n hn

end DocPreview.Script
