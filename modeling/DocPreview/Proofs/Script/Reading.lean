import DocPreview.Proofs.Script.Lexeme
import DocPreview.Script.Reader.Basic
import Mathlib

/-!
# Actions that stay in a text

Reading a text goes forward in it, and the comments that are kept on the way stand in it. The
state changes only when a token is taken, when reading goes on at another place, and when a problem
is noted; all other actions are made of these, so they stay in the text as well.

Each action has a triple of its own, from which those of the actions that use it follow by
`mvcgen`.

## Main definitions

* `ReaderState.IsIn`: a state of the reading of a text.
* `Stays`, `Reads`: actions that lead from such states to such states.
* `RulesStay`: rules that are such actions.
* `Stops`: actions that have no result.

## Main results

* `stays_bump`, `reads_cur`, `stays_jump`: taking, looking at and going on with tokens.
* `stays_many`, `stays_iterate`, `stays_list`: repeated actions.
-/

set_option mvcgen.warning false

namespace DocPreview.Script

open Std.Do

variable {α β : Type}

namespace Reader

/-! ### Failures -/

/-- An action that has no result. -/
abbrev Stops (r : Reader α) : Prop := ⦃fun _ _ => ⌜True⌝⦄ r ⦃⇓? _ => fun _ _ => ⌜False⌝⦄

theorem stops_throw (f : Failure) : Stops (throw f : Reader α) := fun _ _ _ => True.intro

theorem stops_failAt (span : Span) (p : Problem) : Stops (failAt span p : Reader α) :=
  stops_throw _

theorem stops_fail (p : Problem) : Stops (fail p : Reader α) := by
  mvcgen [fail, here, stops_failAt]

theorem stops_failEnd : Stops (failEnd : Reader α) := by
  mvcgen [failEnd, stops_failAt]

theorem stops_unexpected (wanted : String) : Stops (unexpected wanted : Reader α) := by
  mvcgen [unexpected, cur, stops_fail]

end Reader

/-! ### States in a text -/

/-- The text that is read. -/
class Source where
  text : Text

variable [Source]

/-- A state of the reading of a text: the token to be read next stands in it with its comments, the
text goes on behind the last one, and the comments that are kept stand in it. -/
structure ReaderState.IsIn (s : ReaderState) : Prop where
  cur : s.cur.IsIn Source.text
  start : s.start.rest <:+ Source.text
  comments : ∀ c ∈ s.comments, c.comment.StandsIn Source.text

namespace Reader

/-- A place of the text. -/
def InText (c : Cursor) : Prop := c.rest <:+ Source.text

/-- An action that stays in the text, and whose result holds a place of the text. -/
abbrev Reads (f : α → Cursor) (r : Reader α) : Prop :=
  ⦃fun _ s => ⌜s.IsIn⌝⦄ r ⦃⇓? a => fun _ s => ⌜s.IsIn ∧ InText (f a)⌝⦄

/-- An action that stays in a text. -/
abbrev Stays (r : Reader α) : Prop :=
  ⦃fun _ s => ⌜s.IsIn⌝⦄ r ⦃⇓? _ => fun _ s => ⌜s.IsIn⌝⦄

/-- Rules that stay in a text. -/
class RulesStay (rules : Rules) : Prop where
  stays : ∀ g, Stays (rules g)

theorem Stops.stays {r : Reader α} (h : Stops r) : Stays r := by
  mvcgen [h]
  all_goals grind

theorem reads_cur : Reads Lexeme.next cur :=
  fun _ _ hs => ⟨hs, hs.cur.next⟩

theorem reads_needToken : Reads Lexeme.next needToken := by
  mvcgen [needToken, reads_cur, stops_failEnd, stops_throw, -Spec.throw_MonadExcept]
  all_goals grind

@[spec]
theorem stays_failAt (span : Span) (p : Problem) : Stays (failAt span p : Reader α) :=
  (stops_failAt span p).stays

@[spec]
theorem stays_fail (p : Problem) : Stays (fail p : Reader α) := (stops_fail p).stays

@[spec]
theorem stays_failEnd : Stays (failEnd : Reader α) := stops_failEnd.stays

@[spec]
theorem stays_unexpected (wanted : String) : Stays (unexpected wanted : Reader α) :=
  (stops_unexpected wanted).stays

/-! ### Looking at the state -/

@[spec]
theorem stays_cur : Stays cur := by
  mvcgen [cur]

@[spec]
theorem stays_needToken : Stays needToken := by
  mvcgen [needToken, stops_throw, -Spec.throw_MonadExcept]
  all_goals grind

@[spec]
theorem stays_position : Stays position := by
  mvcgen [position]

@[spec]
theorem stays_lastEnd : Stays lastEnd := by
  mvcgen [lastEnd]

@[spec]
theorem stays_spanFrom (lo : Nat) : Stays (spanFrom lo) := by
  mvcgen [spanFrom]

@[spec]
theorem stays_fuel : Stays fuel := by
  mvcgen [fuel]

@[spec]
theorem stays_here : Stays here := by
  mvcgen [here]

@[spec]
theorem stays_peek : Stays peek := by
  mvcgen [peek]

@[spec]
theorem stays_isPunct (p : String) : Stays (isPunct p) := by
  mvcgen [isPunct]

@[spec]
theorem stays_isWord (w : String) : Stays (isWord w) := by
  mvcgen [isWord]

@[spec]
theorem stays_canEnd : Stays canEnd := by
  mvcgen [canEnd]

/-! ### Changing the state -/

@[spec]
theorem stays_noteAt (span : Span) (p : Problem) : Stays (noteAt span p) := fun _ s hs =>
  show ReaderState.IsIn { s with failures := ⟨span, p⟩ :: s.failures } from
    ⟨hs.cur, hs.start, hs.comments⟩

@[spec]
theorem stays_note (p : Problem) : Stays (note p) := by
  mvcgen [note]

@[spec]
theorem stays_noteStrictAt (span : Span) (p : Problem) : Stays (noteStrictAt span p) := by
  mvcgen [noteStrictAt]

/-- Reading goes on at a place of the text. -/
@[spec]
theorem stays_jump (last : Span) {c : Cursor} (hc : InText c) : Stays (jump last c) :=
  fun _ s hs => show ReaderState.IsIn { s with cur := Lexeme.read c, start := c, last := last }
    from ⟨isIn_read hc, hc, hs.comments⟩

@[spec high]
theorem stays_setLastToken (x : Option Token) :
    Stays (modify fun s => { s with lastToken := x } : Reader Unit) := fun _ s hs =>
  show ReaderState.IsIn { s with lastToken := x } from ⟨hs.cur, hs.start, hs.comments⟩

omit [Source] in
theorem comment_placeComment (x : Option Token) (last : Span) (next : Nat) (f : FoundComment) :
    (placeComment x last next f).comment = f.comment := by
  unfold placeComment
  extract_lets belongsToLast
  split_ifs <;> rfl

/-- The comments before a token of the text stand in the text, wherever they are placed. -/
theorem standsIn_of_mem_placed {l : Lexeme} (hl : l.IsIn Source.text) {x : Option Token} {last : Span}
    {next : Nat} {c : PlacedComment} (hc : c ∈ l.comments.map (placeComment x last next)) :
    c.comment.StandsIn Source.text := by
  obtain ⟨f, hf, rfl⟩ := List.mem_map.1 hc
  rw [comment_placeComment]
  exact hl.comments f hf

/-- Taking a token keeps the comments before it. -/
@[spec]
theorem stays_bump : Stays bump := by
  intro scope s hs
  refine show ReaderState.IsIn _ from ⟨isIn_read hs.cur.next, hs.cur.next, ?_⟩
  refine List.forall_mem_append.2 ⟨fun c hc => ?_, hs.comments⟩
  exact standsIn_of_mem_placed hs.cur (List.mem_reverse.1 hc)

/-! ### Taking given tokens -/

@[spec]
theorem stays_eat (p : String) : Stays (eat p) := by
  mvcgen [eat]

@[spec]
theorem stays_eatWord (w : String) : Stays (eatWord w) := by
  mvcgen [eatWord]

@[spec]
theorem stays_expect (p : String) : Stays (expect p) := by
  mvcgen [expect]

@[spec]
theorem stays_expectWord (w : String) : Stays (expectWord w) := by
  mvcgen [expectWord]

@[spec]
theorem stays_eatEnd : Stays eatEnd := by
  mvcgen [eatEnd]

@[spec]
theorem stays_expectEnd : Stays expectEnd := by
  mvcgen [expectEnd]

/-! ### Actions made of actions -/

theorem Stays.bind {x : Reader α} {f : α → Reader β} (hx : Stays x) (hf : ∀ a, Stays (f a)) :
    Stays (x >>= f) := by
  mvcgen [hx, hf]

theorem Reads.bind {g : α → Cursor} {x : Reader α} {f : α → Reader β} (hx : Reads g x)
    (hf : ∀ a, InText (g a) → Stays (f a)) : Stays (x >>= f) := by
  refine Triple.bind x f hx fun a => ?_
  rintro scope s ⟨hs, ha⟩
  exact hf a ha scope s hs

/-- An action stays in the text exactly if each result comes with a state in it. -/
theorem stays_iff {r : Reader α} :
    Stays r ↔ ∀ scope s, s.IsIn → ∀ p, r scope s = .ok p → p.2.IsIn := by
  have hwp (scope : Scope) (s : ReaderState) :
      ((wp⟦r⟧ (⇓? _ => fun _ s => ⌜s.IsIn⌝ : PostCond α _)) scope s).down ↔
        ∀ p, r scope s = .ok p → p.2.IsIn := by
    change (wp⟦r scope s⟧ _).down ↔ _
    cases r scope s with
    | ok p =>
      constructor
      · intro h q hq
        cases hq
        exact h
      · exact fun h => h p rfl
    | error e => exact iff_of_true True.intro (by simp)
  exact ⟨fun h scope s hs => (hwp scope s).1 (h scope s hs),
    fun h scope s hs => (hwp scope s).2 (h scope s hs)⟩

/-- After a failure reading goes on in the state before it. -/
theorem stays_tryCatch {r : Reader α} {f : Failure → Reader α} (hr : Stays r)
    (hf : ∀ e, Stays (f e)) : Stays (tryCatch r f) := by
  refine stays_iff.2 fun scope s hs p hp => ?_
  change (r scope s).tryCatch (fun e => f e scope s) = .ok p at hp
  cases hrun : r scope s with
  | ok q =>
    rw [hrun] at hp
    cases hp
    exact stays_iff.1 hr scope s hs _ hrun
  | error e =>
    rw [hrun] at hp
    exact stays_iff.1 (hf e) scope s hs p hp

@[spec]
theorem stays_within (change : Scope → Scope) {r : Reader α} (h : Stays r) :
    Stays (within change r) := fun scope s hs => h (change scope) s hs

@[spec]
theorem stays_rules {rules : Rules} [RulesStay rules] (g : Goal) : Stays (rules g) :=
  RulesStay.stays g

@[spec high]
theorem stays_within_rules {rules : Rules} [RulesStay rules] (change : Scope → Scope) (g : Goal) :
    Stays (within change (rules g)) := stays_within change (stays_rules g)

@[spec]
theorem stays_many {item : Reader (Option α)} (h : Stays item) (n : Nat) :
    Stays (many item n) := by
  induction n with
  | zero => mvcgen [many]
  | succ n ih => mvcgen [many, h, ih]

@[spec]
theorem stays_iterate {step : α → Reader (Option α)} (h : ∀ a, Stays (step a)) (n : Nat) (a : α) :
    Stays (iterate step n a) := by
  induction n generalizing a with
  | zero => mvcgen [iterate]
  | succ n ih => mvcgen [iterate, h, ih]

@[spec]
theorem stays_list {item : Reader Node} (h : Stays item) (closer : String) :
    Stays (list item closer) := by
  mvcgen [list, h]

@[spec]
theorem stays_forM {f : α → Reader PUnit} (h : ∀ a, Stays (f a)) (as : List α) :
    Stays (as.forM f) := by
  induction as with
  | nil => mvcgen [List.forM]
  | cons a as ih =>
    change Stays (f a >>= fun _ => as.forM f)
    mvcgen [h, ih]

@[spec]
theorem stays_mapM {f : α → Reader β} (h : ∀ a, Stays (f a)) (as : List α) :
    Stays (as.mapM f) := by
  induction as with
  | nil => mvcgen [List.mapM_nil]
  | cons a as ih => mvcgen [List.mapM_cons, h, ih]

end Reader

end DocPreview.Script
