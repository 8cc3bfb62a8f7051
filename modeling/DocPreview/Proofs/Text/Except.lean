import DocPreview.Text.Basic

/-!
# Steps that can fail

Reading goes step by step, and each step can fail. If all of it succeeds, then each step did.

## Main results

* `exists_of_bind_eq_ok`, `eq_ok_of_mapError_eq_ok`: the step before the last one.
* `eq_ok_of_toOption_eq_some`, `exists_eq_ok_of_toBool`: a result that has been computed.
-/

namespace DocPreview

variable {ε α β : Type}

theorem exists_of_bind_eq_ok {x : Except ε α} {f : α → Except ε β} {b : β}
    (h : x >>= f = .ok b) : ∃ a, x = .ok a ∧ f a = .ok b := by
  cases x with
  | error e => cases h
  | ok a => exact ⟨a, rfl, h⟩

theorem bind_eq_of_eq_ok {x : Except ε α} {a : α} (h : x = .ok a) (f : α → Except ε β) :
    x >>= f = f a := by
  rw [h]
  rfl

theorem eq_ok_of_mapError_eq_ok {x : Except ε α} {f : ε → β} {a : α}
    (h : x.mapError f = .ok a) : x = .ok a := by
  cases x with
  | error e => cases h
  | ok b =>
    cases h
    rfl

theorem eq_ok_of_toOption_eq_some {x : Except ε α} {a : α} (h : x.toOption = some a) :
    x = .ok a := by
  cases x with
  | error e => cases h
  | ok b => exact congrArg Except.ok (Option.some.inj h)

theorem exists_eq_ok_of_toBool {x : Except ε α} (h : x.toBool) : ∃ a, x = .ok a := by
  cases x with
  | error e => cases h
  | ok a => exact ⟨a, rfl⟩

end DocPreview
