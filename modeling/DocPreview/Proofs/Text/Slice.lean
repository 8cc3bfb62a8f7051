import DocPreview.Text.Basic
import Mathlib.Data.List.Basic

/-!
# Cutting a text at numbers of bytes

A text `a ++ b` is cut at `byteSize a` into `a` and `b`, whatever the widths of its characters.
Hence replacing spans that begin and end between parts of a text is replacing the parts: for
texts that alternate between gaps and parts, `splice_interleave` says that the result alternates
between the same gaps and the replacements.

A text is not cut at every number of bytes: a number can lie behind the end of the text or inside a
character of more than one byte. `isBoundary` says where a text can be cut and `slice?` gives the
bytes between two such places, in order; it has no value anywhere else. Where it has one, the text
is a part before the slice, the slice and a part behind it, which is the form in which later files
use it.

## Main definitions

* `Text.interleave`: gaps with parts between them.
* `Text.replacements`: the spans of the parts, each with its replacement.
* `Text.isBoundary`: the numbers of bytes at which a text can be cut.
* `Text.slice?`: the bytes of a text between two borders of characters.
* `Text.utf8`: the bytes of a text.

## Main results

* `splice_interleave`: replacing the parts of a text between gaps.
* `isBoundary_iff`: the borders of characters are the sizes of the prefixes.
* `slice?_eq_some_iff`: the slices of a text are its parts.
* `utf8EncodeChar_cases`: the first byte of a character of more than one byte is not an ASCII code.
-/

namespace DocPreview.Text

@[simp] theorem byteSize_nil : byteSize [] = 0 := rfl

@[simp] theorem byteSize_cons (c : Char) (s : Text) :
    byteSize (c :: s) = c.utf8Size + byteSize s := rfl

@[simp] theorem dropBytes_zero (s : Text) : dropBytes 0 s = s := by
  cases s <;> rfl

@[simp] theorem takeBytes_zero (s : Text) : takeBytes 0 s = [] := by
  cases s <;> rfl

theorem dropBytes_cons (c : Char) (s : Text) (n : Nat) :
    dropBytes (c.utf8Size + n) (c :: s) = dropBytes n s := by
  have hc := c.utf8Size_pos
  obtain ⟨k, hk⟩ : ∃ k, c.utf8Size + n = k + 1 := ⟨c.utf8Size + n - 1, by omega⟩
  rw [hk, dropBytes, ← hk, Nat.add_sub_cancel_left]

theorem takeBytes_cons (c : Char) (s : Text) (n : Nat) :
    takeBytes (c.utf8Size + n) (c :: s) = c :: takeBytes n s := by
  have hc := c.utf8Size_pos
  obtain ⟨k, hk⟩ : ∃ k, c.utf8Size + n = k + 1 := ⟨c.utf8Size + n - 1, by omega⟩
  rw [hk, takeBytes, ← hk, Nat.add_sub_cancel_left]

/-- The bytes of a first part are dropped with it. -/
theorem dropBytes_byteSize_append (a b : Text) (n : Nat) :
    dropBytes (byteSize a + n) (a ++ b) = dropBytes n b := by
  induction a with
  | nil => simp
  | cons c a ih => rw [byteSize_cons, Nat.add_assoc, List.cons_append, dropBytes_cons, ih]

theorem dropBytes_byteSize (a b : Text) : dropBytes (byteSize a) (a ++ b) = b := by
  rw [← Nat.add_zero (byteSize a), dropBytes_byteSize_append, dropBytes_zero]

/-- The bytes of a first part are that part. -/
theorem takeBytes_byteSize_append (a b : Text) : takeBytes (byteSize a) (a ++ b) = a := by
  induction a with
  | nil => simp
  | cons c a ih => rw [byteSize_cons, List.cons_append, takeBytes_cons, ih]

/-- A part of a text is the slice between the bytes before it and those before its end. -/
theorem slice_append (a b c : Text) :
    slice (a ++ (b ++ c)) (byteSize a) (byteSize a + byteSize b) = b := by
  rw [slice, Nat.add_sub_cancel_left, dropBytes_byteSize, takeBytes_byteSize_append]

/-! ### Gaps and parts -/

/-- Gaps of a text with parts between them. There is one gap more than there are parts. -/
def interleave : List Text → List Text → Text
  | g :: gs, p :: ps => g ++ (p ++ interleave gs ps)
  | gs, _ => gs.flatten

@[simp] theorem interleave_nil (gs : List Text) : interleave gs [] = gs.flatten := by
  cases gs <;> rfl

@[simp] theorem interleave_cons (g p : Text) (gs ps : List Text) :
    interleave (g :: gs) (p :: ps) = g ++ (p ++ interleave gs ps) := rfl

/-- A gap occurs in the text. -/
theorem infix_interleave_of_mem {g : Text} {gs : List Text} (h : g ∈ gs) (ps : List Text) :
    g <:+: interleave gs ps := by
  induction gs generalizing ps with
  | nil => cases h
  | cons g' gs ih =>
    cases ps with
    | nil =>
      rw [interleave_nil]
      exact List.infix_of_mem_flatten h
    | cons p ps =>
      rw [interleave_cons]
      rcases List.mem_cons.1 h with rfl | h
      · exact (List.prefix_append ..).isInfix
      · exact (ih h ps).trans ((List.suffix_append p _).trans (List.suffix_append g' _)).isInfix

/-- The spans of parts between gaps, the first gap starting at byte `start`, each with what is to
stand there. -/
def replacements : Nat → List Text → List (Text × Text) → List Replacement
  | start, g :: gs, (p, q) :: ps =>
    let first := start + byteSize g
    ⟨first, first + byteSize p, q⟩ :: replacements (first + byteSize p) gs ps
  | _, _, _ => []

/-- Replacing the parts between gaps keeps the gaps. -/
theorem spliceFrom_interleave (before : Text) :
    ∀ (gs : List Text) (ps : List (Text × Text)), gs.length = ps.length + 1 →
      spliceFrom (before ++ interleave gs (ps.map Prod.fst)) (byteSize before)
        (replacements (byteSize before) gs ps) = interleave gs (ps.map Prod.snd)
  | [], _, h => by simp at h
  | gs, [], h => by
    cases gs <;> exact dropBytes_byteSize before _
  | g :: gs, (p, q) :: ps, h => by
    have ih := spliceFrom_interleave (before ++ (g ++ p)) gs ps (by simpa using h)
    simp only [byteSize_append, List.append_assoc] at ih
    simp only [List.map_cons, interleave_cons, replacements, spliceFrom, Nat.add_assoc,
      slice_append, List.append_assoc] at ih ⊢
    rw [ih]

/-- Replacing the parts of a text between gaps gives the same gaps with the replacements between
them. -/
theorem splice_interleave (gs : List Text) (ps : List (Text × Text))
    (h : gs.length = ps.length + 1) :
    splice (interleave gs (ps.map Prod.fst)) (replacements 0 gs ps) =
      interleave gs (ps.map Prod.snd) :=
  spliceFrom_interleave [] gs ps h

/-! ### Borders of characters -/

/-- Whether a text has at least `n` bytes and a character of it does not reach over the first `n`
ones. -/
def isBoundary : Text → Nat → Bool
  | _, 0 => true
  | [], _ + 1 => false
  | c :: r, n + 1 => c.utf8Size ≤ n + 1 && isBoundary r (n + 1 - c.utf8Size)

/-- The bytes of a text from `start` up to `stop`, if these are in order and the text can be cut
at both. -/
def slice? (s : Text) (start stop : Nat) : Option Text :=
  if start ≤ stop ∧ isBoundary s start ∧ isBoundary s stop then some (slice s start stop) else none

/-- A difference of two numbers that is not negative. -/
def sub? (m n : Nat) : Option Nat := if n ≤ m then some (m - n) else none

theorem isBoundary_zero (s : Text) : isBoundary s 0 = true := by
  cases s <;> rfl

theorem isBoundary_append (a b : Text) : isBoundary (a ++ b) (byteSize a) = true := by
  induction a with
  | nil => exact isBoundary_zero b
  | cons c a ih =>
    have hc := c.utf8Size_pos
    obtain ⟨n, hn⟩ : ∃ n, c.utf8Size + byteSize a = n + 1 := ⟨c.utf8Size + byteSize a - 1, by omega⟩
    rw [List.cons_append, byteSize_cons, hn, isBoundary, ← hn, Nat.add_sub_cancel_left, ih]
    simp

/-- The borders of the characters of a text are the sizes of its prefixes. -/
theorem isBoundary_iff {s : Text} {n : Nat} :
    isBoundary s n = true ↔ ∃ a b, s = a ++ b ∧ n = byteSize a := by
  constructor
  · intro h
    induction s generalizing n with
    | nil =>
      cases n with
      | zero => exact ⟨[], [], rfl, rfl⟩
      | succ n => simp [isBoundary] at h
    | cons c s ih =>
      cases n with
      | zero => exact ⟨[], c :: s, rfl, rfl⟩
      | succ n =>
        rw [isBoundary, Bool.and_eq_true, decide_eq_true_eq] at h
        obtain ⟨a, b, rfl, hn⟩ := ih h.2
        exact ⟨c :: a, b, rfl, by rw [byteSize_cons, ← hn]; omega⟩
  · rintro ⟨a, b, rfl, rfl⟩
    exact isBoundary_append a b

/-- The shorter of two prefixes is a prefix of the other one. -/
theorem exists_append_of_byteSize_le {a b a' b' : Text} (h : a ++ b = a' ++ b')
    (hle : byteSize a ≤ byteSize a') : ∃ t, a' = a ++ t ∧ b = t ++ b' := by
  rcases List.append_eq_append_iff.1 h with ⟨t, rfl, rfl⟩ | ⟨t, rfl, rfl⟩
  · exact ⟨t, rfl, rfl⟩
  · cases t with
    | nil => exact ⟨[], by simp, rfl⟩
    | cons c t =>
      have hc := c.utf8Size_pos
      rw [byteSize_append, byteSize_cons] at hle
      omega

/-- The slices of a text are its parts. -/
theorem slice?_eq_some_iff {s t : Text} {m n : Nat} : slice? s m n = some t ↔
    ∃ a b, s = a ++ (t ++ b) ∧ m = byteSize a ∧ n = byteSize a + byteSize t := by
  rw [slice?]
  constructor
  · intro h
    split_ifs at h with hbounds
    obtain ⟨hle, hm, hn⟩ := hbounds
    obtain ⟨a, r, rfl, rfl⟩ := isBoundary_iff.1 hm
    obtain ⟨p, b, hs, rfl⟩ := isBoundary_iff.1 hn
    obtain ⟨t', rfl, rfl⟩ := exists_append_of_byteSize_le hs hle
    rw [byteSize_append, slice_append] at h
    obtain rfl := Option.some.inj h
    exact ⟨a, b, rfl, rfl, byteSize_append a t'⟩
  · rintro ⟨a, b, rfl, rfl, rfl⟩
    have hstop : isBoundary (a ++ (t ++ b)) (byteSize a + byteSize t) = true := by
      rw [← List.append_assoc, ← byteSize_append]
      exact isBoundary_append (a ++ t) b
    rw [if_pos ⟨Nat.le_add_right .., isBoundary_append .., hstop⟩, slice_append]

theorem slice?_append (a t b : Text) :
    slice? (a ++ (t ++ b)) (byteSize a) (byteSize a + byteSize t) = some t :=
  slice?_eq_some_iff.2 ⟨a, b, rfl, rfl, rfl⟩

/-- The bytes up to a border are a slice. -/
theorem slice?_zero_append (t b : Text) : slice? (t ++ b) 0 (byteSize t) = some t :=
  slice?_eq_some_iff.2 ⟨[], b, rfl, rfl, (Nat.zero_add _).symm⟩

/-- The bytes from a border on are a slice. -/
theorem slice?_byteSize_append (a t : Text) :
    slice? (a ++ t) (byteSize a) (byteSize (a ++ t)) = some t :=
  slice?_eq_some_iff.2 ⟨a, [], by rw [List.append_nil], rfl, byteSize_append a t⟩

theorem sub?_byteSize_append (a b : Text) :
    sub? (byteSize (a ++ b)) (byteSize b) = some (byteSize a) := by
  rw [sub?, byteSize_append, if_pos (Nat.le_add_left ..), Nat.add_sub_cancel_right]

/-! ### Bytes -/

/-- The bytes of a text in UTF-8. -/
def utf8 (s : Text) : List UInt8 := s.flatMap String.utf8EncodeChar

/-- A character is one byte, its code, or begins with a byte that is no code of such a
character. -/
theorem utf8EncodeChar_cases (c : Char) :
    (c.toNat < 128 ∧ String.utf8EncodeChar c = [UInt8.ofNat c.toNat]) ∨
      128 ≤ c.toNat ∧ ∃ b bs, String.utf8EncodeChar c = b :: bs ∧ 128 ≤ b.toNat := by
  have hcode : c.val.toNat = c.toNat := rfl
  rw [String.utf8EncodeChar, hcode]
  generalize c.toNat = v
  split_ifs with h1 h2 h3
  · exact Or.inl ⟨by omega, rfl⟩
  all_goals
    refine Or.inr ⟨by omega, _, _, rfl, ?_⟩
    rw [UInt8.toNat_ofNat']
    omega

end DocPreview.Text
