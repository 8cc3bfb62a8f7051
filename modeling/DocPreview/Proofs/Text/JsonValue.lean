import DocPreview.Proofs.Text.Json

/-!
# Reading values of JSON

A value of JSON is read back from its compact text. The reader takes every text that JSON allows,
with white space between its parts; a run of letters, digits, signs and points is a word or a
number as a whole, since only a bracket, a comma or white space can follow one.

A number is kept as its text, so that a value has a text of JSON only if its numbers are texts of
numbers.

## Main definitions

* `Json.isNumber`: the texts of numbers.
* `Json.read?`: the value that a text is.
* `Json.IsWellFormed`: values all of whose numbers are texts of numbers.

## Main results

* `read?_compact`, `read?_compact_append`: a value is read back from its compact text, with or
  without white space behind it.
-/

namespace DocPreview.Json

variable {s t r : Text} {v : Json}

/-! ### Words and numbers -/

/-- White space between the parts of a value. -/
def isSpace (c : Char) : Bool := c = ' ' || c = '\t' || c = '\n' || c = '\r'

/-- The characters of words and numbers. -/
def isAtomPart (c : Char) : Bool := c.isAlphanum || c = '-' || c = '+' || c = '.'

/-- One digit or more. -/
def isDigits (s : Text) : Bool := !s.isEmpty && s.all Char.isDigit

/-- The end of a number: nothing or an exponent. -/
def isExponent : Text → Bool
  | [] => true
  | c :: '+' :: s | c :: '-' :: s => (c = 'e' || c = 'E') && isDigits s
  | c :: s => (c = 'e' || c = 'E') && isDigits s

/-- The end of a number after its whole part: a fraction and an exponent, if any. -/
def isFraction : Text → Bool
  | '.' :: s => isDigits (s.takeWhile Char.isDigit) && isExponent (s.dropWhile Char.isDigit)
  | s => isExponent s

/-- A number without a sign. Its whole part has no zero in front of other digits. -/
def isUnsigned (s : Text) : Bool :=
  isDigits (s.takeWhile Char.isDigit) &&
    (s.head? ≠ some '0' || s.takeWhile Char.isDigit = ['0']) &&
    isFraction (s.dropWhile Char.isDigit)

/-- The texts of numbers. -/
def isNumber : Text → Bool
  | '-' :: s => isUnsigned s
  | s => isUnsigned s

/-- The word or number that a text starts with, and what follows it. -/
def atom? (s : Text) : Option (Json × Text) :=
  let word := s.takeWhile isAtomPart
  let rest := s.dropWhile isAtomPart
  if word = "null".toList then some (.null, rest)
  else if word = "true".toList then some (.bool true, rest)
  else if word = "false".toList then some (.bool false, rest)
  else if isNumber word then some (.number (String.ofList word), rest)
  else none

theorem isAtomPart_of_isDigits (h : isDigits s) : ∀ c ∈ s, isAtomPart c := by
  intro c hc
  have hdigit : c.isDigit := List.all_eq_true.1 (Bool.and_eq_true_iff.1 h).2 c hc
  simp [isAtomPart, Char.isAlphanum, hdigit]

theorem isAtomPart_of_isExponent (h : isExponent s) : ∀ c ∈ s, isAtomPart c := by
  have hletter {c : Char} (hc : (c = 'e' || c = 'E') = true) : isAtomPart c := by
    rw [Bool.or_eq_true, decide_eq_true_iff, decide_eq_true_iff] at hc
    rcases hc with rfl | rfl <;> rfl
  unfold isExponent at h
  split at h
  · exact List.forall_mem_nil _
  all_goals
    obtain ⟨hc, hdigits⟩ := Bool.and_eq_true_iff.1 h
    simp only [List.forall_mem_cons]
  · exact ⟨hletter hc, rfl, isAtomPart_of_isDigits hdigits⟩
  · exact ⟨hletter hc, rfl, isAtomPart_of_isDigits hdigits⟩
  · exact ⟨hletter hc, isAtomPart_of_isDigits hdigits⟩

theorem isAtomPart_of_digits_append (hs : isDigits (s.takeWhile Char.isDigit))
    (hrest : ∀ c ∈ s.dropWhile Char.isDigit, isAtomPart c) : ∀ c ∈ s, isAtomPart c := by
  rw [← List.takeWhile_append_dropWhile (p := Char.isDigit) (l := s), List.forall_mem_append]
  exact ⟨isAtomPart_of_isDigits hs, hrest⟩

theorem isAtomPart_of_isFraction (h : isFraction s) : ∀ c ∈ s, isAtomPart c := by
  unfold isFraction at h
  split at h
  · obtain ⟨hdigits, hexp⟩ := Bool.and_eq_true_iff.1 h
    exact List.forall_mem_cons.2
      ⟨rfl, isAtomPart_of_digits_append hdigits (isAtomPart_of_isExponent hexp)⟩
  · exact isAtomPart_of_isExponent h

theorem isAtomPart_of_isUnsigned (h : isUnsigned s) : ∀ c ∈ s, isAtomPart c := by
  obtain ⟨hwhole, hfraction⟩ := Bool.and_eq_true_iff.1 h
  exact isAtomPart_of_digits_append (Bool.and_eq_true_iff.1 hwhole).1
    (isAtomPart_of_isFraction hfraction)

theorem isAtomPart_of_isNumber (h : isNumber s) : ∀ c ∈ s, isAtomPart c := by
  unfold isNumber at h
  split at h
  · exact List.forall_mem_cons.2 ⟨rfl, isAtomPart_of_isUnsigned h⟩
  · exact isAtomPart_of_isUnsigned h

theorem ne_nil_of_isNumber (h : isNumber s) : s ≠ [] := by
  rintro rfl
  cases h

/-- Texts that go on with none of the characters of words and numbers. -/
def EndsAtom (r : Text) : Prop := ∀ c ∈ r.head?, isAtomPart c = false

theorem takeWhile_atom (hs : ∀ c ∈ s, isAtomPart c) (hr : EndsAtom r) :
    (s ++ r).takeWhile isAtomPart = s := by
  rw [List.takeWhile_append_of_pos hs]
  cases r with
  | nil => simp
  | cons c r => rw [List.takeWhile_cons, hr c rfl]; simp

theorem dropWhile_atom (hs : ∀ c ∈ s, isAtomPart c) (hr : EndsAtom r) :
    (s ++ r).dropWhile isAtomPart = r := by
  rw [List.dropWhile_append_of_pos hs]
  cases r with
  | nil => rfl
  | cons c r => rw [List.dropWhile_cons, hr c rfl]; simp

/-! ### Values -/

/-- A text after white space. -/
def skipSpace (s : Text) : Text := s.dropWhile isSpace

mutual

/-- The value that a text starts with, and what follows it; `fuel` bounds the number of its
parts. -/
def readValue : Nat → Text → Option (Json × Text)
  | 0, _ => none
  | fuel + 1, s =>
    match skipSpace s with
    | '"' :: r => do
      let (t, rest) ← unquote? ('"' :: r)
      return (.string (String.ofList t), rest)
    | '[' :: r =>
      match skipSpace r with
      | ']' :: rest => some (.array [], rest)
      | r => do
        let (vs, rest) ← readItems fuel r
        return (.array vs, rest)
    | '\x7b' :: r =>
      match skipSpace r with
      | '\x7d' :: rest => some (.object [], rest)
      | r => do
        let (ms, rest) ← readMembers fuel r
        return (.object ms, rest)
    | s => atom? s

/-- The items of an array up to its end, and what follows it. -/
def readItems : Nat → Text → Option (List Json × Text)
  | 0, _ => none
  | fuel + 1, s => do
    let (v, r) ← readValue fuel s
    match skipSpace r with
    | ']' :: rest => return ([v], rest)
    | ',' :: r =>
      let (vs, rest) ← readItems fuel r
      return (v :: vs, rest)
    | _ => none

/-- The members of an object up to its end, and what follows it. -/
def readMembers : Nat → Text → Option (List (String × Json) × Text)
  | 0, _ => none
  | fuel + 1, s => do
    let (k, r) ← unquote? (skipSpace s)
    let r ← Text.after? [':'] (skipSpace r)
    let (v, r) ← readValue fuel r
    match skipSpace r with
    | '\x7d' :: rest => return ([(String.ofList k, v)], rest)
    | ',' :: r =>
      let (ms, rest) ← readMembers fuel r
      return ((String.ofList k, v) :: ms, rest)
    | _ => none

end

/-- The value that a text is. -/
def read? (s : Text) : Option Json := do
  let (v, rest) ← readValue (2 * s.length) s
  guard (skipSpace rest).isEmpty
  return v

mutual

/-- Values all of whose numbers are texts of numbers. -/
def IsWellFormed : Json → Prop
  | .null | .bool _ | .string _ => True
  | .number t => isNumber t.toList
  | .array vs => ItemsWellFormed vs
  | .object ms => MembersWellFormed ms

/-- Items all of whose numbers are texts of numbers. -/
def ItemsWellFormed : List Json → Prop
  | [] => True
  | v :: vs => v.IsWellFormed ∧ ItemsWellFormed vs

/-- Members all of whose numbers are texts of numbers. -/
def MembersWellFormed : List (String × Json) → Prop
  | [] => True
  | (_, v) :: ms => v.IsWellFormed ∧ MembersWellFormed ms

end

/-! ### Reading back -/

/-- The characters that the text of a value can start with. -/
def startsValue (c : Char) : Bool := isAtomPart c || c = '"' || c = '[' || c = '\x7b'

theorem isSpace_eq_false_of_startsValue {c : Char} (h : startsValue c) : isSpace c = false := by
  by_contra hspace
  rw [Bool.not_eq_false] at hspace
  simp only [isSpace, Bool.or_eq_true, decide_eq_true_iff] at hspace
  obtain ((rfl | rfl) | rfl) | rfl := hspace <;> exact absurd h (by decide)

theorem skipSpace_cons {c : Char} (h : isSpace c = false) (s : Text) :
    skipSpace (c :: s) = c :: s := by
  rw [skipSpace, List.dropWhile_cons, if_neg (by rw [h]; exact Bool.false_ne_true)]

theorem toList_compact_string (s : String) : (Json.string s).compact.toList = quote s.toList := by
  rw [compact, quoteString, String.toList_ofList]

theorem toList_compact_array (vs : List Json) : (Json.array vs).compact.toList =
    '[' :: (compactItems vs).toList ++ [']'] := by
  simp only [compact, String.toList_append]
  rfl

theorem toList_compact_object (ms : List (String × Json)) : (Json.object ms).compact.toList =
    '\x7b' :: (compactMembers ms).toList ++ ['\x7d'] := by
  simp only [compact, String.toList_append]
  rfl

/-- The text of a value starts with no white space and no closing bracket. -/
theorem exists_compact_eq_cons (hv : v.IsWellFormed) :
    ∃ c s, v.compact.toList = c :: s ∧ startsValue c := by
  cases v with
  | null => exact ⟨'n', _, rfl, rfl⟩
  | bool b => cases b; exacts [⟨'f', _, rfl, rfl⟩, ⟨'t', _, rfl, rfl⟩]
  | number t =>
    rw [IsWellFormed] at hv
    obtain ⟨c, s, ht⟩ := List.exists_cons_of_ne_nil (ne_nil_of_isNumber hv)
    have hc : isAtomPart c := isAtomPart_of_isNumber hv c (by rw [ht]; exact List.mem_cons_self)
    exact ⟨c, s, ht, by simp [startsValue, hc]⟩
  | string s => exact ⟨'"', _, toList_compact_string s, rfl⟩
  | array vs => exact ⟨'[', _, toList_compact_array vs, rfl⟩
  | object ms => exact ⟨'\x7b', _, toList_compact_object ms, rfl⟩

theorem toList_compactItems_cons (v : Json) (vs : List Json) : (compactItems (v :: vs)).toList =
    v.compact.toList ++ if vs = [] then [] else ',' :: (compactItems vs).toList := by
  cases vs with
  | nil => simp [compactItems]
  | cons w vs => simp [compactItems, String.toList_append]

theorem toList_compactMembers_cons (k : String) (v : Json) (ms : List (String × Json)) :
    (compactMembers ((k, v) :: ms)).toList = quote k.toList ++ ':' :: v.compact.toList ++
      if ms = [] then [] else ',' :: (compactMembers ms).toList := by
  cases ms with
  | nil => simp [compactMembers, String.toList_append, quoteString]
  | cons m ms => obtain ⟨l, w⟩ := m; simp [compactMembers, String.toList_append, quoteString]

theorem endsAtom_cons {c : Char} (h : isAtomPart c = false) (r : Text) : EndsAtom (c :: r) :=
  fun _ hd => Option.some.inj hd ▸ h

/-- A word or a number is read back. -/
theorem readValue_atom {fuel : Nat} (hs : ∀ c ∈ s, isAtomPart c) (hne : s ≠ []) :
    readValue (fuel + 1) (s ++ r) = atom? (s ++ r) := by
  obtain ⟨c, s, rfl⟩ := List.exists_cons_of_ne_nil hne
  have hc := hs c List.mem_cons_self
  have hspace : isSpace c = false := isSpace_eq_false_of_startsValue (by simp [startsValue, hc])
  rw [List.cons_append, readValue, skipSpace_cons hspace]
  split
  · next heq => exact absurd ((List.cons.inj heq).1 ▸ hc) (by decide)
  · next heq => exact absurd ((List.cons.inj heq).1 ▸ hc) (by decide)
  · next heq => exact absurd ((List.cons.inj heq).1 ▸ hc) (by decide)
  · rfl

/-- A string is read as a value. -/
theorem readValue_quote (s r : Text) (fuel : Nat) : readValue (fuel + 1) (quote s ++ r) =
    some (.string (String.ofList s), r) := by
  have hquote : quote s ++ r = '"' :: (escape s ++ '"' :: r) := by
    rw [quote, List.append_assoc]
    rfl
  have hread := unquote?_quote_append s r
  rw [hquote] at hread ⊢
  rw [readValue, skipSpace_cons (by decide)]
  simp only [hread]
  rfl

/-- An array with items is read item by item. -/
theorem readValue_items {c : Char} (hc : startsValue c) (s : Text) (fuel : Nat) :
    readValue (fuel + 1) ('[' :: c :: s) =
      (readItems fuel (c :: s)).bind fun (vs, rest) => some (.array vs, rest) := by
  rw [readValue, skipSpace_cons (by decide)]
  simp only [skipSpace_cons (isSpace_eq_false_of_startsValue hc)]
  split
  · next heq => exact absurd ((List.cons.inj heq).1 ▸ hc) (by decide)
  · rfl

/-- An object with members is read member by member. -/
theorem readValue_members (k s : Text) (fuel : Nat) :
    readValue (fuel + 1) ('\x7b' :: (quote k ++ s)) =
      (readMembers fuel (quote k ++ s)).bind fun (ms, rest) => some (.object ms, rest) := by
  have hspace : skipSpace (quote k ++ s) = quote k ++ s := skipSpace_cons (by decide) _
  rw [readValue, skipSpace_cons (by decide)]
  simp only [hspace]
  rfl

/-- A member is read up to what follows its value. -/
theorem readMembers_quote (k : String) (s : Text) (fuel : Nat) :
    readMembers (fuel + 1) (quote k.toList ++ ':' :: s) =
      (readValue fuel s).bind fun (v, r) =>
        match skipSpace r with
        | '\x7d' :: rest => some ([(k, v)], rest)
        | ',' :: r => (readMembers fuel r).bind fun (ms, rest) => some ((k, v) :: ms, rest)
        | _ => none := by
  have hspace : skipSpace (quote k.toList ++ ':' :: s) = quote k.toList ++ ':' :: s :=
    skipSpace_cons (by decide) _
  rw [readMembers, hspace, unquote?_quote_append]
  simp only [Option.bind_eq_bind, Option.bind_some, skipSpace_cons (c := ':') (by decide),
    String.ofList_toList]
  rfl

/-- Values that are read back with what follows them. -/
def ReadsBack (v : Json) : Prop := ∀ fuel r, 2 * v.compact.toList.length ≤ fuel → EndsAtom r →
  readValue fuel (v.compact.toList ++ r) = some (v, r)

/-- Words and numbers are read back if their texts are classified rightly. -/
theorem readsBack_of_atom {w : Text} (hv : v.compact.toList = w) (hw : ∀ c ∈ w, isAtomPart c)
    (hne : w ≠ []) (h : ∀ r, EndsAtom r → atom? (w ++ r) = some (v, r)) : ReadsBack v := by
  intro fuel r hfuel hr
  have hpos : 0 < w.length := List.length_pos_iff.2 hne
  obtain ⟨fuel, rfl⟩ : ∃ n, fuel = n + 1 := Nat.exists_eq_succ_of_ne_zero (by
    rw [hv] at hfuel
    omega)
  rw [hv, readValue_atom hw hne, h r hr]

theorem readsBack_null : ReadsBack .null := by
  have hpart : ∀ c ∈ "null".toList, isAtomPart c := List.all_eq_true.1 rfl
  refine readsBack_of_atom (w := "null".toList) rfl hpart (by decide) fun r hr => ?_
  rw [atom?, takeWhile_atom hpart hr, dropWhile_atom hpart hr]
  rfl

theorem readsBack_bool (b : Bool) : ReadsBack (.bool b) := by
  cases b with
  | false =>
    have hpart : ∀ c ∈ "false".toList, isAtomPart c := List.all_eq_true.1 rfl
    refine readsBack_of_atom (w := "false".toList) rfl hpart (by decide) fun r hr => ?_
    rw [atom?, takeWhile_atom hpart hr, dropWhile_atom hpart hr]
    rfl
  | true =>
    have hpart : ∀ c ∈ "true".toList, isAtomPart c := List.all_eq_true.1 rfl
    refine readsBack_of_atom (w := "true".toList) rfl hpart (by decide) fun r hr => ?_
    rw [atom?, takeWhile_atom hpart hr, dropWhile_atom hpart hr]
    rfl

theorem readsBack_number {t : String} (ht : isNumber t.toList) : ReadsBack (.number t) := by
  have hpart := isAtomPart_of_isNumber ht
  have hword (w : String) (hw : isNumber w.toList = false) : t.toList ≠ w.toList := by
    intro heq
    rw [heq, hw] at ht
    exact Bool.false_ne_true ht
  refine readsBack_of_atom (w := t.toList) (by rw [compact]) hpart (ne_nil_of_isNumber ht)
    fun r hr => ?_
  rw [atom?, takeWhile_atom hpart hr, dropWhile_atom hpart hr, if_neg (hword _ (by decide)),
    if_neg (hword _ (by decide)), if_neg (hword _ (by decide)), if_pos ht, String.ofList_toList]

theorem readsBack_string (s : String) : ReadsBack (.string s) := by
  intro fuel r hfuel _
  obtain ⟨fuel, rfl⟩ : ∃ n, fuel = n + 1 := Nat.exists_eq_succ_of_ne_zero (by
    rw [toList_compact_string, quote, List.length_append, List.length_cons] at hfuel
    omega)
  rw [toList_compact_string, readValue_quote, String.ofList_toList]

/-- Items are read back up to the end of their array. -/
theorem readItems_compact {vs : List Json} (hne : vs ≠ []) (h : ∀ v ∈ vs, ReadsBack v) (fuel : Nat)
    (hfuel : 2 * (compactItems vs).toList.length < fuel) (r : Text) :
    readItems fuel ((compactItems vs).toList ++ ']' :: r) = some (vs, r) := by
  induction vs generalizing fuel with
  | nil => exact absurd rfl hne
  | cons v vs ih =>
    obtain ⟨hv, hvs⟩ := List.forall_mem_cons.1 h
    obtain ⟨fuel, rfl⟩ := Nat.exists_eq_succ_of_ne_zero (Nat.ne_of_gt (Nat.zero_lt_of_lt hfuel))
    rw [toList_compactItems_cons, List.length_append] at hfuel
    rw [toList_compactItems_cons, readItems, List.append_assoc]
    by_cases hnil : vs = []
    · rw [if_pos hnil, List.nil_append, hv fuel _ (by omega) (endsAtom_cons (by decide) r), hnil]
      rfl
    · rw [if_neg hnil, List.length_cons] at hfuel
      rw [if_neg hnil, List.cons_append, hv fuel _ (by omega) (endsAtom_cons (by decide) _)]
      have hread := ih hnil hvs fuel (by omega)
      simp only [Option.bind_eq_bind, Option.bind_some, skipSpace_cons (c := ',') (by decide), hread]
      rfl

/-- Members are read back up to the end of their object. -/
theorem readMembers_compact {ms : List (String × Json)} (hne : ms ≠ [])
    (h : ∀ m ∈ ms, ReadsBack m.2) (fuel : Nat)
    (hfuel : 2 * (compactMembers ms).toList.length < fuel) (r : Text) :
    readMembers fuel ((compactMembers ms).toList ++ '\x7d' :: r) = some (ms, r) := by
  induction ms generalizing fuel with
  | nil => exact absurd rfl hne
  | cons m ms ih =>
    obtain ⟨k, v⟩ := m
    obtain ⟨hv, hms⟩ := List.forall_mem_cons.1 h
    change ReadsBack v at hv
    obtain ⟨fuel, rfl⟩ := Nat.exists_eq_succ_of_ne_zero (Nat.ne_of_gt (Nat.zero_lt_of_lt hfuel))
    rw [toList_compactMembers_cons, List.length_append, List.length_append,
      List.length_cons] at hfuel
    rw [toList_compactMembers_cons, List.append_assoc, List.append_assoc, List.cons_append,
      readMembers_quote]
    by_cases hnil : ms = []
    · rw [if_pos hnil, List.nil_append, hv fuel _ (by omega) (endsAtom_cons (by decide) r), hnil]
      rfl
    · rw [if_neg hnil, List.length_cons] at hfuel
      rw [if_neg hnil, List.cons_append, hv fuel _ (by omega) (endsAtom_cons (by decide) _)]
      have hread := ih hnil hms fuel (by omega)
      simp only [Option.bind_some, skipSpace_cons (c := ',') (by decide), hread]

theorem readsBack_array {vs : List Json} (hvs : ItemsWellFormed vs)
    (h : ∀ v ∈ vs, ReadsBack v) : ReadsBack (.array vs) := by
  intro fuel r hfuel _
  rw [toList_compact_array, List.length_append, List.length_cons, List.length_singleton] at hfuel
  obtain ⟨fuel, rfl⟩ : ∃ n, fuel = n + 1 := Nat.exists_eq_succ_of_ne_zero (by omega)
  rw [toList_compact_array, List.append_assoc, List.singleton_append, List.cons_append]
  cases vs with
  | nil => rfl
  | cons v vs =>
    obtain ⟨c, s, hitem, hc⟩ := exists_compact_eq_cons hvs.1
    have hread := readItems_compact (List.cons_ne_nil v vs) h fuel (by omega) r
    rw [toList_compactItems_cons, hitem, List.cons_append, List.cons_append] at hread ⊢
    rw [readValue_items hc, hread]
    rfl

theorem readsBack_object {ms : List (String × Json)} (h : ∀ m ∈ ms, ReadsBack m.2) :
    ReadsBack (.object ms) := by
  intro fuel r hfuel _
  rw [toList_compact_object, List.length_append, List.length_cons, List.length_singleton] at hfuel
  obtain ⟨fuel, rfl⟩ : ∃ n, fuel = n + 1 := Nat.exists_eq_succ_of_ne_zero (by omega)
  rw [toList_compact_object, List.append_assoc, List.singleton_append, List.cons_append]
  cases ms with
  | nil => rfl
  | cons m ms =>
    have hread := readMembers_compact (List.cons_ne_nil m ms) h fuel (by omega) r
    rw [toList_compactMembers_cons, List.append_assoc, List.append_assoc] at hread ⊢
    rw [readValue_members, hread]
    rfl

theorem ItemsWellFormed.of_mem {vs : List Json} (h : ItemsWellFormed vs) (hv : v ∈ vs) :
    v.IsWellFormed := by
  induction hv with
  | head => exact h.1
  | tail _ _ ih => exact ih h.2

theorem MembersWellFormed.of_mem {ms : List (String × Json)} {m : String × Json}
    (h : MembersWellFormed ms) (hm : m ∈ ms) : m.2.IsWellFormed := by
  induction hm with
  | head => exact h.1
  | tail _ _ ih => exact ih h.2

/-- A value is read back with what follows it. -/
theorem readsBack : (v : Json) → v.IsWellFormed → ReadsBack v
  | .null, _ => readsBack_null
  | .bool b, _ => readsBack_bool b
  | .number t, h => readsBack_number (by rwa [IsWellFormed] at h)
  | .string s, _ => readsBack_string s
  | .array vs, h =>
    have h : ItemsWellFormed vs := by rwa [IsWellFormed] at h
    readsBack_array h fun v hv => readsBack v (h.of_mem hv)
  | .object ms, h =>
    have h : MembersWellFormed ms := by rwa [IsWellFormed] at h
    readsBack_object fun m hm => readsBack m.2 (h.of_mem hm)
termination_by v => sizeOf v
decreasing_by
  · have hsize := List.sizeOf_lt_of_mem hv
    rw [Json.array.sizeOf_spec]
    omega
  · have hsize := List.sizeOf_lt_of_mem hm
    rw [Prod.mk.sizeOf_spec] at hsize
    rw [Json.object.sizeOf_spec]
    omega

/-- A value is read back from its compact text. -/
theorem read?_compact (hv : v.IsWellFormed) : read? v.compact.toList = some v := by
  have hread := readsBack v hv (2 * v.compact.toList.length) [] (Nat.le_refl _) (by simp [EndsAtom])
  rw [List.append_nil] at hread
  rw [read?, hread]
  rfl

/-- White space behind the text of a value does not matter. -/
theorem read?_compact_append (hv : v.IsWellFormed) (hr : ∀ c ∈ r, isSpace c) :
    read? (v.compact.toList ++ r) = some v := by
  have hends : EndsAtom r := by
    intro c hc
    have hspace := hr c (List.mem_of_head? hc)
    simp only [isSpace, Bool.or_eq_true, decide_eq_true_eq] at hspace
    rcases hspace with ((rfl | rfl) | rfl) | rfl <;> decide
  have hfuel : 2 * v.compact.toList.length ≤ 2 * (v.compact.toList ++ r).length := by
    rw [List.length_append]
    omega
  have hskip : skipSpace (r ++ []) = [] := List.dropWhile_append_of_pos hr
  rw [List.append_nil] at hskip
  rw [read?, readsBack v hv _ r hfuel hends, Option.bind_eq_bind, Option.bind_some]
  dsimp only
  rw [hskip]
  rfl

end DocPreview.Json
