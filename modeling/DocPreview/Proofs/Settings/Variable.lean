import DocPreview.Proofs.Text.Occurrence
import DocPreview.Settings.Variable

/-!
# Which references are replaced

A reference to a variable stands between braces behind a dollar. A text is read from left to right
as such references and characters between them, in exactly one way. It is meant that the references
are replaced and all other characters are kept. This holds of a text without an opening brace behind
a dollar. In any other text a dollar refers to a variable also if a letter, a digit or an underscore
follows it, and the first of two dollars goes. So characters are kept, whatever the variables stand
for, exactly if no dollar between the references has such a character or a dollar behind it.

## Main definitions

* `IsReading`: a text with the characters and the references between braces in it.
* `filled`: what is meant to be put for a text.
* `KeepsDollars`: no dollar between the references makes one.

## Main results

* `exists_isReading`, `IsReading.unique`: a text has exactly one reading.
* `IsReading.parts_eq`: a text without such a dollar is read as it is meant.
* `expand_eq_filled_iff`: when it is only references between braces that are replaced.
-/

namespace DocPreview.Variable

open Text

/-! ### Readings -/

/-- A reference as it is written between braces. -/
def Reference.inside (r : Reference) : Text :=
  match r.default with
  | none => r.name
  | some default => r.name ++ ([':', '-'] ++ default)

/-- A reference that can stand between braces. What stands behind the first colon and minus is the
default, unless nothing stands before them. -/
structure Reference.IsBraced (r : Reference) : Prop where
  brace_notMem : '\x7d' ∉ r.inside
  required : r.default = none → [':', '-'] <:+: r.name → [':', '-'] <+: r.name
  optional : r.default ≠ none → r.name ≠ [] ∧ ¬ [':', '-'] <:+: r.name

/-- A text that begins with a reference between braces. -/
def StartsReference (s : Text) : Prop :=
  ∃ inside rest, s = '$' :: '\x7b' :: (inside ++ '\x7d' :: rest)

/-- The characters and the references between braces of a text, from left to right. -/
@[mk_iff]
inductive IsReading : Text → List Part → Prop
  | nil : IsReading [] []
  | char {c : Char} {s : Text} {ps : List Part} (hfirst : ¬ StartsReference (c :: s))
      (hrest : IsReading s ps) : IsReading (c :: s) (.char c :: ps)
  | reference {r : Reference} {s : Text} {ps : List Part} (hr : r.IsBraced)
      (hrest : IsReading s ps) :
      IsReading ('$' :: '\x7b' :: (r.inside ++ '\x7d' :: s)) (.reference r :: ps)

/-- What is meant to be put for a part: a variable's value if it is set, or else the default. -/
def Part.filled (values : Assignment) : Part → Text
  | char c => [c]
  | reference r => (values r.name).getD (r.default.getD [])

/-- What is meant to be put for a text. -/
def filled (values : Assignment) (ps : List Part) : Text := ps.flatMap (Part.filled values)

/-- The references without a default name variables that are set. -/
def Covers (values : Assignment) (ps : List Part) : Prop :=
  ∀ r, .reference r ∈ ps → r.default = none → (values r.name).isSome

/-- What follows a dollar that stands for itself. -/
def IsLone (s : Text) : Prop := ∀ c, s.head? = some c → c ≠ '$' ∧ isNameChar c = false

/-- A part as it is written. -/
def Part.text : Part → Text
  | char c => [c]
  | reference r => '$' :: '\x7b' :: (r.inside ++ ['\x7d'])

/-- No dollar between the references has a character of a name or a dollar behind it. -/
def KeepsDollars (ps : List Part) : Prop :=
  ∀ a b, ps = a ++ .char '$' :: b → IsLone (b.flatMap Part.text)

/-! ### References between braces -/

theorem cutAt_append {stop : Char} {a : Text} (ha : stop ∉ a) (b : Text) :
    cutAt stop (a ++ stop :: b) = some (a, b) := by
  induction a with
  | nil => exact if_pos rfl
  | cons c a ih =>
    rw [List.mem_cons, not_or] at ha
    rw [List.cons_append, cutAt, if_neg (Ne.symm ha.1), ih ha.2]
    rfl

theorem cutAt_eq_none {stop : Char} {s : Text} (hs : stop ∉ s) : cutAt stop s = none := by
  induction s with
  | nil => rfl
  | cons c s ih =>
    rw [List.mem_cons, not_or] at hs
    rw [cutAt, if_neg (Ne.symm hs.1), ih hs.2]
    rfl

/-- A default stands behind the first colon and minus. -/
theorem findText_append_default {name : Text} (hname : ¬ [':', '-'] <:+: name) (default : Text) :
    findText [':', '-'] (name ++ ([':', '-'] ++ default)) = some (name, default) := by
  refine findText_eq_some_iff.2 ⟨rfl, fun a b hab => ?_⟩
  rcases List.append_eq_append_iff.1 hab with ⟨t, rfl, -⟩ | ⟨t, rfl, ht⟩
  · rw [List.length_append]
    exact Nat.le_add_right _ _
  · -- An earlier one lies in the name, or its minus would be the colon.
    match t, ht with
    | [], _ => rw [List.append_nil]
    | [x], ht => simp at ht
    | x :: y :: t, ht =>
      obtain ⟨rfl, hrest⟩ := List.cons.inj ht
      obtain ⟨rfl, -⟩ := List.cons.inj hrest
      exact absurd ⟨a, t, by simp⟩ hname

theorem Reference.IsBraced.ofText_inside {r : Reference} (hr : r.IsBraced) :
    Reference.ofText r.inside = r := by
  obtain ⟨name, default⟩ := r
  cases default with
  | none =>
    show Reference.ofText name = ⟨name, none⟩
    cases hfind : findText [':', '-'] name with
    | none => rw [Reference.ofText, hfind]
    | some p =>
      obtain ⟨n, d⟩ := p
      obtain ⟨hname, hfirst⟩ := findText_eq_some_iff.1 hfind
      obtain ⟨t, ht⟩ := hr.required rfl ⟨n, d, by rw [hname, List.append_assoc]⟩
      have hn : n = [] := List.eq_nil_of_length_eq_zero (Nat.le_zero.1 (hfirst [] t ht.symm))
      rw [Reference.ofText, hfind, hn]
      rfl
  | some d =>
    obtain ⟨hne, hname⟩ := hr.optional nofun
    show Reference.ofText (name ++ ([':', '-'] ++ d)) = ⟨name, some d⟩
    rw [Reference.ofText, findText_append_default hname]
    exact if_neg (mt List.isEmpty_iff.1 hne)

theorem exists_isBraced {inside : Text} (h : '\x7d' ∉ inside) :
    ∃ r : Reference, r.IsBraced ∧ r.inside = inside := by
  cases hfind : findText [':', '-'] inside with
  | none =>
    exact ⟨⟨inside, none⟩, ⟨h, fun _ hin => absurd hin (findText_eq_none_iff.1 hfind), nofun⟩, rfl⟩
  | some p =>
    obtain ⟨name, default⟩ := p
    obtain ⟨hinside, hfirst⟩ := findText_eq_some_iff.1 hfind
    by_cases hname : name = []
    · refine ⟨⟨inside, none⟩, ⟨h, fun _ _ => ⟨default, ?_⟩, nofun⟩, rfl⟩
      rw [hinside, hname, List.nil_append]
    · rw [hinside] at h
      refine ⟨⟨name, some default⟩, ⟨h, nofun, fun _ => ⟨hname, ?_⟩⟩, hinside.symm⟩
      rintro ⟨u, v, rfl⟩
      have hle := hfirst u (v ++ ([':', '-'] ++ default)) (by rw [hinside]; simp)
      simp only [List.length_append, List.length_cons] at hle
      omega

/-! ### The reading of a text -/

theorem startsReference_iff {c : Char} {s : Text} :
    StartsReference (c :: s) ↔ c = '$' ∧ ∃ r, s = '\x7b' :: r ∧ '\x7d' ∈ r := by
  constructor
  · rintro ⟨inside, rest, h⟩
    obtain ⟨rfl, rfl⟩ := List.cons.inj h
    exact ⟨rfl, _, rfl, by simp⟩
  · rintro ⟨rfl, r, rfl, hr⟩
    obtain ⟨inside, rest, rfl⟩ := List.append_of_mem hr
    exact ⟨inside, rest, rfl⟩

/-- A text begins with the characters between a brace and the first closing one behind it. -/
theorem StartsReference.exists_isBraced {s : Text} (h : StartsReference s) :
    ∃ (r : Reference) (t : Text), r.IsBraced ∧ s = '$' :: '\x7b' :: (r.inside ++ '\x7d' :: t) := by
  obtain ⟨inside, rest, rfl⟩ := h
  obtain ⟨a, b, ha, hab⟩ : ∃ a b, '\x7d' ∉ a ∧ inside ++ '\x7d' :: rest = a ++ '\x7d' :: b := by
    have hmem : '\x7d' ∈ inside ++ '\x7d' :: rest := by simp
    obtain ⟨a, b, hab, ha⟩ := List.eq_append_cons_of_mem hmem
    exact ⟨a, b, ha, hab⟩
  obtain ⟨r, hr, rfl⟩ := Variable.exists_isBraced ha
  exact ⟨r, b, hr, by rw [hab]⟩

theorem exists_isReading (s : Text) : ∃ ps, IsReading s ps := by
  by_cases hstart : StartsReference s
  · obtain ⟨r, t, hr, hs⟩ := hstart.exists_isBraced
    have hshorter : t.length < s.length := by
      simp only [hs, List.length_cons, List.length_append]
      omega
    obtain ⟨ps, hps⟩ := exists_isReading t
    exact ⟨.reference r :: ps, hs ▸ .reference hr hps⟩
  · cases s with
    | nil => exact ⟨[], .nil⟩
    | cons c s =>
      obtain ⟨ps, hps⟩ := exists_isReading s
      exact ⟨_, .char hstart hps⟩
termination_by s.length

theorem IsReading.unique {s : Text} {ps qs : List Part} (h : IsReading s ps)
    (h' : IsReading s qs) : ps = qs := by
  induction h generalizing qs with
  | nil =>
    obtain ⟨-, rfl⟩ | ⟨c, s, qs, -, -, hs, -⟩ | ⟨r, s, qs, -, -, hs, -⟩ := (isReading_iff ..).1 h'
    · rfl
    · cases hs
    · cases hs
  | @char c s ps hfirst _ ih =>
    obtain ⟨hs, -⟩ | ⟨c, s, qs, -, hqs, hs, rfl⟩ | ⟨r, s, qs, -, -, hs, -⟩ :=
      (isReading_iff ..).1 h'
    · cases hs
    · cases hs
      rw [ih hqs]
    · exact absurd ⟨_, _, hs⟩ hfirst
  | @reference r s ps hr _ ih =>
    obtain ⟨hs, -⟩ | ⟨c, s', qs, hfirst, -, hs, -⟩ | ⟨r', s', qs, hr', hqs, hs, rfl⟩ :=
      (isReading_iff ..).1 h'
    · cases hs
    · exact absurd ⟨_, _, hs.symm⟩ hfirst
    · have hs := List.cons.inj (List.cons.inj hs).2
      have hinside := eq_of_append_cons_eq hr.brace_notMem hr'.brace_notMem hs.2
      rw [hinside] at hs
      obtain rfl := (List.cons.inj (List.append_cancel_left hs.2)).2
      rw [ih hqs, ← hr.ofText_inside, ← hr'.ofText_inside, hinside]

theorem IsReading.flatMap_text {s : Text} {ps : List Part} (h : IsReading s ps) :
    ps.flatMap Part.text = s := by
  induction h with
  | nil => rfl
  | char _ _ ih => rw [List.flatMap_cons, ih]; rfl
  | reference _ _ ih => rw [List.flatMap_cons, ih]; simp [Part.text]

/-- Characters without a brace in front of a text stand for themselves. -/
theorem IsReading.map_char_append {w s : Text} {ps : List Part} (h : IsReading s ps)
    (hw : '\x7b' ∉ w) (hs : s.head? ≠ some '\x7b') : IsReading (w ++ s) (w.map .char ++ ps) := by
  induction w with
  | nil => exact h
  | cons c w ih =>
    rw [List.mem_cons, not_or] at hw
    refine .char (fun hstart => ?_) (ih hw.2)
    obtain ⟨-, r, hr, -⟩ := startsReference_iff.1 hstart
    cases w with
    | nil => exact hs (by rw [show s = _ from hr]; rfl)
    | cons d w => exact hw.2 ((List.cons.inj hr).1 ▸ List.mem_cons_self)

/-! ### How a text is read -/

/-- The parts of a text with a dollar in front of it. -/
def partsAfterDollar : Text → List Part
  | [] => [.char '$']
  | c :: r =>
    if c = '\x7b' then
      match cutAt '\x7d' r with
      | some (inside, rest) => .reference (.ofText inside) :: parts rest
      | none => .char '$' :: .char '\x7b' :: parts r
    else if c = '$' then .char '$' :: parts r
    else if isNameChar c then
      .reference ⟨c :: r.takeWhile isNameChar, none⟩ :: parts (r.dropWhile isNameChar)
    else .char '$' :: parts (c :: r)

/-- The parts of a text, by its first character. The recursion is opened here only. -/
theorem parts_eq_match (s : Text) : parts s = match s with
    | [] => []
    | c :: s => if c = '$' then partsAfterDollar s else .char c :: parts s := by
  cases s with
  | nil => rw [parts]
  | cons c s =>
    by_cases hdollar : c = '$'
    · subst hdollar
      cases s with
      | nil => simp [parts, partsAfterDollar]
      | cons c r =>
        by_cases hbrace : c = '\x7b'
        · subst hbrace
          rw [parts]
          show _ = partsAfterDollar ('\x7b' :: r)
          rw [partsAfterDollar, if_pos rfl]
          split
          · rename_i hcut
            rw [hcut]
          · rename_i hcut
            rw [hcut]
        · show _ = partsAfterDollar (c :: r)
          rw [partsAfterDollar, if_neg hbrace]
          by_cases hc : c = '$'
          · subst hc
            rw [parts, if_pos rfl]
          · rw [parts, if_neg hc]
            · exact hbrace
            · exact hc
    · show _ = if c = '$' then partsAfterDollar s else .char c :: parts s
      rw [parts, if_neg hdollar]
      · exact fun _ h => absurd h hdollar
      · exact fun _ h => absurd h hdollar
      · exact fun _ _ h => absurd h hdollar

theorem parts_nil : parts [] = [] := parts_eq_match []

theorem parts_cons_of_ne {c : Char} (hc : c ≠ '$') (s : Text) :
    parts (c :: s) = .char c :: parts s :=
  (parts_eq_match (c :: s)).trans (if_neg hc)

theorem parts_dollar (s : Text) : parts ('$' :: s) = partsAfterDollar s :=
  (parts_eq_match ('$' :: s)).trans (if_pos rfl)

theorem partsAfterDollar_brace (r : Text) : partsAfterDollar ('\x7b' :: r) =
    match cutAt '\x7d' r with
    | some (inside, rest) => .reference (.ofText inside) :: parts rest
    | none => .char '$' :: .char '\x7b' :: parts r := by
  rw [partsAfterDollar, if_pos rfl]

theorem partsAfterDollar_of_ne {c : Char} (hbrace : c ≠ '\x7b') (hdollar : c ≠ '$') (r : Text) :
    partsAfterDollar (c :: r) =
      if isNameChar c then
        .reference ⟨c :: r.takeWhile isNameChar, none⟩ :: parts (r.dropWhile isNameChar)
      else .char '$' :: parts (c :: r) :=
  (if_neg hbrace).trans (if_neg hdollar)

theorem Reference.IsBraced.parts_append {r : Reference} (hr : r.IsBraced) (s : Text) :
    parts ('$' :: '\x7b' :: (r.inside ++ '\x7d' :: s)) = .reference r :: parts s := by
  rw [parts_dollar, partsAfterDollar_brace, cutAt_append hr.brace_notMem]
  exact congrArg (.reference · :: parts s) hr.ofText_inside

theorem parts_of_isLone {s : Text} (hs : IsLone s) (hstart : ¬ StartsReference ('$' :: s)) :
    parts ('$' :: s) = .char '$' :: parts s := by
  rw [parts_dollar]
  cases s with
  | nil =>
    rw [parts_nil]
    rfl
  | cons c s =>
    obtain ⟨hdollar, hname⟩ := hs c rfl
    by_cases hc : c = '\x7b'
    · subst hc
      have hcut : cutAt '\x7d' s = none :=
        cutAt_eq_none fun hmem => hstart (startsReference_iff.2 ⟨rfl, s, rfl, hmem⟩)
      rw [partsAfterDollar_brace, hcut, parts_cons_of_ne hdollar]
    · rw [partsAfterDollar_of_ne hc hdollar, if_neg (by rw [hname]; exact Bool.false_ne_true)]

/-- What a dollar begins: two dollars, a reference, or nothing. -/
theorem parts_dollar_cases (s : Text) :
    (∃ r, s = '$' :: r ∧ parts ('$' :: s) = .char '$' :: parts r) ∨
    (∃ r ps, parts ('$' :: s) = .reference r :: ps) ∨
    IsLone s ∧ ¬ StartsReference ('$' :: s) := by
  by_cases hstart : StartsReference ('$' :: s)
  · obtain ⟨r, t, hr, hs⟩ := hstart.exists_isBraced
    exact Or.inr (Or.inl ⟨r, parts t, by rw [hs, hr.parts_append]⟩)
  · cases s with
    | nil => exact Or.inr (Or.inr ⟨nofun, hstart⟩)
    | cons c s =>
      by_cases hdollar : c = '$'
      · subst hdollar
        exact Or.inl ⟨s, rfl, parts_dollar _⟩
      · cases hname : isNameChar c with
        | true =>
          have hbrace : c ≠ '\x7b' := by
            rintro rfl
            cases hname
          exact Or.inr (Or.inl ⟨_, _, by
            rw [parts_dollar, partsAfterDollar_of_ne hbrace hdollar, if_pos hname]⟩)
        | false =>
          refine Or.inr (Or.inr ⟨fun d hd => ?_, hstart⟩)
          cases hd
          exact ⟨hdollar, hname⟩

theorem keepsDollars_cons_iff {p : Part} {ps : List Part} : KeepsDollars (p :: ps) ↔
    (p = .char '$' → IsLone (ps.flatMap Part.text)) ∧ KeepsDollars ps := by
  constructor
  · intro h
    refine ⟨fun hp => h [] ps (by rw [hp]; rfl), fun a b hab => h (p :: a) b ?_⟩
    rw [hab, List.cons_append]
  · rintro ⟨hp, h⟩ a b hab
    cases a with
    | nil =>
      obtain ⟨rfl, rfl⟩ := List.cons.inj hab
      exact hp rfl
    | cons q a => exact h a b (List.cons.inj hab).2

/-- If no dollar between the references makes one, a text is read as it is meant. -/
theorem IsReading.parts_eq {s : Text} {ps : List Part} (h : IsReading s ps)
    (hkeeps : KeepsDollars ps) : parts s = ps := by
  induction h with
  | nil => exact parts_nil
  | @char c s ps hfirst hrest ih =>
    obtain ⟨hlone, hlater⟩ := keepsDollars_cons_iff.1 hkeeps
    by_cases hc : c = '$'
    · subst hc
      have hs := hlone rfl
      rw [hrest.flatMap_text] at hs
      rw [parts_of_isLone hs hfirst, ih hlater]
    · rw [parts_cons_of_ne hc, ih hlater]
  | reference hr _ ih => rw [hr.parts_append, ih (keepsDollars_cons_iff.1 hkeeps).2]

/-! ### What is put for a text -/

theorem mapM_value {values : Assignment} {ps : List Part} (h : Covers values ps) :
    ps.mapM (Part.value values) = .ok (ps.map (Part.filled values)) := by
  induction ps with
  | nil => rfl
  | cons p ps ih =>
    have hp : p.value values = .ok (p.filled values) := by
      cases p with
      | char c => rfl
      | reference r =>
        rw [Part.value, Reference.value, Part.filled]
        cases hvalue : values r.name with
        | some v => rfl
        | none =>
          cases hdefault : r.default with
          | some d => rfl
          | none =>
            have hset := h r List.mem_cons_self hdefault
            rw [hvalue] at hset
            cases hset
    rw [List.mapM_cons, hp, ih fun r hr => h r (List.mem_cons_of_mem p hr)]
    rfl

theorem expandAll_eq {values : Assignment} {s : Text} (h : Covers values (parts s)) :
    expandAll values s = .ok (filled values (parts s)) := by
  rw [expandAll, mapM_value h, filled, List.flatMap_def]
  rfl

/-- A text without an opening brace behind a dollar has no reference. -/
theorem IsReading.filled_eq {s : Text} {ps : List Part} (h : IsReading s ps)
    (hnone : ¬ ['$', '\x7b'] <:+: s) (values : Assignment) : filled values ps = s := by
  induction h with
  | nil => rfl
  | char _ _ ih =>
    rw [List.infix_cons_iff, not_or] at hnone
    exact congrArg (List.cons _) (ih hnone.2)
  | reference => exact absurd ⟨[], _, rfl⟩ hnone

theorem expand_of_not_isInfix {s : Text} (h : ¬ ['$', '\x7b'] <:+: s) (values : Assignment) :
    expand values s = .ok s := by
  rw [expand, findText_eq_none_iff.2 h]
  rfl

theorem expand_of_isInfix {s : Text} (h : ['$', '\x7b'] <:+: s) (values : Assignment) :
    expand values s = expandAll values s := by
  rw [expand, if_pos]
  rw [Option.isSome_iff_ne_none]
  exact mt findText_eq_none_iff.1 (not_not_intro h)

/-- What is put for a text if every variable is set to one letter. -/
def lettered (ps : List Part) : Text := filled (fun _ => some ['x']) ps

theorem lettered_char (c : Char) (ps : List Part) : lettered (.char c :: ps) = c :: lettered ps :=
  rfl

theorem lettered_reference (r : Reference) (ps : List Part) :
    lettered (.reference r :: ps) = 'x' :: lettered ps := rfl

theorem IsReading.cons_cases {s : Text} {ps : List Part} (h : IsReading ('$' :: s) ps) :
    (∃ qs, ps = .char '$' :: qs ∧ IsReading s qs) ∨
      StartsReference ('$' :: s) ∧ ∃ r t qs, ps = .reference r :: qs ∧ s = '\x7b' :: t := by
  obtain ⟨hs, -⟩ | ⟨c, t, qs, -, hqs, hs, rfl⟩ | ⟨r, t, qs, -, -, hs, rfl⟩ :=
    (isReading_iff ..).1 h
  · cases hs
  · cases hs
    exact Or.inl ⟨qs, rfl, hqs⟩
  · exact Or.inr ⟨⟨_, _, hs⟩, r, _, qs, rfl, (List.cons.inj hs).2⟩

theorem lettered_parts_of_isLone {s : Text} (hs : IsLone s) (u : Text) :
    lettered (parts s) ≠ '$' :: u := by
  cases s with
  | nil =>
    rw [parts_nil]
    exact nofun
  | cons c s =>
    obtain ⟨hc, -⟩ := hs c rfl
    rw [parts_cons_of_ne hc, lettered_char]
    exact fun heq => hc (List.cons.inj heq).1

/-- Behind two dollars that are read as one, what is put differs from what is meant. The induction
is on the run of dollars: each two more are read as one, and `j` counts the ones that are missing. -/
theorem lettered_parts_ne {s : Text} {ps : List Part} (h : IsReading ('$' :: s) ps) (j : Nat) :
    lettered (parts s) ≠ List.replicate j '$' ++ lettered ps := by
  have hmove (u : Text) : List.replicate j '$' ++ '$' :: u = '$' :: (List.replicate j '$' ++ u) := by
    rw [List.append_cons, ← List.replicate_succ', List.replicate_succ, List.cons_append]
  obtain ⟨qs, rfl, hqs⟩ | ⟨-, r, t, qs, rfl, rfl⟩ := h.cons_cases
  · rw [lettered_char, hmove]
    by_cases hs : IsLone s
    · exact lettered_parts_of_isLone hs _
    · match s with
      | [] => exact absurd nofun hs
      | c :: s =>
        by_cases hc : c = '$'
        · subst hc
          obtain ⟨t, rfl, hparts⟩ | ⟨r, rest, hparts⟩ | ⟨hlone, hstart⟩ := parts_dollar_cases s
          · obtain ⟨qs, rfl, hrest⟩ | ⟨-, r, u, qs, -, hu⟩ := hqs.cons_cases
            · have ih := lettered_parts_ne hrest (j + 1)
              rw [List.replicate_succ, List.cons_append, ← hmove] at ih
              rw [hparts, lettered_char, lettered_char]
              exact fun heq => ih (List.cons.inj heq).2
            · cases hu
          · rw [hparts, lettered_reference]
            exact fun heq => absurd (List.cons.inj heq).1 (by decide)
          · obtain ⟨qs, rfl, -⟩ | ⟨h, -⟩ := hqs.cons_cases
            · rw [parts_of_isLone hlone hstart, lettered_char, lettered_char, hmove]
              exact fun heq => lettered_parts_of_isLone hlone _ (List.cons.inj heq).2
            · exact absurd h hstart
        · rw [parts_cons_of_ne hc, lettered_char]
          exact fun heq => hc (List.cons.inj heq).1
  · rw [parts_cons_of_ne (by decide), lettered_char, lettered_reference]
    cases j with
    | zero => exact fun heq => absurd (List.cons.inj heq).1 (by decide)
    | succ j => exact fun heq => absurd (List.cons.inj heq).1 (by decide)
termination_by ps.length
decreasing_by subst_vars; simp only [List.length_cons]; omega

/-- If what is put for a text is what is meant, no dollar between the references makes one. -/
theorem IsReading.keepsDollars {s : Text} {ps : List Part} (h : IsReading s ps)
    (heq : lettered (parts s) = lettered ps) : KeepsDollars ps := by
  induction h with
  | nil => exact fun a b hab => absurd hab (by simp)
  | @char c s ps hfirst hrest ih =>
    rw [keepsDollars_cons_iff, hrest.flatMap_text]
    by_cases hc : c = '$'
    · subst hc
      obtain ⟨t, rfl, hparts⟩ | ⟨r, rest, hparts⟩ | ⟨hlone, hstart⟩ := parts_dollar_cases s
      · rw [hparts] at heq
        exact absurd (List.cons.inj heq).2 (lettered_parts_ne hrest 0)
      · rw [hparts] at heq
        exact absurd (List.cons.inj heq).1 (by decide)
      · rw [parts_of_isLone hlone hstart] at heq
        exact ⟨fun _ => hlone, ih (List.cons.inj heq).2⟩
    · rw [parts_cons_of_ne hc] at heq
      exact ⟨fun h => absurd (Part.char.inj h) hc, ih (List.cons.inj heq).2⟩
  | reference hr hrest ih =>
    rw [hr.parts_append] at heq
    exact keepsDollars_cons_iff.2 ⟨nofun, ih (List.cons.inj heq).2⟩

/-! ### When only references between braces are replaced -/

/-- A text has one reading, and the references in it are replaced and all other characters kept in
all surroundings that have the variables without a default, exactly if the text has no opening brace
behind a dollar or no dollar between the references has a dollar or a character of a name behind
it. -/
theorem expand_eq_filled_iff (s : Text) : ∃ ps, (∀ qs, IsReading s qs ↔ qs = ps) ∧
    ((∀ values, Covers values ps → expand values s = .ok (filled values ps)) ↔
      ¬ ['$', '\x7b'] <:+: s ∨ KeepsDollars ps) := by
  obtain ⟨ps, hps⟩ := exists_isReading s
  refine ⟨ps, fun qs => ⟨fun h => h.unique hps, fun h => h ▸ hps⟩, ?_, ?_⟩
  · intro h
    by_cases hopen : ['$', '\x7b'] <:+: s
    · refine Or.inr (hps.keepsDollars ?_)
      have hletter := h (fun _ => some ['x']) fun _ _ _ => rfl
      rw [expand_of_isInfix hopen, expandAll_eq fun _ _ _ => rfl] at hletter
      exact Except.ok.inj hletter
    · exact Or.inl hopen
  · intro h values hcovers
    by_cases hopen : ['$', '\x7b'] <:+: s
    · have hkeeps := h.resolve_left (not_not_intro hopen)
      rw [expand_of_isInfix hopen]
      rw [← hps.parts_eq hkeeps] at hcovers ⊢
      exact expandAll_eq hcovers
    · rw [expand_of_not_isInfix hopen, hps.filled_eq hopen]

/-- A dollar in a path beside a reference is taken for another one. -/
theorem dollar_beside_reference_is_expanded :
    let s := "http://x/$path/$\x7bV\x7d".toList
    let ps := "http://x/$path/".toList.map Part.char ++ [.reference ⟨['V'], none⟩]
    let values : Assignment := fun name => if name = ['V'] then some ['v'] else none
    IsReading s ps ∧ Covers values ps ∧ filled values ps = "http://x/$path/v".toList ∧
      expand values s = .error ⟨"path".toList⟩ := by
  intro s ps values
  have hbraced : (⟨['V'], none⟩ : Reference).IsBraced := ⟨by decide, fun _ => by decide, nofun⟩
  have hread : IsReading s ps :=
    (IsReading.reference hbraced .nil).map_char_append (w := "http://x/$path/".toList) (by decide)
      (by decide)
  have hcovers : Covers values ps := by
    intro r hr _
    obtain rfl : r = ⟨['V'], none⟩ := by simpa [ps] using hr
    rfl
  have hexpand : expand values s = .error ⟨"path".toList⟩ := by
    show expand (fun name => if name = ['V'] then some ['v'] else none)
      "http://x/$path/$\x7bV\x7d".toList = _
    decide +kernel
  exact ⟨hread, hcovers, rfl, hexpand⟩

end DocPreview.Variable
