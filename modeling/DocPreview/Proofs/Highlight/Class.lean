import DocPreview.Proofs.Highlight.Run

/-!
# The most specific class

The class of a token is found by a search in a search: the scopes in force are tried from the
innermost one on, and for each of them the entries of a table from the first one on. Two entries
that a name starts with are comparable, one of them being a start of the other, and in the table no
entry stands before one that it is a start of. So the first entry that a name starts with is the
longest one, and the innermost scope that has an entry decides, by its longest entry. Scopes without
an entry can be put on top of others without changing a class.

## Main definitions

* `IsStart`: the starts of a name, which end where one of its atoms ends.
* `IsFirst`, `IsLongest`: the entry of a table for a name, by its place and by its length.
* `IsOrdered`: tables in which no entry stands before one that it is a start of.
* `HasEntry`: the names with an entry in the table of classes.

## Main results

* `isStart_iff_isPrefix`: the atoms of a start are the first atoms of the name.
* `IsOrdered.isFirst_iff_isLongest`: in an ordered table the first entry for a name is the longest.
* `exists_applyAll_of_push`: putting scopes without an entry on a stack changes no class.
* `tokenClass_most_specific`: the innermost scope with an entry decides, by its longest entry.
-/

namespace DocPreview.Highlight

open Text

/-! ### Starts of a name -/

section Start

variable {a b start name : Text}

/-- A start of a name is the name itself, or a dot follows it in the name. -/
def IsStart (start name : Text) : Prop := name = start ∨ start ++ ['.'] <+: name

instance (start name : Text) : Decidable (IsStart start name) :=
  inferInstanceAs (Decidable (name = start ∨ start ++ ['.'] <+: name))

theorem startsWithAtoms_iff : startsWithAtoms start name = true ↔ IsStart start name := by
  constructor
  · intro h
    unfold startsWithAtoms at h
    split at h
    · next hrest => exact Or.inl (by rw [eq_append_of_after? hrest, List.append_nil])
    · next c rest hrest =>
      rw [decide_eq_true_eq] at h
      subst h
      exact Or.inr ⟨rest, by rw [eq_append_of_after? hrest, List.append_assoc]; rfl⟩
    · cases h
  · rintro (rfl | ⟨rest, rfl⟩)
    · have hrest := after?_append name []
      rw [List.append_nil] at hrest
      rw [startsWithAtoms, hrest]
    · rw [startsWithAtoms, List.append_assoc, after?_append]
      rfl

theorem IsStart.refl (name : Text) : IsStart name name := Or.inl rfl

theorem IsStart.isPrefix (h : IsStart start name) : start <+: name := by
  rcases h with rfl | h
  · exact List.prefix_rfl
  · exact (List.prefix_append start ['.']).trans h

theorem splitAtChar_eq_splitOn (c : Char) (s : Text) : splitAtChar c s = List.splitOn c s := by
  induction s with
  | nil => rw [splitAtChar, List.splitOn_nil]
  | cons d s ih =>
    have hcons : List.splitOn c (d :: s) =
        if d == c then [] :: List.splitOn c s else (List.splitOn c s).modifyHead (List.cons d) :=
      List.splitOnP_cons_eq_if_modifyHead d s
    obtain ⟨p, ps, hs⟩ := List.exists_cons_of_ne_nil (List.splitOn_ne_nil c s)
    rw [splitAtChar, ih, hcons, hs, List.modifyHead_cons]
    simp only [beq_iff_eq]

theorem intercalate_append {c : Char} {ps : List Text} (hps : ps ≠ []) (q : Text)
    (qs : List Text) : List.intercalate [c] (ps ++ q :: qs) =
      List.intercalate [c] ps ++ ([c] ++ List.intercalate [c] (q :: qs)) := by
  induction ps with
  | nil => exact absurd rfl hps
  | cons p ps ih =>
    cases ps with
    | nil => simp
    | cons p' ps =>
      rw [List.cons_append, List.intercalate_cons_of_ne_nil (by simp),
        List.intercalate_cons_of_ne_nil (by simp), ih (List.cons_ne_nil p' ps)]
      simp only [List.append_assoc]

/-- The atoms of a start are the first atoms of the name, so no start ends inside an atom. -/
theorem isStart_iff_isPrefix :
    IsStart start name ↔ splitAtChar '.' start <+: splitAtChar '.' name := by
  rw [splitAtChar_eq_splitOn, splitAtChar_eq_splitOn]
  constructor
  · rintro (rfl | ⟨rest, rfl⟩)
    · exact List.prefix_rfl
    · rw [List.append_assoc, List.singleton_append, List.splitOn_append_cons_self]
      exact List.prefix_append ..
  · rintro ⟨atoms, hatoms⟩
    have hname : List.intercalate ['.'] (List.splitOn '.' name) = name :=
      List.intercalate_splitOn '.'
    rw [← hatoms] at hname
    cases atoms with
    | nil =>
      rw [List.append_nil, List.intercalate_splitOn] at hname
      exact Or.inl hname.symm
    | cons atom atoms =>
      rw [intercalate_append (List.splitOn_ne_nil '.' start), List.intercalate_splitOn,
        ← List.append_assoc] at hname
      exact Or.inr ⟨_, hname⟩

/-- Two starts of a name are comparable. -/
theorem IsStart.total (ha : IsStart a name) (hb : IsStart b name) : IsStart a b ∨ IsStart b a := by
  rw [isStart_iff_isPrefix] at ha hb
  rw [isStart_iff_isPrefix, isStart_iff_isPrefix]
  exact List.prefix_or_prefix_of_prefix ha hb

end Start

/-! ### Entries of a table -/

section Table

variable {table : List (String × TokenClass)} {d e : String × TokenClass} {name : Text}

/-- The first entry of a table that a name starts with. -/
def IsFirst (table : List (String × TokenClass)) (e : String × TokenClass) (name : Text) : Prop :=
  IsStart e.1.toList name ∧
    ∃ before after, table = before ++ e :: after ∧ ∀ d ∈ before, ¬ IsStart d.1.toList name

/-- An entry of a table that a name starts with, none such being longer. -/
structure IsLongest (table : List (String × TokenClass)) (e : String × TokenClass)
    (name : Text) : Prop where
  mem : e ∈ table
  isStart : IsStart e.1.toList name
  length_le : ∀ d ∈ table, IsStart d.1.toList name → d.1.length ≤ e.1.length

/-- No entry of a table stands before one that it is a start of. -/
def IsOrdered (table : List (String × TokenClass)) : Prop :=
  table.Pairwise fun e d => ¬ IsStart e.1.toList d.1.toList

instance (table : List (String × TokenClass)) : Decidable (IsOrdered table) :=
  inferInstanceAs (Decidable (table.Pairwise _))

theorem find?_startsWithAtoms_eq_some_iff :
    (table.find? fun e => startsWithAtoms e.1.toList name) = some e ↔ IsFirst table e name := by
  simp only [List.find?_eq_some_iff_append, IsFirst, startsWithAtoms_iff, Bool.not_eq_true',
    Bool.eq_false_iff, ne_eq]

theorem find?_startsWithAtoms_eq_none_iff :
    (table.find? fun e => startsWithAtoms e.1.toList name) = none ↔
      ∀ e ∈ table, ¬ IsStart e.1.toList name := by
  simp only [List.find?_eq_none, startsWithAtoms_iff]

/-- A name that starts with an entry has a first one. -/
theorem exists_isFirst (he : e ∈ table) (hstart : IsStart e.1.toList name) :
    ∃ d, IsFirst table d name := by
  cases hfind : table.find? fun e => startsWithAtoms e.1.toList name with
  | none => exact absurd hstart (find?_startsWithAtoms_eq_none_iff.1 hfind e he)
  | some d => exact ⟨d, find?_startsWithAtoms_eq_some_iff.1 hfind⟩

theorem IsStart.length_le (h : IsStart d.1.toList e.1.toList) : d.1.length ≤ e.1.length := by
  have hle := h.isPrefix.length_le
  rwa [String.length_toList, String.length_toList] at hle

/-- An entry that starts with one that is not shorter is also a start of that one. -/
theorem IsStart.symm_of_length_le (h : IsStart d.1.toList e.1.toList)
    (hle : e.1.length ≤ d.1.length) : IsStart e.1.toList d.1.toList := by
  rw [← String.length_toList, ← String.length_toList] at hle
  rw [h.isPrefix.eq_of_length_le hle]
  exact .refl _

/-- In an ordered table an entry that a name starts with is the first one, or that one is no start
of it. -/
theorem IsOrdered.eq_or_not_isStart (h : IsOrdered table) (hfirst : IsFirst table e name)
    (hd : d ∈ table) (hstart : IsStart d.1.toList name) :
    d = e ∨ ¬ IsStart e.1.toList d.1.toList := by
  obtain ⟨-, before, after, rfl, hbefore⟩ := hfirst
  rcases List.mem_append.1 hd with hd | hd
  · exact absurd hstart (hbefore d hd)
  · rcases List.mem_cons.1 hd with rfl | hd
    · exact Or.inl rfl
    · exact Or.inr ((List.pairwise_cons.1 (List.pairwise_append.1 h).2.1).1 d hd)

theorem IsOrdered.isLongest (h : IsOrdered table) (hfirst : IsFirst table e name) :
    IsLongest table e name := by
  have hmem : e ∈ table := by
    obtain ⟨-, before, after, rfl, -⟩ := hfirst
    exact List.mem_append_right before List.mem_cons_self
  refine ⟨hmem, hfirst.1, fun d hd hstart => ?_⟩
  rcases h.eq_or_not_isStart hfirst hd hstart with rfl | hnot
  · exact le_rfl
  · exact ((hfirst.1.total hstart).resolve_left hnot).length_le

/-- In an ordered table the first entry that a name starts with is the longest one. -/
theorem IsOrdered.isFirst_iff_isLongest (h : IsOrdered table) :
    IsFirst table e name ↔ IsLongest table e name := by
  refine ⟨h.isLongest, fun he => ?_⟩
  obtain ⟨d, hd⟩ := exists_isFirst he.mem he.isStart
  rcases h.eq_or_not_isStart hd he.mem he.isStart with rfl | hnot
  · exact hd
  · -- The first entry would start with one that is not shorter, so it would be that one.
    have hstart := (hd.1.total he.isStart).resolve_left hnot
    have hle := he.length_le d (h.isLongest hd).mem hd.1
    exact absurd (hstart.symm_of_length_le hle) hnot

end Table

/-! ### The table of classes -/

section ClassTable

variable {name : Text} {cls : TokenClass}

/-- A name starts with an entry of the table of classes. -/
def HasEntry (name : Text) : Prop := ∃ e ∈ classTable, IsStart e.1.toList name

instance (name : Text) : Decidable (HasEntry name) :=
  inferInstanceAs (Decidable (∃ e ∈ classTable, IsStart e.1.toList name))

theorem isOrdered_classTable : IsOrdered classTable := by
  decide +kernel

/-- The class of a name is that of its longest entry. -/
theorem classOfName_eq_some_iff :
    classOfName name = some cls ↔ ∃ start, IsLongest classTable (start, cls) name := by
  rw [classOfName, Option.map_eq_some_iff]
  constructor
  · rintro ⟨⟨start, _⟩, hfind, rfl⟩
    exact ⟨start, isOrdered_classTable.isLongest (find?_startsWithAtoms_eq_some_iff.1 hfind)⟩
  · rintro ⟨start, hlongest⟩
    have hfirst := isOrdered_classTable.isFirst_iff_isLongest.2 hlongest
    exact ⟨(start, cls), find?_startsWithAtoms_eq_some_iff.2 hfirst, rfl⟩

theorem classOfName_eq_none_iff : classOfName name = none ↔ ¬ HasEntry name := by
  rw [classOfName, Option.map_eq_none_iff]
  refine find?_startsWithAtoms_eq_none_iff.trans ?_
  simp only [HasEntry, not_exists, not_and]

end ClassTable

/-! ### Stacks of scopes -/

section Stack

variable {scopes : List Scope} {cls : TokenClass}

/-- The innermost scope with an entry decides. -/
theorem tokenClass_eq_some_iff : tokenClass scopes = some cls ↔
    ∃ inner s outer start, scopes = inner ++ s :: outer ∧ (∀ t ∈ inner, ¬ HasEntry t.name) ∧
      IsLongest classTable (start, cls) s.name := by
  simp only [tokenClass, List.findSome?_eq_some_iff, classOfName_eq_some_iff,
    classOfName_eq_none_iff]
  constructor
  · rintro ⟨inner, s, outer, hscopes, ⟨start, hlongest⟩, hinner⟩
    exact ⟨inner, s, outer, start, hscopes, hinner, hlongest⟩
  · rintro ⟨inner, s, outer, start, hscopes, hinner, hlongest⟩
    exact ⟨inner, s, outer, hscopes, ⟨start, hlongest⟩, hinner⟩

theorem tokenClass_eq_none_iff : tokenClass scopes = none ↔ ∀ s ∈ scopes, ¬ HasEntry s.name := by
  simp only [tokenClass, List.findSome?_eq_none_iff, classOfName_eq_none_iff]

/-- A scope without an entry on top changes no class. -/
theorem tokenClass_cons {s : Scope} (hs : ¬ HasEntry s.name) (scopes : List Scope) :
    tokenClass (s :: scopes) = tokenClass scopes := by
  rw [tokenClass, List.findSome?_cons, classOfName_eq_none_iff.2 hs, tokenClass]

/-- Scopes without an entry that are put on a stack, one after the other, change no class. -/
theorem exists_applyAll_of_push {es : List Edit}
    (h : ∀ e ∈ es, ∃ s, e.op = .push s ∧ ¬ HasEntry s.name) (stack : ScopeStack) :
    ∃ next, stack.applyAll es = some next ∧ tokenClass next.scopes = tokenClass stack.scopes := by
  induction es generalizing stack with
  | nil => exact ⟨stack, rfl, rfl⟩
  | cons e es ih =>
    obtain ⟨⟨s, hop, hs⟩, hes⟩ := List.forall_mem_cons.1 h
    obtain ⟨next, hnext, hclass⟩ := ih hes { stack with scopes := s :: stack.scopes }
    refine ⟨next, ?_, hclass.trans (tokenClass_cons hs stack.scopes)⟩
    rw [ScopeStack.applyAll, List.foldlM_cons, hop]
    exact hnext

/-- The class of a token is that of the longest entry of the innermost scope that has one, and
there is none exactly if no scope has one. The longest entry of a name is the first one in the
table, and scopes without an entry that are put on the stack change nothing. -/
theorem tokenClass_most_specific (stack : ScopeStack) :
    (∀ cls, tokenClass stack.scopes = some cls ↔
      ∃ inner s outer start, stack.scopes = inner ++ s :: outer ∧
        (∀ t ∈ inner, ¬ HasEntry t.name) ∧ IsLongest classTable (start, cls) s.name) ∧
      (tokenClass stack.scopes = none ↔ ∀ s ∈ stack.scopes, ¬ HasEntry s.name) ∧
      (∀ e name, IsFirst classTable e name ↔ IsLongest classTable e name) ∧
      ∀ es : List Edit, (∀ e ∈ es, ∃ s, e.op = .push s ∧ ¬ HasEntry s.name) →
        ∃ next, stack.applyAll es = some next ∧
          tokenClass next.scopes = tokenClass stack.scopes :=
  ⟨fun _ => tokenClass_eq_some_iff, tokenClass_eq_none_iff,
    fun _ _ => isOrdered_classTable.isFirst_iff_isLongest,
    fun _ h => exists_applyAll_of_push h stack⟩

/-- The class of an operator is not changed by scopes on top of it that have no entry; an entry ends
inside an atom of one of them. -/
theorem tokenClass_most_specific_operator :
    let stack : ScopeStack := ⟨[Scope.ofName "keyword.operator.assignment".toList,
      Scope.ofName "string.quoted".toList], []⟩
    ∃ next, stack.applyAll [⟨0, .push (Scope.ofName "meta.group".toList)⟩,
        ⟨1, .push (Scope.ofName "keywords.control".toList)⟩] = some next ∧
      tokenClass next.scopes = some "hljs-operator" := by
  intro stack
  obtain ⟨hsome, -, hfirst, hpush⟩ := tokenClass_most_specific stack
  have hnone : ¬ HasEntry (Scope.ofName "meta.group".toList).name ∧
      ¬ HasEntry (Scope.ofName "keywords.control".toList).name := by
    decide +kernel
  have hunmatched : ∀ e ∈ [(⟨0, .push (Scope.ofName "meta.group".toList)⟩ : Edit),
      ⟨1, .push (Scope.ofName "keywords.control".toList)⟩],
      ∃ s, e.op = .push s ∧ ¬ HasEntry s.name :=
    List.forall_mem_cons.2 ⟨⟨_, rfl, hnone.1⟩, List.forall_mem_singleton.2 ⟨_, rfl, hnone.2⟩⟩
  have hlongest : IsLongest classTable ("keyword.operator", "hljs-operator")
      (Scope.ofName "keyword.operator.assignment".toList).name :=
    (hfirst _ _).1 ⟨by decide, classTable.take 7, classTable.drop 8, rfl, by decide +kernel⟩
  obtain ⟨next, hnext, hclass⟩ := hpush _ hunmatched
  exact ⟨next, hnext, hclass.trans ((hsome _).2 ⟨[], _, _, _, rfl, by simp, hlongest⟩)⟩

end Stack

end DocPreview.Highlight
