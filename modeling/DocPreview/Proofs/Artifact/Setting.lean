import DocPreview.Proofs.Artifact.Sanitizing
import DocPreview.Proofs.Script.Lexeme

/-!
# Block comments of a sanitized artifact

Cutting a stretch out of a text can make a comment of what stood around it, and a stretch that
stands in a comment leaves another comment behind. Neither happens if the text before each stretch
is closed: every block comment that can open in it ends in it. Then the comments before a cut and
behind it are those that were there before, so sanitizing leaves no comments but those of the
artifact, and none that has the form of a setting of elements.

## Main definitions

* `IsClosed`: a text in which every block comment that opens ends.
* `CutsApart`: the text before each stretch that is cut out is closed.
* `CutsOutsideComments`: what sanitizing cuts out of an artifact stands apart from its comments.

## Main results

* `IsClosed.opensComment_of_append`: the comments of a closed text and what follows it.
* `Removal.exists_opensComment`: the comments of what is left are comments of the text.
* `mem_blockComments_of_sanitize`: the comments of a sanitized artifact.
-/

namespace DocPreview.Artifact

open Text Script

variable {m : Matcher} {e : Extent} {x s t a b y z raw : Text} {ps : List Text}

/-! ### Closed texts -/

/-- A text in which every block comment that opens ends, and whose last character does not open
one. -/
def IsClosed (s : Text) : Prop :=
  s.getLast? ≠ some '/' ∧
    ∀ y ∈ s.tails, (after? "/*".toList y).isSome → (openedComment? y).isSome

instance : Decidable (IsClosed s) := inferInstanceAs (Decidable (_ ∧ _))

theorem isClosed_nil : IsClosed [] := by decide

theorem IsClosed.of_append (h : IsClosed (a ++ b)) : IsClosed b := by
  refine ⟨fun hlast => h.1 ?_, fun y hy => h.2 y ?_⟩
  · rw [List.getLast?_append, hlast, Option.some_or]
  · exact (List.mem_tails ..).2 (((List.mem_tails ..).1 hy).trans (List.suffix_append a b))

/-- A comment that opens in a closed text ends in it. -/
theorem IsClosed.opensComment_of_append (ha : IsClosed a) (hy : y <:+ a ++ b)
    (hopens : OpensComment x y) : y <:+ b ∨ ∃ z, z <:+ a ∧ OpensComment x z ∧ y = z ++ b := by
  obtain ⟨u, hu⟩ := hy
  rcases List.append_eq_append_iff.1 hu with ⟨z, rfl, rfl⟩ | ⟨z, -, rfl⟩
  · obtain ⟨v, -, hv, -⟩ := id hopens
    match z with
    | [] => exact Or.inl List.suffix_rfl
    | [c] =>
      obtain ⟨rfl, -⟩ := List.cons.inj hv
      exact absurd List.getLast?_concat ha.1
    | c :: d :: z =>
      cases hv
      have hsuffix : '/' :: '*' :: z <:+ u ++ '/' :: '*' :: z := List.suffix_append ..
      obtain ⟨x', hx'⟩ := Option.isSome_iff_exists.1
        (ha.2 _ ((List.mem_tails ..).2 hsuffix) rfl)
      rw [openedComment?_eq_some_iff] at hx'
      obtain rfl := (hx'.append b).unique hopens
      exact Or.inr ⟨_, hsuffix, hx', rfl⟩
  · exact Or.inl (List.suffix_append z _)

/-! ### Cuts behind closed texts -/

/-- The text before each stretch that is cut out is closed. -/
def CutsApart (m : Matcher) (e : Extent) (s : Text) : Prop :=
  ∀ n < s.length, (m (s.drop n)).isSome → (e = .first → ∀ k < n, m (s.drop k) = none) →
    IsClosed (s.take n)

instance : Decidable (CutsApart m e s) :=
  inferInstanceAs (Decidable (∀ n < s.length, _ → _ → _))

/-- A comment of what is left of a text is one of the text, and no match begins with it if all
matches are cut out. The text `z` stands before what is still to be read. -/
theorem Removal.exists_opensComment (h : Removal m e s ps t)
    (hz : ∀ w, w <:+ z → w ≠ [] → m (w ++ s) = none)
    (hapart : ∀ n < s.length, (m (s.drop n)).isSome →
      (e = .first → ∀ k < n, m (s.drop k) = none) → IsClosed (z ++ s.take n))
    (hy : y <:+ z ++ t) (hopens : OpensComment x y) :
    ∃ y', y' <:+ z ++ s ∧ OpensComment x y' ∧ (e = .all → m y' = none) := by
  induction h generalizing z with
  | nil =>
    rw [List.append_nil] at hy ⊢
    exact ⟨y, hy, hopens, fun _ => by simpa using hz y hy hopens.ne_nil⟩
  | @keep e c s t ps hc hs ih =>
    have hz' : ∀ w, w <:+ z ++ [c] → w ≠ [] → m (w ++ s) = none := by
      intro w hw hne
      obtain ⟨v, rfl, hv⟩ := (List.suffix_concat_iff.1 hw).resolve_left hne
      rw [List.append_assoc]
      rcases v.eq_nil_or_concat with rfl | ⟨_, _, rfl⟩
      · exact hc
      · exact hz _ hv (by simp)
    have hapart' : ∀ n < s.length, (m (s.drop n)).isSome →
        (e = .first → ∀ k < n, m (s.drop k) = none) → IsClosed (z ++ [c] ++ s.take n) := by
      intro n hn hm hfirst
      rw [List.append_assoc]
      refine hapart (n + 1) (Nat.succ_lt_succ hn) hm fun he k hk => ?_
      cases k with
      | zero => exact hc
      | succ k => exact hfirst he k (Nat.lt_of_succ_lt_succ hk)
    rw [List.append_cons] at hy ⊢
    exact ih hz' hapart' hy
  | @cut p s t ps hp hm hs ih =>
    have hpos := List.length_pos_iff.2 hp
    have hclosed : IsClosed z := by
      simpa using hapart 0 (by rw [List.length_append]; omega) (by simp [hm]) (by simp)
    rcases hclosed.opensComment_of_append hy hopens with hy | ⟨w, ⟨v, rfl⟩, hw, rfl⟩
    · have hapart' : ∀ n < s.length, (m (s.drop n)).isSome →
          (Extent.all = .first → ∀ k < n, m (s.drop k) = none) → IsClosed ([] ++ s.take n) := by
        intro n hn hm _
        have hafter := hapart (p.length + n) (by simpa using hn) (by simpa using hm) (by simp)
        rw [List.take_length_add_append, ← List.append_assoc] at hafter
        exact hafter.of_append
      obtain ⟨y', hy', hopens, hnone⟩ := ih (by simp) hapart' hy
      exact ⟨y', hy'.trans ((List.suffix_append p s).trans (List.suffix_append z _)), hopens, hnone⟩
    · exact ⟨w ++ (p ++ s), ⟨v, (List.append_assoc ..).symm⟩, hw.append _,
        fun _ => hz w ⟨v, rfl⟩ hw.ne_nil⟩
  | @stop p s hp hm =>
    have hpos := List.length_pos_iff.2 hp
    have hclosed : IsClosed z := by
      simpa using hapart 0 (by rw [List.length_append]; omega) (by simp [hm]) (by simp)
    rcases hclosed.opensComment_of_append hy hopens with hy | ⟨w, ⟨v, rfl⟩, hw, rfl⟩
    · exact ⟨y, hy.trans ((List.suffix_append p s).trans (List.suffix_append z _)), hopens, nofun⟩
    · exact ⟨w ++ (p ++ s), ⟨v, (List.append_assoc ..).symm⟩, hw.append _, nofun⟩

/-! ### Settings -/

/-- What stands between the delimiters of a comment is a setting exactly if the rule matches the
comment. -/
theorem isSetting_iff : IsSetting x ↔ pragma ("/*".toList ++ (x ++ "*/".toList)) = some [] := by
  rw [pragma_eq_some_iff]
  constructor
  · exact fun h => ⟨x, [], h, rfl, rfl⟩
  · rintro ⟨inner, tail, hinner, heq, htail⟩
    have heq := List.append_cancel_left heq
    have hslash : '/' ∉ tail := by
      obtain ⟨g, ⟨b, hb, hg⟩, hrest⟩ := exists_dropLineRest tail
      rw [← htail, List.append_nil] at hrest
      have hblank : '/' ∉ b := fun hc => absurd (hb _ hc) (by decide)
      rcases hg with rfl | rfl <;> simp [hrest, hblank]
    -- The last character of a comment is its slash, so nothing follows the match in it.
    obtain rfl : tail = [] := by
      by_contra hne
      have hlast := congrArg List.getLast? heq
      rw [List.getLast?_append_of_ne_nil _ (by simp), List.getLast?_append_of_ne_nil _ (by simp),
        List.getLast?_append_of_ne_nil _ hne] at hlast
      exact hslash (List.mem_of_getLast? hlast.symm)
    rw [List.append_nil] at heq
    rwa [List.append_cancel_right heq]

instance : Decidable (IsSetting x) := decidable_of_iff' _ isSetting_iff

/-! ### Sanitizing -/

/-- The comments before what sanitizing cuts out of an artifact end there: the settings of elements,
and the strict-mode marker of what is left. -/
structure CutsOutsideComments (raw : Text) : Prop where
  settings : CutsApart pragma .all raw
  marker : CutsApart strictMarker .first (removeAll pragma raw)

theorem cutsOutsideComments_iff : CutsOutsideComments raw ↔
    CutsApart pragma .all raw ∧ CutsApart strictMarker .first (removeAll pragma raw) :=
  ⟨fun h => ⟨h.settings, h.marker⟩, fun h => ⟨h.1, h.2⟩⟩

instance : Decidable (CutsOutsideComments raw) := decidable_of_iff' _ cutsOutsideComments_iff

theorem CutsApart.exists_opensComment (hs : CutsApart m e s) (h : Removal m e s ps t)
    (hx : x ∈ blockComments t) :
    ∃ y, y <:+ s ∧ OpensComment x y ∧ (e = .all → m y = none) := by
  obtain ⟨y, hy, hopens⟩ := mem_blockComments_iff.1 hx
  exact h.exists_opensComment (z := []) (by simp) hs hy hopens

theorem blockComments_trim_subset (s : Text) : blockComments (trim s) ⊆ blockComments s :=
  List.Subset.trans (blockComments_subset_append (trimEnd_prefix_self _))
    (blockComments_mono (trimStart_suffix_self s))

/-- The return that is added has no comment. -/
theorem blockComments_withReturn_subset (s : Text) :
    blockComments (withReturn s) ⊆ blockComments s := by
  unfold withReturn
  split_ifs with hreturn hempty
  · exact List.Subset.refl _
  · have hnone : blockComments fallbackReturn = [] := by decide
    rw [hnone]
    exact List.nil_subset _
  · exact blockComments_append_subset (by decide) (by decide)

/-- Each comment of a sanitized artifact is a comment of the artifact that has not the form of a
setting of elements, if what is cut out stands apart from the comments. -/
theorem mem_blockComments_of_sanitize (h : CutsOutsideComments raw)
    (hx : x ∈ blockComments (sanitize raw)) : x ∈ blockComments raw ∧ ¬ IsSetting x := by
  obtain ⟨settings, t, marker, u, ending, v, hsettings, hmarker, hending, hsanitize⟩ :=
    exists_removals raw
  have ht : t = removeAll pragma raw := ((removal_iff advances_pragma).1 ⟨_, hsettings⟩).symm
  have hv : v <+: u :=
    ⟨_, hending.append_flatten fun s r h => (exportReturn_eq_some_iff.1 h).2⟩
  have hxu : x ∈ blockComments u := by
    rw [hsanitize] at hx
    exact blockComments_subset_append hv
      (blockComments_trim_subset v (blockComments_withReturn_subset _ hx))
  obtain ⟨y, hy, hopens, -⟩ := (ht ▸ h.marker).exists_opensComment hmarker hxu
  obtain ⟨w, hw, hopens, hnone⟩ := h.settings.exists_opensComment hsettings
    (mem_blockComments_iff.2 ⟨y, hy, hopens⟩)
  refine ⟨mem_blockComments_iff.2 ⟨w, hw, hopens⟩, fun hsetting => ?_⟩
  obtain ⟨z, r, rfl, hz⟩ := hopens
  have hmatch := pragma_eq_some_iff.2 ⟨x, r, hsetting, rfl, rfl⟩
  rw [eq_append_of_blockComment? hz] at hnone
  exact Option.some_ne_none _ (hmatch.symm.trans (hnone rfl))

end DocPreview.Artifact
