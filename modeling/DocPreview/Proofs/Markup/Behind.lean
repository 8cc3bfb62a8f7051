import DocPreview.Markup.Outline

/-!
# Reading behind earlier blocks

The blocks that stand outside of all containers are only ever added to. So what reading a line does
is the same whatever blocks have been read before, and these stay behind what is added.

## Main definitions

* `Outline.behind`: an outline with blocks read before.

## Main results

* `readsBehind`: reading lines anew, behind earlier blocks.
* `readLine_behind`: reading a line behind earlier blocks.
-/

namespace DocPreview.Markup

variable {bs : List Block} {o : Outline} {l : Line} {n : Nat}

namespace Outline

/-- An outline with blocks read before, the latest first. -/
def behind (bs : List Block) (o : Outline) : Outline := { o with blocks := o.blocks ++ bs }

/-- Reading that adds to what has been read before. -/
def IsBehind (bs : List Block) (x y : Except Failure Outline) : Prop := x = y.map (behind bs)

namespace IsBehind

variable {x y : Except Failure Outline} {f g : Outline → Except Failure Outline}

theorem ok (o : Outline) : IsBehind bs (.ok (o.behind bs)) (.ok o) := rfl

theorem error (e : Failure) : IsBehind bs (.error e) (.error e) := rfl

theorem bind (h : IsBehind bs x y) (hf : ∀ o, IsBehind bs (f (o.behind bs)) (g o)) :
    IsBehind bs (x >>= f) (y >>= g) := by
  cases y with
  | error e =>
    rw [h]
    rfl
  | ok o =>
    rw [h]
    exact hf o

theorem bind_left {α : Type} (x : Except Failure α) {f g : α → Except Failure Outline}
    (h : ∀ a, IsBehind bs (f a) (g a)) : IsBehind bs (x >>= f) (x >>= g) := by
  cases x with
  | error e => rfl
  | ok a => exact h a

theorem ite {c : Prop} [Decidable c] {x' y' : Except Failure Outline} (h : IsBehind bs x y)
    (h' : IsBehind bs x' y') : IsBehind bs (if c then x else x') (if c then y else y') := by
  split
  · exact h
  · exact h'

end IsBehind

theorem push_behind (o : Outline) (b : Block) : (o.behind bs).push b = (o.push b).behind bs := by
  cases hf : o.frames <;> simp [push, behind, hf]

theorem endParagraph_behind (o : Outline) (ls : List Line) :
    (o.behind bs).endParagraph ls = (o.endParagraph ls).behind bs := by
  rw [endParagraph, endParagraph]
  cases readDefinitions ls.reverse with
  | mk ds content =>
    dsimp only
    split
    · rfl
    · exact push_behind { o with leaf := .none, definitions := o.definitions ++ ds } _

theorem addText_behind (o : Outline) (l : Line) :
    (o.behind bs).addText l = (o.addText l).behind bs := by
  have hleaf : (o.behind bs).leaf = o.leaf := rfl
  rw [addText, addText, hleaf]
  cases o.leaf with
  | paragraph lines =>
    cases lines with
    | nil =>
      dsimp only
      split <;> rfl
    | cons head before =>
      have hend : (if before.isEmpty then { o.behind bs with leaf := .none }
            else (o.behind bs).endParagraph before) =
          (if before.isEmpty then { o with leaf := .none }
            else o.endParagraph before).behind bs := by
        split
        · rfl
        · exact endParagraph_behind o before
      dsimp only
      rw [hend]
      split
      · split <;> rfl
      · rfl
  | table alignments rows =>
    dsimp only
    rw [push_behind]
    split <;> rfl
  | _ => rfl

theorem foldl_push_behind (ps : List Piece) (o : Outline) :
    ps.foldl (fun o p => o.push (.piece p)) (o.behind bs) =
      (ps.foldl (fun o p => o.push (.piece p)) o).behind bs := by
  induction ps generalizing o with
  | nil => rfl
  | cons p ps ih => rw [List.foldl_cons, List.foldl_cons, push_behind, ih]

/-- Reading up to a number of lines anew adds to what has been read before. -/
structure ReadsBehind (bs : List Block) (n : Nat) : Prop where
  endLeaf : ∀ p o, IsBehind bs (endLeaf n p (o.behind bs)) (endLeaf n p o)
  readAsText : ∀ o ls, IsBehind bs (readAsText n (o.behind bs) ls) (readAsText n o ls)
  readLeafLines : ∀ o ls, IsBehind bs (readLeafLines n (o.behind bs) ls) (readLeafLines n o ls)
  readMarkupLines : ∀ o before ls,
    IsBehind bs (readMarkupLines n (o.behind bs) before ls) (readMarkupLines n o before ls)
  startLeaf : ∀ o l, IsBehind bs (startLeaf n (o.behind bs) l) (startLeaf n o l)
  readLeafLine : ∀ o l, IsBehind bs (readLeafLine n (o.behind bs) l) (readLeafLine n o l)

namespace ReadsBehind

theorem zero : ReadsBehind bs 0 where
  endLeaf p o := .ok { o with leaf := .none }
  readAsText o ls := by cases ls <;> exact .ok o
  readLeafLines o ls := by cases ls <;> exact .ok o
  readMarkupLines o _ _ := .ok o
  startLeaf o _ := .ok o
  readLeafLine o _ := .ok o

variable (hn : ReadsBehind bs n)

include hn

theorem endLeaf_succ (p : Point) (o : Outline) :
    IsBehind bs (Outline.endLeaf (n + 1) p (o.behind bs)) (Outline.endLeaf (n + 1) p o) := by
  have hleaf : (o.behind bs).leaf = o.leaf := rfl
  rw [Outline.endLeaf, Outline.endLeaf, hleaf]
  cases o.leaf with
  | none => exact .ok o
  | paragraph lines =>
    dsimp only
    rw [endParagraph_behind]
    exact .ok _
  | code fence lines =>
    dsimp only
    rw [push_behind]
    exact .ok { o.push _ with leaf := .none }
  | table alignments rows =>
    dsimp only
    rw [push_behind]
    exact .ok { o.push _ with leaf := .none }
  | markup before lines =>
    dsimp only
    split
    · exact .error _
    · exact (hn.readAsText { o with leaf := before } _).bind fun o => hn.endLeaf p o
  | module lines =>
    dsimp only
    refine .bind_left _ fun items => ?_
    cases items with
    | none =>
      dsimp only
      split
      · exact .error _
      · exact .ok { o with leaf := .none }
    | some items =>
      dsimp only
      rw [push_behind]
      exact .ok { o.push _ with leaf := .none }

theorem readAsText_succ (o : Outline) (ls : List Line) :
    IsBehind bs (Outline.readAsText (n + 1) (o.behind bs) ls)
      (Outline.readAsText (n + 1) o ls) := by
  cases ls with
  | nil => exact .ok o
  | cons l ls =>
    rw [Outline.readAsText, Outline.readAsText, addText_behind]
    exact hn.readLeafLines _ ls

theorem readLeafLines_succ (o : Outline) (ls : List Line) :
    IsBehind bs (Outline.readLeafLines (n + 1) (o.behind bs) ls)
      (Outline.readLeafLines (n + 1) o ls) := by
  cases ls with
  | nil => exact .ok o
  | cons l ls => exact (hn.readLeafLine o l).bind fun o => hn.readLeafLines o ls

theorem readMarkupLines_succ (o : Outline) (before : OpenLeaf) (ls : List Line) :
    IsBehind bs (Outline.readMarkupLines (n + 1) (o.behind bs) before ls)
      (Outline.readMarkupLines (n + 1) o before ls) := by
  rw [Outline.readMarkupLines, Outline.readMarkupLines]
  split
  · refine (hn.endLeaf o.lastEnd { o with leaf := before }).bind fun o => ?_
    rw [foldl_push_behind]
    exact .ok _
  · exact .error _
  · exact hn.readAsText { o with leaf := before } _
  · exact .ok { o with leaf := .markup before ls }
  · exact .ok { o with leaf := .markup before ls }

theorem readLeafLine_succ (o : Outline) (l : Line) :
    IsBehind bs (Outline.readLeafLine (n + 1) (o.behind bs) l)
      (Outline.readLeafLine (n + 1) o l) := by
  have hleaf : (o.behind bs).leaf = o.leaf := rfl
  rw [Outline.readLeafLine, Outline.readLeafLine, hleaf]
  cases o.leaf with
  | code fence lines =>
    dsimp only
    split
    · exact (hn.endLeaf o.lastEnd o).bind fun o => hn.startLeaf o l
    · split
      · exact hn.endLeaf o.lastEnd o
      · exact .ok { o with leaf := .code fence (l :: lines) }
  | module lines =>
    dsimp only
    split
    · refine .bind_left _ fun items => ?_
      cases items with
      | none => exact .ok { o with leaf := .module (l :: lines) }
      | some items =>
        dsimp only
        rw [push_behind]
        exact hn.startLeaf { o.push _ with leaf := .none } l
    · exact .ok { o with leaf := .module (l :: lines) }
  | markup before lines =>
    dsimp only
    split
    · split <;> exact .error _
    · exact hn.readMarkupLines o before (l :: lines)
  | _ => exact hn.startLeaf o l

theorem startLeaf_succ (o : Outline) (l : Line) :
    IsBehind bs (Outline.startLeaf (n + 1) (o.behind bs) l) (Outline.startLeaf (n + 1) o l) := by
  have hleaf : (o.behind bs).leaf = o.leaf := rfl
  have hend : (o.behind bs).lastEnd = o.lastEnd := rfl
  rw [Outline.startLeaf, Outline.startLeaf, hleaf, hend]
  -- What a line is that starts nothing: the underline of a paragraph, a rule or text.
  have hline : IsBehind bs
      (if isRule l then do
        let o ← Outline.endLeaf n o.lastEnd (o.behind bs)
        return o.push .rule
      else return (o.behind bs).addText l)
      (if isRule l then do
        let o ← Outline.endLeaf n o.lastEnd o
        return o.push .rule
      else return o.addText l) := by
    refine .ite ((hn.endLeaf o.lastEnd o).bind fun o => ?_) ?_
    · rw [push_behind]
      exact .ok _
    · rw [addText_behind]
      exact .ok _
  refine .ite ((hn.endLeaf o.lastEnd o).bind fun o => ?_) (.ite ?_ ?_)
  · rw [push_behind]
    split <;> exact .ok _
  · exact .ok { o with leaf := .module [l] }
  cases CodeFence.opening? l with
  | some fence => exact (hn.endLeaf o.lastEnd o).bind fun o => .ok { o with leaf := .code fence [] }
  | none =>
    refine .ite (hn.readMarkupLines o o.leaf [l]) ?_
    cases headingLine? l with
    | some found =>
      refine (hn.endLeaf o.lastEnd o).bind fun o => ?_
      rw [push_behind]
      exact .ok _
    | none =>
      refine .ite ?_ hline
      cases underline? l with
      | none => exact hline
      | some depth =>
        cases o.leaf with
        | paragraph lines =>
          cases hread : readDefinitions lines.reverse with
          | mk ds content =>
            simp only [hread]
            refine .ite ?_ hline
            exact congrArg Except.ok
              (push_behind { o with leaf := .none, definitions := o.definitions ++ ds } _)
        | _ => exact hline

theorem succ : ReadsBehind bs (n + 1) where
  endLeaf := hn.endLeaf_succ
  readAsText := hn.readAsText_succ
  readLeafLines := hn.readLeafLines_succ
  readMarkupLines := hn.readMarkupLines_succ
  startLeaf := hn.startLeaf_succ
  readLeafLine := hn.readLeafLine_succ

end ReadsBehind

theorem readsBehind (bs : List Block) (n : Nat) : ReadsBehind bs n := by
  induction n with
  | zero => exact .zero
  | succ n ih => exact ih.succ

/-! ### Lines in containers -/

theorem closeContainer_behind (o : Outline) :
    (o.behind bs).closeContainer = o.closeContainer.behind bs := by
  have hframes : (o.behind bs).frames = o.frames := rfl
  rw [closeContainer, closeContainer, hframes]
  cases o.frames with
  | nil => rfl
  | cons f fs =>
    have hmade (b : Block) : { o.behind bs with frames := fs }.push b =
        ({ o with frames := fs }.push b).behind bs := push_behind { o with frames := fs } b
    dsimp only
    split
    · exact (congrArg (push · .blank) (hmade _)).trans (push_behind _ _)
    · exact hmade _

theorem closeContainers_behind (n : Nat) (o : Outline) :
    (o.behind bs).closeContainers n = (o.closeContainers n).behind bs := by
  induction n generalizing o with
  | zero => rfl
  | succ n ih => rw [closeContainers, closeContainers, closeContainer_behind, ih]

theorem openContainers_behind (n : Nat) (b : Bool) (o : Outline) (l : Line) :
    openContainers n b (o.behind bs) l =
      ((openContainers n b o l).1.behind bs, (openContainers n b o l).2) := by
  induction n generalizing b o l with
  | zero => rfl
  | succ n ih =>
    rw [openContainers, openContainers]
    split
    · rfl
    · exact ih false { o with frames := _, notes := _ } _

/-- A line is read in the same way whatever has been read before. -/
theorem readLine_behind (n : Nat) (o : Outline) (l : Line) :
    IsBehind bs (readLine n (o.behind bs) l) (readLine n o l) := by
  have hn := readsBehind bs n
  have hframes : (o.behind bs).frames = o.frames := rfl
  have hleaf : (o.behind bs).leaf = o.leaf := rfl
  rw [readLine, readLine, hframes, hleaf]
  generalize continueFrames o.frames.reverse l = kept
  obtain ⟨frames, closed, rest⟩ := kept
  let o₁ : Outline := { o with frames := frames.reverse }
  have hread (o : Outline) (rest : Line) : IsBehind bs
      (readLeafLine n (o.behind bs) rest >>= fun o => .ok { o with lastEnd := l.stop })
      (readLeafLine n o rest >>= fun o => .ok { o with lastEnd := l.stop }) :=
    (hn.readLeafLine o rest).bind fun o => .ok { o with lastEnd := l.stop }
  refine .ite (hread o₁ rest) ?_
  dsimp only
  cases Container.opening? _ rest with
  | some found =>
    refine (hn.endLeaf l.start o₁).bind fun o => ?_
    rw [closeContainers_behind, openContainers_behind]
    exact hread _ _
  | none =>
    refine .ite (hread o₁ rest) (.ite (hread o₁ _) ?_)
    refine (hn.endLeaf l.start o₁).bind fun o => ?_
    rw [closeContainers_behind]
    exact hread _ rest

theorem foldlM_readLine_behind (n : Nat) (o : Outline) (ls : List Line) :
    IsBehind bs (ls.foldlM (readLine n) (o.behind bs)) (ls.foldlM (readLine n) o) := by
  induction ls generalizing o with
  | nil => exact .ok o
  | cons l ls ih => exact (readLine_behind n o l).bind ih

/-- What is read of a document at its end. -/
def finish (n : Nat) (stop : Point) (o : Outline) : Except Failure Outline := do
  let o ← endLeaf n stop o
  return o.closeContainers o.frames.length

theorem finish_behind (n : Nat) (stop : Point) (o : Outline) :
    IsBehind bs (finish n stop (o.behind bs)) (finish n stop o) := by
  refine ((readsBehind bs n).endLeaf stop o).bind fun o => ?_
  rw [closeContainers_behind]
  exact .ok _

end Outline

end DocPreview.Markup
