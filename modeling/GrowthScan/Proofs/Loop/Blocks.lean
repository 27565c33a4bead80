import GrowthScan.Loop

/-!
# Well-nested loops

Code in which every loop is closed is a list of blocks (`Loop.Block`). For its lines the scan is
exact: the depth of the nest is the depth of the tree, and no loop is left open, so that blocks
that follow are measured as if they stood alone (`LoopNest.depth_ofLines_blocks`).

`LoopScan.Nests` says what the scan of some lines does wherever they stand. There is one lemma
for each way to build such lines, and `LoopScan.nests_lines` is the induction over the tree.
-/

namespace GrowthScan

namespace Loop

/-- A piece of code that closes each loop that it opens. -/
inductive Block where
  | plain (line : List Char) (hopening : isOpening line = false) (hclosing : isClosing line = false)
  /-- A loop on one line. -/
  | single (line : List Char) (hopening : isOpening line = true) (hclosing : isClosing line = true)
  | loop (head : List Char) (hopening : isOpening head = true) (hopen : isClosing head = false)
      (body : List Block) (foot : List Char) (hclosing : isClosing foot = true)
      (hclosed : isOpening foot = false)

namespace Block

mutual

/-- The lines of a block. -/
def lines : Block → List (List Char)
  | plain line _ _ => [line]
  | single line _ _ => [line]
  | loop head _ _ body foot _ _ => head :: linesOf body ++ [foot]

/-- The lines of one block after another. -/
def linesOf : List Block → List (List Char)
  | [] => []
  | b :: bs => lines b ++ linesOf bs

end

mutual

/-- How deep loops nest in a block. -/
def depth : Block → Nat
  | plain _ _ _ => 0
  | single _ _ _ => 1
  | loop _ _ _ body _ _ _ => 1 + depthOf body

/-- The greatest depth of the blocks. -/
def depthOf : List Block → Nat
  | [] => 0
  | b :: bs => max (depth b) (depthOf bs)

end

theorem linesOf_append (bs cs : List Block) : linesOf (bs ++ cs) = linesOf bs ++ linesOf cs := by
  induction bs with
  | nil => rfl
  | cons b bs ih => rw [List.cons_append, linesOf, linesOf, ih, List.append_assoc]

theorem depthOf_append (bs cs : List Block) :
    depthOf (bs ++ cs) = max (depthOf bs) (depthOf cs) := by
  induction bs with
  | nil => simp [depthOf]
  | cons b bs ih => rw [List.cons_append, depthOf, depthOf, ih, Nat.max_assoc]

end Block

end Loop

namespace LoopScan

open Loop (Block isClosing isOpening)

/-- Wherever the lines stand, they close what they open, and their loops are `d` levels deep in
those that are open there. -/
def Nests (lines : List (List Char)) (d : Nat) : Prop :=
  ∀ s : LoopScan, s.opened ≤ s.nest.depth →
    (lines.foldl step s).opened = s.opened ∧
      (lines.foldl step s).nest.depth = max s.nest.depth (s.opened + d)

theorem nests_nil : Nests [] 0 := by
  intro s hs
  simp [hs]

theorem nests_plain {line : List Char} (hopening : isOpening line = false)
    (hclosing : isClosing line = false) : Nests [line] 0 := by
  intro s hs
  simp [step, hopening, hclosing, hs]

/-- The loop is open just long enough to count. -/
theorem nests_single {line : List Char} (hopening : isOpening line = true)
    (hclosing : isClosing line = true) : Nests [line] 1 := by
  intro s hs
  simp [step, openLoop, hopening, hclosing]

theorem Nests.append {xs ys : List (List Char)} {d e : Nat} (h : Nests xs d) (h' : Nests ys e) :
    Nests (xs ++ ys) (max d e) := by
  intro s hs
  obtain ⟨hopened, hdepth⟩ := h s hs
  obtain ⟨hopened', hdepth'⟩ := h' (xs.foldl step s) (by omega)
  rw [List.foldl_append]
  constructor
  · rw [hopened', hopened]
  · rw [hdepth', hdepth, hopened]
    omega

theorem Nests.loop {head foot : List Char} {body : List (List Char)} {d : Nat}
    (hopening : isOpening head = true) (hopen : isClosing head = false)
    (hclosing : isClosing foot = true) (hclosed : isOpening foot = false) (h : Nests body d) :
    Nests (head :: body ++ [foot]) (1 + d) := by
  intro s hs
  have hhead : s.step head = s.openLoop (Loop.hasHalvingCue head) := by
    simp [step, hopening, hopen]
  have hfoot (t : LoopScan) : t.step foot = { t with opened := t.opened - 1 } := by
    simp [step, hclosing, hclosed]
  have hinside : (s.openLoop (Loop.hasHalvingCue head)).opened ≤
      (s.openLoop (Loop.hasHalvingCue head)).nest.depth := Nat.le_max_right _ _
  obtain ⟨hopened, hdepth⟩ := h _ hinside
  simp only [List.cons_append, List.foldl_cons, List.foldl_append, List.foldl_nil, hhead, hfoot,
    hopened, hdepth]
  simp only [openLoop]
  omega

mutual

theorem nests_lines (b : Block) : Nests b.lines b.depth := by
  cases b with
  | plain line hopening hclosing => exact nests_plain hopening hclosing
  | single line hopening hclosing => exact nests_single hopening hclosing
  | loop head hopening hopen body foot hclosing hclosed =>
    exact (nests_linesOf body).loop hopening hopen hclosing hclosed

theorem nests_linesOf (bs : List Block) : Nests (Block.linesOf bs) (Block.depthOf bs) := by
  cases bs with
  | nil => exact nests_nil
  | cons b bs => exact (nests_lines b).append (nests_linesOf bs)

end

end LoopScan

namespace LoopNest

open Loop (Block)

theorem depth_ofLines_linesOf (bs : List Block) :
    (ofLines (Block.linesOf bs)).depth = Block.depthOf bs := by
  have hdepth := (LoopScan.nests_linesOf bs .start (Nat.le_refl 0)).2
  rw [ofLines, hdepth]
  simp [LoopScan.start]

/-- Two loops in a row, the second one around a loop on one line. -/
example :
    let head := "while (a)".toList
    let single := Block.single "while (b) \x7d".toList (by decide +kernel) (by decide)
    let loop (body : List Block) : Block :=
      .loop head (by decide +kernel) (by decide) body ['}'] (by decide) (by decide +kernel)
    (ofLines (Block.linesOf [loop [], loop [single]])).depth = 2 := by
  decide +kernel

/-- The nest of well-nested loops is as deep as the loops nest. None is left open, and so what
follows is measured as if it stood alone. -/
theorem depth_ofLines_blocks (bs cs : List Block) :
    (ofLines (Block.linesOf bs)).depth = Block.depthOf bs ∧
    ((Block.linesOf bs).foldl LoopScan.step .start).opened = 0 ∧
    (ofLines (Block.linesOf bs ++ Block.linesOf cs)).depth =
      max (Block.depthOf bs) (Block.depthOf cs) := by
  refine ⟨depth_ofLines_linesOf bs, (LoopScan.nests_linesOf bs .start (Nat.le_refl 0)).1, ?_⟩
  rw [← Block.linesOf_append, depth_ofLines_linesOf, Block.depthOf_append]

end LoopNest

end GrowthScan
