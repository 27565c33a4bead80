import GrowthScan.Directive

/-!
# Lines one at a time

`keptLines` threads the number of open regions and the mark of a line that is
passed over. `Progress` is that pair, `Progress.step` what one line does to it and
`Progress.keeps` whether the line is kept; `Progress.kept_cons` says that they are
all there is to it. A step is given by the directive that takes effect on the line
(`Progress.applies`), and what is proved of directives elsewhere rests on that, not
on the cases of `keptLines`.
-/

namespace GrowthScan.Directive

/-- Where the lines so far have led. -/
@[ext] structure Progress where
  /-- The number of regions that are open. -/
  depth : Nat
  /-- Whether the next line is passed over. -/
  skip : Bool

namespace Progress

/-- In front of the first line. -/
def start : Progress := ⟨0, false⟩

/-- Whether the line holds the directive and is not passed over. -/
def applies (s : Progress) (d : Directive) (line : List Char) : Bool :=
  !s.skip && decide (ofLine? line = some d)

/-- The next line, which is passed over or has its directive applied. -/
def step (s : Progress) (line : List Char) : Progress :=
  ⟨s.depth + (s.applies regionStart line).toNat - (s.applies regionEnd line).toNat,
    s.applies nextLine line⟩

/-- Whether the line is analyzed. -/
def keeps (s : Progress) (line : List Char) : Bool :=
  !s.skip && decide (ofLine? line = none) && decide (s.depth = 0)

/-- Some lines, one after another. -/
def run (s : Progress) (lines : List (List Char)) : Progress := lines.foldl step s

/-- The lines that are analyzed from here on. -/
def kept (s : Progress) (lines : List (List Char)) : List (List Char) :=
  keptLines s.depth s.skip lines

variable (s : Progress) (line : List Char) (lines more : List (List Char))

theorem run_append : s.run (lines ++ more) = (s.run lines).run more := List.foldl_append

theorem run_concat : s.run (lines ++ [line]) = (s.run lines).step line := by
  rw [run_append]; rfl

@[simp] theorem kept_nil : s.kept [] = [] := rfl

theorem kept_cons :
    s.kept (line :: lines) = (if s.keeps line then [line] else []) ++ (s.step line).kept lines := by
  obtain ⟨depth, skip⟩ := s
  cases skip
  · cases h : ofLine? line with
    | none => by_cases hd : depth = 0 <;> simp [kept, keptLines, keeps, step, applies, h, hd]
    | some d => cases d <;> simp [kept, keptLines, keeps, step, applies, h]
  · simp [kept, keptLines, keeps, step, applies]

theorem kept_append : s.kept (lines ++ more) = s.kept lines ++ (s.run lines).kept more := by
  induction lines generalizing s with
  | nil => rfl
  | cons l lines ih =>
    rw [List.cons_append, kept_cons, kept_cons, ih, List.append_assoc]
    rfl

theorem kept_concat :
    s.kept (lines ++ [line]) = s.kept lines ++ if (s.run lines).keeps line then [line] else [] := by
  rw [kept_append, kept_cons, kept_nil, List.append_nil]

variable {s line lines}

/-- A line that is kept is one of the lines and holds no directive. -/
theorem mem_kept (h : line ∈ s.kept lines) : line ∈ lines ∧ ofLine? line = none := by
  induction lines generalizing s with
  | nil => cases h
  | cons l lines ih =>
    rw [kept_cons, List.mem_append] at h
    rcases h with h | h
    · split at h
      · rename_i hkeeps
        simp only [keeps, Bool.and_eq_true, decide_eq_true_eq] at hkeeps
        rw [List.mem_singleton.mp h]
        exact ⟨List.mem_cons_self, hkeeps.1.2⟩
      · cases h
    · exact ⟨List.mem_cons_of_mem _ (ih h).1, (ih h).2⟩

/-- Lines without directives are kept as they are. -/
theorem kept_of_forall (h : ∀ l ∈ lines, ofLine? l = none) : start.kept lines = lines := by
  induction lines with
  | nil => rfl
  | cons l lines ih =>
    obtain ⟨hl, hlines⟩ := List.forall_mem_cons.mp h
    have hstep : start.step l = start := by simp [step, applies, hl, start]
    have hkeeps : start.keeps l = true := by simp [keeps, hl, start]
    rw [kept_cons, hstep, ih hlines, if_pos hkeeps, List.singleton_append]

end Progress

end GrowthScan.Directive
