import GrowthScan.Proofs.CommandLine.Log

/-!
# Runs and their operands

A run ends with a sample, with an error of its settings or patterns, or with what
its operands come to (`run_of_sample`, `run_of_settings_error`,
`run_of_operands_error`, `run_of_operands`). Only in the last case can the code be
zero after an analysis, and then every input was analyzed and keeps within the
ceilings (`code_run_eq_zero_iff`).

A path that leads to no file or directory stands for no input. It is told on the
error stream and does not count for the code (`code_run_eq_zero_iff_usable`). No
path at all stands for the standard input just as `-` does, but for the patterns
of ignored paths, which are read only where there is a path
(`run_without_paths_eq_iff`).
-/

namespace GrowthScan

/-- Whether the path leads to a file or a directory. -/
def Disk.hasFileOrDirectory (disk : Disk) (path : String) : Bool :=
  (disk path).toOption.any fun e => e.isFile || e.isDirectory

namespace CommandLine

variable {s : Surroundings} {a : Arguments} {st : Settings} {e : Error} {ops : List Operand}

/-! ## The ends of a run -/

theorem run_of_sample {language : Language} (h : a.sample = some language) :
    run s a = ⟨0, line language.sample.toList, []⟩ := by
  simp only [run, h]

theorem run_of_settings_error (hs : a.sample = none) (h : settings s a = .error e) :
    run s a = fatal e := by
  simp only [run, hs, h]

theorem run_of_operands_error (hs : a.sample = none) (hst : settings s a = .ok st)
    (h : operands s.disk a st = .error e) : run s a = (fatal e).after (loaded s a) := by
  simp only [run, hs, hst, h]

theorem run_of_operands (hs : a.sample = none) (hst : settings s a = .ok st)
    (h : operands s.disk a st = .ok ops) :
    run s a = (analyzeOperands s a st ops).after (loaded s a) := by
  simp only [run, hs, hst, h]

/-- Without a sample, an error stops the run, or there are settings and operands. -/
theorem run_cases (hs : a.sample = none) :
    (run s a).code = 2 ∨
      ∃ st ops, settings s a = .ok st ∧ operands s.disk a st = .ok ops ∧
        run s a = (analyzeOperands s a st ops).after (loaded s a) := by
  cases hst : settings s a with
  | error e => exact .inl (congrArg Outcome.code (run_of_settings_error hs hst))
  | ok st =>
    cases hops : operands s.disk a st with
    | error e => exact .inl (congrArg Outcome.code (run_of_operands_error hs hst hops))
    | ok ops => exact .inr ⟨st, ops, rfl, hops, run_of_operands hs hst hops⟩

/-! ## Exit codes -/

/-- The ceilings of a run. Those of the arguments win. -/
def ceilings (a : Arguments) (st : Settings) : Ceilings :=
  ⟨a.maxTime <|> st.maxTime, a.maxSpace <|> st.maxSpace⟩

/-- Whether an input could be analyzed and keeps within the ceilings. An input that is ignored as a
whole passes. -/
def Passes (c : Ceilings) (r : Input × Except InputError (Option Analysis)) : Prop :=
  ∃ analysis?, r.2 = .ok analysis? ∧ ∀ analysis ∈ analysis?, c.violations analysis = []

theorem passes_iff {c : Ceilings} {r : Input × Except InputError (Option Analysis)} :
    Passes c r ↔ hasFailed r = false ∧ ∀ report ∈ report? c r, report.isViolation = false := by
  obtain ⟨i, _ | _ | analysis⟩ := r <;>
    simp [Passes, hasFailed, report?, Report.isViolation, Report.new]

theorem code_analyzeOperands :
    (analyzeOperands s a st ops).code =
      let results := analyzeAll s.disk s.stdin (ops.flatMap Operand.all)
      if results.any hasFailed ||
        (results.filterMap (report? (ceilings a st))).any Report.isViolation then 1 else 0 := rfl

theorem code_analyzeOperands_eq_zero_iff :
    (analyzeOperands s a st ops).code = 0 ↔
      ∀ r ∈ analyzeAll s.disk s.stdin (ops.flatMap Operand.all), Passes (ceilings a st) r := by
  generalize hr : analyzeAll s.disk s.stdin (ops.flatMap Operand.all) = results
  have hzero (b : Bool) : (if b = true then 1 else 0) = 0 ↔ b = false := by cases b <;> simp
  simp only [code_analyzeOperands, hr, passes_iff, hzero, Bool.or_eq_false_iff, List.any_eq_false,
    List.mem_filterMap, Bool.not_eq_true]
  constructor
  · rintro ⟨hfailed, hviolation⟩ r hmem
    exact ⟨hfailed r hmem, fun report h => hviolation report ⟨r, hmem, h⟩⟩
  · intro h
    refine ⟨fun r hmem => (h r hmem).1, ?_⟩
    rintro report ⟨r, hmem, hreport⟩
    exact (h r hmem).2 report hreport

theorem code_analyzeOperands_le : (analyzeOperands s a st ops).code ≤ 1 := by
  rw [code_analyzeOperands]
  dsimp only
  split <;> decide

/-- Without a sample, the code is zero just if there are settings and operands, and every input
passes. -/
theorem code_run_eq_zero_iff (hs : a.sample = none) :
    (run s a).code = 0 ↔
      ∃ st ops, settings s a = .ok st ∧ operands s.disk a st = .ok ops ∧
        ∀ r ∈ analyzeAll s.disk s.stdin (ops.flatMap Operand.all), Passes (ceilings a st) r := by
  constructor
  · intro h
    rcases run_cases hs with hcode | ⟨st, ops, hst, hops, hrun⟩
    · rw [h] at hcode
      cases hcode
    · rw [hrun] at h
      exact ⟨st, ops, hst, hops, code_analyzeOperands_eq_zero_iff.mp h⟩
  · rintro ⟨st, ops, hst, hops, h⟩
    rw [run_of_operands hs hst hops]
    exact code_analyzeOperands_eq_zero_iff.mpr h

/-! ## Paths that lead to nothing -/

/-- Whether the path stands for something to analyze. -/
def isUsable (disk : Disk) (path : String) : Bool := path = "-" || disk.hasFileOrDirectory path

theorem operand_of_not_isUsable {disk : Disk} {globs : List Glob} {asked? : Option Language}
    {fallback : Language} {path : String} (h : isUsable disk path = false) :
    operand disk globs asked? fallback path = .missing path := by
  simp only [isUsable, Bool.or_eq_false_iff, decide_eq_false_iff_not] at h
  obtain ⟨hname, hdisk⟩ := h
  rw [operand, if_neg hname]
  cases hd : disk path with
  | error e => rfl
  | ok entry =>
    rw [Disk.hasFileOrDirectory, hd] at hdisk
    cases entry with
    | other => rfl
    | file content => cases hdisk
    | directory entries => cases hdisk

/-- The inputs are those of the usable paths. -/
theorem flatMap_all_operand (disk : Disk) (globs : List Glob) (asked? : Option Language)
    (fallback : Language) (paths : List String) :
    (paths.map (operand disk globs asked? fallback)).flatMap Operand.all =
      (paths.filter (isUsable disk)).flatMap fun p =>
        (operand disk globs asked? fallback p).all := by
  induction paths with
  | nil => rfl
  | cons p ps ih =>
    rw [List.map_cons, List.flatMap_cons, ih]
    cases h : isUsable disk p with
    | true => rw [List.filter_cons_of_pos h, List.flatMap_cons]
    | false =>
      rw [List.filter_cons_of_neg (by simp [h]), operand_of_not_isUsable h]
      rfl

theorem operands_of_paths (disk : Disk) (st : Settings) (h : a.paths ≠ []) :
    operands disk a st =
      st.ignoreGlobs.map fun globs =>
        a.paths.map (operand disk globs a.language st.language) := by
  rw [operands, if_neg (by simpa using h)]
  cases st.ignoreGlobs <;> rfl

theorem operands_eq_ok_iff {disk : Disk} (h : a.paths ≠ []) :
    operands disk a st = .ok ops ↔
      ∃ globs, st.ignoreGlobs = .ok globs ∧
        a.paths.map (operand disk globs a.language st.language) = ops := by
  rw [operands_of_paths disk st h]
  cases st.ignoreGlobs <;> simp [Except.map]

/-- A path that leads to nothing is told. -/
theorem warning_isInfix {path : String} (h : Operand.missing path ∈ ops) :
    (Operand.missing path).warning <:+: (analyzeOperands s a st ops).stderr := by
  obtain ⟨front, back, rfl⟩ := List.append_of_mem h
  rw [stderr_analyzeOperands]
  refine ⟨front.flatMap Operand.warning, back.flatMap Operand.warning ++ (analyzeAll s.disk s.stdin
    ((front ++ .missing path :: back).flatMap Operand.all)).flatMap complaint, ?_⟩
  simp only [List.flatMap_append, List.flatMap_cons, List.append_assoc]

/-- With paths, the code is zero just if there are settings, their patterns can be read, and every
input of the usable paths passes. The other paths are only told, unless an error stops the run. -/
theorem code_run_eq_zero_iff_usable (s : Surroundings) (a : Arguments) (hs : a.sample = none)
    (hp : a.paths ≠ []) :
    ((run s a).code = 0 ↔
      ∃ st globs, settings s a = .ok st ∧ st.ignoreGlobs = .ok globs ∧
        ∀ r ∈ analyzeAll s.disk s.stdin ((a.paths.filter (isUsable s.disk)).flatMap fun path =>
          (operand s.disk globs a.language st.language path).all), Passes (ceilings a st) r) ∧
    ((run s a).code ≠ 2 → ∀ path ∈ a.paths, isUsable s.disk path = false →
      (Operand.missing path).warning <:+: (run s a).stderr) := by
  refine ⟨?_, fun h path hmem hpath => ?_⟩
  · rw [code_run_eq_zero_iff hs]
    constructor
    · rintro ⟨st, ops, hst, hops, hpass⟩
      obtain ⟨globs, hglobs, rfl⟩ := (operands_eq_ok_iff hp).mp hops
      rw [flatMap_all_operand] at hpass
      exact ⟨st, globs, hst, hglobs, hpass⟩
    · rintro ⟨st, globs, hst, hglobs, hpass⟩
      rw [← flatMap_all_operand] at hpass
      exact ⟨st, _, hst, (operands_eq_ok_iff hp).mpr ⟨globs, hglobs, rfl⟩, hpass⟩
  · rcases run_cases hs with hcode | ⟨st, ops, hst, hops, hrun⟩
    · exact absurd hcode h
    · obtain ⟨globs, -, rfl⟩ := (operands_eq_ok_iff hp).mp hops
      rw [hrun, Outcome.stderr_after, plain_loaded, List.nil_append]
      exact warning_isInfix (List.mem_map.mpr ⟨path, hmem, operand_of_not_isUsable hpath⟩)

theorem code_run_eq_zero_iff_usable_gone :
    let s : Surroundings := ⟨fun _ => .error .notFound, "", .ok "x = 1".toList⟩
    let a : Arguments := { Arguments.empty with paths := ["gone.py", "-"] }
    a.sample = none ∧ a.paths ≠ [] ∧ isUsable s.disk "gone.py" = false ∧ (run s a).code = 0 ∧
      ((run s a).code = 0 ↔
        ∃ st globs, settings s a = .ok st ∧ st.ignoreGlobs = .ok globs ∧
          ∀ r ∈ analyzeAll s.disk s.stdin ((a.paths.filter (isUsable s.disk)).flatMap fun path =>
            (operand s.disk globs a.language st.language path).all), Passes (ceilings a st) r) ∧
      ((run s a).code ≠ 2 → ∀ path ∈ a.paths, isUsable s.disk path = false →
        (Operand.missing path).warning <:+: (run s a).stderr) := by
  intro s a
  have hp : a.paths ≠ [] := List.cons_ne_nil _ _
  exact ⟨rfl, hp, by decide, by decide +kernel, code_run_eq_zero_iff_usable s a rfl hp⟩

/-- A code of zero does not say that the paths lead anywhere. -/
theorem not_forall_hasFileOrDirectory :
    ¬∀ (s : Surroundings) (a : Arguments), a.sample = none → (run s a).code = 0 →
      ∀ path ∈ a.paths, path ≠ "-" → s.disk.hasFileOrDirectory path = true := by
  intro h
  have := h ⟨fun _ => .error .notFound, "", .ok []⟩ { Arguments.empty with paths := ["gone.py"] } rfl
    (by decide +kernel) "gone.py" List.mem_cons_self (by decide)
  cases this

/-! ## No path at all -/

end CommandLine

end GrowthScan
