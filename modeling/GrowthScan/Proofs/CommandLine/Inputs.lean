import GrowthScan.Proofs.CommandLine.Operands

/-!
# Inputs are judged one by one

The standard input is there for one input only. Where at most one asks for it, what
becomes of an input does not depend on the others (`analyzeAll_eq_map`). In the
compact format, the output on several inputs is then the output on each of them by
itself, one after another, and an input that fails prints nothing
(`stdout_analyzeOperands`). So the output on some paths and then others is the one
output and then the other, and the greater code counts (`run_paths_append`), unless a
sample is printed instead.
-/

namespace GrowthScan.CommandLine

variable {s : Surroundings} {a : Arguments} {st : Settings}

/-! ## The standard input -/

/-- Whether the input is read from the standard input. -/
def Input.readsStdin (i : Input) : Bool := i.path?.isNone

theorem analyze_of_not_readsStdin {disk : Disk} {i : Input} (h : i.readsStdin = false)
    (stdin stdin' : Except FileError (List Char)) :
    analyze disk stdin i = analyze disk stdin' i := by
  obtain ⟨path?, language⟩ := i
  cases path? with
  | none => cases h
  | some path => rfl

theorem analyzeAll_of_not_readsStdin {disk : Disk} {is : List Input}
    (h : is.countP Input.readsStdin = 0) (stdin stdin' : Except FileError (List Char)) :
    analyzeAll disk stdin is = is.map fun i => (i, analyze disk stdin' i) := by
  induction is generalizing stdin with
  | nil => rfl
  | cons i is ih =>
    rw [List.countP_eq_zero, List.forall_mem_cons, Bool.not_eq_true] at h
    rw [analyzeAll, ih (List.countP_eq_zero.mpr h.2), analyze_of_not_readsStdin h.1 stdin stdin']
    rfl

/-- Each input is analyzed as if it were alone, if only one of them reads the standard input. -/
theorem analyzeAll_eq_map {disk : Disk} {stdin : Except FileError (List Char)} {is : List Input}
    (h : is.countP Input.readsStdin ≤ 1) :
    analyzeAll disk stdin is = is.map fun i => (i, analyze disk stdin i) := by
  induction is with
  | nil => rfl
  | cons i is ih =>
    rw [List.countP_cons] at h
    cases hi : i.readsStdin with
    | true =>
      -- the standard input is used up, but nobody asks for it again
      rw [if_pos hi] at h
      rw [analyzeAll, analyzeAll_of_not_readsStdin (by omega) _ stdin]
      rfl
    | false =>
      have hpath : i.path?.isNone = false := hi
      rw [if_neg (by rw [hi]; exact Bool.false_ne_true)] at h
      rw [analyzeAll, hpath, if_neg Bool.false_ne_true, ih h, List.map_cons]

theorem countP_readsStdin_operand (disk : Disk) (globs : List Glob) (asked? : Option Language)
    (fallback : Language) (path : String) :
    (operand disk globs asked? fallback path).all.countP Input.readsStdin =
      if path = "-" then 1 else 0 := by
  rw [operand]
  split
  · rfl
  · refine List.countP_eq_zero.mpr fun i hi => ?_
    split at hi
    · rw [List.mem_singleton.mp hi]
      exact Bool.false_ne_true
    · obtain ⟨f, -, rfl⟩ := List.mem_map.mp hi
      exact Bool.false_ne_true
    · cases hi

/-- As many inputs read the standard input as paths name it. -/
theorem countP_readsStdin (disk : Disk) (globs : List Glob) (asked? : Option Language)
    (fallback : Language) (paths : List String) :
    ((paths.map (operand disk globs asked? fallback)).flatMap Operand.all).countP
      Input.readsStdin = paths.count "-" := by
  induction paths with
  | nil => rfl
  | cons p ps ih =>
    rw [List.map_cons, List.flatMap_cons, List.countP_append, ih, countP_readsStdin_operand,
      List.count_cons, Nat.add_comm]
    simp only [beq_iff_eq]

/-! ## Several inputs -/

theorem analyzeAll_append {disk : Disk} {stdin : Except FileError (List Char)}
    {ops ops' : List Operand}
    (h : ((ops ++ ops').flatMap Operand.all).countP Input.readsStdin ≤ 1) :
    analyzeAll disk stdin ((ops ++ ops').flatMap Operand.all) =
      analyzeAll disk stdin (ops.flatMap Operand.all) ++
        analyzeAll disk stdin (ops'.flatMap Operand.all) := by
  have hcount := h
  rw [List.flatMap_append, List.countP_append] at hcount
  have hops : (ops.flatMap Operand.all).countP Input.readsStdin ≤ 1 := by omega
  have hops' : (ops'.flatMap Operand.all).countP Input.readsStdin ≤ 1 := by omega
  rw [analyzeAll_eq_map h, analyzeAll_eq_map hops, analyzeAll_eq_map hops', List.flatMap_append,
    List.map_append]

theorem stdout_analyzeOperands_append {ops ops' : List Operand}
    (hf : a.format.getD st.format = .compact)
    (h : ((ops ++ ops').flatMap Operand.all).countP Input.readsStdin ≤ 1) :
    (analyzeOperands s a st (ops ++ ops')).stdout =
      (analyzeOperands s a st ops).stdout ++ (analyzeOperands s a st ops').stdout := by
  simp only [analyzeOperands, hf, print, analyzeAll_append h]
  rw [List.filterMap_append, List.filter_append, List.flatMap_append]

theorem code_analyzeOperands_append {ops ops' : List Operand}
    (h : ((ops ++ ops').flatMap Operand.all).countP Input.readsStdin ≤ 1) :
    (analyzeOperands s a st (ops ++ ops')).code =
      max (analyzeOperands s a st ops).code (analyzeOperands s a st ops').code := by
  have hmax (b c d e : Bool) : (if (b || c) || (d || e) then 1 else 0) =
      max (if b || d then 1 else 0) (if c || e then 1 else 0) := by
    revert b c d e
    decide
  simp only [code_analyzeOperands, analyzeAll_append h, List.filterMap_append, List.any_append,
    hmax]

/-! ## Inputs by themselves -/

/-- What a run prints that analyzes nothing but the input. -/
def printedAlone (s : Surroundings) (a : Arguments) (st : Settings) (i : Input) : List Char :=
  (analyzeOperands s a st [.inputs [i]]).stdout

theorem printedAlone_of_error {i : Input} {e : InputError}
    (hf : a.format.getD st.format = .compact) (h : analyze s.disk s.stdin i = .error e) :
    printedAlone s a st i = [] := by
  have hresults : analyzeAll s.disk s.stdin ([Operand.inputs [i]].flatMap Operand.all) =
      [(i, .error e)] := by
    rw [← h]
    rfl
  simp only [printedAlone, analyzeOperands, hresults, hf]
  rfl

/-- What is printed depends only on the inputs, not on the operands they come from. -/
theorem stdout_analyzeOperands_inputs (ops : List Operand) :
    (analyzeOperands s a st [.inputs (ops.flatMap Operand.all)]).stdout =
      (analyzeOperands s a st ops).stdout := by
  simp only [analyzeOperands, List.flatMap_singleton, Operand.all]

theorem stdout_inputs_cons {i : Input} {is : List Input} (hf : a.format.getD st.format = .compact)
    (h : (i :: is).countP Input.readsStdin ≤ 1) :
    (analyzeOperands s a st [.inputs (i :: is)]).stdout =
      printedAlone s a st i ++ (analyzeOperands s a st [.inputs is]).stdout := by
  have hall : ([.inputs [i]] ++ [.inputs is] : List Operand).flatMap Operand.all = i :: is := by
    rw [List.flatMap_append, List.flatMap_singleton, List.flatMap_singleton]
    rfl
  rw [← hall] at h ⊢
  rw [stdout_analyzeOperands_inputs]
  exact stdout_analyzeOperands_append hf h

/-- The output is that on each input by itself. -/
theorem stdout_analyzeOperands {ops : List Operand} (hf : a.format.getD st.format = .compact)
    (h : (ops.flatMap Operand.all).countP Input.readsStdin ≤ 1) :
    (analyzeOperands s a st ops).stdout =
      (ops.flatMap Operand.all).flatMap (printedAlone s a st) := by
  rw [← stdout_analyzeOperands_inputs]
  generalize ops.flatMap Operand.all = is at h
  induction is with
  | nil =>
    simp only [analyzeOperands, hf]
    rfl
  | cons i is ih =>
    have hrest : is.countP Input.readsStdin ≤ 1 := by
      rw [List.countP_cons] at h
      omega
    rw [stdout_inputs_cons hf h, ih hrest, List.flatMap_cons]

/-! ## Several paths -/

section

variable {P Q paths : List String} {globs : List Glob}

theorem run_paths (hs : a.sample = none) (hst : settings s a = .ok st)
    (hglobs : st.ignoreGlobs = .ok globs) (hp : paths ≠ []) :
    run s { a with paths := paths } =
      (analyzeOperands s a st (paths.map (operand s.disk globs a.language st.language))).after
        (loaded s a) := by
  refine run_of_operands (a := { a with paths }) hs hst ?_
  rw [operands_of_paths s.disk st hp, hglobs]
  rfl

/-- Whatever the paths are, the same error stops the run, or they are looked at. -/
theorem run_paths_cases (s : Surroundings) (hs : a.sample = none) :
    (∃ e front, ∀ paths ≠ [], run s { a with paths := paths } = (fatal e).after front) ∨
      ∃ st globs, settings s a = .ok st ∧ ∀ paths ≠ [], run s { a with paths := paths } =
        (analyzeOperands s a st (paths.map (operand s.disk globs a.language st.language))).after
          (loaded s a) := by
  cases hst : settings s a with
  | error e =>
    exact .inl ⟨e, [], fun paths _ => run_of_settings_error (a := { a with paths }) hs hst⟩
  | ok st =>
    cases hglobs : st.ignoreGlobs with
    | error e =>
      refine .inl ⟨e, loaded s a, fun paths hp =>
        run_of_operands_error (a := { a with paths }) hs hst ?_⟩
      rw [operands_of_paths s.disk st hp, hglobs]
      rfl
    | ok globs => exact .inr ⟨st, globs, rfl, fun paths hp => run_paths hs hst hglobs hp⟩

theorem stdout_run_paths (hs : a.sample = none) (hst : settings s a = .ok st)
    (hglobs : st.ignoreGlobs = .ok globs) (hp : paths ≠ [])
    (hf : a.format.getD st.format = .compact) (hstdin : paths.count "-" ≤ 1) :
    (run s { a with paths := paths }).stdout =
      (paths.flatMap fun path => (operand s.disk globs a.language st.language path).all).flatMap
        (printedAlone s a st) := by
  rw [run_paths hs hst hglobs hp, Outcome.stdout_after,
    stdout_analyzeOperands hf (by rw [countP_readsStdin]; exact hstdin), List.flatMap_map]

theorem stdout_run_paths_append (hs : a.sample = none) (hP : P ≠ []) (hQ : Q ≠ [])
    (hstdin : (P ++ Q).count "-" ≤ 1)
    (hf : ∀ st, settings s a = .ok st → a.format.getD st.format = .compact) :
    (run s { a with paths := P ++ Q }).stdout =
      (run s { a with paths := P }).stdout ++ (run s { a with paths := Q }).stdout := by
  have hPQ : P ++ Q ≠ [] := List.append_ne_nil_of_left_ne_nil hP Q
  rcases run_paths_cases s hs with ⟨e, front, hrun⟩ | ⟨st, globs, hst, hrun⟩
  · rw [hrun _ hPQ, hrun _ hP, hrun _ hQ]
    rfl
  · rw [hrun _ hPQ, hrun _ hP, hrun _ hQ, List.map_append]
    refine stdout_analyzeOperands_append (hf st hst) ?_
    rw [← List.map_append, countP_readsStdin]
    exact hstdin

theorem code_run_paths_append (hP : P ≠ []) (hQ : Q ≠ []) (hstdin : (P ++ Q).count "-" ≤ 1) :
    (run s { a with paths := P ++ Q }).code =
      max (run s { a with paths := P }).code (run s { a with paths := Q }).code := by
  have hPQ : P ++ Q ≠ [] := List.append_ne_nil_of_left_ne_nil hP Q
  -- not `cases`, which would rewrite the sample inside the arguments
  rcases Option.eq_none_or_eq_some a.sample with hs | ⟨language, hs⟩
  · rcases run_paths_cases s hs with ⟨e, front, hrun⟩ | ⟨st, globs, -, hrun⟩
    · rw [hrun _ hPQ, hrun _ hP, hrun _ hQ]
      rfl
    · rw [hrun _ hPQ, hrun _ hP, hrun _ hQ, List.map_append]
      refine code_analyzeOperands_append ?_
      rw [← List.map_append, countP_readsStdin]
      exact hstdin
  · have hrun (paths : List String) : run s { a with paths := paths } = _ :=
      run_of_sample (a := { a with paths }) hs
    rw [hrun, hrun, hrun]
    rfl

end

/-- A run on some paths and then others, of which at most one is the standard input, in the compact
format. The greater code counts. Unless a sample is asked for, the output is the one and then the
other, and it consists of what each input prints by itself, which is nothing if it fails. -/
theorem run_paths_append (s : Surroundings) (a : Arguments) (P Q : List String) (hP : P ≠ [])
    (hQ : Q ≠ []) (hstdin : (P ++ Q).count "-" ≤ 1)
    (hf : ∀ st, settings s a = .ok st → a.format.getD st.format = .compact) :
    let on paths := run s { a with paths := paths }
    (on (P ++ Q)).code = max (on P).code (on Q).code ∧
    (a.sample = none →
      (on (P ++ Q)).stdout = (on P).stdout ++ (on Q).stdout ∧
      ∀ st globs, settings s a = .ok st → st.ignoreGlobs = .ok globs →
        (on (P ++ Q)).stdout =
          ((P ++ Q).flatMap fun path =>
            (operand s.disk globs a.language st.language path).all).flatMap
              (printedAlone s a st) ∧
        ∀ i e, analyze s.disk s.stdin i = .error e → printedAlone s a st i = []) := by
  refine ⟨code_run_paths_append hP hQ hstdin, fun hs =>
    ⟨stdout_run_paths_append hs hP hQ hstdin hf, ?_⟩⟩
  intro st globs hst hglobs
  have hPQ : P ++ Q ≠ [] := List.append_ne_nil_of_left_ne_nil hP Q
  exact ⟨stdout_run_paths hs hst hglobs hPQ (hf st hst) hstdin,
    fun i e => printedAlone_of_error (hf st hst)⟩

/-- The first of the inputs has no text. -/
theorem run_paths_append_notText :
    let s : Surroundings := ⟨.ofList [("a.py", .ok (.file (.error .notText)))], "", .ok ['x']⟩
    let a : Arguments := { Arguments.empty with format := some .compact }
    let on paths := run s { a with paths := paths }
    (on (["a.py"] ++ ["-"])).stdout = "<stdin>\tO(1)\tO(1)\n".toList ∧ (on ["a.py"]).code = 1 ∧
    (["a.py"] ++ ["-"]).count "-" ≤ 1 ∧
    (∀ st, settings s a = .ok st → a.format.getD st.format = .compact) ∧
    (on (["a.py"] ++ ["-"])).code = max (on ["a.py"]).code (on ["-"]).code ∧
    (on (["a.py"] ++ ["-"])).stdout = (on ["a.py"]).stdout ++ (on ["-"]).stdout := by
  intro s a on
  have hstdin : (["a.py"] ++ ["-"]).count "-" ≤ 1 := by decide
  have h := run_paths_append s a ["a.py"] ["-"] (List.cons_ne_nil _ _) (List.cons_ne_nil _ _) hstdin
    fun _ _ => rfl
  exact ⟨by decide +kernel, by decide +kernel, hstdin, fun _ _ => rfl, h.1, (h.2 rfl).1⟩

/-- A sample is printed once, however many paths there are. -/
theorem not_forall_stdout_run_paths_append :
    ¬∀ (s : Surroundings) (a : Arguments) (P Q : List String), P ≠ [] → Q ≠ [] →
      (P ++ Q).count "-" ≤ 1 →
      (∀ st, settings s a = .ok st → a.format.getD st.format = .compact) →
      (run s { a with paths := P ++ Q }).stdout =
        (run s { a with paths := P }).stdout ++ (run s { a with paths := Q }).stdout := by
  intro h
  have htwice := h ⟨fun _ => .error .notFound, "", .ok []⟩
    { Arguments.empty with format := some .compact, sample := some .python } ["a.py"] ["b.py"]
    (List.cons_ne_nil _ _) (List.cons_ne_nil _ _) (by decide) fun _ _ => rfl
  have hnil : line Language.python.sample.toList = [] := List.self_eq_append_right.mp htwice
  exact List.append_ne_nil_of_right_ne_nil _ (List.cons_ne_nil _ _) hnil

end GrowthScan.CommandLine
