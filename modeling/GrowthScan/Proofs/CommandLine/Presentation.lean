import GrowthScan.Proofs.CommandLine.Operands
import GrowthScan.Proofs.Report.Json

/-!
# Presentation does not change the verdict

The language that is asked for goes along with each input as a label. Nothing that is told about
an input looks at it but the report, so two runs on the same inputs in different languages have
the same code, and the same objects but for the member that names the language
(`code_inLanguage`, `map_without_language_shown`). What is shown and in which format is settled
after everything was judged: in JSON the objects of all reports, or quietly those with violations
(`holds_shown`, `shown_quiet`).

On the error stream, nothing that is told looks at the language or the format, but the log names
them. `Event.presenting` puts one format and language in place of all that are named, and up to this
two runs tell and log the same in the same places (`notices_inLanguage`). `run_presenting` says all
this of runs.
-/

namespace GrowthScan

/-! ## Events in another presentation -/

/-- The event with another format and language, if it tells them. -/
def Event.presenting (f : Format) (l : Language) : Event → Event
  | inputsCollected count _ => inputsCollected count f
  | analyzed _ time space findings => analyzed l time space findings
  | e => e

def Notice.presenting (f : Format) (l : Language) : Notice → Notice
  | told text => told text
  | logged e => logged (e.presenting f l)

variable {f : Format} {l : Language}

theorem Notice.plain_presenting (n : Notice) : (n.presenting f l).plain = n.plain := by
  cases n <;> rfl

theorem Snippet.events_presenting (s : Snippet) (language language' : Language) :
    (s.events language).map (·.presenting f l) = (s.events language').map (·.presenting f l) := by
  simp only [Snippet.events, List.map_append]
  rfl

theorem sourceEvents_presenting (content : List Char) (origin : String)
    (language language' : Language) :
    (sourceEvents content origin language).map (·.presenting f l) =
      (sourceEvents content origin language').map (·.presenting f l) := by
  simp only [sourceEvents]
  split
  · rfl
  · split
    · rfl
    · exact Snippet.events_presenting _ language language'

theorem fileEvents_presenting (disk : Disk) (path : String) (language language' : Language) :
    (fileEvents disk path language).map (·.presenting f l) =
      (fileEvents disk path language').map (·.presenting f l) := by
  simp only [fileEvents]
  split
  · rfl
  · exact sourceEvents_presenting _ path language language'

namespace CommandLine

variable {s : Surroundings} {a : Arguments} {st : Settings}

/-! ## Inputs in another language -/

/-- The input with another language. -/
def Input.inLanguage (l : Language) (i : Input) : Input := { i with language := l }

/-- The operand with another language for all its inputs. -/
def Operand.inLanguage (l : Language) : Operand → Operand
  | inputs is => inputs (is.map (·.inLanguage l))
  | missing path => missing path

theorem Operand.notices_inLanguage (l : Language) (o : Operand) :
    (o.inLanguage l).notices = o.notices := by
  cases o <;> rfl

@[simp] theorem Operand.all_inLanguage (l : Language) (o : Operand) :
    (o.inLanguage l).all = o.all.map (·.inLanguage l) := by
  cases o <;> rfl

/-- Which inputs a path stands for does not depend on the language that is asked for, nor on the
fallback. -/
theorem operand_inLanguage (disk : Disk) (globs : List Glob) (asked? asked?' : Option Language)
    (fallback fallback' : Language) (path : String) (l : Language) :
    (operand disk globs asked? fallback path).inLanguage l =
      (operand disk globs asked?' fallback' path).inLanguage l := by
  simp only [operand]
  split
  · rfl
  · split
    · rfl
    · simp only [Operand.inLanguage, List.map_map]
      rfl
    · rfl

/-! ## Results in another language -/

/-- The result for the input with another language. -/
def resultIn (l : Language) (r : Input × Except InputError (Option Analysis)) :
    Input × Except InputError (Option Analysis) :=
  (r.1.inLanguage l, r.2)

theorem analyzeAll_inLanguage (disk : Disk) (stdin : Except FileError (List Char)) (l : Language)
    (is : List Input) :
    analyzeAll disk stdin (is.map (·.inLanguage l)) =
      (analyzeAll disk stdin is).map (resultIn l) := by
  induction is generalizing stdin with
  | nil => rfl
  | cons i is ih => exact congrArg (_ :: ·) (ih _)

theorem hasFailed_resultIn (l : Language) (r : Input × Except InputError (Option Analysis)) :
    hasFailed (resultIn l r) = hasFailed r := by
  obtain ⟨i, _ | _⟩ := r <;> rfl

theorem report?_resultIn (c : Ceilings) (l : Language)
    (r : Input × Except InputError (Option Analysis)) :
    report? c (resultIn l r) = (report? c r).map (·.inLanguage l) := by
  obtain ⟨i, _ | _ | _⟩ := r <;> rfl

/-! ## What operands come to -/

/-- The results for all inputs. -/
def results (s : Surroundings) (ops : List Operand) :
    List (Input × Except InputError (Option Analysis)) :=
  analyzeAll s.disk s.stdin (ops.flatMap Operand.all)

/-- The reports on all inputs. -/
def reports (s : Surroundings) (a : Arguments) (st : Settings) (ops : List Operand) :
    List Report :=
  (results s ops).filterMap (report? (ceilings a st))

theorem flatMap_all_inLanguage (l : Language) (ops : List Operand) :
    (ops.map (·.inLanguage l)).flatMap Operand.all =
      (ops.flatMap Operand.all).map (·.inLanguage l) := by
  simp only [List.flatMap_map, List.map_flatMap, Operand.all_inLanguage]

theorem results_inLanguage (l : Language) (ops : List Operand) :
    results s (ops.map (·.inLanguage l)) = (results s ops).map (resultIn l) := by
  rw [results, flatMap_all_inLanguage, analyzeAll_inLanguage, results]

theorem reports_inLanguage (l : Language) (ops : List Operand) :
    reports s a st (ops.map (·.inLanguage l)) = (reports s a st ops).map (·.inLanguage l) := by
  simp only [reports, results_inLanguage, List.filterMap_map, List.map_filterMap,
    Function.comp_def, report?_resultIn]

/-- The code is that of the same inputs in any language. -/
theorem code_inLanguage (l : Language) (ops : List Operand) :
    (analyzeOperands s a st (ops.map (·.inLanguage l))).code =
      (analyzeOperands s a st ops).code := by
  have hcode (ops : List Operand) : (analyzeOperands s a st ops).code =
      if (results s ops).any hasFailed || (reports s a st ops).any Report.isViolation then 1
      else 0 := rfl
  simp only [hcode, results_inLanguage, reports_inLanguage, List.any_map, Function.comp_def,
    hasFailed_resultIn, Report.isViolation_inLanguage]

/-! ## What is logged -/

theorem resultNotices_resultIn (l : Language)
    (r : Input × Except InputError (Option Analysis)) :
    resultNotices (resultIn l r) = resultNotices r := by
  obtain ⟨i, _ | _ | _⟩ := r <;> rfl

theorem events_inLanguage (disk : Disk) (stdin : Except FileError (List Char)) (other : Language)
    (i : Input) :
    (events disk stdin (i.inLanguage other)).map (·.presenting f l) =
      (events disk stdin i).map (·.presenting f l) := by
  obtain ⟨path?, language⟩ := i
  cases path? with
  | some path => exact fileEvents_presenting disk path other language
  | none =>
    cases stdin with
    | error cause => rfl
    | ok content => exact sourceEvents_presenting content _ other language

/-- Input by input, the notices are those in any language, up to its name. -/
theorem noticesAll_inLanguage (disk : Disk) (stdin : Except FileError (List Char))
    (other : Language) (is : List Input) :
    (noticesAll disk stdin (is.map (·.inLanguage other))).map (·.presenting f l) =
      (noticesAll disk stdin is).map (·.presenting f l) := by
  induction is generalizing stdin with
  | nil => rfl
  | cons i is ih =>
    have hlogged (es : List Event) : (es.map Notice.logged).map (·.presenting f l) =
        (es.map (·.presenting f l)).map .logged := by
      rw [List.map_map, List.map_map]
      rfl
    have hresult : resultNotices (i.inLanguage other, analyze disk stdin (i.inLanguage other)) =
        resultNotices (i, analyze disk stdin i) :=
      resultNotices_resultIn other (i, analyze disk stdin i)
    rw [List.map_cons, noticesAll, noticesAll, hresult]
    simp only [List.map_append, hlogged, events_inLanguage]
    rw [ih]
    rfl

/-- What is told and logged of operands depends on the arguments and the language of the inputs only
in the names of the format and the language. -/
theorem notices_inLanguage (a a' : Arguments) (other : Language) (ops : List Operand) :
    (analyzeOperands s a st (ops.map (·.inLanguage other))).notices.map (·.presenting f l) =
      (analyzeOperands s a' st ops).notices.map (·.presenting f l) := by
  have hmissing : (ops.map (·.inLanguage other)).flatMap Operand.notices =
      ops.flatMap Operand.notices := by
    simp only [List.flatMap_map, Operand.notices_inLanguage]
  simp only [analyzeOperands, hmissing, flatMap_all_inLanguage, List.length_map, List.map_append,
    noticesAll_inLanguage]
  rfl

/-! ## Options for the presentation -/

/-- The arguments with other options for the presentation. -/
def Arguments.presenting (a : Arguments) (quiet : Bool) (format : Option Format)
    (language : Option Language) : Arguments :=
  { a with quiet := quiet, format := format, language := language }

variable {quiet : Bool} {format : Option Format} {language : Option Language}

/-- The text is an array of these values and nothing else. -/
def Holds (out : List Char) (vs : List Json) : Prop :=
  out = line (Json.pretty (.array vs)) ∧ Json.ofText out = .ok (.array vs)

/-- The objects that are shown: those of all reports, or quietly those with violations. -/
def shown (s : Surroundings) (a : Arguments) (st : Settings) (quiet : Bool)
    (ops : List Operand) : List Json :=
  ((reports s a st ops).filter fun r => !quiet || r.isViolation).map Report.toJson

theorem holds_shown (hf : format.getD st.format = .json) (ops : List Operand) :
    Holds (analyzeOperands s (a.presenting quiet format language) st ops).stdout
      (shown s a st quiet ops) := by
  have hstdout : (analyzeOperands s (a.presenting quiet format language) st ops).stdout =
      line (Report.jsonText ((reports s a st ops).filter fun r => !quiet || r.isViolation)) := by
    simp only [analyzeOperands, Arguments.presenting, hf]
    rfl
  rw [hstdout]
  exact ⟨rfl, Report.ofText_jsonText _ (List.forall_mem_singleton.mpr (by decide))⟩

theorem shown_quiet (ops : List Operand) :
    shown s a st true ops =
      (shown s a st false ops).filter fun v => (v.member? "violations").isSome := by
  simp only [shown, Bool.not_true, Bool.false_or, Bool.not_false, Bool.true_or, List.filter_true]
  exact Report.map_toJson_filter _

theorem map_without_language_shown (l : Language) (ops : List Operand) :
    (shown s a st quiet (ops.map (·.inLanguage l))).map (·.without "language") =
      (shown s a st quiet ops).map (·.without "language") := by
  simp only [shown, reports_inLanguage, List.filter_map, List.map_map, Function.comp_def,
    Report.isViolation_inLanguage, Report.without_language_toJson]

/-- Whatever is asked of the presentation, the same error stops the run, or the same inputs are
looked at, up to their languages. -/
theorem run_presenting_cases (s : Surroundings) (hs : a.sample = none) :
    (∃ e front, ∀ quiet format language,
        run s (a.presenting quiet format language) = (fatal e).after front) ∨
      ∃ (st : Settings) (ops : Option Language → List Operand), settings s a = .ok st ∧
        (∀ language language' l,
          (ops language).map (·.inLanguage l) = (ops language').map (·.inLanguage l)) ∧
        ∀ quiet format language, run s (a.presenting quiet format language) =
          (analyzeOperands s (a.presenting quiet format language) st (ops language)).after
            (loaded s a) := by
  cases hst : settings s a with
  | error e => exact .inl ⟨e, [], fun _ _ _ => run_of_settings_error hs hst⟩
  | ok st =>
    by_cases hp : a.paths = []
    · refine .inr ⟨st, fun language => [.inputs [⟨none, language.getD st.language⟩]], rfl,
        fun _ _ _ => rfl, fun _ _ _ => run_of_operands hs hst ?_⟩
      rw [operands, Arguments.presenting, hp]
      rfl
    · cases hglobs : st.ignoreGlobs with
      | error e =>
        refine .inl ⟨e, loaded s a, fun quiet format language => run_of_operands_error hs hst ?_⟩
        rw [operands_of_paths (a := a.presenting quiet format language) s.disk st hp, hglobs]
        rfl
      | ok globs =>
        refine .inr ⟨st, fun language => a.paths.map (operand s.disk globs language st.language),
          rfl, fun language language' l => ?_,
          fun quiet format language => run_of_operands hs hst ?_⟩
        · simp only [List.map_map, Function.comp_def,
            operand_inLanguage s.disk globs language language' st.language st.language _ l]
        · rw [operands_of_paths (a := a.presenting quiet format language) s.disk st hp, hglobs]
          rfl

theorem code_presenting (hs : a.sample = none) :
    (run s (a.presenting quiet format language)).code = (run s a).code := by
  rcases run_presenting_cases s hs with ⟨e, front, hrun⟩ | ⟨st, ops, -, hops, hrun⟩
  · have hself : run s a = (fatal e).after front := hrun a.quiet a.format a.language
    rw [hrun, hself]
  · have hself : run s a = (analyzeOperands s a st (ops a.language)).after (loaded s a) :=
      hrun a.quiet a.format a.language
    rw [hrun, hself, Outcome.code_after, Outcome.code_after, ← code_inLanguage .java (ops language),
      hops language a.language, code_inLanguage]
    rfl

/-- What is told and logged is the same up to the names of the format and the language. -/
theorem notices_presenting (hs : a.sample = none) :
    (run s (a.presenting quiet format language)).notices.map (·.presenting f l) =
      (run s a).notices.map (·.presenting f l) := by
  rcases run_presenting_cases s hs with ⟨e, front, hrun⟩ | ⟨st, ops, -, hops, hrun⟩
  · have hself : run s a = (fatal e).after front := hrun a.quiet a.format a.language
    rw [hrun, hself]
  · have hself : run s a = (analyzeOperands s a st (ops a.language)).after (loaded s a) :=
      hrun a.quiet a.format a.language
    rw [hrun, hself, Outcome.after, Outcome.after, List.map_append, List.map_append,
      ← notices_inLanguage a _ .java, hops language a.language, notices_inLanguage a a]

/-- What is told does not tell the format or the language. -/
theorem stderr_eq_of_notices {o o' : Outcome}
    (h : o.notices.map (·.presenting f l) = o'.notices.map (·.presenting f l)) :
    o.stderr = o'.stderr := by
  have hplain (o : Outcome) :
      o.stderr = (o.notices.map (·.presenting f l)).flatMap Notice.plain := by
    simp only [Outcome.stderr, List.flatMap_map, Notice.plain_presenting]
  rw [hplain o, hplain o', h]

theorem stderr_presenting (hs : a.sample = none) :
    (run s (a.presenting quiet format language)).stderr = (run s a).stderr :=
  stderr_eq_of_notices (notices_presenting (f := .json) (l := .java) hs)

theorem errorStream_presenting (hs : a.sample = none) (hv : a.verbose = false)
    (write : Nat → Event → List Char) :
    errorStream ⟨none, write⟩ s (a.presenting quiet format language) =
      errorStream ⟨none, write⟩ s a := by
  have hv' : (a.presenting quiet format language).verbose = false := hv
  rw [errorStream_eq_stderr hv, errorStream_eq_stderr hv', stderr_presenting hs]

/-- The options for quiet, format and language do not change the code, nor what is told on the error
stream, which is all of it unless the program is to tell what it does or the environment asks for
events. What is logged stays in its places, and only the names of the format and the language are
others. In JSON, quiet shows just the objects with violations, in their order, and the objects in
two languages are equal but for the member that names it. -/
theorem run_presenting (s : Surroundings) (a : Arguments) (hs : a.sample = none) :
    (∀ quiet format language,
      let other := a.presenting quiet format language
      (run s other).code = (run s a).code ∧
      (run s other).stderr = (run s a).stderr ∧
      (∀ f l, (run s other).notices.map (·.presenting f l) =
        (run s a).notices.map (·.presenting f l)) ∧
      (a.verbose = false →
        ∀ write, errorStream ⟨none, write⟩ s other = errorStream ⟨none, write⟩ s a)) ∧
    ∀ format, (∀ st, settings s a = .ok st → format.getD st.format = .json) →
      ((run s a).code = 2 →
        ∀ quiet language, (run s (a.presenting quiet format language)).stdout = []) ∧
      ((run s a).code ≠ 2 →
        (∀ language, ∃ vs, Holds (run s (a.presenting false format language)).stdout vs ∧
          Holds (run s (a.presenting true format language)).stdout
            (vs.filter fun v => (v.member? "violations").isSome)) ∧
        ∀ quiet language language', ∃ vs vs',
          Holds (run s (a.presenting quiet format language)).stdout vs ∧
          Holds (run s (a.presenting quiet format language')).stdout vs' ∧
          vs.map (·.without "language") = vs'.map (·.without "language")) := by
  constructor
  · exact fun quiet format language => ⟨code_presenting hs, stderr_presenting hs,
      fun _ _ => notices_presenting hs, errorStream_presenting hs⟩
  intro format hf
  rcases run_presenting_cases s hs with ⟨e, front, hrun⟩ | ⟨st, ops, hst, hops, hrun⟩
  · have hself : run s a = (fatal e).after front := hrun a.quiet a.format a.language
    simp only [hrun, hself]
    exact ⟨fun _ _ _ => rfl, fun h => absurd rfl h⟩
  · have hself : run s a = (analyzeOperands s a st (ops a.language)).after (loaded s a) :=
      hrun a.quiet a.format a.language
    simp only [hrun, hself, Outcome.code_after, Outcome.stdout_after]
    refine ⟨fun h => ?_, fun _ => ⟨fun language => ⟨_, holds_shown (hf st hst) _, ?_⟩,
      fun quiet language language' =>
        ⟨_, _, holds_shown (hf st hst) _, holds_shown (hf st hst) _, ?_⟩⟩⟩
    · have hle : (analyzeOperands s a st (ops a.language)).code ≤ 1 := code_analyzeOperands_le
      omega
    · rw [← shown_quiet]
      exact holds_shown (hf st hst) _
    · rw [← map_without_language_shown .java, hops language language', map_without_language_shown]

/-- One of the inputs exceeds a ceiling. -/
theorem run_presenting_violation :
    let s : Surroundings :=
      ⟨.ofList [("a.py", .ok (.file (.ok "sort".toUTF8)))], "", .ok "x = 1".toList⟩
    let a : Arguments := { Arguments.empty with paths := ["a.py", "-"], maxTime := some .linear }
    let json := some Format.json
    a.sample = none ∧ (∀ st, settings s a = .ok st → json.getD st.format = .json) ∧
    (run s a).code = 1 ∧ (run s (a.presenting true json (some .java))).code = 1 ∧
    a.verbose = false ∧
    (∀ write, errorStream ⟨none, write⟩ s (a.presenting true json (some .java)) =
      errorStream ⟨none, write⟩ s a) ∧
    (∃ vs, Holds (run s (a.presenting false json none)).stdout vs ∧
      Holds (run s (a.presenting true json none)).stdout
        (vs.filter fun v => (v.member? "violations").isSome)) ∧
    ∃ vs vs', Holds (run s (a.presenting false json (some .c))).stdout vs ∧
      Holds (run s (a.presenting false json (some .cpp))).stdout vs' ∧
      vs.map (·.without "language") = vs'.map (·.without "language") := by
  intro s a json
  have hcode : (run s a).code = 1 := by decide +kernel
  have hne : (run s a).code ≠ 2 := by
    rw [hcode]
    decide
  have h := run_presenting s a rfl
  obtain ⟨hsame, -, -, hstream⟩ := h.1 true json (some .java)
  have hshown := (h.2 json fun _ _ => rfl).2 hne
  exact ⟨rfl, fun _ _ => rfl, hcode, hsame.trans hcode, rfl, hstream rfl, hshown.1 none,
    hshown.2 false (some .c) (some .cpp)⟩

/-- Where the log is written, it tells the format; and the flag for quiet is given at most once. -/
theorem not_forall_errorStream_presenting :
    (¬∀ (logger : Logger) (s : Surroundings) (a : Arguments), a.sample = none →
      ∀ quiet format language,
        errorStream logger s (a.presenting quiet format language) = errorStream logger s a) ∧
    ¬∀ (words : List String) (a : Arguments), Arguments.ofWords words = .ok a → a.sample = none →
      ∃ a', Arguments.ofWords (words ++ ["--quiet"]) = .ok a' := by
  constructor
  · intro h
    have hstream := h ⟨none, fun _ e => line e.text⟩ ⟨fun _ => .error .notFound, "", .ok ['x']⟩
      { Arguments.empty with verbose := true } rfl false (some .json) none
    revert hstream
    decide +kernel
  · intro h
    obtain ⟨a', hwords⟩ := h ["-q"] { Arguments.empty with quiet := true } (by decide +kernel) rfl
    have hrefused : Arguments.ofWords (["-q"] ++ ["--quiet"]) = .error .repeatedOption := by
      decide +kernel
    rw [hrefused] at hwords
    cases hwords

end CommandLine

end GrowthScan
