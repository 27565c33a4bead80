import GrowthScan.CommandLine.Run

/-!
# What is told and what is logged

Without what is logged, the error stream of a run has the paths that stand for nothing, and then
the inputs that failed (`stderr_analyzeOperands`). This is all of it unless the program is to tell
what it does or the environment asks for events (`errorStream_eq_stderr`).

An analysis is logged with its verdict at the end, and a source that is ignored as such; nothing is
logged of a source that is an error (`sourceEvents_eq`).
-/

namespace GrowthScan

/-! ## Events of a source -/

/-- The end of what is logged of a source tells what became of it. -/
theorem sourceEvents_eq (content : List Char) (origin : String) (language : Language) :
    match analyzeSource content origin with
    | .ok none => sourceEvents content origin language = [.sourceIgnored origin]
    | .ok (some a) => ∃ front, sourceEvents content origin language =
        front ++ [.analyzed language a.time a.space a.findings.length]
    | .error _ => sourceEvents content origin language = [] := by
  rw [analyzeSource, sourceEvents]
  cases Directive.preprocess content with
  | none => rfl
  | some code =>
    dsimp only
    cases (Text.trim code).isEmpty with
    | true => rfl
    | false => exact ⟨_, rfl⟩

/-! ## Loggers -/

theorem Event.severity_level_lt (e : Event) : e.level.severity < Level.warning.severity := by
  cases e <;> simp [level, Level.severity]

namespace Logger

/-- Unless the program is to tell what it does, no event is written. -/
theorem passes_eq_false (write : Nat → Event → List Char) (e : Event) :
    (⟨none, write⟩ : Logger).passes false e = false :=
  decide_eq_false (Nat.not_le.mpr e.severity_level_lt)

theorem stream_eq_flatMap_plain (write : Nat → Event → List Char) (notices : List Notice) :
    (⟨none, write⟩ : Logger).stream false notices = notices.flatMap Notice.plain := by
  have htext : (⟨none, write⟩ : Logger).text false = fun _ notice => notice.plain := by
    funext n notice
    cases notice with
    | told text => rfl
    | logged e =>
      rw [text, passes_eq_false]
      rfl
  have hplain : notices.mapIdx (fun _ notice => notice.plain) = notices.map Notice.plain :=
    List.ext_getElem? fun n => by
      rw [List.getElem?_mapIdx, List.getElem?_map]
  rw [stream, htext, hplain, List.flatMap_def]

end Logger

namespace CommandLine

variable {s : Surroundings} {a : Arguments} {st : Settings}

/-! ## The error stream -/

theorem plain_logged {α : Type} (event : α → Event) (items : List α) :
    (items.map fun x => Notice.logged (event x)).flatMap Notice.plain = [] := by
  rw [List.flatMap_map]
  exact List.flatMap_eq_nil_iff.mpr fun _ _ => rfl

theorem plain_loaded (s : Surroundings) (a : Arguments) :
    (loaded s a).flatMap Notice.plain = [] :=
  plain_logged Event.settingsLoaded _

theorem plain_notices (o : Operand) : o.notices.flatMap Notice.plain = o.warning := by
  cases o with
  | inputs is => rfl
  | missing path => exact List.append_nil _

theorem plain_resultNotices (r : Input × Except InputError (Option Analysis)) :
    (resultNotices r).flatMap Notice.plain = complaint r := by
  obtain ⟨i, e | _ | _⟩ := r
  · exact List.append_nil _
  · rfl
  · rfl

theorem plain_noticesAll (disk : Disk) (stdin : Except FileError (List Char)) (is : List Input) :
    (noticesAll disk stdin is).flatMap Notice.plain =
      (analyzeAll disk stdin is).flatMap complaint := by
  induction is generalizing stdin with
  | nil => rfl
  | cons i is ih =>
    rw [noticesAll, analyzeAll, List.flatMap_append, List.flatMap_append, plain_logged fun e => e,
      plain_resultNotices, ih, List.flatMap_cons, List.nil_append]

/-- What is told of operands: those that stand for nothing, and then the inputs that failed. -/
theorem stderr_analyzeOperands (ops : List Operand) :
    (analyzeOperands s a st ops).stderr =
      ops.flatMap Operand.warning ++
        (analyzeAll s.disk s.stdin (ops.flatMap Operand.all)).flatMap complaint := by
  simp only [Outcome.stderr, analyzeOperands, List.flatMap_append, List.flatMap_assoc,
    plain_notices, plain_noticesAll]
  rw [List.flatMap_singleton, Notice.plain, List.append_nil]

/-- Unless the program is to tell what it does or the environment asks for events, all of the error
stream is told. -/
theorem errorStream_eq_stderr (hv : a.verbose = false) (write : Nat → Event → List Char) :
    errorStream ⟨none, write⟩ s a = (run s a).stderr := by
  rw [errorStream, hv, Logger.stream_eq_flatMap_plain, Outcome.stderr]

end CommandLine

end GrowthScan
