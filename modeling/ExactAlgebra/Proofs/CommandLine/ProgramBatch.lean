import ExactAlgebra.Proofs.CommandLine.ReplyStreams
import ExactAlgebra.Proofs.FailingMap
import ExactAlgebra.Proofs.Input.Compilation

/-!
# Batches that are one program

A batch in program format goes on after a line that it cannot read, while reading a
program stops there. What the later lines do then makes no difference: a batch has failed
once one of its lines has. So a batch without commands ends with exit code zero exactly
when its lines can be read as a program and the passes succeed on the result, and then it
shows this result and nothing else.
-/

namespace ExactAlgebra

open Text

namespace Session

/-- The line is a command, after the blanks around it are removed. -/
def isCommand (line : String) : Bool :=
  startsWith ":" (strip line)

/-- A line that is no command is a definition, unless it is blank or a comment. -/
theorem classify_of_isCommand_eq_false {line : String} (noCommand : isCommand line = false) :
    classify line =
      if Input.Program.isIgnored line then .ignored else .expression (strip line) := by
  unfold isCommand startsWith at noCommand
  unfold classify Input.Program.isIgnored startsWith
  dsimp only
  cases characters : (strip line).toList with
  | nil =>
      have empty : strip line = "" := String.toList_injective characters
      simp [empty]
  | cons first rest =>
      have nonempty : strip line ≠ "" := by
        intro empty
        rw [empty] at characters
        cases characters
      rw [characters] at noCommand
      by_cases comment : first = '#'
      · subst comment
        simp
      · have noColon : first ≠ ':' := by
          rintro rfl
          simp at noCommand
        simp [noColon, nonempty, comment, Ne.symm comment]

end Session

namespace Input.Program

/-- The program after the definitions on further lines. -/
def extend (program : Program) (lines : List String) : Except ReadError Program :=
  ((lines.filter (!isIgnored ·)).map strip).foldlM define program

variable {program : Program} {line : String} {lines : List String}

theorem extend_of_isIgnored (ignored : isIgnored line = true) :
    program.extend (line :: lines) = program.extend lines := by
  rw [extend, List.filter_cons_of_neg (by simp [ignored])]
  rfl

/-- The lines after a definition extend the program that it leaves. -/
theorem extend_of_definition (definition : isIgnored line = false) :
    program.extend (line :: lines) =
      program.readLine (strip line) >>= fun expr => (program.append expr).extend lines := by
  rw [extend, List.filter_cons_of_pos (by simp [definition]), List.map_cons, List.foldlM_cons,
    define]
  cases program.readLine (strip line) <;> rfl

/-- Where there is a definition, there is a last one. -/
theorem exists_last?_of_extend_eq_ok
    {final : Program}
    (definition : ∃ line ∈ lines, isIgnored line = false)
    (extended : program.extend lines = .ok final) :
    ∃ expr, final.last? = some expr := by
  have nonempty : (lines.filter (!isIgnored ·)).map strip ≠ [] := by
    obtain ⟨line, member, definition⟩ := definition
    simp only [ne_eq, List.map_eq_nil_iff, List.filter_eq_nil_iff, not_forall]
    exact ⟨line, member, by simp [definition]⟩
  obtain ⟨earlier, last, split⟩ := List.eq_nil_or_concat _ |>.resolve_left nonempty
  rw [extend, split, List.concat_eq_append, List.foldlM_append] at extended
  obtain ⟨before, _, defined⟩ := except_bind_eq_ok extended
  rw [foldlM_define_singleton] at defined
  obtain ⟨expr, _, appended⟩ := except_bind_eq_ok defined
  cases appended
  exact ⟨expr, last?_append before expr⟩

end Input.Program

namespace CommandLine

open Input

variable {session : Session} {line text : String} {lines : List String}

/-! ## The definitions of a batch -/

/-- A run of definitions reflects how they are read: it leaves the session with the program
that they define and writes to the log only, or it has failed because one of them cannot
be read. -/
inductive Reflects (session : Session) : Except ReadError Program → Session × Run → Prop
  | ok
      (program : Program)
      (records : List LogRecord) :
      Reflects session (.ok program)
        ({ session with program := program }, { events := records.map .log, failed := false })
  | error
      (cause : ReadError)
      (result : Session × Run)
      (failed : result.2.failed = true) :
      Reflects session (.error cause) result

/-- One more definition goes before those that follow it. -/
theorem Reflects.cons
    {expr : Expr}
    {reading : Except ReadError Program}
    {final : Session}
    {run : Run}
    (record : LogRecord)
    (rest : Reflects { session with program := session.program.append expr } reading (final, run)) :
    Reflects session reading (final, { run with events := .log record :: run.events }) := by
  cases rest with
  | ok program records => exact .ok program (record :: records)
  | error cause _ failed => exact .error cause _ failed

theorem runDefinitions_of_ignored
    (ignored : Session.classify line = .ignored)
    (lines : List String) :
    runDefinitions session (line :: lines) = runDefinitions session lines := by
  rw [runDefinitions, ignored]
  rfl

/-- A line that is read extends the program for the lines after it. -/
theorem runDefinitions_of_readLine_eq_ok
    {expr : Expr}
    (definition : Session.classify line = .expression text)
    (read : session.program.readLine text = .ok expr)
    (lines : List String) :
    runDefinitions session (line :: lines) =
      let (final, others) :=
        runDefinitions { session with program := session.program.append expr } lines
      let record := LogRecord.defined session.program.size expr
      (final, { others with events := .log record :: others.events }) := by
  rw [runDefinitions, definition]
  dsimp only
  rw [read]
  rfl

/-- A line that is not read makes the batch fail, whatever the lines after it do. -/
theorem failed_runDefinitions_of_readLine_eq_error
    {cause : ReadError}
    (definition : Session.classify line = .expression text)
    (refused : session.program.readLine text = .error cause)
    (lines : List String) :
    (runDefinitions session (line :: lines)).2.failed = true := by
  rw [runDefinitions, definition]
  dsimp only
  rw [refused]
  rfl

/-- The lines of a batch without commands are run as the definitions on them are read. -/
theorem reflects_runDefinitions
    (session : Session)
    (noCommands : ∀ line ∈ lines, Session.isCommand line = false) :
    Reflects session (session.program.extend lines) (runDefinitions session lines) := by
  induction lines generalizing session with
  | nil => exact .ok session.program []
  | cons line lines hypothesis =>
      obtain ⟨noCommand, others⟩ := List.forall_mem_cons.mp noCommands
      have kind := Session.classify_of_isCommand_eq_false noCommand
      cases ignored : Program.isIgnored line with
      | true =>
          rw [ignored, if_pos rfl] at kind
          rw [Program.extend_of_isIgnored ignored, runDefinitions_of_ignored kind]
          exact hypothesis session others
      | false =>
          rw [ignored, if_neg Bool.false_ne_true] at kind
          rw [Program.extend_of_definition ignored]
          cases read : session.program.readLine (strip line) with
          | error cause =>
              exact .error cause _ (failed_runDefinitions_of_readLine_eq_error kind read lines)
          | ok expr =>
              rw [runDefinitions_of_readLine_eq_ok kind read]
              apply Reflects.cons
              exact hypothesis { session with program := session.program.append expr } others

/-! ## What a batch shows -/

theorem exitCode_eq_zero_iff (run : Run) : run.exitCode = 0 ↔ run.failed = false := by
  unfold Run.exitCode
  split <;> simp_all

theorem fst_evaluate (session : Session) (expr : Expr) :
    (session.evaluate expr).1 =
      (session.pipeline.run expr).outcome.map
        (session.resultText expr (session.pipeline.run expr).steps) := rfl

theorem exists_evaluate_eq_ok_iff {expr : Expr} :
    (∃ text, (session.evaluate expr).1 = .ok text) ↔
      ∃ final, (session.pipeline.run expr).outcome = .ok final := by
  rw [fst_evaluate]
  cases (session.pipeline.run expr).outcome <;> simp [Except.map]

/-- What shows a text on the stream that its beginning chooses. -/
def showing (text : String) : Event :=
  if isError text then .problem text else .output (text ++ "\n")

/-- What is written for an expression is not empty, so it is shown. -/
theorem emit_of_evaluate_eq_ok
    {expr : Expr}
    (written : (session.evaluate expr).1 = .ok text) :
    emit text = [showing text] := by
  have nonempty : text ≠ "" := by
    rw [fst_evaluate] at written
    cases outcome : (session.pipeline.run expr).outcome with
    | error cause => simp [outcome, Except.map] at written
    | ok final =>
        rw [outcome] at written
        cases written
        exact Session.resultText_ne_empty _ _ _
  rw [emit, if_neg nonempty, showing]
  split <;> rfl

/-- The last expression is shown as it is written. -/
theorem showLast_of_evaluate_eq_ok
    {expr : Expr}
    (last : session.program.last? = some expr)
    (written : (session.evaluate expr).1 = .ok text) :
    ∃ records : List LogRecord, showLast session =
      { events := records.map .log ++ [showing text], failed := false } := by
  refine ⟨(session.evaluate expr).2, ?_⟩
  rw [← emit_of_evaluate_eq_ok written, showLast, last]
  dsimp only
  cases evaluated : session.evaluate expr with
  | mk attempt log =>
      rw [evaluated] at written
      cases written
      rfl

theorem failed_showLast
    {expr : Expr}
    (last : session.program.last? = some expr)
    (unwritten : ∀ text, (session.evaluate expr).1 ≠ .ok text) :
    (showLast session).failed = true := by
  rw [showLast, last]
  dsimp only
  cases evaluated : session.evaluate expr with
  | mk attempt log =>
      cases attempt with
      | error cause => rfl
      | ok text => exact absurd (congrArg Prod.fst evaluated) (unwritten text)

section Batch

variable
  (format : session.format = .program)
  (fresh : session.program = .empty)
  (noCommands : ∀ line ∈ lines, Session.isCommand line = false)

include format fresh noCommands

/-- A batch whose lines cannot be read has failed. -/
theorem failed_runLines_of_ofLines_eq_error
    {cause : ReadError}
    (unreadable : Program.ofLines lines = .error cause) :
    (runLines session lines).failed = true := by
  have reflects := reflects_runDefinitions session noCommands
  have refused : session.program.extend lines = .error cause := by
    rw [fresh]
    exact unreadable
  rw [runLines, format]
  dsimp only
  rw [refused] at reflects
  generalize runDefinitions session lines = result at reflects
  cases reflects with
  | error _ _ failed => exact Bool.or_eq_true_iff.mpr (.inl failed)

/-- A batch whose lines can be read shows the last expression of their program. -/
theorem runLines_of_ofLines_eq_ok
    {program : Program}
    (read : Program.ofLines lines = .ok program) :
    ∃ records : List LogRecord,
      runLines session lines =
        Run.append { events := records.map .log, failed := false }
          (showLast { session with program := program }) := by
  have reflects := reflects_runDefinitions session noCommands
  have extended : session.program.extend lines = .ok program := by
    rw [fresh]
    exact read
  rw [runLines, format]
  dsimp only
  rw [extended] at reflects
  generalize runDefinitions session lines = result at reflects
  cases reflects with
  | ok _ records => exact ⟨records, rfl⟩

/-- A batch that is read and rewritten shows the written expression and has not failed. -/
theorem runLines_of_evaluate_eq_ok
    {expr : Expr}
    (parsed : Program.parse lines = .ok expr)
    (written : (session.evaluate expr).1 = .ok text) :
    ∃ records : List LogRecord,
      runLines session lines =
        { events := records.map .log ++ [showing text], failed := false } := by
  obtain ⟨program, read, last⟩ := except_bind_eq_ok parsed
  have isLast : program.last? = some expr := by
    cases found : program.last? <;> simp_all
  obtain ⟨earlier, batch⟩ := runLines_of_ofLines_eq_ok format fresh noCommands read
  -- Evaluation does not look at the program, which is all that the session has changed.
  obtain ⟨later, shown⟩ :=
    @showLast_of_evaluate_eq_ok { session with program := program } _ _ isLast written
  refine ⟨earlier ++ later, ?_⟩
  rw [batch, shown]
  simp [Run.append]

/-- A batch that cannot be read or rewritten has failed. -/
theorem failed_runLines
    (definition : ∃ line ∈ lines, Program.isIgnored line = false)
    (unwritten : ∀ expr text,
      Program.parse lines = .ok expr → (session.evaluate expr).1 ≠ .ok text) :
    (runLines session lines).failed = true := by
  cases read : Program.ofLines lines with
  | error cause => exact failed_runLines_of_ofLines_eq_error format fresh noCommands read
  | ok program =>
      obtain ⟨last, isLast⟩ := Program.exists_last?_of_extend_eq_ok definition read
      have parsed : Program.parse lines = .ok last := by
        simp [Program.parse, read, bind, Except.bind, isLast]
      obtain ⟨earlier, batch⟩ := runLines_of_ofLines_eq_ok format fresh noCommands read
      have failed : (showLast { session with program := program }).failed = true :=
        failed_showLast isLast fun text => unwritten last text parsed
      rw [batch]
      exact failed

end Batch

/-- A batch in program format that has no commands and at least one definition, run in a
session that has defined nothing yet, ends with exit code zero exactly when its lines can
be read as a program and the passes succeed on the expression of the program. In that
case this expression, rewritten and written by the session, is the only text that is
shown. -/
theorem runLines_program_agrees
    (session : Session)
    (lines : List String)
    (format : session.format = .program)
    (fresh : session.program = .empty)
    (noCommands : ∀ line ∈ lines, Session.isCommand line = false)
    (definition : ∃ line ∈ lines, Program.isIgnored line = false) :
    ((runLines session lines).exitCode = 0 ↔
        ∃ expr, Program.parse lines = .ok expr ∧
          ∃ final, (session.pipeline.run expr).outcome = .ok final) ∧
      ∀ expr final, Program.parse lines = .ok expr →
        (session.pipeline.run expr).outcome = .ok final →
          ∃ text, (session.evaluate expr).1 = .ok text ∧
            ∃ records : List LogRecord,
              (runLines session lines).events = records.map .log ++ [showing text] := by
  constructor
  · rw [exitCode_eq_zero_iff]
    simp only [← exists_evaluate_eq_ok_iff]
    constructor
    · intro succeeded
      by_contra unwritten
      have failed : (runLines session lines).failed = true := by
        refine failed_runLines format fresh noCommands definition ?_
        exact fun expr text parsed written => unwritten ⟨expr, parsed, text, written⟩
      rw [failed] at succeeded
      cases succeeded
    · rintro ⟨expr, parsed, text, written⟩
      obtain ⟨_, batch⟩ :=
        runLines_of_evaluate_eq_ok format fresh noCommands parsed written
      rw [batch]
  · intro expr final parsed rewritten
    obtain ⟨text, written⟩ := exists_evaluate_eq_ok_iff.mpr ⟨final, rewritten⟩
    obtain ⟨records, batch⟩ :=
      runLines_of_evaluate_eq_ok format fresh noCommands parsed written
    exact ⟨text, written, records, by rw [batch]⟩

/-- A new session that reads programs, simplifies them and traces the passes. -/
def tracedProgramSession : Session :=
  { Session.start .program .linear with pipeline := [.simplify], tracing := true }

/-- The lines of a program with a comment and a blank line between them. -/
def squareLines : List String := ["# x times x", " . x", "", "* 0 0 "]

/-- What the trace of the square shows. -/
def squareText : String := "^(x, 2)\n*(x, x)\n  --(simplify)-->\n^(x, 2)"

theorem runLines_program_agrees_square :
    tracedProgramSession.format = .program ∧ tracedProgramSession.program = .empty ∧
      (∀ line ∈ squareLines, Session.isCommand line = false) ∧
      (∃ line ∈ squareLines, Program.isIgnored line = false) ∧
        (runLines tracedProgramSession squareLines).exitCode = 0 ∧
          ∃ records : List LogRecord,
            (runLines tracedProgramSession squareLines).events =
              records.map .log ++ [.output (squareText ++ "\n")] := by
  have noCommands : ∀ line ∈ squareLines, Session.isCommand line = false := by decide +kernel
  have definition : ∃ line ∈ squareLines, Program.isIgnored line = false := by decide +kernel
  obtain ⟨succeeds, shows⟩ :=
    runLines_program_agrees tracedProgramSession squareLines rfl rfl noCommands definition
  have parsed : Program.parse squareLines = .ok (.product [.symbol .x, .symbol .x]) := by
    decide +kernel
  have rewritten : (tracedProgramSession.pipeline.run
      (.product [.symbol .x, .symbol .x])).outcome = .ok (.power (.symbol .x) (.ofInt 2)) := by
    decide +kernel
  have written : (tracedProgramSession.evaluate (.product [.symbol .x, .symbol .x])).1 =
      .ok squareText := by
    decide +kernel
  refine ⟨rfl, rfl, noCommands, definition, succeeds.mpr ⟨_, parsed, _, rewritten⟩, ?_⟩
  have shownAs : showing squareText = .output (squareText ++ "\n") :=
    if_neg (by decide +kernel)
  obtain ⟨text, evaluated, shown⟩ := shows _ _ parsed rewritten
  obtain rfl : text = squareText := Except.ok.inj (evaluated.symm.trans written)
  rwa [shownAs] at shown

end CommandLine
end ExactAlgebra
