import ExactAlgebra.Proofs.CommandLine.ReplyStreams
import ExactAlgebra.Proofs.Guarded.Session
import ExactAlgebra.Proofs.Session.FailingLine
import ExactAlgebra.Session.Breakdown

/-!
# Uninterrupted sessions

Sessions choose formats and renderers from the known ones, their stages are passes, and
their programs hold well-formed expressions only. All of this holds at the start and
after every line, and under it one guard only can refuse anything: a power may ask for
more copies of its base than can be written out. A guarded session breaks down on a line
where that happens. On any other line it does what a plain session does: it comes to the
same state and shows the same text, and it fails where the plain one fails.

Therefore a sequence of lines ends a session exactly when the plain session meets such a
power on one of them, and otherwise the errors that the session has counted are the lines
that failed.
-/

namespace ExactAlgebra
namespace Guarded

open ExactAlgebra.Expr ExactAlgebra.Workbench ExactAlgebra.Input

namespace State

/-! ## Agreement with plain sessions -/

/-- What the work on a line comes to when the line leads to a reply in a plain session. A
failure leaves the session `before`, and is neither counted nor reported yet. -/
def attemptOf (before after : Session) : Reply → Attempt
  | .failure cause => (ofSession before, .error (.fault (lineFault cause)))
  | reply => (ofSession after, .ok reply.text?)

/-- The interruption by a power that cannot be unrolled. -/
def interruptionOf (found : Session.Breakdown) : Interruption :=
  .fault (.repetition found.cause)

/-- What the work on a line comes to when the line leads to a reply in a plain session that
does not break down. -/
def attemptUnless
    (found? : Option Session.Breakdown)
    (before after : Session)
    (reply : Reply) : Attempt :=
  match found? with
  | none => attemptOf before after reply
  | some found => (ofSession before, .error (interruptionOf found))

variable {session : Session}

/-- The renderer of a plain session is known, and well-formed expressions can be drawn. -/
theorem render_eq {expr : Expr} (wellFormed : WellFormed expr) :
    (ofSession session).render expr = .ok (session.render expr) := by
  have known : Renderer.ofName? (ofSession session).output = some session.renderer :=
    Renderer.ofName?_name session.renderer
  rw [render, known, Session.render]
  cases session.renderer with
  | linear => rfl
  | tree =>
      dsimp only
      rw [write, draw_eq wellFormed]
      rfl

/-- Well-formed expressions are rewritten as in a plain session, unless that breaks down. -/
theorem evaluate_eq {expr : Expr} (wellFormed : WellFormed expr) :
    (ofSession session).evaluate expr =
      match session.evaluationBreakdown? expr with
      | some found => .error (interruptionOf found)
      | none => (session.evaluate expr).1.mapError (.fault <| .rewrite ·) := by
  change ((runStages 0 (session.pipeline.map .pass) expr).mapError Interruption.fault >>= _) = _
  rw [runStages_eq 0 session.pipeline wellFormed, Session.evaluationBreakdown?, Pipeline.break?]
  cases session.pipeline.breakFrom? 0 expr with
  | some found => rfl
  | none =>
      dsimp only [Option.map_none, unlessBroken]
      rw [Session.evaluate, Pipeline.run]
      cases outcome : (session.pipeline.runFrom 0 expr).outcome with
      | error cause => rfl
      | ok final =>
          change ((ofSession session).render final >>= _) = _
          rw [render_eq (wellFormed_of_runFrom_eq_ok wellFormed outcome)]
          rfl

/-! ### Commands -/

theorem eq_of_find?_eq_some
    {name : α → String}
    {choices : List α}
    {text : String}
    {choice : α}
    (found : choices.find? (name · = text) = some choice) :
    name choice = text ∧ text ∈ choices.map name := by
  have holds := List.find?_some found
  have named : name choice = text := of_decide_eq_true holds
  exact ⟨named, List.mem_map.mpr ⟨choice, List.mem_of_find?_eq_some found, named⟩⟩

theorem notMem_of_find?_eq_none
    {name : α → String}
    {choices : List α}
    {text : String}
    (missing : choices.find? (name · = text) = none) :
    text ∉ choices.map name := by
  intro member
  obtain ⟨choice, belongs, named⟩ := List.mem_map.mp member
  exact List.find?_eq_none.mp missing choice belongs (decide_eq_true named)

theorem setFormat_eq (name : String) :
    (ofSession session).setFormat name =
      attemptOf session (session.setFormat name).1 (session.setFormat name).2 := by
  rw [setFormat, Session.setFormat]
  cases found : Format.ofName? (Text.lower name) with
  | none =>
      rw [if_neg (notMem_of_find?_eq_none found)]
      rfl
  | some format =>
      obtain ⟨named, known⟩ := eq_of_find?_eq_some found
      rw [if_pos known, ← named]
      rfl

theorem setOutput_eq (name : String) :
    (ofSession session).setOutput name =
      attemptOf session (session.setRenderer name).1 (session.setRenderer name).2 := by
  rw [setOutput, Session.setRenderer]
  cases found : Renderer.ofName? (Text.lower name) with
  | none =>
      rw [if_neg (notMem_of_find?_eq_none found)]
      rfl
  | some renderer =>
      obtain ⟨named, known⟩ := eq_of_find?_eq_some found
      rw [if_pos known, ← named]
      rfl

theorem mapM_buildStage (names : List String) :
    names.mapM buildStage =
      ((names.mapM Pass.read).mapError .passName).map (List.map Stage.pass) := by
  induction names with
  | nil => rfl
  | cons name names hypothesis =>
      rw [List.mapM_cons, List.mapM_cons, hypothesis, buildStage]
      cases Pass.read name with
      | error cause => rfl
      | ok pass => cases names.mapM Pass.read <;> rfl

/-- Passes are known by the same names as stages. -/
theorem stageChain_ofSession : (ofSession session).stageChain = session.passChain := by
  rw [stageChain, ofSession, List.map_map]
  rfl

theorem transform_eq (names : String) :
    (ofSession session).transform names =
      attemptOf session (session.transform names).1 (session.transform names).2 := by
  rw [transform, Session.transform, Session.addPasses, mapM_buildStage]
  split
  · rfl
  · cases (Session.passNames names).mapM Pass.read with
    | error cause => rfl
    | ok passes =>
        let extended := { session with pipeline := session.pipeline ++ passes }
        have stages : (ofSession session).stages ++ passes.map .pass =
            (ofSession extended).stages :=
          List.map_append.symm
        change answer { ofSession session with stages := (ofSession session).stages ++ _ }
          ("Passes: " ++ stageChain _) = _
        rw [stages]
        change answer (ofSession extended) ("Passes: " ++ (ofSession extended).stageChain) = _
        rw [stageChain_ofSession]
        rfl

/-- Programs without lines are the only reason to refuse a position. -/
theorem showLast_eq (wellFormed : session.program.WellFormed) :
    (ofSession session).showLast =
      .ok (some (match session.program.last? with
        | none => "No expression defined"
        | some expr => session.render expr)) := by
  have expressions : (ofSession session).expressions = session.program.expressions := rfl
  rw [showLast, last, expressions, Program.last?]
  cases found : session.program.expressions.getLast? with
  | none => rfl
  | some expr =>
      have exprWellFormed : WellFormed expr := wellFormed expr (List.mem_of_getLast? found)
      have rendered : ((Except.ok expr).mapError Interruption.fault >>= (ofSession session).render) =
          .ok (session.render expr) :=
        render_eq exprWellFormed
      dsimp only
      rw [rendered]

theorem execute_eq (wellFormed : session.program.WellFormed) (command : Command) :
    (ofSession session).execute command =
      attemptOf session (session.execute command).1 (session.execute command).2 := by
  cases command with
  | format name =>
      rw [execute, Session.execute]
      exact setFormat_eq name
  | output name =>
      rw [execute, Session.execute]
      exact setOutput_eq name
  | transform names =>
      rw [execute, Session.execute]
      exact transform_eq names
  | passes =>
      have empty : (ofSession session).stages.isEmpty = session.pipeline.isEmpty :=
        List.isEmpty_map
      rw [execute, empty, stageChain_ofSession]
      rfl
  | last =>
      rw [execute, showLast_eq wellFormed, Session.execute]
      cases session.program.last? <;> rfl
  | blank | help | quit | clear | trace setting | reset | unknown name => rfl

/-! ### Expressions -/

theorem attemptPolish_eq (text : String) :
    (ofSession session).attemptPolish text =
      attemptUnless ((Polish.parse text).toOption.bind session.evaluationBreakdown?) session
        (session.processPolish text).session (session.processPolish text).reply := by
  rw [attemptPolish, parsePolish_eq, Session.processPolish]
  cases parsed : Polish.parse text with
  | error cause => rfl
  | ok expr =>
      change (_, (ofSession session).evaluate expr >>= _) =
        attemptUnless (session.evaluationBreakdown? expr) _ _ _
      rw [evaluate_eq (Polish.wellFormed_parse parsed)]
      cases session.evaluationBreakdown? expr with
      | some found => rfl
      | none =>
          dsimp only
          rcases session.evaluate expr with ⟨outcome, log⟩
          cases outcome <;> rfl

/-- The expression of a line is defined before it can be rewritten. -/
theorem attemptProgram_eq (wellFormed : session.program.WellFormed) (text : String) :
    (ofSession session).attemptProgram text =
      attemptUnless ((session.program.readLine text).toOption.bind session.evaluationBreakdown?)
        (session.define (session.program.readLine text).toOption)
        (session.processProgram text).session (session.processProgram text).reply := by
  have read := readLine_eq wellFormed text
  change readLine (ofSession session).expressions text = _ at read
  rw [attemptProgram, read, Session.processProgram]
  cases defined : session.program.readLine text with
  | error cause => rfl
  | ok expr =>
      let extended := { session with program := session.program.append expr }
      have index : (ofSession extended).expressions.length - 1 = session.program.size := by
        change (session.program.append expr).size - 1 = _
        rw [Program.size_append, Nat.add_sub_cancel]
      have separator : (if (ofSession session).output = "tree" then "\n" else " ") =
          if session.renderer = .tree then "\n" else " " := by
        rw [ofSession]
        cases session.renderer <;> rfl
      change (ofSession extended, (ofSession extended).evaluate expr >>= fun output =>
        .ok (some ("[" ++ toString ((ofSession extended).expressions.length - 1) ++ "]" ++
          (if (ofSession session).output = "tree" then "\n" else " ") ++ output))) =
        attemptUnless (extended.evaluationBreakdown? expr) extended _ _
      rw [evaluate_eq (wellFormed.readLine defined), index, separator]
      cases extended.evaluationBreakdown? expr with
      | some found => rfl
      | none =>
          dsimp only
          rcases extended.evaluate expr with ⟨outcome, log⟩
          cases outcome <;> rfl

/-! ### Lines -/

/-- On a well-formed program the work on a line is interrupted by failures, and where the
plain session breaks down. -/
theorem attempt_eq (wellFormed : session.program.WellFormed) (line : String) :
    (ofSession session).attempt line =
      attemptUnless (session.breakdown? line) (session.define (session.definition? line))
        (session.process line).session (session.process line).reply := by
  unfold attempt Session.process Session.definition? Session.breakdown?
  cases Session.classify line with
  | ignored => rfl
  | command command =>
      dsimp only
      rw [execute_eq wellFormed]
      cases session.format <;> rfl
  | expression text =>
      dsimp only
      cases format : session.format with
      | polish =>
          rw [if_neg (by simp [ofSession, format, Format.name])]
          exact attemptPolish_eq text
      | program =>
          rw [if_pos (by simp [ofSession, format, Format.name]), attemptProgram_eq wellFormed]
          dsimp only
          cases session.program.readLine text with
          | error cause => rfl
          | ok expr =>
              dsimp only [Except.toOption, Option.bind_some]
              cases session.evaluationBreakdown? expr <;> rfl

theorem isLibraryError_readFault (cause : ReadError) : isLibraryError (readFault cause) = true := by
  cases cause <;> rfl

/-- A line with an expression fails with an error of the library. -/
theorem isLibraryError_of_processPolish
    {text : String}
    {cause : LineError}
    (failed : (session.processPolish text).reply = .failure cause) :
    isLibraryError (lineFault cause) = true := by
  unfold Session.processPolish at failed
  split at failed
  · cases failed
    exact isLibraryError_readFault _
  · split at failed
    · cases failed
      rfl
    · cases failed

theorem isLibraryError_of_processProgram
    {text : String}
    {cause : LineError}
    (failed : (session.processProgram text).reply = .failure cause) :
    isLibraryError (lineFault cause) = true := by
  unfold Session.processProgram at failed
  split at failed
  · cases failed
    exact isLibraryError_readFault _
  · dsimp only at failed
    split at failed
    · cases failed
      rfl
    · cases failed

/-- A command fails because it names passes, and with a name that is refused. -/
theorem eq_transform_of_failure
    {command : Command}
    {cause : LineError}
    (failed : (session.execute command).2 = .failure cause) :
    ∃ names refused, command = .transform names ∧ cause = .passName refused := by
  have isFailure : (session.execute command).2.isFailure = true := by
    rw [failed]
    rfl
  obtain ⟨names, rfl⟩ := Session.exists_eq_transform_of_isFailure isFailure
  rw [Session.execute] at failed
  unfold Session.transform at failed
  split at failed
  · cases failed
  · split at failed
    · cases failed
      exact ⟨names, _, rfl, rfl⟩
    · cases failed

/-- All failures are reported. -/
theorem isReported_of_failure
    {line : String}
    {cause : LineError}
    (failed : (session.process line).reply = .failure cause) :
    (Interruption.fault (lineFault cause)).isReported (Session.classify line) = true := by
  unfold Session.process at failed
  cases kind : Session.classify line with
  | ignored =>
      rw [kind] at failed
      cases failed
  | command command =>
      rw [kind] at failed
      obtain ⟨names, refused, rfl, rfl⟩ := eq_transform_of_failure failed
      rfl
  | expression text =>
      rw [kind] at failed
      cases format : session.format with
      | polish =>
          rw [format] at failed
          exact isLibraryError_of_processPolish failed
      | program =>
          rw [format] at failed
          exact isLibraryError_of_processProgram failed

/-- A power that cannot be unrolled is neither an error of the library nor a refused value. -/
theorem isReported_interruptionOf (found : Session.Breakdown) (line : Session.Line) :
    (interruptionOf found).isReported line = false := by
  cases line with
  | command command => cases command <;> rfl
  | ignored | expression text => rfl

/-- On a line that a session breaks down on, the guarded session is ended. On any other line
it does what the plain one does. -/
theorem process_eq (wellFormed : session.program.WellFormed) (line : String) :
    (ofSession session).process line =
      match session.breakdown? line with
      | some found => .error (interruptionOf found)
      | none =>
          .ok (ofSession (session.process line).session, (session.process line).reply.text?) := by
  rw [process, attempt_eq wellFormed]
  cases session.breakdown? line with
  | some found => exact if_neg (ne_true_of_eq_false (isReported_interruptionOf found _))
  | none =>
      dsimp only [attemptUnless]
      cases reply : (session.process line).reply with
      | failure cause =>
          have failed : (session.process line).reply.isFailure = true := by
            rw [reply]
            rfl
          have after := Session.process_session_of_isFailure failed
          change (if _ then _ else _) = _
          rw [if_pos (isReported_of_failure reply), after, Interruption.message,
            message?_lineFault]
          rfl
      | silent | message text | result text => rfl

theorem wellFormed_execute
    (wellFormed : session.program.WellFormed)
    (command : Command) :
    (session.execute command).1.program.WellFormed := by
  cases command with
  | reset => exact Program.wellFormed_empty
  | format name =>
      simp only [Session.execute, Session.setFormat]
      split <;> exact wellFormed
  | output name =>
      simp only [Session.execute, Session.setRenderer]
      split <;> exact wellFormed
  | transform names =>
      rw [Session.execute]
      unfold Session.transform Session.addPasses
      split
      · exact wellFormed
      · cases (Session.passNames names).mapM Pass.read <;> exact wellFormed
  | last =>
      simp only [Session.execute]
      split <;> exact wellFormed
  | blank | help | quit | passes | clear | trace setting | unknown name => exact wellFormed

/-- Processing a line keeps the program well formed. -/
theorem wellFormed_process
    (wellFormed : session.program.WellFormed)
    (line : String) :
    (session.process line).session.program.WellFormed := by
  unfold Session.process
  split
  · exact wellFormed
  · exact wellFormed_execute wellFormed _
  · split
    · unfold Session.processProgram
      split
      · exact wellFormed
      · rename_i expr defined
        have extended := wellFormed.append (wellFormed.readLine defined)
        dsimp only
        split <;> exact extended
    · unfold Session.processPolish
      split
      · exact wellFormed
      · split <;> exact wellFormed

/-- A guarded session fails where the plain one does. -/
theorem fails_eq
    (wellFormed : session.program.WellFormed)
    {line : String}
    (unbroken : session.breakdown? line = none) :
    (ofSession session).fails line = (session.process line).reply.isFailure := by
  rw [fails, attempt_eq wellFormed, unbroken, attemptUnless]
  cases reply : (session.process line).reply with
  | failure cause => exact isReported_of_failure reply
  | silent | message text | result text => rfl

/-! ## Runs -/

/-- The first breakdown of a session is on the first line, or on a later one. -/
theorem firstBreakdown?_cons (session : Session) (line : String) (lines : List String) :
    (session.firstBreakdown? false (line :: lines)).map Prod.snd =
      (session.breakdown? line).or
        (((session.process line).session.firstBreakdown? false lines).map Prod.snd) := by
  rw [Session.firstBreakdown?]
  cases session.breakdown? line with
  | some found => rw [Option.map_some, Option.some_or]
  | none =>
      dsimp only
      rw [Bool.false_and, if_neg Bool.false_ne_true, Option.none_or]
      cases (session.process line).session.firstBreakdown? false lines with
      | none => rw [Option.map_none, Option.map_none]
      | some entry => rw [Option.map_some, Option.map_some, Option.map_some]

/-- A guarded session is ended by the first line that the plain one breaks down on. Without
such a line it comes to the end, and does there what the plain one does. -/
theorem run_eq (wellFormed : session.program.WellFormed) (lines : List String) :
    (ofSession session).run lines =
      match (session.firstBreakdown? false lines).map Prod.snd with
      | some found => .error (interruptionOf found)
      | none =>
          .ok (ofSession (session.afterLines lines),
            (session.encounters lines).map (·.response.reply.text?)) := by
  induction lines generalizing session with
  | nil => rfl
  | cons line lines hypothesis =>
      rw [run, process_eq wellFormed, firstBreakdown?_cons]
      cases session.breakdown? line with
      | some found => rfl
      | none =>
          change (ofSession (session.process line).session).run lines >>= _ = _
          rw [hypothesis (wellFormed_process wellFormed line), Option.none_or, Session.encounters,
            List.map_cons, Session.afterLines, Session.afterLines, List.foldl_cons]
          cases (session.process line).session.firstBreakdown? false lines <;> rfl

theorem failures_eq
    (wellFormed : session.program.WellFormed)
    {lines : List String}
    (unbroken : session.firstBreakdown? false lines = none) :
    (ofSession session).failures lines = (session.encounters lines).countP (·.fails) := by
  induction lines generalizing session with
  | nil => rfl
  | cons line lines hypothesis =>
      have none := firstBreakdown?_cons session line lines
      rw [unbroken, Option.map_none, eq_comm, Option.or_eq_none_iff, Option.map_eq_none_iff] at none
      have rest := hypothesis (wellFormed_process wellFormed line) none.2
      rw [failures, process_eq wellFormed, fails_eq wellFormed none.1, none.1, Session.encounters,
        List.countP_cons, ← rest, Nat.add_comm]
      rfl

end State
end Guarded

namespace Session

open ExactAlgebra.Guarded

theorem name_format_mem (session : Session) :
    session.format.name ∈ Format.all.map Format.name :=
  List.mem_map_of_mem (by cases session.format <;> decide)

theorem name_renderer_mem (session : Session) :
    session.renderer.name ∈ Renderer.all.map Renderer.name :=
  List.mem_map_of_mem (by cases session.renderer <;> decide)

/-- A session that starts with a known format and a known renderer comes to the end of its
lines exactly when it does not break down on one of them. Then its format and its renderer
are known ones still, the errors that it has counted are the lines that failed, its state
and what it has shown are those of the plain session, and so are the lines that failed.
Otherwise the first line that it breaks down on ends it, with a power that cannot be
unrolled. -/
theorem start_isUninterrupted_iff
    (format : Format)
    (renderer : Renderer)
    (lines : List String) :
    ((start format renderer).firstBreakdown? false lines = none ↔
        ∃ final : State,
          (State.start format.name renderer.name).run lines =
              .ok (final,
                ((start format renderer).encounters lines).map (·.response.reply.text?)) ∧
            final.format ∈ Format.all.map Format.name ∧
            final.output ∈ Renderer.all.map Renderer.name ∧
            final.errors = (State.start format.name renderer.name).failures lines ∧
            final = State.ofSession ((start format renderer).afterLines lines) ∧
            (State.start format.name renderer.name).failures lines =
              ((start format renderer).encounters lines).countP (·.fails)) ∧
      ∀ count found, (start format renderer).firstBreakdown? false lines = some (count, found) →
        (State.start format.name renderer.name).run lines =
          .error (.fault (.repetition found.cause)) := by
  have wellFormed : (start format renderer).program.WellFormed := Input.Program.wellFormed_empty
  have ran := State.run_eq wellFormed lines
  refine ⟨⟨fun unbroken => ?_, fun ⟨final, completed, _⟩ => ?_⟩, fun count found broken => ?_⟩
  · rw [unbroken] at ran
    have counted := State.errors_run ran
    have none : (State.ofSession (start format renderer)).errors = 0 := rfl
    rw [none, Nat.zero_add] at counted
    exact ⟨_, ran, name_format_mem _, name_renderer_mem _, counted, rfl,
      State.failures_eq wellFormed unbroken⟩
  · cases broken : (start format renderer).firstBreakdown? false lines with
    | none => rfl
    | some entry =>
        rw [broken] at ran
        cases ran.symm.trans completed
  · rw [broken] at ran
    exact ran

/-- A command, an expression that is expanded, and a line without enough operands. -/
def linesWithFailure : List String := [":transform expand", "^ + x y 2", "^ x"]

/-- The line that cannot be read is counted, and the lines before it are answered. -/
theorem start_isUninterrupted_linesWithFailure :
    (start .polish .linear).firstBreakdown? false linesWithFailure = none ∧
      ∃ final : State,
        (State.start "polish" "linear").run linesWithFailure =
            .ok (final, [some "Passes: expand", some "+(*(x, x), *(x, y), *(x, y), *(y, y))",
              some "Error: Parse exception (format: Polish notation): Not enough operands"]) ∧
          final.errors = 1 := by
  obtain ⟨unbroken, shown, one⟩ :
      ((start .polish .linear).firstBreakdown? false linesWithFailure).isNone ∧
        ((start .polish .linear).encounters linesWithFailure).map (·.response.reply.text?) =
            [some "Passes: expand", some "+(*(x, x), *(x, y), *(x, y), *(y, y))",
              some "Error: Parse exception (format: Polish notation): Not enough operands"] ∧
          ((start .polish .linear).encounters linesWithFailure).countP (·.fails) = 1 := by
    decide +kernel
  have none := Option.isNone_iff_eq_none.mp unbroken
  obtain ⟨final, completed, _, _, counted, _, failed⟩ :=
    (start_isUninterrupted_iff .polish .linear linesWithFailure).1.mp none
  exact ⟨none, final, shown ▸ completed, counted.trans (failed.trans one)⟩

/-- Expanding a power with an exponent beyond the size of any list ends the session. -/
theorem start_run_hugePower :
    (State.start "polish" "linear").run [":transform expand", "^ x 100000000000000000000"] =
      .error (.fault (.repetition (.uncounted .copies))) := by
  rfl

end Session
end ExactAlgebra
