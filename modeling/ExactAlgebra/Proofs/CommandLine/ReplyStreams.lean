import ExactAlgebra.CommandLine.Basic
import ExactAlgebra.Proofs.Text.FirstCharacter

/-!
# The stream of a reply

Whether a line failed is read off the text of its reply: what starts with the word
`Error` goes to the error stream and makes the exit code one. Failures start with that
word, and no other reply does, except one that starts with a variable whose name
starts with it. So the exit code tells exactly whether a line failed or wrote such a
variable in front.
-/

namespace ExactAlgebra

open Text

namespace Expr

/-- The expression is a variable whose name starts like the report of an error. -/
def namesError : Expr → Bool
  | symbol name => startsWith "Error" name.text
  | _ => false

theorem namesError_of_kind_ne {expr : Expr} (notSymbol : expr.kind ≠ .symbol) :
    expr.namesError = false := by
  cases expr with
  | symbol name => exact absurd rfl notSymbol
  | number _ | sum _ | product _ | power _ _ => rfl

end Expr

namespace CommandLine

variable {text : String} {character : Char}

theorem isError_of_first? (first : first? text = some character) (different : 'E' ≠ character) :
    isError text = false := by
  rw [isError]
  exact startsWith_eq_false rfl first different

/-- The report of a failure starts with the word for it. -/
theorem isError_report (message : String) : isError ("Error: " ++ message) = true := by
  rw [isError, startsWith, List.isPrefixOf_iff_prefix, String.toList_append]
  exact List.IsPrefix.trans (by decide) (List.prefix_append _ _)

theorem reportsError_of_isFailure {reply : Reply} (failed : reply.isFailure = true) :
    reportsError reply = true := by
  cases reply with
  | failure cause => exact isError_report _
  | silent | message _ | result _ => cases failed

end CommandLine

namespace Session

open CommandLine

variable {session : Session}

/-! ## Written expressions -/

/-- A written expression looks like the report of an error only if it is a variable
with such a name. -/
theorem isError_render (session : Session) (expr : Expr) :
    isError (session.render expr) = expr.namesError := by
  by_cases isSymbol : expr.kind = .symbol
  · cases expr with
    | symbol name =>
        rw [render, Renderer.render_symbol]
        rfl
    | number _ | sum _ | product _ | power _ _ => cases isSymbol
  · obtain ⟨_, first, sign⟩ := session.renderer.exists_first?_render isSymbol
    rw [Expr.namesError_of_kind_ne isSymbol]
    refine isError_of_first? first ?_
    rintro rfl
    cases sign

/-- A trace follows on new lines and does not change how a result starts. -/
theorem isError_resultText (initial : Expr) (steps : List (Step Expr)) (final : Expr) :
    isError (session.resultText initial steps final) = final.namesError := by
  unfold resultText
  dsimp only
  split
  · rw [isError, String.append_assoc,
      @startsWith_append _ _ _ '\n' (by decide) (first?_append rfl _)]
    exact isError_render session final
  · exact isError_render session final

theorem resultText_ne_empty (initial : Expr) (steps : List (Step Expr)) (final : Expr) :
    session.resultText initial steps final ≠ "" := by
  have written := session.renderer.render_ne_empty final
  unfold resultText
  dsimp only
  split
  · simp [written, render]
  · exact written

/-! ## Commands -/

theorem exists_first?_passChain (nonempty : session.pipeline.isEmpty = false) :
    ∃ character, first? session.passChain = some character ∧ 'E' ≠ character := by
  cases passes : session.pipeline with
  | nil =>
      rw [passes] at nonempty
      cases nonempty
  | cons pass others =>
      rw [passChain, passes, Pipeline.names, List.map_cons]
      cases pass with
      | simplify => exact ⟨'s', first?_intercalate rfl _ _, by decide⟩
      | expand => exact ⟨'e', first?_intercalate rfl _ _, by decide⟩
      | differentiate target =>
          exact ⟨'d', first?_intercalate (first?_append rfl _) _ _, by decide⟩

theorem first?_helpText : first? Command.helpText = some 'R' := by
  unfold Command.helpText
  repeat refine first?_append ?_ _
  rfl

/-- A command whose reply is no expression reports an error exactly when it fails. -/
theorem reportsError_execute {command : Command} (notLast : command ≠ .last) :
    reportsError (session.execute command).2 = (session.execute command).2.isFailure := by
  cases command with
  | last => exact absurd rfl notLast
  | blank => exact @isError_of_first? _ 'U' rfl (by decide)
  | help => exact isError_of_first? first?_helpText (by decide)
  | quit => rfl
  | format name =>
      rw [execute, setFormat]
      split
      · exact isError_of_first? (first?_append rfl _) (by decide)
      · exact isError_of_first? (first?_append rfl _) (by decide)
  | output name =>
      rw [execute, setRenderer]
      split
      · exact isError_of_first? (first?_append rfl _) (by decide)
      · exact isError_of_first? (first?_append rfl _) (by decide)
  | transform names =>
      rw [execute, transform]
      split
      · exact @isError_of_first? _ 'U' rfl (by decide)
      · split
        · exact reportsError_of_isFailure rfl
        · exact isError_of_first? (first?_append rfl _) (by decide)
  | passes =>
      rw [execute]
      split
      · exact @isError_of_first? _ 'N' rfl (by decide)
      · rename_i nonempty
        obtain ⟨_, first, different⟩ := exists_first?_passChain (Bool.not_eq_true _ ▸ nonempty)
        exact isError_of_first? first different
  | clear => exact @isError_of_first? _ 'C' rfl (by decide)
  | trace setting => exact isError_of_first? (first?_append rfl _) (by decide)
  | reset => exact @isError_of_first? _ 'P' rfl (by decide)
  | unknown name =>
      rw [execute]
      exact isError_of_first? (first?_append (first?_append rfl _) _) (by decide)

/-! ## Lines -/

/-- The expression that the reply to a line starts with. The replies to the lines of a
program start with a number instead. -/
def leadingExpr? (session : Session) (line : String) : Option Expr :=
  match classify line with
  | .ignored => none
  | .command command => if command = .last then session.program.last? else none
  | .expression text =>
      match session.format, Input.Polish.parse text with
      | .polish, .ok expr => (session.pipeline.run expr).outcome.toOption
      | _, _ => none

/-- The reply to a line starts with a variable that reads like the report of an
error. -/
def misleads (session : Session) (line : String) : Bool :=
  (session.leadingExpr? line).any Expr.namesError

theorem reply_processPolish (text : String) :
    (session.processPolish text).reply =
      match Input.Polish.parse text with
      | .error cause => .failure (.read cause)
      | .ok expr =>
          match (session.pipeline.run expr).outcome with
          | .error cause => .failure (.rewrite cause)
          | .ok final =>
              .result (session.resultText expr (session.pipeline.run expr).steps final) := by
  unfold processPolish evaluate
  cases Input.Polish.parse text with
  | error cause => rfl
  | ok expr =>
      dsimp only
      cases (session.pipeline.run expr).outcome <;> rfl

/-- The reply to a line of a program is a failure, or a result with its number in
front. -/
theorem reply_processProgram (text : String) :
    (session.processProgram text).reply.isFailure = true ∨
      ∃ rest, (session.processProgram text).reply = .result ("[" ++ rest) := by
  unfold processProgram
  cases session.program.readLine text with
  | error cause => exact .inl rfl
  | ok expr =>
      dsimp only
      split
      · exact .inl rfl
      · simp only [String.append_assoc]
        exact .inr ⟨_, rfl⟩

theorem reportsError_processPolish (text : String) :
    reportsError (session.processPolish text).reply =
      ((session.processPolish text).reply.isFailure ||
        match Input.Polish.parse text with
        | .ok expr => (session.pipeline.run expr).outcome.toOption.any Expr.namesError
        | .error _ => false) := by
  rw [reply_processPolish]
  cases Input.Polish.parse text with
  | error cause => exact reportsError_of_isFailure rfl
  | ok expr =>
      dsimp only
      cases (session.pipeline.run expr).outcome with
      | error cause => exact reportsError_of_isFailure rfl
      | ok final => exact isError_resultText _ _ _

theorem reportsError_processProgram (text : String) :
    reportsError (session.processProgram text).reply =
      (session.processProgram text).reply.isFailure := by
  rcases session.reply_processProgram text with failed | ⟨rest, result⟩
  · rw [failed, reportsError_of_isFailure failed]
  · rw [result]
    exact isError_of_first? (first?_append rfl _) (by decide)

/-- A reply reports an error exactly when the line fails or misleads. -/
theorem reportsError_process (session : Session) (line : String) :
    reportsError (session.process line).reply =
      ((session.process line).reply.isFailure || session.misleads line) := by
  unfold process misleads leadingExpr?
  cases classify line with
  | ignored => rfl
  | command command =>
      dsimp only
      by_cases isLast : command = .last
      · subst isLast
        dsimp only [execute]
        cases session.program.last? with
        | none => exact @isError_of_first? _ 'N' rfl (by decide)
        | some expr => exact isError_render session expr
      · rw [if_neg isLast, reportsError_execute isLast, Option.any_none, Bool.or_false]
  | expression text =>
      cases session.format with
      | program =>
          dsimp only
          rw [reportsError_processProgram, Option.any_none, Bool.or_false]
      | polish =>
          dsimp only
          rw [reportsError_processPolish]
          cases Input.Polish.parse text <;> rfl

/-- No command replies with a result. -/
theorem reply_execute_ne_result (command : Command) (text : String) :
    (session.execute command).2 ≠ .result text := by
  cases command with
  | format name =>
      rw [execute, setFormat]
      split <;> nofun
  | output name =>
      rw [execute, setRenderer]
      split <;> nofun
  | transform names =>
      rw [execute, transform]
      split
      · nofun
      · split <;> nofun
  | last =>
      rw [execute]
      split <;> nofun
  | blank | help | quit | passes | clear | trace setting | reset | unknown name => nofun

/-- A written result is never empty. -/
theorem text_ne_empty_of_process
    {line written : String}
    (result : (session.process line).reply = .result written) :
    written ≠ "" := by
  unfold process at result
  cases kind : classify line with
  | ignored =>
      rw [kind] at result
      cases result
  | command command =>
      rw [kind] at result
      exact absurd result (reply_execute_ne_result command written)
  | expression text =>
      rw [kind] at result
      cases format : session.format with
      | polish =>
          rw [format] at result
          dsimp only at result
          rw [reply_processPolish] at result
          split at result
          · cases result
          · split at result
            · cases result
            · cases result
              exact resultText_ne_empty _ _ _
      | program =>
          rw [format] at result
          dsimp only at result
          rcases session.reply_processProgram text with failed | ⟨rest, numbered⟩
          · rw [result] at failed
            cases failed
          · rw [result] at numbered
            cases numbered
            exact ne_empty_of_first? (first?_append rfl _)

/-! ## Batches -/

/-- A line of a batch with the session that it meets. -/
structure Encounter where
  session : Session
  line : String

namespace Encounter

/-- What the session makes of the line. -/
def response (encounter : Encounter) : Response :=
  encounter.session.process encounter.line

/-- The line fails. -/
def fails (encounter : Encounter) : Bool :=
  encounter.response.reply.isFailure

/-- The reply reads like the report of an error because of the variable in front. -/
def misleads (encounter : Encounter) : Bool :=
  encounter.session.misleads encounter.line

/-- What the line writes: the records of the log, and then its reply. -/
def events (encounter : Encounter) : List Event :=
  encounter.response.log.map .log ++ emitReply encounter.response.reply

end Encounter

/-- The lines of a batch, each with the session that the lines before it leave. -/
def encounters (session : Session) : List String → List Encounter
  | [] => []
  | line :: lines => ⟨session, line⟩ :: encounters (session.process line).session lines

/-- A result goes to the output unless its line misleads. -/
theorem Encounter.events_of_result
    {encounter : Encounter}
    {text : String}
    (written : encounter.response.reply = .result text) :
    encounter.events = encounter.response.log.map .log ++
      [if encounter.misleads then .problem text else .output (text ++ "\n")] := by
  have stream : isError text = encounter.misleads := by
    have decided := reportsError_process encounter.session encounter.line
    rw [← response, written] at decided
    simpa only [reportsError, Reply.text?, Reply.isFailure, Bool.false_or, misleads] using decided
  rw [events, written]
  unfold emitReply emit Reply.text?
  dsimp only
  rw [if_neg (text_ne_empty_of_process written), stream]
  split <;> rfl

end Session

namespace CommandLine

/-- A batch in Polish notation writes what its lines write, one after the other, and
fails when one of them fails or misleads. -/
theorem runReplies_eq (session : Session) (lines : List String) :
    runReplies session lines =
      { events := (session.encounters lines).flatMap (·.events)
        failed := (session.encounters lines).any fun encounter =>
          encounter.fails || encounter.misleads } := by
  induction lines generalizing session with
  | nil => rfl
  | cons line lines hypothesis =>
      rw [runReplies, hypothesis, Session.reportsError_process, Session.encounters,
        List.flatMap_cons, List.any_cons, Run.append]
      simp only [Session.Encounter.events, Session.Encounter.fails, Session.Encounter.misleads,
        Session.Encounter.response]

theorem exitCode_eq_one_iff (run : Run) : run.exitCode = 1 ↔ run.failed = true := by
  unfold Run.exitCode
  split <;> simp_all

/-- The exit code of a batch in Polish notation is one exactly when a line fails or
misleads, and every result is written to the output, except that the result of a
misleading line is written to the error stream. -/
theorem runLines_polish_reports
    (session : Session)
    (lines : List String)
    (polish : session.format = .polish) :
    ((runLines session lines).exitCode = 1 ↔
        ∃ encounter ∈ session.encounters lines,
          encounter.fails = true ∨ encounter.misleads = true) ∧
      (runLines session lines).events =
          (session.encounters lines).flatMap (·.events) ∧
        ∀ encounter ∈ session.encounters lines, ∀ text,
          encounter.response.reply = .result text →
            encounter.events = encounter.response.log.map .log ++
              [if encounter.misleads then .problem text else .output (text ++ "\n")] := by
  have batch : runLines session lines = runReplies session lines := by
    rw [runLines, polish]
  rw [batch, runReplies_eq, exitCode_eq_one_iff]
  refine ⟨by simp, rfl, ?_⟩
  intro encounter _ text written
  exact Session.Encounter.events_of_result written

/-- A new session that reads Polish notation. -/
def polishSession : Session := .start .polish .linear

theorem runLines_polish_reports_missingOperand :
    polishSession.format = .polish ∧
      (runLines polishSession ["+ x x", "+ x"]).exitCode = 1 ∧
        Event.output "+(x, x)\n" ∈ (runLines polishSession ["+ x x", "+ x"]).events := by
  obtain ⟨exit, written, streams⟩ := runLines_polish_reports polishSession ["+ x x", "+ x"] rfl
  have first : polishSession.encounters ["+ x x", "+ x"] =
      [⟨polishSession, "+ x x"⟩, ⟨(polishSession.process "+ x x").session, "+ x"⟩] := rfl
  refine ⟨rfl, exit.mpr ?_, ?_⟩
  · rw [first]
    refine ⟨_, List.mem_cons_of_mem _ List.mem_cons_self, .inl ?_⟩
    decide +kernel
  · rw [written, first, List.flatMap_cons]
    refine List.mem_append_left _ ?_
    rw [streams ⟨polishSession, "+ x x"⟩ (first ▸ List.mem_cons_self) "+(x, x)" (by decide +kernel)]
    have plain : Session.Encounter.misleads ⟨polishSession, "+ x x"⟩ = false := by decide +kernel
    rw [plain]
    exact List.mem_append_right _ List.mem_cons_self

/-- The variable `Error` is read and written without failure, and yet it goes to the
error stream and makes the exit code one. -/
theorem runLines_variableError :
    (polishSession.process "Error").reply = .result "Error" ∧
      (runLines polishSession ["Error"]).exitCode = 1 ∧
        (runLines polishSession ["Error"]).events.map Report.outputText = [""] ∧
          (runLines polishSession ["Error"]).events.map (Report.problemText false) =
            ["Error\n"] := by
  decide +kernel

end CommandLine
end ExactAlgebra
