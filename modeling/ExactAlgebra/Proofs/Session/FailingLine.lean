import ExactAlgebra.Session.Command

/-!
# What a failing line leaves behind

A line can fail before it does anything: its text cannot be read, or it is a command
that names an unknown pass. Then the session stays as it was, apart from the count of
failed lines. A line of a program is read first and rewritten afterwards. If only the
rewriting fails, the expression of the line has been defined and stays in the program.
-/

namespace ExactAlgebra
namespace Session

/-- The session after a sequence of lines. -/
def afterLines (session : Session) (lines : List String) : Session :=
  lines.foldl (fun current line => (current.process line).session) session

/-- The expression that a line adds to the program. Only lines of a program add one,
and all of them do that the program can read. -/
def definition? (session : Session) (line : String) : Option Expr :=
  match session.format, classify line with
  | .program, .expression text => (session.program.readLine text).toOption
  | _, _ => none

/-- The session with one more expression in its program, if there is one to add. -/
def define (session : Session) : Option Expr → Session
  | none => session
  | some expr => { session with program := session.program.append expr }

variable {session : Session}

/-! ## Commands -/

/-- Pass names that are refused add no pass. -/
theorem transform_of_isFailure
    {names : String}
    (failed : (session.transform names).2.isFailure = true) :
    (session.transform names).1 = session.countError := by
  unfold transform at failed ⊢
  split at failed
  · cases failed
  · rename_i notEmpty
    rw [if_neg notEmpty]
    split at failed
    · rfl
    · cases failed

/-- Adding passes is the only command that can fail. -/
theorem exists_eq_transform_of_isFailure
    {command : Command}
    (failed : (session.execute command).2.isFailure = true) :
    ∃ names, command = .transform names := by
  cases command with
  | transform names => exact ⟨names, rfl⟩
  | format name =>
      simp only [execute, setFormat] at failed
      split at failed <;> cases failed
  | output name =>
      simp only [execute, setRenderer] at failed
      split at failed <;> cases failed
  | last =>
      simp only [execute] at failed
      split at failed <;> cases failed
  | blank | help | quit | passes | clear | trace setting | reset | unknown name => cases failed

theorem execute_of_isFailure
    {command : Command}
    (failed : (session.execute command).2.isFailure = true) :
    (session.execute command).1 = session.countError := by
  obtain ⟨names, rfl⟩ := exists_eq_transform_of_isFailure failed
  rw [execute] at failed ⊢
  exact transform_of_isFailure failed

/-! ## Expressions -/

theorem processPolish_of_isFailure
    {text : String}
    (failed : (session.processPolish text).reply.isFailure = true) :
    (session.processPolish text).session = session.countError := by
  unfold processPolish at failed ⊢
  split
  · rfl
  · rename_i expr read
    rw [read] at failed
    dsimp only at failed
    split
    · rfl
    · rename_i text log evaluated
      rw [evaluated] at failed
      cases failed

/-- A text that the program cannot read changes nothing. Any other text has been
defined when its rewriting fails. -/
theorem processProgram_of_isFailure
    {text : String}
    (failed : (session.processProgram text).reply.isFailure = true) :
    (session.processProgram text).session =
      (session.define (session.program.readLine text).toOption).countError := by
  unfold processProgram at failed ⊢
  cases read : session.program.readLine text with
  | error cause => rfl
  | ok expr =>
      rw [read] at failed
      dsimp only at failed ⊢
      split
      · rfl
      · rename_i text log evaluated
        rw [evaluated] at failed
        cases failed

/-! ## Lines -/

/-- A failing line counts as an error and does nothing else but define its
expression. -/
theorem process_session_of_isFailure
    {line : String}
    (failed : (session.process line).reply.isFailure = true) :
    (session.process line).session =
      (session.define (session.definition? line)).countError := by
  unfold process at failed ⊢
  unfold definition?
  cases kind : classify line with
  | ignored =>
      rw [kind] at failed
      cases failed
  | command command =>
      rw [kind] at failed
      have kept := execute_of_isFailure failed
      cases session.format <;> exact kept
  | expression text =>
      rw [kind] at failed
      cases format : session.format with
      | polish =>
          rw [format] at failed
          exact processPolish_of_isFailure failed
      | program =>
          rw [format] at failed
          exact processProgram_of_isFailure failed

theorem define_eq_self_iff {defined? : Option Expr} :
    session.define defined? = session ↔ defined? = none := by
  cases defined? with
  | none => exact iff_of_true rfl rfl
  | some expr =>
      refine iff_of_false (fun same => ?_) (Option.some_ne_none expr)
      have sizes := congrArg (fun after : Session => after.program.size) same
      simp [define] at sizes

theorem countError_injective : Function.Injective countError := by
  intro first second equal
  unfold countError at equal
  cases first
  cases second
  simpa using equal

/-- A failing line leaves the format, the renderer, the passes, the tracing and the
running of the session as they were and adds one to its errors. The program is kept
as well, unless the line defined an expression before it failed; then that expression
is all that the program gains. -/
theorem process_of_isFailure
    (session : Session)
    (line : String)
    (failed : (session.process line).reply.isFailure = true) :
    (session.process line).session =
        (session.define (session.definition? line)).countError ∧
      ((session.process line).session = session.countError ↔
        session.definition? line = none) := by
  have after := process_session_of_isFailure failed
  refine ⟨after, ?_⟩
  rw [after, countError_injective.eq_iff, define_eq_self_iff]

/-- A session that simplifies the lines of a program, which has defined zero. -/
def simplifyingZero : Session :=
  (start .program .linear).afterLines [":transform simplify", ". 0"]

theorem process_of_isFailure_unknownIndex :
    (simplifyingZero.process "+ 0 1").reply.isFailure = true ∧
      simplifyingZero.definition? "+ 0 1" = none ∧
        (simplifyingZero.process "+ 0 1").session = simplifyingZero.countError := by
  have refused : (simplifyingZero.process "+ 0 1").reply.isFailure = true ∧
      simplifyingZero.definition? "+ 0 1" = none := by
    decide +kernel
  obtain ⟨failed, undefined⟩ := refused
  obtain ⟨_, kept⟩ := process_of_isFailure simplifyingZero "+ 0 1" failed
  exact ⟨failed, undefined, kept.mpr undefined⟩

/-- Zero to the power zero can be read but not simplified. The line fails, and the
power stays in the program. -/
theorem process_zeroToTheZero_extends_program :
    (simplifyingZero.process "^ 0 0").reply.isFailure = true ∧
      (simplifyingZero.process "^ 0 0").session.program.expressions =
          simplifyingZero.program.expressions ++ [.power 0 0] ∧
        (simplifyingZero.process "^ 0 0").session ≠ simplifyingZero.countError := by
  have defined : (simplifyingZero.process "^ 0 0").reply.isFailure = true ∧
      (simplifyingZero.process "^ 0 0").session.program.expressions =
        simplifyingZero.program.expressions ++ [.power 0 0] := by
    decide +kernel
  obtain ⟨failed, longer⟩ := defined
  refine ⟨failed, longer, fun same => ?_⟩
  rw [same] at longer
  simp [countError] at longer

end Session
end ExactAlgebra
