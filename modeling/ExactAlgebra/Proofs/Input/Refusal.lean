import ExactAlgebra.Proofs.Guarded.Reading
import ExactAlgebra.Proofs.Input.StackMachine
import ExactAlgebra.Proofs.Simplify.Failure

/-!
# Refused texts and failing exponents

A text that does not follow its format is refused in the name of the format. There is one
other way in which reading fails. The exponent of a power is simplified as soon as the power
is read, and where simplification fails, reading fails for the same cause. So every text is
read or refused, except for those with an exponent that fails, and these are known from the
terms and the earlier definitions that the exponents are made of.

A line that is not read leaves its program as it was, whatever it fails for.
-/

namespace ExactAlgebra
namespace Input

open ExactAlgebra.Workbench

/-! ## Ways to fail -/

/-- Reading fails by a refusal in the name of the format, or for one of the causes, and it
does fail for each cause that is one of them. -/
structure FailsFor
    (format : Format)
    (causes : RewriteError → Prop)
    (attempt : Except ReadError α) : Prop where
  refusal : ∀ other reason, attempt = .error (.refused other reason) → other = format
  rewrite : ∀ cause, attempt = .error (.rewrite cause) ↔ causes cause

namespace FailsFor

variable {format : Format} {causes : RewriteError → Prop} {attempt : Except ReadError α}

theorem ok (result : α) (noCause : ∀ cause, ¬causes cause) :
    FailsFor format causes (.ok result : Except ReadError α) where
  refusal := nofun
  rewrite cause := ⟨nofun, fun found => absurd found (noCause cause)⟩

theorem refused (reason : Refusal) (noCause : ∀ cause, ¬causes cause) :
    FailsFor format causes (.error (.refused format reason) : Except ReadError α) where
  refusal other reason equal := by
    cases equal
    rfl
  rewrite cause := ⟨nofun, fun found => absurd found (noCause cause)⟩

theorem of_iff
    {others : RewriteError → Prop}
    (fails : FailsFor format causes attempt)
    (same : ∀ cause, causes cause ↔ others cause) :
    FailsFor format others attempt where
  refusal := fails.refusal
  rewrite cause := (fails.rewrite cause).trans (same cause)

/-- An attempt after another one adds its causes to those of the first. -/
theorem bind
    {next : α → Except ReadError β}
    {nextCauses : α → RewriteError → Prop}
    (first : FailsFor format causes attempt)
    (second : ∀ result, FailsFor format (nextCauses result) (next result)) :
    FailsFor format
      (fun cause => causes cause ∨ ∃ result, attempt = .ok result ∧ nextCauses result cause)
      (attempt >>= next) where
  refusal other reason failure := by
    rcases except_bind_eq_error failure with failed | ⟨result, _, failed⟩
    · exact first.refusal other reason failed
    · exact (second result).refusal other reason failed
  rewrite cause := by
    constructor
    · intro failure
      rcases except_bind_eq_error failure with failed | ⟨result, success, failed⟩
      · exact .inl ((first.rewrite cause).mp failed)
      · exact .inr ⟨result, success, ((second result).rewrite cause).mp failed⟩
    · rintro (fails | ⟨result, success, fails⟩)
      · rw [(first.rewrite cause).mpr fails]
        rfl
      · rw [success]
        exact ((second result).rewrite cause).mpr fails

/-- An attempt that is only refused adds no causes. -/
theorem bind_refused
    {next : α → Except ReadError β}
    (first : FailsFor format causes attempt)
    (second : ∀ result, FailsFor format (fun _ => False) (next result)) :
    FailsFor format causes (attempt >>= next) :=
  (first.bind second).of_iff fun cause => by simp

/-- A mapping of attempts that are only refused is only refused. -/
theorem mapM
    {function : β → Except ReadError α}
    (each : ∀ input, FailsFor format (fun _ => False) (function input))
    (inputs : List β) :
    FailsFor format (fun _ => False) (inputs.mapM function) where
  refusal other reason failure := by
    obtain ⟨input, _, failed⟩ := exists_of_mapM_eq_error failure
    exact (each input).refusal other reason failed
  rewrite cause := by
    refine ⟨fun failure => ?_, nofun⟩
    obtain ⟨input, _, failed⟩ := exists_of_mapM_eq_error failure
    exact ((each input).rewrite cause).mp failed

/-- A run fails for the causes of its steps in the states that the steps before lead to. -/
theorem foldlM
    {step : σ → β → Except ReadError σ}
    {stepCauses : σ → β → RewriteError → Prop}
    (each : ∀ state input, FailsFor format (stepCauses state input) (step state input))
    (inputs : List β)
    (start : σ) :
    FailsFor format
      (fun cause => ∃ before input after state, inputs = before ++ input :: after ∧
        before.foldlM step start = .ok state ∧ stepCauses state input cause)
      (inputs.foldlM step start) := by
  induction inputs generalizing start with
  | nil => exact ok start fun cause => by simp
  | cons input inputs hypothesis =>
      rw [List.foldlM_cons]
      refine ((each start input).bind hypothesis).of_iff fun cause => ⟨?_, ?_⟩
      · rintro (fails | ⟨next, stepped, before, other, after, state, rfl, ran, fails⟩)
        · exact ⟨[], input, inputs, start, rfl, rfl, fails⟩
        · refine ⟨input :: before, other, after, state, rfl, ?_, fails⟩
          rw [List.foldlM_cons, stepped]
          exact ran
      · rintro ⟨before, other, after, state, split, ran, fails⟩
        cases before with
        | nil =>
            cases split
            cases ran
            exact .inl fails
        | cons first before =>
            cases split
            rw [List.foldlM_cons] at ran
            obtain ⟨next, stepped, rest⟩ := except_bind_eq_ok ran
            exact .inr ⟨next, stepped, before, other, after, state, rfl, rest, fails⟩

end FailsFor

/-! ## Powers -/

/-- One of the operands has an exponent, made of the operands after it, that cannot be
simplified. -/
inductive HasFailingExponent (format : Format) (cause : RewriteError) : List Expr → Prop
  | here
      {base next exponent : Expr}
      {others : List Expr}
      (raised : raiseAll format next others = .ok exponent)
      (failing : exponent.simplify = .error cause) :
      HasFailingExponent format cause (base :: next :: others)
  | there
      {base : Expr}
      {operands : List Expr}
      (later : HasFailingExponent format cause operands) :
      HasFailingExponent format cause (base :: operands)

/-- An exponent needs a base in front of it. -/
theorem not_hasFailingExponent_singleton
    (format : Format)
    (cause : RewriteError)
    (operand : Expr) :
    ¬HasFailingExponent format cause [operand] := by
  intro fails
  cases fails with
  | there later => cases later

theorem hasFailingExponent_pair_iff
    {format : Format}
    {cause : RewriteError}
    {base exponent : Expr} :
    HasFailingExponent format cause [base, exponent] ↔ exponent.simplify = .error cause := by
  constructor
  · intro fails
    cases fails with
    | here raised failing =>
        cases raised
        exact failing
    | there later => exact absurd later (not_hasFailingExponent_singleton _ _ _)
  · intro failing
    exact .here rfl failing

theorem failsFor_raise (format : Format) (base exponent : Expr) :
    FailsFor format (exponent.simplify = .error ·) (raise format base exponent) := by
  unfold raise Expr.raiseTo Expr.exponentValue
  cases exponent.simplify with
  | error cause =>
      refine ⟨nofun, fun other => ⟨?_, ?_⟩⟩
      · rintro ⟨⟩
        rfl
      · rintro ⟨⟩
        rfl
  | ok result =>
      cases result with
      | number value => exact .ok _ nofun
      | symbol name => exact .refused _ nofun
      | sum operands => exact .refused _ nofun
      | product operands => exact .refused _ nofun
      | power base exponent => exact .refused _ nofun

/-- Raising fails for the exponents from the right: the first one that fails leaves no
exponent for the operands in front of it. -/
theorem failsFor_raiseAll (format : Format) (base : Expr) (others : List Expr) :
    FailsFor format (HasFailingExponent format · (base :: others))
      (raiseAll format base others) := by
  induction others generalizing base with
  | nil => exact .ok base fun cause => not_hasFailingExponent_singleton format cause base
  | cons next others hypothesis =>
      have fails := (hypothesis next).bind (failsFor_raise format base)
      refine fails.of_iff fun cause => ⟨?_, ?_⟩
      · rintro (later | ⟨exponent, raised, failing⟩)
        · exact .there later
        · exact .here raised failing
      · intro found
        cases found with
        | here raised failing => exact .inr ⟨_, raised, failing⟩
        | there later => exact .inl later

theorem failsFor_combine (format : Format) (operator : Operator) (operands : List Expr) :
    FailsFor format (fun cause => operator = .caret ∧ HasFailingExponent format cause operands)
      (combine format operator operands) := by
  match operands with
  | [] => exact .refused _ nofun
  | [operand] =>
      apply FailsFor.refused
      exact fun cause fails => not_hasFailingExponent_singleton format cause operand fails.2
  | first :: second :: others =>
      cases operator with
      | plus | minus | times | slash => exact .ok _ nofun
      | caret =>
          refine (failsFor_raiseAll format first (second :: others)).of_iff fun cause => ?_
          rw [eq_self, true_and]

theorem Operator.ofSign?_eq_some_iff {word : String} {operator : Operator} :
    ofSign? word = some operator ↔ operator.sign = word := by
  refine ⟨sign_of_ofSign?_eq_some, fun same => ?_⟩
  rw [← same, ofSign?_sign]

theorem Operator.sign_eq_caret_iff (operator : Operator) :
    operator.sign = "^" ↔ operator = .caret :=
  sign_injective.eq_iff' rfl

/-! ## Polish notation -/

namespace Polish

theorem failsFor_push (stack : List Expr) (word : String) :
    FailsFor .polish
      (fun cause => word = "^" ∧ ∃ base exponent rest, stack = base :: exponent :: rest ∧
        exponent.simplify = .error cause)
      (push stack word) := by
  unfold push
  cases found : Operator.ofSign? word with
  | none =>
      have noPower : word ≠ "^" := by
        rintro rfl
        cases found
      dsimp only
      cases readLeaf? word with
      | none => exact .refused _ fun cause fails => noPower fails.1
      | some leaf => exact .ok _ fun cause fails => noPower fails.1
  | some operator =>
      obtain rfl := Operator.ofSign?_eq_some_iff.mp found
      match stack with
      | [] => exact .refused _ fun cause => by simp
      | [_] => exact .refused _ fun cause => by simp
      | left :: right :: rest =>
          have combined := (failsFor_combine .polish operator [left, right]).bind_refused
            fun result => .ok (result :: rest) fun cause => id
          apply combined.of_iff
          simp [operator.sign_eq_caret_iff, hasFailingExponent_pair_iff]

/-- The stack holds terms exactly when their words have been read onto it. -/
theorem foldlM_push_eq_ok_iff {words : List String} {stack : List Expr} :
    words.reverse.foldlM push [] = .ok stack ↔ HoldsTerms words stack := by
  refine ⟨holdsTerms_of_foldlM_push, ?_⟩
  rintro ⟨terms, rfl, built⟩
  induction built with
  | nil => rfl
  | @cons term expr terms rest termBuilt others hypothesis =>
      rw [List.flatMap_cons, List.reverse_append, foldlM_append_of_eq_ok hypothesis,
        foldlM_push_tokens, termBuilt]
      rfl

/-- The words have a power sign in front of terms, the second of which cannot be
simplified. -/
def MeetsFailingExponent (words : List String) (cause : RewriteError) : Prop :=
  ∃ earlier later base exponent rest,
    words = earlier ++ "^" :: later ∧ HoldsTerms later (base :: exponent :: rest) ∧
      exponent.simplify = .error cause

theorem failsFor_parseWords (words : List String) :
    FailsFor .polish (MeetsFailingExponent words) (parseWords words) := by
  have reading := FailsFor.foldlM failsFor_push words.reverse []
  rw [parseWords]
  refine (reading.bind_refused fun stack => ?_).of_iff fun cause => ⟨?_, ?_⟩
  · rcases stack with _ | ⟨expr, _ | ⟨second, others⟩⟩
    · exact .refused _ fun cause => id
    · exact .ok expr fun cause => id
    · exact .refused _ fun cause => id
  · -- What was read before the power sign stands behind it.
    rintro ⟨before, _, after, _, split, ran, rfl, base, exponent, rest, rfl, failing⟩
    refine ⟨after.reverse, before.reverse, base, exponent, rest, ?_, ?_, failing⟩
    · rw [← List.reverse_reverse words, split]
      simp
    · rw [← foldlM_push_eq_ok_iff, List.reverse_reverse]
      exact ran
  · rintro ⟨earlier, later, base, exponent, rest, rfl, holds, failing⟩
    have ran := foldlM_push_eq_ok_iff.mpr holds
    exact ⟨later.reverse, "^", earlier.reverse, _, by simp, ran, rfl, base, exponent, rest, rfl,
      failing⟩

end Polish

/-! ## Straight-line programs -/

namespace Program

theorem failsFor_resolve (program : Program) (argument : String) :
    FailsFor .program (fun _ => False) (program.resolve argument) := by
  unfold resolve
  split
  · exact .refused _ fun cause => id
  · split
    · exact .refused _ fun cause => id
    · split
      · exact .refused _ fun cause => id
      · exact .ok _ fun cause => id

/-- The line is a power of earlier definitions, one of which has an exponent that cannot be
simplified. -/
def MeetsFailingExponent (program : Program) (words : List String) (cause : RewriteError) : Prop :=
  ∃ arguments operands,
    words = "^" :: arguments ∧ arguments.mapM program.resolve = .ok operands ∧
      HasFailingExponent .program cause operands

theorem failsFor_readWords (program : Program) (words : List String) :
    FailsFor .program (program.MeetsFailingExponent words) (program.readWords words) := by
  cases words with
  | nil => exact .refused _ fun cause => by simp [MeetsFailingExponent]
  | cons head arguments =>
      by_cases dot : head = "."
      · subst dot
        have noPower (cause : RewriteError) :
            ¬program.MeetsFailingExponent ("." :: arguments) cause := by
          simp [MeetsFailingExponent]
        rcases arguments with _ | ⟨argument, _ | ⟨other, others⟩⟩
        · exact .refused _ noPower
        · rw [readWords]
          cases readLeaf? argument with
          | none => exact .refused _ noPower
          | some leaf => exact .ok leaf noPower
        · exact .refused _ noPower
      · rw [Guarded.readWords_of_ne_dot program dot]
        cases found : Operator.ofSign? head with
        | none =>
            apply FailsFor.refused
            rintro cause ⟨_, _, equal, _⟩
            cases equal
            cases found
        | some operator =>
            obtain rfl := Operator.ofSign?_eq_some_iff.mp found
            have operands := FailsFor.mapM program.failsFor_resolve arguments
            apply (operands.bind (failsFor_combine .program operator)).of_iff
            simp [MeetsFailingExponent, operator.sign_eq_caret_iff, and_left_comm]

end Program

/-! ## Failures of the guarded readers -/

/-- Reading has a result, or the text is refused in the name of the format. -/
def IsReadOrRefused (format : Format) (outcome : Outcome Expr) : Prop :=
  (∃ expr, outcome = .ok expr) ∨ ∃ reason, outcome = .error (.read (.refused format reason))

/-- The text is read or refused if there is no cause to fail for, and otherwise reading fails
for the cause. -/
structure IsReadUnless
    (format : Format)
    (causes : RewriteError → Prop)
    (outcome : Outcome Expr) : Prop where
  isReadOrRefused_iff : IsReadOrRefused format outcome ↔ ∀ cause, ¬causes cause
  eq_rewrite_iff : ∀ cause, outcome = .error (.rewrite cause) ↔ causes cause

theorem FailsFor.isReadUnless
    {format : Format}
    {causes : RewriteError → Prop}
    {attempt : Except ReadError Expr}
    (fails : FailsFor format causes attempt) :
    IsReadUnless format causes (attempt.mapError Guarded.readFault) := by
  obtain ⟨refusal, rewrite⟩ := fails
  have same : causes = fun cause => attempt = .error (.rewrite cause) := by
    funext cause
    exact propext (rewrite cause).symm
  subst same
  cases attempt with
  | ok expr => exact ⟨⟨nofun, fun _ => .inl ⟨expr, rfl⟩⟩, fun cause => ⟨nofun, nofun⟩⟩
  | error failure =>
      cases failure with
      | refused other reason =>
          obtain rfl := refusal other reason rfl
          exact ⟨⟨nofun, fun _ => .inr ⟨reason, rfl⟩⟩, fun cause => ⟨nofun, nofun⟩⟩
      | rewrite failure =>
          refine ⟨⟨?_, fun none => absurd rfl (none failure)⟩, fun cause => ⟨?_, ?_⟩⟩
          · rintro (⟨_, equal⟩ | ⟨_, equal⟩) <;> cases equal
          · rintro ⟨⟩
            rfl
          · rintro ⟨⟩
            rfl

/-- A line that is read adds its expression to the program. Otherwise the program stays as it
is. -/
theorem run_define_text (program : Program) (line : String) :
    ProgramStep.run program (.define (.text line)) =
      match program.readLine line with
      | .ok expr => (program.append expr, .ok (.expr expr))
      | .error cause => (program, .error (.read cause)) := rfl

/-- Every text is read or refused, unless it has an exponent that cannot be simplified. In
Polish notation such an exponent is a term, and on a line of a program it is made of earlier
definitions, whatever was done with the program before. It is a power of zero with a negative
exponent, or a power with the exponent zero, that makes simplification fail, and reading
fails for the same cause. A line that is read adds its expression to the program, and a line
that is not read leaves the program as it was. -/
theorem isReadUnless_failing_exponent (text : String) (steps : List ProgramStep) :
    IsReadUnless .polish (Polish.MeetsFailingExponent (Text.words text))
      (Guarded.parsePolish text) ∧
    (let program := ProgramStep.runAll .empty steps
      let outcome := Guarded.readLine program.expressions text
      IsReadUnless .program (program.MeetsFailingExponent (Text.words text)) outcome ∧
        (∀ expr, outcome = .ok expr →
          ProgramStep.run program (.define (.text text)) =
            (program.append expr, .ok (.expr expr))) ∧
        ∀ fault, outcome = .error fault →
          (ProgramStep.run program (.define (.text text))).1 = program) ∧
    ∀ (exponent : Expr) (cause : RewriteError), exponent.simplify = .error cause →
      cause = .arithmetic .zeroReciprocal ∨ cause = .zeroToTheZero ∨
        ∃ base, cause = .indeterminate base := by
  refine ⟨?_, ?_, fun exponent cause failing => ?_⟩
  · rw [Guarded.parsePolish_eq]
    exact (Polish.failsFor_parseWords (Text.words text)).isReadUnless
  · intro program outcome
    have wellFormed : program.WellFormed :=
      ProgramStep.wellFormed_runAll Program.wellFormed_empty steps
    have read : outcome = (program.readLine text).mapError Guarded.readFault :=
      Guarded.readLine_eq wellFormed text
    rw [read, run_define_text]
    refine ⟨(program.failsFor_readWords (Text.words text)).isReadUnless, ?_, ?_⟩
    · intro expr success
      rw [eq_ok_of_mapError_eq_ok success]
    · intro fault failure
      cases plain : program.readLine text with
      | ok expr =>
          rw [plain] at failure
          cases failure
      | error cause => rfl
  · cases Expr.canFailFor_of_simplify_eq_error failing with
    | zeroReciprocal => exact .inl rfl
    | zeroToTheZero => exact .inr (.inl rfl)
    | indeterminate => exact .inr (.inr ⟨_, rfl⟩)

/-- Definitions of `x`, of one and zero, and of one divided by zero. -/
def inverseOfZero : List ProgramStep :=
  [.define (.text ". x"), .define (.text ". 1"), .define (.text ". 0"), .define (.text "/ 1 2")]

theorem isReadUnless_failing_exponent_inverseOfZero :
    (∀ cause, ¬Polish.MeetsFailingExponent (Text.words "^ x / 1 2") cause) ∧
      let program := ProgramStep.runAll .empty inverseOfZero
      Guarded.readLine program.expressions "^ 0 3" =
          .error (.rewrite (.arithmetic .zeroReciprocal)) ∧
        (ProgramStep.run program (.define (.text "^ 0 3"))).1 = program := by
  obtain ⟨polish, _⟩ := isReadUnless_failing_exponent "^ x / 1 2" []
  obtain ⟨_, ⟨program, _, unchanged⟩, _⟩ := isReadUnless_failing_exponent "^ 0 3" inverseOfZero
  constructor
  · have squareRoot : Polish.parse "^ x / 1 2" =
        .ok (.power (.symbol .x) ⟨1, 2, by decide, by decide⟩) := by
      decide +kernel
    rw [← polish.isReadOrRefused_iff, Guarded.parsePolish_eq, squareRoot]
    exact .inl ⟨_, rfl⟩
  · have fails := (program.eq_rewrite_iff (.arithmetic .zeroReciprocal)).mpr
      ⟨["0", "3"], [.symbol .x, .quotient 1 [0]], by decide +kernel, by decide +kernel,
        hasFailingExponent_pair_iff.mpr (by decide +kernel)⟩
    exact ⟨fails, unchanged _ fails⟩

/-- One divided by zero is no exponent, and its power is neither read nor refused. -/
theorem not_isReadOrRefused_powerOfInverseOfZero :
    ¬IsReadOrRefused .polish (Guarded.parsePolish "^ x / 1 0") := by
  have failing :
      Polish.parse "^ x / 1 0" = .error (.rewrite (.arithmetic .zeroReciprocal)) := by
    decide +kernel
  rw [Guarded.parsePolish_eq, failing]
  rintro (⟨expr, equal⟩ | ⟨reason, equal⟩)
  · cases equal
  · cases equal

end Input
end ExactAlgebra
