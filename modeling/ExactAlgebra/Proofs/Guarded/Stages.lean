import ExactAlgebra.Expr.Drawing
import ExactAlgebra.Pipeline
import ExactAlgebra.Proofs.Guarded.Power
import ExactAlgebra.Proofs.WellFormed.Rewriting
import ExactAlgebra.Workbench.Value

/-!
# Guarded stages

A stage is a pass, a printer, or the blank stage that handles no kind of expression. The
passes take the first of the operands of a product, drawing takes the last of the operands
that it draws, and expansion writes out powers. Here these steps are guarded as well: a
list that has no such place is out of range, and repetitions have to be countable. Guarded
powers and constructors that count their operands see to the other steps.

A pipeline that was made from the names of passes holds passes only. On well-formed
expressions its passes end as the plain ones do, unless they meet a power that cannot be
unrolled.
-/

namespace ExactAlgebra
namespace Guarded

open ExactAlgebra.Expr ExactAlgebra.Workbench ExactAlgebra.Checked

/-- The first member of a list. -/
def front : List α → Outcome α
  | [] => .error .outOfRange
  | first :: _ => .ok first

/-- What a computation comes to that breaks off if there is a cause. -/
def unlessBroken (cause? : Option RepetitionError) (outcome : Outcome α) : Outcome α :=
  match cause? with
  | none => outcome
  | some cause => .error (.repetition cause)

theorem unlessBroken_bind
    (cause? : Option RepetitionError)
    (outcome : Outcome α)
    (next : α → Outcome β) :
    unlessBroken cause? outcome >>= next = unlessBroken cause? (outcome >>= next) := by
  cases cause? <;> rfl

/-! ## Simplification -/

/-- A term apart from its coefficient, and the coefficient. -/
def splitTerm : Expr → Outcome (Expr × Fraction)
  | product operands => do
      match ← front operands with
      | number coefficient => return (← productOfSome operands.tail, coefficient)
      | _ => return (product operands, 1)
  | term => .ok (term, 1)

/-- Add up simplified terms. -/
def collectSum (operands : List Expr) : Outcome Expr := do
  let entries ← (operands.filter (!·.isNumber)).mapM splitTerm
  let terms ← (Tally.ofEntries entries).mapM collectedTerm?
  let constant := Simplify.constantTerm operands
  sumOfTerms (if constant = 0 then terms.filterMap id else number constant :: terms.filterMap id)

/-- A constant raised to an exponent. -/
def numberPower (value exponent : Fraction) : Outcome Expr := do
  match ← pow value exponent with
  | some result => return number result
  | none =>
      if exponent.num < 0 then do
        let inverse ← value.reciprocal.mapError (.rewrite <| .arithmetic ·)
        return power (number inverse) (-exponent)
      else return power (number value) exponent

/-- A simplified base raised to an exponent. -/
def raise
    (simplifyPart : Expr → Outcome Expr)
    (base : Expr)
    (exponent : Fraction) : Outcome Expr :=
  if exponent = 0 then do
    (checkZeroExponent base).mapError .rewrite
    return 1
  else if exponent = 1 then .ok base
  else
    match base with
    | number value => numberPower value exponent
    | power inner innerExponent => simplifyPart (power inner (innerExponent * exponent))
    | base => .ok (power base exponent)

/-- Simplify an expression, given how to simplify lighter ones. -/
def simplifyStep (simplifyPart : Expr → Outcome Expr) : Expr → Outcome Expr
  | number value => .ok (number value)
  | symbol name => .ok (symbol name)
  | sum operands => do
      let simplified ← operands.mapM simplifyPart
      collectSum (simplified.flatMap summands)
  | product operands => do
      let simplified ← operands.mapM simplifyPart
      collectProduct simplifyPart (simplified.flatMap Expr.factors)
  | power base exponent => do
      let simplified ← simplifyPart base
      raise simplifyPart simplified exponent

/-- Simplify down to a depth, and leave what lies deeper as it is. -/
def simplifyToDepth : Nat → Expr → Outcome Expr
  | 0, expr => .ok expr
  | depth + 1, expr => simplifyStep (simplifyToDepth depth) expr

/-- Simplify an expression. -/
def simplify (expr : Expr) : Outcome Expr :=
  simplifyToDepth (expr.weight + 1) expr

/-- A well-formed product has a first operand. -/
theorem splitTerm_eq {term : Expr} (wellFormed : WellFormed term) :
    splitTerm term = Checked.splitTerm term := by
  cases wellFormed with
  | product operands several ordered parts =>
      match operands, several with
      | first :: second :: others, _ => cases first <;> rfl
  | number value | symbol name | sum operands _ _ _ | power base exponent _ => rfl

theorem agrees_collectSum
    {operands : List Expr}
    (wellFormed : ∀ operand ∈ operands, WellFormed operand) :
    Agrees WellFormed (collectSum operands) (.ok (Simplify.collectSum operands)) := by
  have entries : (operands.filter (!·.isNumber)).mapM splitTerm =
      (operands.filter (!·.isNumber)).mapM Checked.splitTerm :=
    mapM_congr fun operand member => splitTerm_eq (wellFormed operand (List.mem_filter.mp member).1)
  rw [collectSum, entries]
  exact Checked.agrees_collectSum wellFormed

/-- Raising a constant meets no guard. -/
theorem numberPower_eq (value exponent : Fraction) :
    numberPower value exponent = (Simplify.numberPower value exponent).mapError .rewrite := by
  rw [numberPower, Simplify.numberPower, pow_eq, mapError_bind]
  cases value.pow exponent with
  | error cause => rfl
  | ok answer =>
      cases answer with
      | some result => rfl
      | none =>
          change (if _ then _ else _) = Except.mapError _ (if _ then _ else _)
          split
          · cases value.reciprocal <;> rfl
          · rfl

theorem raise_eq (simplifyPart : Expr → Outcome Expr) (base : Expr) (exponent : Fraction) :
    raise simplifyPart base exponent = Checked.raise simplifyPart base exponent := by
  unfold raise Checked.raise
  cases base with
  | number value => simp only [numberPower_eq]
  | _ => rfl

theorem agreesOnWellFormed_simplifyStep
    {guardedPart : Expr → Outcome Expr}
    {plainPart : Expr → Except RewriteError Expr}
    (parts : AgreesOnWellFormed guardedPart plainPart) :
    AgreesOnWellFormed (simplifyStep guardedPart) (Simplify.step plainPart) := by
  intro expr wellFormed
  have checked := Checked.agreesOnWellFormed_simplifyStep parts expr wellFormed
  cases wellFormed with
  | sum operands several ordered terms =>
      exact (Agrees.mapM fun operand member => parts operand (terms operand member)).bind
        fun simplified simplifiedWellFormed =>
          agrees_collectSum (wellFormed_flatMap_summands simplifiedWellFormed.2).2
  | power base exponent inner =>
      simp only [simplifyStep, raise_eq]
      exact checked
  | number value => exact checked
  | symbol name => exact checked
  | product operands _ _ _ => exact checked

theorem agreesOnWellFormed_simplifyToDepth (depth : Nat) :
    AgreesOnWellFormed (simplifyToDepth depth) (Simplify.toDepth depth) := by
  induction depth with
  | zero => exact fun expr wellFormed => .ok wellFormed
  | succ depth hypothesis => exact agreesOnWellFormed_simplifyStep hypothesis

theorem agreesOnWellFormed_simplify : AgreesOnWellFormed simplify Expr.simplify :=
  fun expr => agreesOnWellFormed_simplifyToDepth (expr.weight + 1) expr

/-! ## Expansion -/

/-- Multiply expressions from left to right. -/
def distributeAll (operands : List Expr) : Outcome Expr := do
  operands.tail.foldlM distribute (← front operands)

/-- The product of a selection; one choice stands for itself. -/
def selectionProduct (count : Nat) (selection : List Expr) : Outcome Expr :=
  if count = 1 then front selection else productOf selection

/-- The product of `count` copies of an expression. -/
def copies (count : Nat) : Expr → Outcome Expr
  | sum operands => do
      sumOfTerms (← (Expand.selections operands count).mapM (selectionProduct count))
  | base => if 1 < count then productOf (List.replicate count base) else .ok base

/-- The product of `count` copies of an expression, if they can be written out. -/
def repeated (count : Nat) (base : Expr) : Outcome Expr := do
  checkRepetition count base
  copies count base

/-- Unroll the numerator of an exponent other than zero and one. -/
def unroll (base : Expr) (exponent : Fraction) : Outcome Expr := do
  let unrolled ← repeated exponent.num.natAbs base
  return if exponent.isInteger ∧ 0 < exponent.num then unrolled
    else power unrolled (Expand.rootExponent exponent)

mutual
/-- Distribute products over sums and unroll powers. -/
def expand : Expr → Outcome Expr
  | number value => .ok (number value)
  | symbol name => .ok (symbol name)
  | sum operands => do
      let expanded ← expandAll operands
      sumOf (expanded.flatMap summands)
  | product operands => do
      let expanded ← expandAll operands
      distributeAll expanded
  | power base exponent =>
      if exponent = 0 then do
        (checkZeroExponent base).mapError .rewrite
        return 1
      else do
        let expanded ← expand base
        if exponent = 1 then return expanded else unroll expanded exponent
/-- Expand every expression of a list. -/
def expandAll : List Expr → Outcome (List Expr)
  | [] => .ok []
  | operand :: operands => do
      let first ← expand operand
      let others ← expandAll operands
      return first :: others
end

theorem expandAll_eq_mapM (operands : List Expr) : expandAll operands = operands.mapM expand := by
  induction operands with
  | nil => rfl
  | cons operand operands hypothesis => rw [expandAll, List.mapM_cons, hypothesis]

/-- A list of operands that is not empty has a first one. -/
theorem distributeAll_eq {operands : List Expr} (nonempty : 0 < operands.length) :
    distributeAll operands = Checked.distributeAll operands := by
  match operands, nonempty with
  | first :: others, _ => rfl

/-- A selection has as many members as it is asked for, so a lone choice is there. -/
theorem copies_eq {count : Nat} (positive : 0 < count) (base : Expr) :
    copies count base = Checked.repeated count base := by
  cases base with
  | sum operands =>
      have each : (Expand.selections operands count).mapM (selectionProduct count) =
          (Expand.selections operands count).mapM productOfSome := by
        refine mapM_congr fun selection member => ?_
        have length := length_of_mem_selections member
        match selection, length with
        | [], length => exact absurd length positive.ne
        | [choice], rfl => rfl
        | first :: second :: others, rfl =>
            rw [selectionProduct, if_neg (by simp)]
            rfl
      rw [copies, each]
      rfl
  | _ => rfl

theorem repeated_eq {count : Nat} (positive : 0 < count) (base : Expr) :
    repeated count base =
      unlessBroken ((Repetition.ofBase base).error? count) (Checked.repeated count base) := by
  rw [repeated, checkRepetition, copies_eq positive]
  cases (Repetition.ofBase base).error? count <;> rfl

theorem unroll_eq (base : Expr) {exponent : Fraction} (nonzero : exponent ≠ 0) :
    unroll base exponent =
      unlessBroken ((Repetition.ofBase base).error? exponent.num.natAbs)
        (Checked.unroll base exponent) := by
  have numNonzero : exponent.num ≠ 0 := mt (Fraction.num_eq_zero_iff exponent).mp nonzero
  rw [unroll, repeated_eq (Int.natAbs_pos.mpr numNonzero), unlessBroken_bind]
  rfl

/-- Members are expanded one after the other, up to one that fails or breaks off. -/
theorem mapM_expand_eq
    {operands : List Expr}
    (wellFormed : ∀ operand ∈ operands, WellFormed operand)
    (each : ∀ operand ∈ operands,
      expand operand = unlessBroken operand.repetitionError? (Checked.expand operand)) :
    operands.mapM expand =
      unlessBroken (repetitionErrorAll? operands) (operands.mapM Checked.expand) := by
  induction operands with
  | nil => rfl
  | cons operand operands hypothesis =>
      obtain ⟨here, there⟩ := List.forall_mem_cons.mp each
      obtain ⟨operandWellFormed, othersWellFormed⟩ := List.forall_mem_cons.mp wellFormed
      rw [List.mapM_cons, List.mapM_cons, here, hypothesis othersWellFormed there,
        (agreesOnWellFormed_expand operand operandWellFormed).same, repetitionErrorAll?_cons]
      cases operand.repetitionError? with
      | some cause => rfl
      | none =>
          cases operand.expand with
          | error cause => rfl
          | ok expanded => cases repetitionErrorAll? operands <;> rfl

theorem expand_eq {expr : Expr} (wellFormed : WellFormed expr) :
    expand expr = unlessBroken expr.repetitionError? (Checked.expand expr) := by
  induction wellFormed with
  | number value => rw [expand, Checked.expand, repetitionError?, unlessBroken]
  | symbol name => rw [expand, Checked.expand, repetitionError?, unlessBroken]
  | sum operands several ordered parts hypothesis =>
      rw [expand, Checked.expand, expandAll_eq_mapM, Checked.expandAll_eq_mapM,
        mapM_expand_eq parts hypothesis, unlessBroken_bind, repetitionError?]
  | product operands several ordered parts hypothesis =>
      rw [expand, Checked.expand, expandAll_eq_mapM, Checked.expandAll_eq_mapM,
        mapM_expand_eq parts hypothesis, unlessBroken_bind, repetitionError?]
      congr 1
      cases mapped : operands.mapM Checked.expand with
      | error fault => rfl
      | ok expanded =>
          have length : operands.length = expanded.length :=
            (mapM_eq_ok_iff.mp mapped).length_eq
          exact distributeAll_eq (by omega)
  | power base exponent inner hypothesis =>
      rw [expand, Checked.expand]
      by_cases isZero : exponent = 0
      · rw [if_pos isZero, if_pos isZero, repetitionError?, if_pos isZero, unlessBroken]
      · rw [if_neg isZero, if_neg isZero, repetitionError?_power base isZero, hypothesis,
          (agreesOnWellFormed_expand base inner).same]
        cases base.repetitionError? with
        | some cause => rfl
        | none =>
            cases base.expand with
            | error cause => rfl
            | ok expanded =>
                change (if _ then _ else _) =
                  unlessBroken ((Repetition.ofBase expanded).error? exponent.num.natAbs)
                    (if _ then _ else _)
                by_cases isOne : exponent = 1
                · rw [if_pos isOne, if_pos isOne, isOne, Repetition.error?, if_pos (by decide)]
                  rfl
                · rw [if_neg isOne, if_neg isOne, unroll_eq expanded isZero]

/-! ## Passes -/

/-- Rewrite an expression. -/
def applyPass : Pass → Expr → Outcome Expr
  | .simplify => simplify
  | .expand => expand
  | .differentiate target => derivative target

/-- On well-formed expressions a pass ends as the plain one does, or breaks off. -/
theorem applyPass_eq (pass : Pass) {expr : Expr} (wellFormed : WellFormed expr) :
    applyPass pass expr =
      unlessBroken (pass.repetitionError? expr) ((pass.apply expr).mapError .rewrite) := by
  cases pass with
  | simplify => exact (agreesOnWellFormed_simplify expr wellFormed).same
  | expand =>
      rw [applyPass, expand_eq wellFormed, (agreesOnWellFormed_expand expr wellFormed).same]
      rfl
  | differentiate target => exact (agreesOnWellFormed_derivative target expr wellFormed).same

/-- Apply a stage to an expression. What a printer writes is no expression, so neither
another stage nor the renderer can go on with it. -/
def applyStage : Stage → Expr → Outcome Expr
  | .pass rule, expr => applyPass rule expr
  | .linearPrinter, _ => .error (.missing "str" "transform")
  | .treePrinter _ _, _ => .error (.missing "str" "transform")
  | .blank, expr => .error (.unhandled "Transform" expr.kind.name)

/-- Apply stages in order, numbering the steps from `index` on. -/
def runStages (index : Nat) : List Stage → Expr → Outcome (List (Step Expr) × Expr)
  | [], expr => .ok ([], expr)
  | stage :: others, expr => do
      let result ← applyStage stage expr
      let (steps, final) ← runStages (index + 1) others result
      let step : Step Expr :=
        { index := index, name := stage.name, before := expr, after := result }
      return (step :: steps, final)

/-- The stage with a written name. -/
def buildStage (text : String) : Outcome Stage := do
  return .pass (← (Pass.read text).mapError .passName)

/-- The expression that a pipeline ends with is well formed. -/
theorem wellFormed_of_runFrom_eq_ok
    {index : Nat}
    {pipeline : Pipeline}
    {expr final : Expr}
    (wellFormed : WellFormed expr)
    (ran : (pipeline.runFrom index expr).outcome = .ok final) :
    WellFormed final := by
  induction pipeline generalizing index expr with
  | nil =>
      cases ran
      exact wellFormed
  | cons pass others hypothesis =>
      rw [Pipeline.runFrom] at ran
      cases applied : pass.apply expr with
      | error cause =>
          rw [applied] at ran
          cases ran
      | ok result =>
          rw [applied] at ran
          have resultWellFormed := (Checked.agreesOnWellFormed_apply pass expr wellFormed).meets
          exact hypothesis (resultWellFormed result applied) ran

/-- A pipeline of passes ends as the plain one does, or breaks off where that one does. -/
theorem runStages_eq
    (index : Nat)
    (pipeline : Pipeline)
    {expr : Expr}
    (wellFormed : WellFormed expr) :
    runStages index (pipeline.map .pass) expr =
      unlessBroken ((pipeline.breakFrom? index expr).map PipelineBreak.cause)
        (((pipeline.runFrom index expr).outcome.map fun final =>
          ((pipeline.runFrom index expr).steps, final)).mapError .rewrite) := by
  induction pipeline generalizing index expr with
  | nil => rfl
  | cons pass others hypothesis =>
      rw [List.map_cons, runStages, applyStage, applyPass_eq pass wellFormed, Pipeline.runFrom,
        Pipeline.breakFrom?]
      cases pass.repetitionError? expr with
      | some cause => rfl
      | none =>
          cases applied : pass.apply expr with
          | error cause => rfl
          | ok result =>
              have resultWellFormed :=
                (Checked.agreesOnWellFormed_apply pass expr wellFormed).meets result applied
              change runStages (index + 1) (others.map .pass) result >>= _ = _
              rw [hypothesis (index + 1) resultWellFormed, unlessBroken_bind]
              dsimp only
              cases Pipeline.breakFrom? (index + 1) others result with
              | some found => rfl
              | none => cases (Pipeline.runFrom (index + 1) others result).outcome <;> rfl

/-! ## Printers -/

mutual
/-- Draw an expression with `lead` in front of its own line and `below` in front of the
lines of its parts. -/
def draw (lead below : String) : Expr → Outcome String
  | number value => .ok (lead ++ value.text ++ "\n")
  | symbol name => .ok (lead ++ name.text ++ "\n")
  | sum operands => do return lead ++ "+\n" ++ (← drawAll below operands)
  | product operands => do return lead ++ "*\n" ++ (← drawAll below operands)
  | power base exponent => do
      return lead ++ "^\n" ++ (← draw (below ++ branch) (below ++ trunk) base) ++
        (below ++ lastBranch ++ exponent.text ++ "\n")
/-- Draw the operands of a sum or product. There has to be a last one. -/
def drawAll (below : String) : List Expr → Outcome String
  | [] => .error .outOfRange
  | [operand] => draw (below ++ lastBranch) (below ++ gap) operand
  | operand :: operands => do
      let first ← draw (below ++ branch) (below ++ trunk) operand
      return first ++ (← drawAll below operands)
end

/-- Operands that can be drawn are all drawn, if there are any. -/
theorem drawAll_eq
    {operands : List Expr}
    (nonempty : operands ≠ [])
    (each : ∀ operand ∈ operands, ∀ lead below : String,
      draw lead below operand = .ok (operand.draw lead below))
    (below : String) :
    drawAll below operands = .ok (Expr.drawAll below operands) := by
  induction operands with
  | nil => exact absurd rfl nonempty
  | cons operand operands hypothesis =>
      obtain ⟨here, there⟩ := List.forall_mem_cons.mp each
      cases operands with
      | nil => rw [drawAll, Expr.drawAll, here]
      | cons next others =>
          rw [drawAll, Expr.drawAll, here, hypothesis (List.cons_ne_nil _ _) there]
          · rfl
          · exact List.cons_ne_nil _ _
          · exact List.cons_ne_nil _ _

/-- Every well-formed expression can be drawn. -/
theorem draw_eq {expr : Expr} (wellFormed : WellFormed expr) (lead below : String) :
    draw lead below expr = .ok (expr.draw lead below) := by
  induction wellFormed generalizing lead below with
  | number value => rw [draw, Expr.draw]
  | symbol name => rw [draw, Expr.draw]
  | sum operands several ordered parts hypothesis =>
      have nonempty : operands ≠ [] := List.ne_nil_of_length_pos (by omega)
      rw [draw, Expr.draw, drawAll_eq nonempty hypothesis]
      rfl
  | product operands several ordered parts hypothesis =>
      have nonempty : operands ≠ [] := List.ne_nil_of_length_pos (by omega)
      rw [draw, Expr.draw, drawAll_eq nonempty hypothesis]
      rfl
  | power base exponent inner hypothesis =>
      rw [draw, Expr.draw, hypothesis]
      rfl

end Guarded
end ExactAlgebra
