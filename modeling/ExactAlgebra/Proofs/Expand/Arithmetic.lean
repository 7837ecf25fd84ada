import ExactAlgebra.Proofs.Polynomial.Expanded
import ExactAlgebra.Proofs.Simplify.Arithmetic
import ExactAlgebra.Proofs.WellFormed.Rewriting

/-!
# Expanding arithmetic expressions

Multiplying out an arithmetic expression keeps undefined parts: a sum has a term at
least, so each term of one factor still occurs in a product with some term of the
other. The one exception is a power with exponent zero. Expansion turns it into one
without a look into its base, unless the base is the literal zero. So expanding before
simplifying gives the value of the expression in which all these powers are replaced
by one, and this differs from the value of the expression exactly where it hides an
undefined part.
-/

namespace ExactAlgebra
namespace Expr

theorem isInherited_isArithmetic : IsInherited IsArithmetic where
  number := .number
  sum_iff _ := ⟨fun | .sum _ parts => parts, .sum _⟩
  product_iff _ := ⟨fun | .product _ parts => parts, .product _⟩
  base arithmetic := by
    cases arithmetic with
    | power _ _ inner => exact inner

end Expr

namespace Expand

open ExactAlgebra.Expr

theorem isArithmetic_unroll
    {base : Expr}
    (arithmetic : IsArithmetic base)
    (exponent : Int) :
    IsArithmetic (unroll base (.ofInt exponent)) := by
  have unrolled := isInherited_isArithmetic.repeated arithmetic exponent.natAbs
  rw [unroll, rootExponent_ofInt]
  split
  · exact unrolled
  · exact .power _ _ unrolled

/-! ## Undefined parts stay -/

section Undefined

variable {K : Type*} [CommRing K] [Algebra ℚ K] {assignment : Symbol → K}

/-- A product of two expressions is undefined if one of them is. -/
theorem eval_distribute_eq_none
    {left right : Expr}
    (leftWellFormed : WellFormed left)
    (rightWellFormed : WellFormed right)
    (undefined : left.eval assignment = none ∨ right.eval assignment = none) :
    (distribute left right).eval assignment = none := by
  have missing {leftTerm rightTerm : Expr}
      (inLeft : leftTerm ∈ left.summands)
      (inRight : rightTerm ∈ right.summands)
      (undefined : leftTerm.eval assignment = none ∨ rightTerm.eval assignment = none) :
      (distribute left right).eval assignment = none := by
    rw [distribute, eval_sumOfTerms, strictSum_map_eq_none_iff]
    refine ⟨Expr.productOf [leftTerm, rightTerm], ?_, ?_⟩
    · exact List.mem_flatMap.mpr ⟨leftTerm, inLeft, List.mem_map.mpr ⟨rightTerm, inRight, rfl⟩⟩
    · rw [eval_productOf, strictProduct_map_eq_none_iff]
      simpa using undefined
  rcases undefined with leftUndefined | rightUndefined
  · obtain ⟨other, inRight⟩ :=
      List.exists_mem_of_length_pos (Checked.wellFormed_summands rightWellFormed).1
    rw [← strictSum_summands, strictSum_map_eq_none_iff] at leftUndefined
    obtain ⟨term, inLeft, termUndefined⟩ := leftUndefined
    exact missing inLeft inRight (Or.inl termUndefined)
  · obtain ⟨other, inLeft⟩ :=
      List.exists_mem_of_length_pos (Checked.wellFormed_summands leftWellFormed).1
    rw [← strictSum_summands, strictSum_map_eq_none_iff] at rightUndefined
    obtain ⟨term, inRight, termUndefined⟩ := rightUndefined
    exact missing inLeft inRight (Or.inr termUndefined)

/-- A product of any number of expressions is undefined if one of them is. -/
theorem eval_distributeAll_eq_none
    {operands : List Expr}
    (wellFormed : ∀ operand ∈ operands, WellFormed operand)
    (undefined : ∃ operand ∈ operands, operand.eval assignment = none) :
    (distributeAll operands).eval assignment = none := by
  cases operands with
  | nil => simp at undefined
  | cons first others =>
      obtain ⟨firstWellFormed, othersWellFormed⟩ := List.forall_mem_cons.mp wellFormed
      rw [List.exists_mem_cons_iff] at undefined
      rw [distributeAll]
      clear wellFormed
      induction others generalizing first with
      | nil => simpa using undefined
      | cons second others hypothesis =>
          obtain ⟨secondWellFormed, rest⟩ := List.forall_mem_cons.mp othersWellFormed
          have productWellFormed :=
            (Checked.agrees_distribute firstWellFormed secondWellFormed).meets _ rfl
          rw [List.exists_mem_cons_iff, ← or_assoc] at undefined
          refine hypothesis _ ?_ productWellFormed rest
          exact undefined.imp_left (eval_distribute_eq_none firstWellFormed secondWellFormed)

/-- Multiplying out well-formed expressions gives their product, and no value where one
of them has none. -/
theorem eval_distributeAll_eq
    {operands : List Expr}
    (wellFormed : ∀ operand ∈ operands, WellFormed operand) :
    (distributeAll operands).eval assignment = strictProduct (operands.map (eval assignment)) := by
  cases found : strictProduct (operands.map (eval assignment)) with
  | some value => exact eval_distributeAll found
  | none =>
      exact eval_distributeAll_eq_none wellFormed (strictProduct_map_eq_none_iff.mp found)

theorem replicate_mem_selections
    {choices : List α}
    {choice : α}
    (member : choice ∈ choices)
    (count : Nat) :
    List.replicate count choice ∈ selections choices count := by
  induction count with
  | zero => exact List.mem_cons_self
  | succ count hypothesis =>
      exact List.mem_flatMap.mpr ⟨choice, member, List.mem_map.mpr ⟨_, hypothesis, rfl⟩⟩

/-- A repeated product is undefined if the base is. -/
theorem eval_repeated_eq_none
    {base : Expr}
    (undefined : base.eval assignment = none)
    {count : Nat}
    (positive : 0 < count) :
    (repeated count base).eval assignment = none := by
  have copies {factor : Expr} (undefined : factor.eval assignment = none) :
      (Expr.productOfFactors (List.replicate count factor)).eval assignment = none := by
    rw [eval_productOfFactors, strictProduct_map_eq_none_iff]
    exact ⟨factor, List.mem_replicate.mpr ⟨positive.ne', rfl⟩, undefined⟩
  cases base with
  | sum operands =>
      rw [eval_sum, strictSum_map_eq_none_iff] at undefined
      obtain ⟨term, member, termUndefined⟩ := undefined
      rw [repeated, eval_sumOfTerms, strictSum_map_eq_none_iff]
      refine ⟨Expr.productOfFactors (List.replicate count term), ?_, copies termUndefined⟩
      exact List.mem_map.mpr ⟨_, replicate_mem_selections member count, rfl⟩
  | _ => exact copies undefined

end Undefined

/-- Unrolling an integer power gives its value over the rational numbers, and no value
where it has none. -/
theorem eval_unroll_eq
    {assignment : Symbol → ℚ}
    (base : Expr)
    {exponent : Int}
    (nonzero : exponent ≠ 0) :
    (unroll base (.ofInt exponent)).eval assignment =
      (power base (.ofInt exponent)).eval assignment := by
  have literalNonzero : Fraction.ofInt exponent ≠ 0 := mt Fraction.ofInt_eq_zero_iff.mp nonzero
  have positive : 0 < exponent.natAbs := Int.natAbs_pos.mpr nonzero
  rw [eval_power]
  cases baseValue : base.eval assignment with
  | none =>
      have unrolled := eval_repeated_eq_none baseValue positive
      rw [unroll, Fraction.num_ofInt]
      split
      · exact unrolled
      · rw [eval_power, unrolled]
        rfl
  | some value =>
      rw [Option.bind_some, rationalPower_ofInt]
      cases found : integerPower value exponent with
      | some result => exact eval_unroll literalNonzero baseValue found
      | none =>
          rw [integerPower_rat, ite_eq_left_iff] at found
          have excluded : value = 0 ∧ exponent ≤ 0 := by
            by_contra defined
            cases found defined
          have negative : exponent < 0 := by omega
          have unrolled := eval_repeated baseValue exponent.natAbs
          rw [excluded.1, zero_pow positive.ne'] at unrolled
          rw [unroll, if_neg fun both => absurd both.2 (not_lt.mpr excluded.2), eval_power,
            Fraction.num_ofInt, unrolled, Option.bind_some, rootExponent_ofInt,
            Int.sign_eq_neg_one_of_neg negative, rationalPower_ofInt, integerPower_rat,
            if_pos ⟨rfl, by decide⟩]

end Expand

namespace Expr

/-! ## Powers with exponent zero -/

mutual
/-- The expression with one in place of every power with exponent zero whose base is
not the literal zero. -/
def dropZeroPowers : Expr → Expr
  | number value => number value
  | symbol name => symbol name
  | sum operands => sum (dropAllZeroPowers operands)
  | product operands => product (dropAllZeroPowers operands)
  | power base exponent =>
      if exponent = 0 ∧ base ≠ 0 then 1 else power (dropZeroPowers base) exponent
/-- A list of expressions with one in place of such powers. -/
def dropAllZeroPowers : List Expr → List Expr
  | [] => []
  | operand :: operands => dropZeroPowers operand :: dropAllZeroPowers operands
end

theorem dropAllZeroPowers_eq_map (operands : List Expr) :
    dropAllZeroPowers operands = operands.map dropZeroPowers := by
  induction operands with
  | nil => rw [dropAllZeroPowers, List.map_nil]
  | cons operand operands hypothesis => rw [dropAllZeroPowers, hypothesis, List.map_cons]

/-- A power with exponent zero that has a value has the value one, so replacing it by
one keeps values. -/
theorem eval_dropZeroPowers
    {K : Type*} [CommRing K] [Algebra ℚ K]
    {assignment : Symbol → K}
    {expr : Expr}
    {value : K}
    (defined : expr.eval assignment = some value) :
    expr.dropZeroPowers.eval assignment = some value := by
  have kept {operands : List Expr}
      (each : ∀ operand ∈ operands, ∀ {value : K}, operand.eval assignment = some value →
        operand.dropZeroPowers.eval assignment = some value) :
      List.Forall₂
        (fun left right => ∀ value : K,
          left.eval assignment = some value → right.eval assignment = some value)
        operands (operands.map dropZeroPowers) := by
    rw [List.forall₂_map_right_iff, List.forall₂_same]
    exact fun operand member _ => each operand member
  induction expr generalizing value with
  | number constant => rwa [dropZeroPowers]
  | symbol name => rwa [dropZeroPowers]
  | sum operands hypothesis =>
      rw [eval_sum] at defined
      rw [dropZeroPowers, dropAllZeroPowers_eq_map, eval_sum]
      exact strictFold_forall₂ _ _ (kept hypothesis) defined
  | product operands hypothesis =>
      rw [eval_product] at defined
      rw [dropZeroPowers, dropAllZeroPowers_eq_map, eval_product]
      exact strictFold_forall₂ _ _ (kept hypothesis) defined
  | power base exponent hypothesis =>
      obtain ⟨inner, baseValue, power⟩ := (eval_power_eq_some_iff assignment).mp defined
      rw [dropZeroPowers]
      split
      · rename_i dropped
        rw [dropped.1] at power
        rw [eval_one, eq_one_of_rationalPower_zero power]
      · exact (eval_power_eq_some_iff assignment).mpr ⟨inner, hypothesis baseValue, power⟩

/-- A rewriting ends with an arithmetic expression that has the given value, if any, or
with the refusal of an undefined power where there is no value. -/
inductive ReducesTo (assignment : Symbol → ℚ) (value : Option ℚ) :
    Except RewriteError Expr → Prop
  | ok
      (result : Expr)
      (arithmetic : IsArithmetic result)
      (same : result.eval assignment = value) :
      ReducesTo assignment value (.ok result)
  | error
      (cause : RewriteError)
      (undefined : cause.IsUndefinedPower)
      (missing : value = none) :
      ReducesTo assignment value (.error cause)

section ReducesTo

variable {assignment : Symbol → ℚ}

theorem ReducesTo.of_ok
    {value : Option ℚ}
    {result : Expr}
    (reduces : ReducesTo assignment value (.ok result)) :
    IsArithmetic result ∧ result.eval assignment = value := by
  cases reduces with
  | ok _ arithmetic same => exact ⟨arithmetic, same⟩

/-- Rewriting the operands first and putting the results together afterwards keeps the
strict total of their values. -/
theorem reducesTo_mapM_bind
    {rewrite : Expr → Except RewriteError Expr}
    {value : Expr → Option ℚ}
    {operands : List Expr}
    {assemble : List Expr → Expr}
    {op : ℚ → ℚ → ℚ}
    {unit : ℚ}
    (each : ∀ operand ∈ operands, ReducesTo assignment (value operand) (rewrite operand))
    (assembles : ∀ results, operands.mapM rewrite = .ok results →
      (∀ result ∈ results, IsArithmetic result) →
        IsArithmetic (assemble results) ∧
          (assemble results).eval assignment =
            strictFold op unit (results.map (eval assignment))) :
    ReducesTo assignment (strictFold op unit (operands.map value))
      (operands.mapM rewrite >>= fun results => .ok (assemble results)) := by
  cases mapped : operands.mapM rewrite with
  | error cause =>
      obtain ⟨operand, member, refused⟩ := exists_of_mapM_eq_error mapped
      have here := each operand member
      rw [refused] at here
      cases here with
      | error _ undefined missing =>
          refine .error cause undefined ((strictFold_eq_none_iff op unit).mpr ?_)
          exact List.mem_map.mpr ⟨operand, member, missing⟩
  | ok results =>
      have arithmetic : ∀ result ∈ results, IsArithmetic result := by
        intro result inResults
        obtain ⟨operand, member, found⟩ := exists_of_mem_mapM mapped inResults
        exact (found ▸ each operand member).of_ok.1
      have same : operands.map value = results.map (eval assignment) := by
        rw [← List.forall₂_eq_eq_eq, List.forall₂_map_left_iff, List.forall₂_map_right_iff]
        refine forall₂_of_mapM_eq_ok mapped fun operand member result found => ?_
        exact (found ▸ each operand member).of_ok.2.symm
      obtain ⟨assembledArithmetic, assembledValue⟩ := assembles results mapped arithmetic
      exact .ok _ assembledArithmetic (by rw [assembledValue, same])

end ReducesTo

/-- A power with exponent zero is refused for the literal zero, and is one otherwise. -/
theorem reducesTo_expand_zeroPower
    (assignment : Symbol → ℚ)
    {base : Expr}
    (arithmetic : IsArithmetic base) :
    ReducesTo assignment ((power base 0).dropZeroPowers.eval assignment)
      (power base 0).expand := by
  rw [expand, if_pos rfl, dropZeroPowers, checkZeroExponent, arithmetic.containsSymbols_eq_false]
  by_cases literal : base = 0
  · subst literal
    rw [if_pos rfl, if_neg fun both => both.2 rfl]
    refine .error .zeroToTheZero (Or.inr rfl) ?_
    have zero : dropZeroPowers 0 = 0 := dropZeroPowers.eq_1 0
    rw [zero, eval_power, eval_zero, Option.bind_some]
    exact (integerPower_rat 0 0).trans (if_pos ⟨rfl, le_rfl⟩)
  · rw [if_neg literal, if_neg Bool.false_ne_true, if_pos ⟨rfl, literal⟩]
    exact .ok 1 (.number 1) rfl

/-- Expansion reduces an arithmetic expression to one with the value that is left when
powers with exponent zero are dropped. -/
theorem IsArithmetic.reducesTo_expand
    (assignment : Symbol → ℚ)
    {expr : Expr}
    (arithmetic : IsArithmetic expr)
    (wellFormed : WellFormed expr) :
    ReducesTo assignment (expr.dropZeroPowers.eval assignment) expr.expand := by
  induction arithmetic with
  | number value =>
      rw [expand, dropZeroPowers]
      exact .ok _ (.number value) rfl
  | sum operands _ hypothesis =>
      cases wellFormed with
      | sum _ _ _ parts =>
          rw [expand, expandAll_eq_mapM, dropZeroPowers, dropAllZeroPowers_eq_map, eval_sum,
            List.map_map]
          refine reducesTo_mapM_bind (fun operand member => hypothesis operand member
            (parts operand member)) fun results _ arithmetic => ⟨?_, ?_⟩
          · exact isInherited_isArithmetic.sumOf (isInherited_isArithmetic.flatMap_summands arithmetic)
          · rw [eval_sumOf, strictSum_flatMap_summands]
            rfl
  | product operands _ hypothesis =>
      cases wellFormed with
      | product _ _ _ parts =>
          rw [expand, expandAll_eq_mapM, dropZeroPowers, dropAllZeroPowers_eq_map, eval_product,
            List.map_map]
          refine reducesTo_mapM_bind (fun operand member => hypothesis operand member
            (parts operand member)) fun results mapped arithmetic => ⟨?_, ?_⟩
          · exact isInherited_isArithmetic.distributeAll arithmetic
          · refine Expand.eval_distributeAll_eq fun result inResults => ?_
            obtain ⟨operand, member, found⟩ := exists_of_mem_mapM mapped inResults
            exact (Checked.agreesOnWellFormed_expand operand (parts operand member)).meets _ found
  | power base exponent arithmetic hypothesis =>
      cases wellFormed with
      | power _ _ inner =>
          by_cases isZero : exponent = 0
          · subst isZero
            exact reducesTo_expand_zeroPower assignment arithmetic
          · have nonzero : Fraction.ofInt exponent ≠ 0 := mt Fraction.ofInt_eq_zero_iff.mp isZero
            rw [expand, dropZeroPowers, if_neg nonzero, if_neg fun both => nonzero both.1]
            cases found : base.expand with
            | error cause =>
                cases found ▸ hypothesis inner with
                | error _ undefined missing =>
                    refine .error cause undefined ?_
                    rw [eval_power, missing]
                    rfl
            | ok result =>
                obtain ⟨resultArithmetic, same⟩ := (found ▸ hypothesis inner).of_ok
                change ReducesTo assignment _ (.ok (if _ then _ else _))
                rw [eval_power, ← same, ← eval_power]
                split
                · rename_i isOne
                  refine .ok result resultArithmetic ?_
                  rw [isOne, eval_power]
                  simp only [rationalPower_one, Option.bind_fun_some]
                · exact .ok _ (Expand.isArithmetic_unroll resultArithmetic exponent)
                    (Expand.eval_unroll_eq result isZero)

/-- Expanding and then simplifying evaluates an arithmetic expression without its powers
with exponent zero. -/
theorem IsArithmetic.evaluates_simplify_expand
    (assignment : Symbol → ℚ)
    {expr : Expr}
    (arithmetic : IsArithmetic expr)
    (wellFormed : WellFormed expr) :
    Evaluates (expr.expand >>= simplify) (expr.dropZeroPowers.eval assignment) := by
  cases found : expr.expand with
  | error cause =>
      cases found ▸ arithmetic.reducesTo_expand assignment wellFormed with
      | error _ undefined missing =>
          rw [missing]
          exact ⟨cause, rfl, undefined⟩
  | ok result =>
      obtain ⟨resultArithmetic, same⟩ :=
        (found ▸ arithmetic.reducesTo_expand assignment wellFormed).of_ok
      rw [← same]
      exact resultArithmetic.evaluates_simplify assignment

/-- Two rewritings end with the same constant, or both fail. -/
def AgreeOnConstants (left right : Except RewriteError Expr) : Prop :=
  (∃ value, left = .ok (number value) ∧ right = .ok (number value)) ∨
    (∃ cause, left = .error cause) ∧ ∃ cause, right = .error cause

/-- Rewritings that evaluate agree exactly when they have the same value. -/
theorem agreeOnConstants_iff_of_evaluates
    {left right : Except RewriteError Expr}
    {first second : Option ℚ}
    (leftEvaluates : Evaluates left first)
    (rightEvaluates : Evaluates right second) :
    AgreeOnConstants left right ↔ first = second := by
  cases first with
  | none =>
      obtain ⟨cause, rfl, _⟩ := leftEvaluates
      cases second with
      | none =>
          obtain ⟨other, rfl, _⟩ := rightEvaluates
          simp [AgreeOnConstants]
      | some value =>
          cases rightEvaluates
          simp [AgreeOnConstants]
  | some value =>
      cases leftEvaluates
      cases second with
      | none =>
          obtain ⟨other, rfl, _⟩ := rightEvaluates
          simp [AgreeOnConstants]
      | some other =>
          cases rightEvaluates
          rw [Option.some_inj]
          constructor
          · rintro (⟨_, same, sameOther⟩ | ⟨⟨_, failed⟩, _⟩)
            · injection same.trans sameOther.symm with sameConstant
              injection sameConstant with sameFraction
              exact congrArg Fraction.toRat sameFraction
            · cases failed
          · rintro rfl
            exact Or.inl ⟨.ofRat value, rfl, rfl⟩

/-- Expanding first agrees with simplifying alone exactly where dropping the powers with
exponent zero keeps the value, or keeps the expression undefined. A value that
simplification finds is never lost. -/
theorem agreeOnConstants_simplify_expand_iff
    (assignment : Symbol → ℚ)
    {expr : Expr}
    (arithmetic : IsArithmetic expr)
    (wellFormed : WellFormed expr) :
    (AgreeOnConstants expr.simplify (expr.expand >>= simplify) ↔
        expr.eval assignment = expr.dropZeroPowers.eval assignment) ∧
      ∀ value, expr.simplify = .ok (number value) →
        (expr.expand >>= simplify) = .ok (number value) := by
  have alone := arithmetic.evaluates_simplify assignment
  have expanded := arithmetic.evaluates_simplify_expand assignment wellFormed
  refine ⟨agreeOnConstants_iff_of_evaluates alone expanded, fun value success => ?_⟩
  cases found : expr.eval assignment with
  | none =>
      obtain ⟨cause, refused, _⟩ := found ▸ alone
      cases success.symm.trans refused
  | some other =>
      rw [found, success] at alone
      rw [eval_dropZeroPowers found] at expanded
      exact expanded.trans alone.symm

/-- The sum of one and two, to the exponent zero, times three. -/
def tripledZeroPower : Expr :=
  product [number (.ofInt 3), power (sum [number (.ofInt 1), number (.ofInt 2)]) (.ofInt 0)]

theorem agreeOnConstants_simplify_expand_tripledZeroPower :
    IsArithmetic tripledZeroPower ∧ WellFormed tripledZeroPower ∧
      tripledZeroPower.eval (fun _ => (0 : ℚ)) =
          tripledZeroPower.dropZeroPowers.eval (fun _ => (0 : ℚ)) ∧
        (tripledZeroPower.expand >>= simplify) = .ok (number (.ofInt 3)) := by
  have arithmetic : IsArithmetic tripledZeroPower :=
    .product _ (by
      simpa using ⟨.number _, .power _ _ (.sum _ (by simpa using ⟨.number _, .number _⟩))⟩)
  have wellFormed : WellFormed tripledZeroPower :=
    .product _ le_rfl (by decide) (by
      simpa using ⟨.number _, .power _ _ (.sum _ le_rfl (by decide)
        (by simpa using ⟨.number _, .number _⟩))⟩)
  have alone : tripledZeroPower.simplify = .ok (number (.ofInt 3)) := by
    decide +kernel
  obtain ⟨agreement, kept⟩ :=
    agreeOnConstants_simplify_expand_iff (fun _ => 0) arithmetic wellFormed
  have expanded := kept (.ofInt 3) alone
  exact ⟨arithmetic, wellFormed, agreement.mp (Or.inl ⟨.ofInt 3, alone, expanded⟩), expanded⟩

/-- Zero to the exponent zero, to the exponent zero. -/
def nestedZeroPower : Expr :=
  power (power 0 (.ofInt 0)) (.ofInt 0)

/-- Expansion hides the undefined base of a power with exponent zero. -/
theorem not_agreeOnConstants_nestedZeroPower :
    IsArithmetic nestedZeroPower ∧ WellFormed nestedZeroPower ∧
      nestedZeroPower.simplify = .error .zeroToTheZero ∧
        (nestedZeroPower.expand >>= simplify) = .ok (number 1) ∧
          ¬AgreeOnConstants nestedZeroPower.simplify (nestedZeroPower.expand >>= simplify) := by
  have alone : nestedZeroPower.simplify = .error .zeroToTheZero := by
    decide +kernel
  have expanded : (nestedZeroPower.expand >>= simplify) = .ok (number 1) := by
    decide +kernel
  refine ⟨.power _ _ (.power _ _ (.number 0)), .power _ _ (.power _ _ (.number 0)), alone,
    expanded, ?_⟩
  rw [alone, expanded]
  simp [AgreeOnConstants]

end Expr
end ExactAlgebra
