import ExactAlgebra.Proofs.CanonicalOrder
import ExactAlgebra.Proofs.FailingMap
import ExactAlgebra.Proofs.WellFormed.Checked

/-!
# Agreement of checked and plain computations

A checked computation agrees with a plain one when it ends in the same way, so that
no check refuses anything. Agreement is kept by sequencing and mapping. Sums and
products are built by constructors that arrange their operands, so what is built
from at least two well-formed operands passes the check and is well formed.
-/

namespace ExactAlgebra
namespace Checked

open ExactAlgebra.Expr ExactAlgebra.Workbench

/-! ## Computations with and without checks -/

/-- A checked computation ends as the plain one does, and a result is as required. -/
structure Agrees
    (required : α → Prop)
    (checked : Outcome α)
    (plain : Except RewriteError α) : Prop where
  same : checked = plain.mapError .rewrite
  meets : ∀ result, plain = .ok result → required result

section Agrees

variable {required : α → Prop} {further : β → Prop}
variable {checked : Outcome α} {plain : Except RewriteError α}

theorem Agrees.ok {value : α} (holds : required value) :
    Agrees required (.ok value) (.ok value) :=
  ⟨rfl, fun _ equal => Except.ok.inj equal ▸ holds⟩

theorem Agrees.error (cause : RewriteError) :
    Agrees required (.error (.rewrite cause)) (.error cause) :=
  ⟨rfl, nofun⟩

/-- What is not checked agrees with itself. -/
theorem Agrees.of_unchecked (meets : ∀ result, plain = .ok result → required result) :
    Agrees required (plain.mapError .rewrite) plain :=
  ⟨rfl, meets⟩

/-- Computations agree when their first parts do, and the rest does after every first
result. -/
theorem Agrees.bind
    {checkedNext : α → Outcome β}
    {plainNext : α → Except RewriteError β}
    (first : Agrees required checked plain)
    (rest : ∀ value, required value → Agrees further (checkedNext value) (plainNext value)) :
    Agrees further (checked >>= checkedNext) (plain >>= plainNext) := by
  obtain ⟨rfl, meets⟩ := first
  cases plain with
  | error cause => exact ⟨rfl, nofun⟩
  | ok value => exact rest value (meets value rfl)

/-- A first part that cannot fail may be left out of the plain computation. -/
theorem Agrees.bind_ok
    {checkedNext : α → Outcome β}
    {plainWhole : Except RewriteError β}
    {value : α}
    (first : Agrees required checked (.ok value))
    (rest : required value → Agrees further (checkedNext value) plainWhole) :
    Agrees further (checked >>= checkedNext) plainWhole := by
  obtain ⟨rfl, meets⟩ := first
  exact rest (meets value rfl)

variable {checkedEach : α → Outcome β} {inputs : List α}

/-- Mapping agrees when it does on every member, and gives one result for each. -/
theorem Agrees.mapM
    {plainEach : α → Except RewriteError β}
    (each : ∀ input ∈ inputs, Agrees further (checkedEach input) (plainEach input)) :
    Agrees (fun outputs => outputs.length = inputs.length ∧ ∀ output ∈ outputs, further output)
      (inputs.mapM checkedEach) (inputs.mapM plainEach) := by
  induction inputs with
  | nil => exact .ok ⟨rfl, nofun⟩
  | cons input inputs hypothesis =>
      obtain ⟨here, there⟩ := List.forall_mem_cons.mp each
      rw [List.mapM_cons, List.mapM_cons]
      refine here.bind fun first firstMeets => ?_
      refine (hypothesis there).bind fun others othersMeet => .ok ⟨?_, ?_⟩
      · exact congrArg Nat.succ othersMeet.1
      · exact List.forall_mem_cons.mpr ⟨firstMeets, othersMeet.2⟩

theorem Agrees.mapM_ok
    {result : α → β}
    (each : ∀ input ∈ inputs, Agrees further (checkedEach input) (.ok (result input))) :
    Agrees (∀ output ∈ ·, further output) (inputs.mapM checkedEach) (.ok (inputs.map result)) := by
  have mapped := Agrees.mapM each
  rw [mapM_eq_ok_map fun input _ => rfl] at mapped
  exact ⟨mapped.same, fun outputs equal => (mapped.meets outputs equal).2⟩

end Agrees

/-! ## Building -/

theorem agrees_sumOf
    {operands : List Expr}
    (several : 2 ≤ operands.length)
    (wellFormed : ∀ operand ∈ operands, WellFormed operand) :
    Agrees WellFormed (sumOf operands) (.ok (Expr.sumOf operands)) := by
  rw [sumOf, build, if_neg (by omega)]
  exact .ok (.sumOf several wellFormed)

theorem agrees_productOf
    {operands : List Expr}
    (several : 2 ≤ operands.length)
    (wellFormed : ∀ operand ∈ operands, WellFormed operand) :
    Agrees WellFormed (productOf operands) (.ok (Expr.productOf operands)) := by
  rw [productOf, build, if_neg (by omega)]
  exact .ok (.productOf several wellFormed)

theorem agrees_sumOfTerms
    {terms : List Expr}
    (wellFormed : ∀ term ∈ terms, WellFormed term) :
    Agrees WellFormed (sumOfTerms terms) (.ok (Expr.sumOfTerms terms)) := by
  match terms with
  | [] => exact .ok (.number 0)
  | [term] => exact .ok (wellFormed term List.mem_cons_self)
  | first :: second :: others => exact agrees_sumOf (by simp) wellFormed

theorem agrees_productOfFactors
    {factors : List Expr}
    (wellFormed : ∀ factor ∈ factors, WellFormed factor) :
    Agrees WellFormed (productOfFactors factors) (.ok (Expr.productOfFactors factors)) := by
  match factors with
  | [] => exact .ok (.number 1)
  | [factor] => exact .ok (wellFormed factor List.mem_cons_self)
  | first :: second :: others => exact agrees_productOf (by simp) wellFormed

theorem agrees_productOfSome
    {factors : List Expr}
    (nonempty : factors ≠ [])
    (wellFormed : ∀ factor ∈ factors, WellFormed factor) :
    Agrees WellFormed (productOfSome factors) (.ok (Expr.productOfFactors factors)) := by
  match factors with
  | [] => exact absurd rfl nonempty
  | [factor] => exact .ok (wellFormed factor List.mem_cons_self)
  | first :: second :: others => exact agrees_productOf (by simp) wellFormed

/-! ## Parts -/

/-- Splitting a well-formed expression into terms leaves one at least, and all of them
well formed. -/
theorem wellFormed_summands {expr : Expr} (wellFormed : WellFormed expr) :
    0 < expr.summands.length ∧ ∀ term ∈ expr.summands, WellFormed term := by
  cases expr with
  | sum operands =>
      cases wellFormed with
      | sum _ several _ parts => exact ⟨by rw [summands]; omega, parts⟩
  | _ => exact ⟨Nat.one_pos, List.forall_mem_singleton.mpr wellFormed⟩

theorem wellFormed_factors {expr : Expr} (wellFormed : WellFormed expr) :
    ∀ factor ∈ expr.factors, WellFormed factor := by
  cases expr with
  | product operands =>
      cases wellFormed with
      | product _ _ _ parts => exact parts
  | _ => exact List.forall_mem_singleton.mpr wellFormed

/-- Splicing sums into the list of their terms leaves no fewer terms than operands. -/
theorem wellFormed_flatMap_summands
    {operands : List Expr}
    (wellFormed : ∀ operand ∈ operands, WellFormed operand) :
    operands.length ≤ (operands.flatMap summands).length ∧
      ∀ term ∈ operands.flatMap summands, WellFormed term := by
  induction operands with
  | nil => exact ⟨Nat.le_refl 0, nofun⟩
  | cons operand operands hypothesis =>
      obtain ⟨here, there⟩ := List.forall_mem_cons.mp wellFormed
      obtain ⟨positive, terms⟩ := wellFormed_summands here
      obtain ⟨longer, others⟩ := hypothesis there
      rw [List.flatMap_cons, List.length_append, List.length_cons]
      refine ⟨by omega, fun term member => ?_⟩
      rcases List.mem_append.mp member with inFirst | inOthers
      · exact terms term inFirst
      · exact others term inOthers

end Checked
end ExactAlgebra
