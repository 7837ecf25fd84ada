import ExactAlgebra.Rewrite.Expand

/-!
# Powers that cannot be unrolled

Expansion writes out a power as many times as the numerator of its exponent says. A list
of copies has one place for each, and places are counted with integers of a fixed size,
so beyond a bound there is no such list, on whatever machine.

## Limits

Apart from that bound nothing runs out here. Integers have any number of digits, also
where they are read and written, texts have any length, and expressions nest to any depth.
A list that can be counted and addressed is held, however long it is. What is computed and
proved about numbers, expressions, passes, readers, printers and sessions is meant with
these limits.
-/

namespace ExactAlgebra

/-- Integers that count or place something lie below this bound and not below its
opposite. -/
def sizeBound : Nat := Nat.pow 2 63

/-- Every list has fewer elements than this. An element takes eight units of storage, and
the units are counted as well. -/
def lengthBound : Nat := Nat.pow 2 60

/-- What is written out when a power is unrolled. -/
inductive Repetition
  /-- The copies of an expression. -/
  | copies
  /-- The choices of a term of a sum, one for each copy of the sum. -/
  | choices
  deriving DecidableEq

/-- Why something cannot be written out that often. -/
inductive RepetitionError
  /-- No integer of the fixed size counts the repetitions. -/
  | uncounted (repetition : Repetition)
  /-- The repetitions are counted, but no list has a place for each. -/
  | unplaced (repetition : Repetition)
  deriving DecidableEq

namespace RepetitionError

/-- The wording of a refused repetition. -/
def message : RepetitionError → String
  | uncounted .copies => "cannot fit 'int' into an index-sized integer"
  | uncounted .choices => "int too large to convert to C ssize_t"
  | unplaced .copies => ""
  | unplaced .choices => "repeat argument too large"

end RepetitionError

namespace Repetition

/-- Why something cannot be written out `count` times, if it cannot. -/
def error? (repetition : Repetition) (count : Nat) : Option RepetitionError :=
  if count < lengthBound then none
  else if count < sizeBound then some (.unplaced repetition)
  else some (.uncounted repetition)

/-- What is written out when a power of an expanded base is unrolled. -/
def ofBase : Expr → Repetition
  | .sum _ => choices
  | _ => copies

end Repetition

namespace Expr

mutual
/-- Why the expansion of an expression breaks off, if it meets a power that cannot be
unrolled before it fails. -/
def repetitionError? : Expr → Option RepetitionError
  | number _ => none
  | symbol _ => none
  | sum operands => repetitionErrorAll? operands
  | product operands => repetitionErrorAll? operands
  | power base exponent =>
      if exponent = 0 then none
      else
        match repetitionError? base with
        | some cause => some cause
        | none =>
            if exponent.num.natAbs < lengthBound then none
            else
              match base.expand with
              | .error _ => none
              | .ok expanded => (Repetition.ofBase expanded).error? exponent.num.natAbs
/-- Why the expansion of a list of expressions breaks off. Those after one that fails are
not reached. -/
def repetitionErrorAll? : List Expr → Option RepetitionError
  | [] => none
  | operand :: operands =>
      match repetitionError? operand with
      | some cause => some cause
      | none =>
          match repetitionErrorAll? operands with
          | none => none
          | some cause =>
              match operand.expand with
              | .error _ => none
              | .ok _ => some cause
end

/-- The base of a power is expanded before the power is unrolled. -/
theorem repetitionError?_power (base : Expr) {exponent : Fraction} (nonzero : exponent ≠ 0) :
    (power base exponent).repetitionError? =
      base.repetitionError?.or (base.expand.toOption.bind fun expanded =>
        (Repetition.ofBase expanded).error? exponent.num.natAbs) := by
  rw [repetitionError?, if_neg nonzero]
  cases base.repetitionError? with
  | some cause => rfl
  | none =>
      cases base.expand with
      | error cause => exact ite_self none
      | ok expanded =>
          change (if _ then none else _) = Repetition.error? _ _
          split
          · rename_i short
            rw [Repetition.error?, if_pos short]
          · rfl

/-- The members of a list are expanded one after the other. -/
theorem repetitionErrorAll?_cons (operand : Expr) (operands : List Expr) :
    repetitionErrorAll? (operand :: operands) =
      operand.repetitionError?.or
        (operand.expand.toOption.bind fun _ => repetitionErrorAll? operands) := by
  rw [repetitionErrorAll?]
  cases operand.repetitionError? with
  | some cause => rfl
  | none => cases repetitionErrorAll? operands <;> cases operand.expand <;> rfl

end Expr
end ExactAlgebra
