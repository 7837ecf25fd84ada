import ExactAlgebra.Workbench.Fault
import ExactAlgebra.Workbench.Value

/-!
# Plain numbers

Integers and double-precision numbers, with truth values counting as integers.
Integers stay exact among themselves; with a double-precision number they are
turned into one. Comparisons are always exact.
-/

namespace ExactAlgebra
namespace Workbench

/-- A plain number. -/
inductive Plain
  | whole (value : Int)
  | binary (value : Binary64)

namespace Plain

/-- The number in double precision. An integer may be out of reach. -/
def toBinary : Plain → Outcome Binary64
  | binary value => .ok value
  | whole value =>
      match Binary64.ofInt value with
      | .infinite _ => .error (.overflow .integer)
      | result => .ok result

/-- Apply an operation on integers, or the one on double-precision numbers when
one of the numbers is one. -/
def combine (wholes : Int → Int → Int) (binaries : Binary64 → Binary64 → Binary64)
    (left right : Plain) : Outcome Plain :=
  match left, right with
  | whole left, whole right => return whole (wholes left right)
  | left, right => do
      let left ← left.toBinary
      let right ← right.toBinary
      return binary (binaries left right)

/-- The quotient of two integers in double precision, rounded once. -/
def wholeQuotient (left right : Int) : Outcome Plain :=
  if right = 0 then .error (.divisionByZero false)
  else
    match Binary64.round ((left < 0) != (right < 0)) left.natAbs right.natAbs with
    | .infinite _ => .error (.overflow .quotient)
    | result => .ok (binary result)

/-- The quotient in double precision. -/
def quotient (left right : Plain) : Outcome Plain :=
  match left, right with
  | whole left, whole right => wholeQuotient left right
  | left, right => do
      let left ← left.toBinary
      let right ← right.toBinary
      if right.isZero then throw (.divisionByZero true)
      else return binary (left.div right)

/-- The number with the other sign. -/
def negate : Plain → Plain
  | whole value => whole (-value)
  | binary value => binary value.neg

/-- The magnitude. -/
def magnitude : Plain → Plain
  | whole value => whole value.natAbs
  | binary value => binary value.abs

/-- The exact value of a finite number, as numerator and denominator. -/
def ratio? : Plain → Option (Int × Nat)
  | whole value => some (value, 1)
  | binary value => value.ratio?

/-- The exact order of two numbers, if both are defined. -/
def order? (left right : Plain) : Option Ordering :=
  match left, right with
  | binary .undefined, _ => none
  | _, binary .undefined => none
  | binary (.infinite leftNegative), binary (.infinite rightNegative) =>
      some (compare (!leftNegative) (!rightNegative))
  | binary (.infinite negative), _ => some (if negative then .lt else .gt)
  | _, binary (.infinite negative) => some (if negative then .gt else .lt)
  | left, right => do
      let (leftNum, leftDen) ← left.ratio?
      let (rightNum, rightDen) ← right.ratio?
      return compare (leftNum * rightDen) (rightNum * leftDen)

/-- The value of a plain number. -/
def value : Plain → Value
  | whole value => .atom (.integer value)
  | binary value => .atom (.binary value)

end Plain

/-- The plain number of a value. -/
def Atom.plain? : Atom → Option Plain
  | .truth value => some (.whole (if value then 1 else 0))
  | .integer value => some (.whole value)
  | .binary value => some (.binary value)
  | .undefined => some (.binary .undefined)
  | _ => none

/-- A fraction, or an integer taken as one. -/
def Atom.exactNumber? : Atom → Option Fraction
  | .fraction value => some value.value
  | .integer value => some (.ofInt value)
  | _ => none

namespace Value

/-- The plain number of a value. -/
def plain? : Value → Option Plain
  | atom value => value.plain?
  | _ => none

/-- A fraction, or an integer taken as one. -/
def exactNumber? : Value → Option Fraction
  | atom value => value.exactNumber?
  | _ => none

/-- The integer of a value, a truth value counting as zero or one. -/
def integer? (value : Value) : Option Int :=
  match value.plain? with
  | some (.whole number) => some number
  | _ => none

end Value
end Workbench
end ExactAlgebra
