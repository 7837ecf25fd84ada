import ExactAlgebra.Workbench.Plain

/-!
# Comparing values

Plain numbers compare with plain numbers, fractions with fractions and integers,
texts with texts, and expressions with expressions. Lists compare with lists, and
tuples with tuples, by the first elements that differ. All other values are
foreign to one another: they are never equal and have no order.
-/

namespace ExactAlgebra
namespace Workbench

/-- How two values relate. -/
inductive Relation
  | ordered (order : Ordering)
  /-- Neither value comes first, and they are not equal. -/
  | unordered
  /-- The kinds of the values have no common order. -/
  | foreign

namespace Atom

/-- How two values without parts relate. -/
def relation : Atom → Atom → Relation
  | node left, node right => .ordered (left.expr.compare right.expr)
  | text left, text right => .ordered (compare left right)
  | left, right =>
      match left.plain?, right.plain? with
      | some leftPlain, some rightPlain =>
          match leftPlain.order? rightPlain with
          | some order => .ordered order
          | none => .unordered
      | _, _ =>
          match left.exactNumber?, right.exactNumber? with
          | some leftExact, some rightExact => .ordered (leftExact.compare rightExact)
          | _, _ => .foreign

/-- Values are equal when their order says so, and nothing equals nothing. Stages
and pipelines made by different calls are never equal. -/
def same : Atom → Atom → Bool
  | nothing, nothing => true
  | left, right =>
      match left.relation right with
      | .ordered order => order = .eq
      | _ => false

/-- Both values are one and the same, although they are not equal. -/
def identical : Atom → Atom → Bool
  | undefined, undefined => true
  | _, _ => false

end Atom

namespace Value

/-- Both values are one and the same, although they are not equal. -/
def identical : Value → Value → Bool
  | atom left, atom right => left.identical right
  | _, _ => false

mutual
/-- Values are equal when they have the same shape and equal or identical parts.
Steps and traces made by different calls are never equal. -/
def same : Value → Value → Bool
  | atom left, atom right => left.same right
  | list left, list right => sameAll left right
  | tuple left, tuple right => sameAll left right
  | _, _ => false
/-- Two lists of values are equal element by element. -/
def sameAll : List Value → List Value → Bool
  | [], [] => true
  | left :: lefts, right :: rights =>
      (same left right || left.identical right) && sameAll lefts rights
  | _, _ => false
end

/-- The values count as one. -/
def alike (left right : Value) : Bool :=
  left.same right || left.identical right

/-- The values before and after a step differ. -/
def changed? : Value → Option Bool
  | step _ _ before after => some (!before.same after)
  | _ => none

mutual
/-- How two values relate. -/
def relation : Value → Value → Relation
  | atom left, atom right => left.relation right
  | list left, list right => relationAll left right
  | tuple left, tuple right => relationAll left right
  | _, _ => .foreign
/-- How two lists of values relate. -/
def relationAll : List Value → List Value → Relation
  | [], [] => .ordered .eq
  | [], _ :: _ => .ordered .lt
  | _ :: _, [] => .ordered .gt
  | left :: lefts, right :: rights =>
      if left.alike right then relationAll lefts rights else relation left right
end

end Value

/-- The ways to compare two values. -/
inductive Comparison
  | equal
  | different
  | less
  | lessOrEqual
  | greater
  | greaterOrEqual

namespace Comparison

/-- The comparison holds of values in the given order. -/
def holds : Comparison → Ordering → Bool
  | equal, order => order = .eq
  | different, order => order ≠ .eq
  | less, order => order = .lt
  | lessOrEqual, order => order ≠ .gt
  | greater, order => order = .gt
  | greaterOrEqual, order => order ≠ .lt

/-- Compare two values. Equality is decided for all values, the order only for
values that have a common one. -/
def decide? (comparison : Comparison) (left right : Value) : Option Bool :=
  match comparison with
  | equal => some (left.same right)
  | different => some (!left.same right)
  | comparison =>
      match left.relation right with
      | .ordered order => some (comparison.holds order)
      | .unordered => some false
      | .foreign => none

end Comparison

namespace Value

/-- Compare a value with an integer, or tell why it cannot be compared. -/
def compareWith (comparison : Comparison) (symbol : String) (number : Int) (value : Value) :
    Outcome Bool :=
  match comparison.decide? value (atom (.integer number)) with
  | some holds => .ok holds
  | none => .error (.mismatch (.unordered symbol value.typeName))

/-- The value is below zero. -/
def isBelowZero (value : Value) : Outcome Bool :=
  value.compareWith .less "<" 0

/-- The value equals zero. -/
def isZero (value : Value) : Bool :=
  value.same (atom (.integer 0))

end Value
end Workbench
end ExactAlgebra
