import ExactAlgebra.Fraction.Arithmetic

/-!
# Tallies

A tally adds up fractions under keys. Every key occurs once, and the keys stand
in the order in which they first came up.
-/

namespace ExactAlgebra

/-- Totals under distinct keys, in the order of their first appearance. -/
abbrev Tally (α : Type) := List (α × Fraction)

namespace Tally

variable {α : Type} [DecidableEq α]

/-- Add an amount to the total of a key. -/
def insert (key : α) (amount : Fraction) : Tally α → Tally α
  | [] => [(key, amount)]
  | (other, total) :: rest =>
      if other = key then (other, total + amount) :: rest
      else (other, total) :: insert key amount rest

/-- The totals of a list of amounts. -/
def ofEntries (entries : List (α × Fraction)) : Tally α :=
  entries.foldl (fun tally entry => tally.insert entry.1 entry.2) []

end Tally
end ExactAlgebra
