import Mathlib.Computability.StateTransition

/-!
# Loops that end

A loop takes turns until its state has no next one. A loop whose turns lower a natural
number ends from every state, and what no turn changes is the same at the end.
-/

namespace ExactAlgebra

open StateTransition

variable {State : Type} {next? : State → Option State}

/-- A loop ends if every turn lowers a number. -/
theorem exists_mem_eval
    (measure : State → Nat)
    (lowers : ∀ {state next}, next? state = some next → measure next < measure state)
    (state : State) :
    ∃ final, final ∈ eval next? state := by
  induction height : measure state using Nat.strong_induction_on generalizing state with
  | h height hypothesis =>
      cases turn : next? state with
      | none => exact ⟨state, mem_eval.mpr ⟨.refl, turn⟩⟩
      | some next =>
          obtain ⟨final, ends⟩ := hypothesis _ (height ▸ lowers turn) next rfl
          exact ⟨final, reaches_eval (.single turn) ▸ ends⟩

/-- What every turn keeps is the same in all states that the loop reaches. -/
theorem eq_of_reaches
    {Value : Type}
    {value : State → Value}
    (keeps : ∀ {state next}, next? state = some next → value next = value state)
    {state later : State}
    (reaches : Reaches next? state later) :
    value later = value state := by
  induction reaches with
  | refl => rfl
  | tail _ turn hypothesis => exact (keeps turn).trans hypothesis

end ExactAlgebra
