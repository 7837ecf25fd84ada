import ExactAlgebra.Rewrite.Weight
import Mathlib.Data.List.Forall2

/-!
# Mapping a function that may fail

A function that may fail maps a list to the list of its results, member by
member, when it fails on no member. Mapping the cause of a failure changes no
result. A run over a list stops where a step fails, and goes on with the rest of the
list otherwise.
-/

namespace ExactAlgebra

/-- What succeeds with its causes mapped succeeds with the same result. -/
theorem eq_ok_of_mapError_eq_ok
    {attempt : Except ε α}
    {cause : ε → δ}
    {result : α}
    (mapped : attempt.mapError cause = .ok result) :
    attempt = .ok result := by
  cases attempt with
  | error failure => cases mapped
  | ok found => cases mapped; rfl

/-- Causes may be mapped before or after two computations are put together. -/
theorem mapError_bind
    (attempt : Except ε α)
    (next : α → Except ε β)
    (cause : ε → δ) :
    (attempt >>= next).mapError cause =
      attempt.mapError cause >>= fun found => (next found).mapError cause := by
  cases attempt <;> rfl

variable {function : α → Except ε β}

/-- Mapping succeeds with the lists whose members are the results one by one. -/
theorem mapM_eq_ok_iff {inputs : List α} {outputs : List β} :
    inputs.mapM function = .ok outputs ↔
      List.Forall₂ (fun input output => function input = .ok output) inputs outputs := by
  induction inputs generalizing outputs with
  | nil =>
      rw [List.mapM_nil, List.forall₂_nil_left_iff]
      exact ⟨fun success => (Except.ok.inj success).symm, fun equal => equal ▸ rfl⟩
  | cons input inputs hypothesis =>
      rw [List.mapM_cons, List.forall₂_cons_left_iff]
      constructor
      · intro success
        obtain ⟨output, first, rest⟩ := except_bind_eq_ok success
        obtain ⟨others, second, last⟩ := except_bind_eq_ok rest
        exact ⟨output, others, first, hypothesis.mp second, (Except.ok.inj last).symm⟩
      · rintro ⟨output, others, first, rest, rfl⟩
        rw [first, hypothesis.mpr rest]
        rfl

/-- What holds of every member and its result holds along the lists. -/
theorem forall₂_of_mapM_eq_ok
    {relation : α → β → Prop}
    {inputs : List α}
    {outputs : List β}
    (success : inputs.mapM function = .ok outputs)
    (each : ∀ input ∈ inputs, ∀ output, function input = .ok output → relation input output) :
    List.Forall₂ relation inputs outputs := by
  have mapped := mapM_eq_ok_iff.mp success
  induction mapped with
  | nil => exact .nil
  | @cons input output inputs outputs here there hypothesis =>
      refine .cons (each input List.mem_cons_self output here) ?_
      exact hypothesis (mapM_eq_ok_iff.mpr there)
        fun other member => each other (List.mem_cons_of_mem _ member)

/-- Every result of a mapping comes from a member. -/
theorem exists_of_mem_mapM
    {inputs : List α}
    {outputs : List β}
    (success : inputs.mapM function = .ok outputs)
    {output : β}
    (member : output ∈ outputs) :
    ∃ input ∈ inputs, function input = .ok output := by
  have mapped := mapM_eq_ok_iff.mp success
  induction mapped with
  | nil => cases member
  | @cons input first inputs rest here there hypothesis =>
      rcases List.mem_cons.mp member with equal | inRest
      · exact ⟨input, List.mem_cons_self, equal ▸ here⟩
      · obtain ⟨source, belongs, result⟩ := hypothesis (mapM_eq_ok_iff.mpr there) inRest
        exact ⟨source, List.mem_cons_of_mem _ belongs, result⟩

/-- The cause of a failed mapping is that of a member. -/
theorem exists_of_mapM_eq_error
    {inputs : List α}
    {cause : ε}
    (failure : inputs.mapM function = .error cause) :
    ∃ input ∈ inputs, function input = .error cause := by
  induction inputs with
  | nil => cases failure
  | cons input inputs hypothesis =>
      rw [List.mapM_cons] at failure
      rcases except_bind_eq_error failure with first | ⟨_, _, later⟩
      · exact ⟨input, List.mem_cons_self, first⟩
      · rcases except_bind_eq_error later with rest | ⟨_, _, last⟩
        · obtain ⟨member, belongs, failed⟩ := hypothesis rest
          exact ⟨member, List.mem_cons_of_mem _ belongs, failed⟩
        · cases last

/-- A function that maps every member to a known result maps the list to the results. -/
theorem mapM_eq_ok_map
    {inputs : List α}
    {result : α → β}
    (each : ∀ input ∈ inputs, function input = .ok (result input)) :
    inputs.mapM function = .ok (inputs.map result) := by
  rw [mapM_eq_ok_iff, List.forall₂_map_right_iff, List.forall₂_same]
  exact each

/-- Mapping with other causes is mapping with the causes changed. -/
theorem mapM_mapError
    {other : α → Except δ β}
    {cause : ε → δ}
    {inputs : List α}
    (agree : ∀ input ∈ inputs, other input = (function input).mapError cause) :
    inputs.mapM other = (inputs.mapM function).mapError cause := by
  induction inputs with
  | nil => rfl
  | cons input inputs hypothesis =>
      obtain ⟨here, there⟩ := List.forall_mem_cons.mp agree
      rw [List.mapM_cons, List.mapM_cons, here, hypothesis there, mapError_bind]
      congr 1
      funext first
      rw [mapError_bind]
      rfl

/-! ## Runs -/

variable {step : σ → α → Except ε σ} {inputs : List α} {start : σ}

/-- Steps that agree up to their causes while an invariant holds make runs that do. -/
theorem foldlM_mapError
    {other : σ → α → Except δ σ}
    {cause : ε → δ}
    {invariant : σ → Prop}
    (agree : ∀ state input, invariant state → other state input = (step state input).mapError cause)
    (kept : ∀ state input next, invariant state → step state input = .ok next → invariant next)
    (initial : invariant start) :
    inputs.foldlM other start = (inputs.foldlM step start).mapError cause := by
  induction inputs generalizing start with
  | nil => rfl
  | cons input inputs hypothesis =>
      rw [List.foldlM_cons, List.foldlM_cons, agree start input initial]
      cases first : step start input with
      | error failure => rfl
      | ok next => exact hypothesis (kept start input next initial first)

theorem foldlM_append_of_eq_ok
    {middle : σ}
    (ran : inputs.foldlM step start = .ok middle)
    (others : List α) :
    (inputs ++ others).foldlM step start = others.foldlM step middle := by
  rw [List.foldlM_append, ran]
  rfl

theorem foldlM_append_of_eq_error
    {cause : ε}
    (stopped : inputs.foldlM step start = .error cause)
    (others : List α) :
    (inputs ++ others).foldlM step start = .error cause := by
  rw [List.foldlM_append, stopped]
  rfl

end ExactAlgebra
