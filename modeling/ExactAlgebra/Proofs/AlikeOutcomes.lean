import ExactAlgebra.Proofs.FailingMap

/-!
# Computations that end alike

Two computations end alike if both succeed, with results that are related, or both fail,
for whatever causes. Ending alike is kept by going on in ways that end alike on related
results.

A function that may fail maps a list to the list of its results. On a list in another
order it fails as well if it fails at all, though perhaps for the cause of another member,
and otherwise it gives the same results in another order.
-/

namespace ExactAlgebra

/-- Both computations succeed with related results, or both fail. -/
inductive EndAlike (related : α → β → Prop) : Except ε α → Except δ β → Prop
  | ok {left : α} {right : β}
      (results : related left right) :
      EndAlike related (.ok left) (.ok right)
  | error (left : ε) (right : δ) : EndAlike related (.error left) (.error right)

namespace EndAlike

variable {related : α → β → Prop}

theorem refl
    {related : α → α → Prop}
    {attempt : Except ε α}
    (same : ∀ result, attempt = .ok result → related result result) :
    EndAlike related attempt attempt := by
  cases attempt with
  | ok result => exact .ok (same result rfl)
  | error cause => exact .error cause cause

theorem mono
    {further : α → β → Prop}
    {left : Except ε α}
    {right : Except δ β}
    (alike : EndAlike related left right)
    (implies : ∀ left right, related left right → further left right) :
    EndAlike further left right := by
  cases alike with
  | ok results => exact .ok (implies _ _ results)
  | error => exact .error _ _

theorem trans
    {next : β → γ → Prop}
    {left : Except ε α}
    {middle : Except δ β}
    {right : Except η γ}
    (first : EndAlike related left middle)
    (second : EndAlike next middle right) :
    EndAlike (fun left right => ∃ middle, related left middle ∧ next middle right) left right := by
  cases first with
  | ok results =>
      cases second with
      | ok others => exact .ok ⟨_, results, others⟩
  | error =>
      cases second with
      | error => exact .error _ _

/-- Computations that end alike may go on in ways that end alike. -/
theorem bind
    {further : α' → β' → Prop}
    {left : Except ε α}
    {right : Except δ β}
    {leftNext : α → Except ε α'}
    {rightNext : β → Except δ β'}
    (alike : EndAlike related left right)
    (next : ∀ leftResult rightResult, right = .ok rightResult →
      related leftResult rightResult →
        EndAlike further (leftNext leftResult) (rightNext rightResult)) :
    EndAlike further (left >>= leftNext) (right >>= rightNext) := by
  cases alike with
  | ok results => exact next _ _ rfl results
  | error => exact .error _ _

/-- Both computations succeed, or none. -/
theorem exists_ok_iff
    {left : Except ε α}
    {right : Except δ β}
    (alike : EndAlike related left right) :
    (∃ result, left = .ok result) ↔ ∃ result, right = .ok result := by
  cases alike with
  | ok => exact ⟨fun _ => ⟨_, rfl⟩, fun _ => ⟨_, rfl⟩⟩
  | error => exact ⟨nofun, nofun⟩

/-! ## Mapping -/

theorem mapM_forall₂
    {first : γ → Except ε α}
    {second : κ → Except δ β}
    {lefts : List γ}
    {rights : List κ}
    (each : List.Forall₂ (fun left right => EndAlike related (first left) (second right))
      lefts rights) :
    EndAlike (List.Forall₂ related) (lefts.mapM first) (rights.mapM second) := by
  induction each with
  | nil => exact .ok .nil
  | cons here _ hypothesis =>
      rw [List.mapM_cons, List.mapM_cons]
      exact here.bind fun _ _ _ results =>
        hypothesis.bind fun _ _ _ others => .ok (.cons results others)

/-- The order of a list decides the order of the results only. -/
theorem mapM_perm
    {function : γ → Except ε α}
    {lefts rights : List γ}
    (perm : lefts.Perm rights) :
    EndAlike List.Perm (lefts.mapM function) (rights.mapM function) := by
  induction perm with
  | nil => exact .ok .nil
  | cons input _ hypothesis =>
      rw [List.mapM_cons, List.mapM_cons]
      cases function input with
      | error cause => exact .error cause cause
      | ok output => exact hypothesis.bind fun _ _ _ perm => .ok (perm.cons output)
  | swap first second inputs =>
      simp only [List.mapM_cons]
      cases function first with
      | error cause =>
          cases function second with
          | error other => exact .error other cause
          | ok output => exact .error cause cause
      | ok firstOutput =>
          cases function second with
          | error cause => exact .error cause cause
          | ok secondOutput =>
              cases inputs.mapM function with
              | error cause => exact .error cause cause
              | ok outputs => exact .ok (.swap firstOutput secondOutput outputs)
  | trans _ _ first second =>
      exact (first.trans second).mono fun _ _ ⟨_, before, after⟩ => before.trans after

/-- If the members of one list are images of those of another one, and a function ends
alike on images, with the images of the results, then so do the maps. -/
theorem mapM_image
    {first : γ → Except ε α}
    {second : κ → Except δ β}
    {inputImage : κ → γ}
    {outputImage : β → α}
    {lefts : List γ}
    {rights : List κ}
    (perm : lefts.Perm (rights.map inputImage))
    (each : ∀ right ∈ rights, EndAlike (fun left right => left = outputImage right)
      (first (inputImage right)) (second right)) :
    EndAlike (fun left right => left.Perm (right.map outputImage))
      (lefts.mapM first) (rights.mapM second) := by
  have images := mapM_forall₂ <| List.forall₂_map_left_iff.mpr (List.forall₂_same.mpr each)
  refine ((mapM_perm perm).trans images).mono fun left right => ?_
  rintro ⟨outputs, outputsPerm, equal⟩
  have same : List.Forall₂ (· = ·) outputs (right.map outputImage) :=
    List.forall₂_map_right_iff.mpr equal
  rw [List.forall₂_eq_eq_eq] at same
  exact same ▸ outputsPerm

end EndAlike
end ExactAlgebra
