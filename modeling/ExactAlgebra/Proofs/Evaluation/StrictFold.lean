import Mathlib.Data.List.Forall2
import Mathlib.Data.Option.NAry

/-!
# Strict folds

The total of optional values under an operation is defined when all the values
are. For an associative and commutative operation the order of the values does
not matter, and a list may be totalled in parts.
-/

namespace ExactAlgebra

variable {K : Type*} (op : K → K → K) (unit : K)

/-- The total of the values when all are defined, and nothing otherwise. -/
def strictFold : List (Option K) → Option K
  | [] => some unit
  | value :: values => Option.map₂ op value (strictFold values)

@[simp] theorem strictFold_nil : strictFold op unit [] = some unit := rfl

@[simp] theorem strictFold_cons (value : Option K) (values : List (Option K)) :
    strictFold op unit (value :: values) = Option.map₂ op value (strictFold op unit values) :=
  rfl

/-- The values of a defined total are defined, and so is the total of the rest. -/
theorem strictFold_cons_eq_some
    {value : Option K}
    {values : List (Option K)}
    {total : K}
    (defined : strictFold op unit (value :: values) = some total) :
    ∃ first rest,
      value = some first ∧ strictFold op unit values = some rest ∧ op first rest = total :=
  Option.map₂_eq_some_iff.mp defined

/-- Parts that are replaced by others with the same values keep a defined total. -/
theorem strictFold_forall₂
    {lefts : List α}
    {rights : List β}
    {first : α → Option K}
    {second : β → Option K}
    (agree : List.Forall₂
      (fun left right => ∀ value, first left = some value → second right = some value)
      lefts rights)
    {total : K}
    (defined : strictFold op unit (lefts.map first) = some total) :
    strictFold op unit (rights.map second) = some total := by
  induction agree generalizing total with
  | nil => exact defined
  | cons here _ hypothesis =>
      obtain ⟨value, rest, head, tail, equal⟩ := strictFold_cons_eq_some op unit defined
      rw [List.map_cons, strictFold_cons, here value head, hypothesis tail,
        Option.map₂_some_some, equal]

/-- The total of values that are all defined. -/
theorem strictFold_map_eq_some
    {inputs : List α}
    {function : α → Option K}
    {value : α → K}
    (each : ∀ input ∈ inputs, function input = some (value input)) :
    strictFold op unit (inputs.map function) = some ((inputs.map value).foldr op unit) := by
  induction inputs with
  | nil => rfl
  | cons head tail hypothesis =>
      rw [List.map_cons, strictFold_cons, each head List.mem_cons_self,
        hypothesis fun input member => each input (List.mem_cons_of_mem _ member),
        Option.map₂_some_some, List.map_cons, List.foldr_cons]

/-- A total is undefined exactly when one of its values is. -/
theorem strictFold_eq_none_iff {values : List (Option K)} :
    strictFold op unit values = none ↔ none ∈ values := by
  induction values with
  | nil => simp
  | cons value values hypothesis =>
      rw [strictFold_cons, Option.map₂_eq_none_iff, hypothesis, List.mem_cons, eq_comm]

/-- Every value of a defined total is defined. -/
theorem exists_eq_some_of_strictFold_eq_some
    {inputs : List α}
    {function : α → Option K}
    {total : K}
    (defined : strictFold op unit (inputs.map function) = some total)
    {input : α}
    (member : input ∈ inputs) :
    ∃ value, function input = some value := by
  induction inputs generalizing total with
  | nil => cases member
  | cons head tail hypothesis =>
      obtain ⟨value, rest, here, there, _⟩ := strictFold_cons_eq_some op unit defined
      rcases List.mem_cons.mp member with equal | inTail
      · exact ⟨value, equal ▸ here⟩
      · exact hypothesis there inTail

section Identity

variable [Std.LawfulIdentity op unit]

@[simp] theorem strictFold_singleton (value : Option K) :
    strictFold op unit [value] = value := by
  cases value with
  | none => rfl
  | some value => exact congrArg some (Std.LawfulRightIdentity.right_id value)

/-- A total that starts with the unit is the total of the rest. -/
@[simp] theorem map₂_some_unit (value : Option K) : Option.map₂ op (some unit) value = value := by
  cases value with
  | none => rfl
  | some value => exact congrArg some (Std.LawfulLeftIdentity.left_id value)

section Associative

variable [Std.Associative op]

theorem strictFold_append (left right : List (Option K)) :
    strictFold op unit (left ++ right) =
      Option.map₂ op (strictFold op unit left) (strictFold op unit right) := by
  induction left with
  | nil => exact (map₂_some_unit op unit _).symm
  | cons value values hypothesis =>
      rw [List.cons_append, strictFold_cons, hypothesis, strictFold_cons,
        Option.map₂_assoc Std.Associative.assoc]

/-- Values may be replaced by lists with the same totals. -/
theorem strictFold_map_flatMap
    {split : α → List β}
    {whole : α → Option K}
    {part : β → Option K}
    (agree : ∀ input, strictFold op unit ((split input).map part) = whole input)
    (inputs : List α) :
    strictFold op unit ((inputs.flatMap split).map part) =
      strictFold op unit (inputs.map whole) := by
  induction inputs with
  | nil => rfl
  | cons input inputs hypothesis =>
      rw [List.flatMap_cons, List.map_append, strictFold_append, agree, hypothesis,
        List.map_cons, strictFold_cons]

end Associative

end Identity

section Commutative

variable [Std.Associative op] [Std.Commutative op]

theorem strictFold_perm {left right : List (Option K)} (perm : left.Perm right) :
    strictFold op unit left = strictFold op unit right := by
  induction perm with
  | nil => rfl
  | cons value _ hypothesis => rw [strictFold_cons, strictFold_cons, hypothesis]
  | swap first second rest =>
      simp only [strictFold_cons]
      have commuted (left right rest : K) :
          op left (op right rest) = op right (op left rest) := by
        rw [← @Std.Associative.assoc K op, @Std.Commutative.comm K op _ left right,
          @Std.Associative.assoc K op]
      exact Option.map₂_left_comm commuted
  | trans _ _ left right => exact left.trans right

/-- A list may be totalled in two parts told apart by a test. -/
theorem strictFold_map_filter
    [Std.LawfulIdentity op unit]
    (function : α → Option K)
    (test : α → Bool)
    (inputs : List α) :
    Option.map₂ op
        (strictFold op unit ((inputs.filter test).map function))
        (strictFold op unit ((inputs.filter (!test ·)).map function)) =
      strictFold op unit (inputs.map function) := by
  rw [← strictFold_append, ← List.map_append]
  exact strictFold_perm op unit ((List.filter_append_perm test inputs).map function)

end Commutative

end ExactAlgebra
