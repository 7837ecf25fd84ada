import ExactAlgebra.Proofs.Evaluation.StrictFold
import ExactAlgebra.Proofs.Fraction.Rational
import ExactAlgebra.Rewrite.Tally
import Mathlib.Algebra.BigOperators.Group.List.Basic
import Mathlib.Data.List.Induction
import Mathlib.Data.List.Nodup

/-!
# What tallies keep

A tally has the keys of its entries, each once, and under each key the total of
the entries with that key. So it keeps every property of entries that adding up
amounts keeps, and every fold in which the amounts of a key add up.
-/

namespace ExactAlgebra

/-- A list whose members are all images is the image of a list. -/
theorem exists_map_eq
    {function : α → β}
    {property : α → Prop}
    {members : List β}
    (each : ∀ member ∈ members, ∃ source, property source ∧ function source = member) :
    ∃ sources : List α, sources.map function = members ∧ ∀ source ∈ sources, property source := by
  induction members with
  | nil => exact ⟨[], rfl, nofun⟩
  | cons head tail hypothesis =>
      obtain ⟨source, holds, equal⟩ := each head List.mem_cons_self
      obtain ⟨sources, mapped, allHold⟩ :=
        hypothesis fun member inTail => each member (List.mem_cons_of_mem _ inTail)
      refine ⟨source :: sources, ?_, List.forall_mem_cons.mpr ⟨holds, allHold⟩⟩
      rw [List.map_cons, equal, mapped]

/-! ## Entries with distinct keys -/

section Entries

variable {ι V : Type*} [DecidableEq ι] [AddCommMonoid V]

theorem sum_ite_eq_zero_of_not_mem
    {entries : List (ι × V)}
    {key : ι}
    (absent : key ∉ entries.map Prod.fst) :
    (entries.map fun entry => if entry.1 = key then entry.2 else 0).sum = 0 := by
  apply List.sum_eq_zero
  intro amount member
  obtain ⟨entry, inEntries, rfl⟩ := List.mem_map.mp member
  have other : entry.1 ≠ key := fun equal => absent (equal ▸ List.mem_map_of_mem inEntries)
  rw [if_neg other]

theorem sum_ite_eq_of_mem
    {entries : List (ι × V)}
    (distinct : (entries.map Prod.fst).Nodup)
    {entry : ι × V}
    (member : entry ∈ entries) :
    (entries.map fun other => if other.1 = entry.1 then other.2 else 0).sum = entry.2 := by
  induction entries with
  | nil => cases member
  | cons head tail hypothesis =>
      obtain ⟨absent, tailDistinct⟩ := List.nodup_cons.mp distinct
      rw [List.map_cons, List.sum_cons]
      rcases List.mem_cons.mp member with rfl | inTail
      · rw [if_pos rfl, sum_ite_eq_zero_of_not_mem absent, add_zero]
      · have other : head.1 ≠ entry.1 := fun equal => absent (equal ▸ List.mem_map_of_mem inTail)
        rw [if_neg other, zero_add, hypothesis tailDistinct inTail]

end Entries

namespace Tally

/-- The keys of a tally, or of a list of entries. -/
def keys (entries : List (α × Fraction)) : List α :=
  entries.map Prod.fst

@[simp] theorem keys_nil : keys ([] : List (α × Fraction)) = [] := rfl

@[simp] theorem keys_cons (entry : α × Fraction) (entries : List (α × Fraction)) :
    keys (entry :: entries) = entry.1 :: keys entries := rfl

@[simp] theorem keys_append (left right : List (α × Fraction)) :
    keys (left ++ right) = keys left ++ keys right :=
  List.map_append

variable {α : Type} [DecidableEq α]

/-- Adding to a key that is there keeps the keys, and a new key comes last. -/
theorem keys_insert (key : α) (amount : Fraction) (tally : Tally α) :
    keys (tally.insert key amount) =
      if key ∈ keys tally then keys tally else keys tally ++ [key] := by
  induction tally with
  | nil => rfl
  | cons entry rest hypothesis =>
      obtain ⟨other, total⟩ := entry
      simp only [insert, keys_cons, List.mem_cons]
      by_cases equal : other = key
      · rw [if_pos equal, if_pos (Or.inl equal.symm), keys_cons]
      · rw [if_neg equal, keys_cons, hypothesis]
        by_cases present : key ∈ keys rest
        · rw [if_pos present, if_pos (Or.inr present)]
        · have absent : ¬(key = other ∨ key ∈ keys rest) := by
            rintro (same | inRest)
            · exact equal same.symm
            · exact present inRest
          rw [if_neg present, if_neg absent, List.cons_append]

/-- A new key comes last with its amount. -/
theorem insert_of_not_mem
    {key : α}
    {tally : Tally α}
    (amount : Fraction)
    (absent : key ∉ keys tally) :
    tally.insert key amount = tally ++ [(key, amount)] := by
  induction tally with
  | nil => rfl
  | cons entry rest hypothesis =>
      obtain ⟨other, total⟩ := entry
      rw [keys_cons, List.mem_cons, not_or] at absent
      rw [insert, if_neg (Ne.symm absent.1), hypothesis absent.2, List.cons_append]

/-- Adding to a key makes a new entry, or adds to one that was there, and leaves all
others. -/
theorem mem_insert
    {key : α}
    {amount : Fraction}
    {tally : Tally α}
    {entry : α × Fraction}
    (member : entry ∈ tally.insert key amount) :
    entry ∈ tally ∨ entry = (key, amount) ∨
      ∃ total, (key, total) ∈ tally ∧ entry = (key, total + amount) := by
  induction tally with
  | nil => exact Or.inr (Or.inl (List.mem_singleton.mp member))
  | cons head rest hypothesis =>
      obtain ⟨other, total⟩ := head
      rw [insert] at member
      split at member
      · rename_i equal
        subst equal
        rcases List.mem_cons.mp member with changed | inRest
        · exact Or.inr (Or.inr ⟨total, List.mem_cons_self, changed⟩)
        · exact Or.inl (List.mem_cons_of_mem _ inRest)
      · rcases List.mem_cons.mp member with same | inRest
        · exact Or.inl (same ▸ List.mem_cons_self)
        · rcases hypothesis inRest with old | new | ⟨before, present, changed⟩
          · exact Or.inl (List.mem_cons_of_mem _ old)
          · exact Or.inr (Or.inl new)
          · exact Or.inr (Or.inr ⟨before, List.mem_cons_of_mem _ present, changed⟩)

@[simp] theorem ofEntries_nil : ofEntries ([] : List (α × Fraction)) = [] := rfl

/-- A tally takes in its entries one after the other. -/
theorem ofEntries_append_singleton (entries : List (α × Fraction)) (entry : α × Fraction) :
    ofEntries (entries ++ [entry]) = (ofEntries entries).insert entry.1 entry.2 := by
  rw [ofEntries, List.foldl_append]
  rfl

/-- A tally has the keys of its entries. -/
theorem mem_keys_ofEntries {entries : List (α × Fraction)} {key : α} :
    key ∈ keys (ofEntries entries) ↔ key ∈ keys entries := by
  induction entries using List.reverseRecOn with
  | nil => rfl
  | append_singleton entries entry hypothesis =>
      rw [ofEntries_append_singleton, keys_insert, keys_append, List.mem_append, ← hypothesis]
      split
      · rename_i present
        simp only [keys_cons, keys_nil, List.mem_singleton]
        exact ⟨Or.inl, fun either => either.elim id fun equal => equal ▸ present⟩
      · simp

/-- Every key of a tally occurs once. -/
theorem nodup_keys_ofEntries (entries : List (α × Fraction)) :
    (keys (ofEntries entries)).Nodup := by
  induction entries using List.reverseRecOn with
  | nil => exact List.nodup_nil
  | append_singleton entries entry hypothesis =>
      rw [ofEntries_append_singleton, keys_insert]
      split
      · exact hypothesis
      · rename_i absent
        refine List.nodup_append.mpr ⟨hypothesis, List.nodup_singleton _, ?_⟩
        intro key present other isEntry equal
        rw [List.mem_singleton.mp isEntry] at equal
        exact absent (equal ▸ present)

/-- A tally with as many totals as there are entries has added up none of them. -/
theorem nodup_keys_of_length_le
    {entries : List (α × Fraction)}
    (asMany : entries.length ≤ (ofEntries entries).length) :
    (keys entries).Nodup := by
  have distinct := nodup_keys_ofEntries entries
  have given : (keys (ofEntries entries)).Subperm (keys entries) :=
    List.subperm_of_subset distinct fun key present => mem_keys_ofEntries.mp present
  have perm := given.perm_of_length_le (by simpa only [keys, List.length_map] using asMany)
  exact perm.nodup_iff.mp distinct

/-- Entries with distinct keys are a tally already. -/
theorem ofEntries_eq_self
    {entries : List (α × Fraction)}
    (distinct : (keys entries).Nodup) :
    ofEntries entries = entries := by
  induction entries using List.reverseRecOn with
  | nil => rfl
  | append_singleton entries entry hypothesis =>
      rw [keys_append, List.nodup_append] at distinct
      have absent : entry.1 ∉ keys (ofEntries entries) := by
        rw [mem_keys_ofEntries]
        intro present
        exact distinct.2.2 entry.1 present entry.1 (by simp) rfl
      rw [ofEntries_append_singleton, insert_of_not_mem _ absent, hypothesis distinct.1]

/-- What holds of all entries and is kept by adding up amounts holds of the tally. -/
theorem forall_mem_ofEntries
    {property : α → Fraction → Prop}
    {entries : List (α × Fraction)}
    (single : ∀ entry ∈ entries, property entry.1 entry.2)
    (added : ∀ key first second,
      property key first → property key second → property key (first + second))
    {entry : α × Fraction}
    (member : entry ∈ ofEntries entries) :
    property entry.1 entry.2 := by
  induction entries using List.reverseRecOn generalizing entry with
  | nil => cases member
  | append_singleton entries last hypothesis =>
      have before : ∀ {entry}, entry ∈ ofEntries entries → property entry.1 entry.2 :=
        hypothesis fun other inEntries => single other (List.mem_append_left _ inEntries)
      have here := single last (List.mem_append_right _ (List.mem_singleton_self last))
      rw [ofEntries_append_singleton] at member
      rcases mem_insert member with old | rfl | ⟨total, present, rfl⟩
      · exact before old
      · exact here
      · exact added last.1 total last.2 (before present) here

/-- What holds of the keys of all entries holds of the keys of the tally. -/
theorem forall_key_of_mem_ofEntries
    {property : α → Prop}
    {entries : List (α × Fraction)}
    (each : ∀ entry ∈ entries, property entry.1)
    {entry : α × Fraction}
    (member : entry ∈ ofEntries entries) :
    property entry.1 := by
  have key := mem_keys_ofEntries.mp (List.mem_map_of_mem member)
  obtain ⟨given, inEntries, same⟩ := List.mem_map.mp key
  exact same ▸ each given inEntries

/-- Entries that stand for keys and amounts of another kind have a tally that does. -/
theorem exists_ofEntries_eq_map
    {label : κ → α}
    {amount : ν → Fraction}
    {property : κ × ν → Prop}
    (injective : Function.Injective label)
    {entries : List (α × Fraction)}
    (single : ∀ entry ∈ entries, ∃ source : κ × ν,
      property source ∧ (label source.1, amount source.2) = entry)
    (added : ∀ key first second, property (key, first) → property (key, second) →
      ∃ total, property (key, total) ∧ amount total = amount first + amount second) :
    ∃ sources : List (κ × ν),
      ofEntries entries = sources.map (fun source => (label source.1, amount source.2)) ∧
        (∀ source ∈ sources, property source) ∧ (sources.map Prod.fst).Nodup := by
  have each : ∀ entry ∈ ofEntries entries, ∃ source : κ × ν,
      property source ∧ (label source.1, amount source.2) = entry := by
    intro entry member
    refine @forall_mem_ofEntries _ _
      (fun key total => ∃ source : κ × ν,
        property source ∧ (label source.1, amount source.2) = (key, total))
      _ single ?_ entry member
    rintro key first second ⟨left, leftHolds, leftEq⟩ ⟨right, rightHolds, rightEq⟩
    cases leftEq
    obtain ⟨sameKey, rightAmount⟩ := Prod.mk.inj rightEq
    have sameSource : (left.1, right.2) = right := Prod.ext (injective sameKey).symm rfl
    obtain ⟨total, holds, totalEq⟩ :=
      added left.1 left.2 right.2 leftHolds (sameSource ▸ rightHolds)
    exact ⟨(left.1, total), holds, by rw [totalEq, rightAmount]⟩
  obtain ⟨sources, mapped, allHold⟩ := exists_map_eq each
  refine ⟨sources, mapped.symm, allHold, ?_⟩
  have keysEq : keys (ofEntries entries) = (sources.map Prod.fst).map label := by
    rw [← mapped, keys, List.map_map, List.map_map]
    rfl
  have distinct := nodup_keys_ofEntries entries
  rw [keysEq] at distinct
  exact distinct.of_map

section Fold

variable {K : Type*} (op : K → K → K) (unit : K)
variable [Std.Associative op] [Std.Commutative op] [Std.LawfulIdentity op unit]

/-- Adding to a key multiplies the total with the amount's part. -/
theorem strictFold_insert
    {part : α × Fraction → Option K}
    (added : ∀ key first second left right,
      part (key, first) = some left → part (key, second) = some right →
        part (key, first + second) = some (op left right))
    {tally : Tally α}
    {key : α}
    {amount : Fraction}
    {before here : K}
    (defined : strictFold op unit (tally.map part) = some before)
    (entryPart : part (key, amount) = some here) :
    strictFold op unit ((tally.insert key amount).map part) = some (op before here) := by
  induction tally generalizing before with
  | nil =>
      cases defined
      rw [insert, List.map_singleton, strictFold_singleton, entryPart,
        @Std.LawfulLeftIdentity.left_id K K op]
  | cons entry rest hypothesis =>
      obtain ⟨other, total⟩ := entry
      obtain ⟨first, others, head, tail, rfl⟩ := strictFold_cons_eq_some op unit defined
      rw [insert]
      split
      · rename_i equal
        subst equal
        rw [List.map_cons, strictFold_cons, added other total amount first here head entryPart,
          tail, Option.map₂_some_some, @Std.Associative.assoc K op,
          @Std.Commutative.comm K op _ here, ← @Std.Associative.assoc K op]
      · rw [List.map_cons, strictFold_cons, head, hypothesis tail, Option.map₂_some_some,
          @Std.Associative.assoc K op]

/-- A tally keeps every fold in which the amounts of a key add up. -/
theorem strictFold_ofEntries
    {part : α × Fraction → Option K}
    (added : ∀ key first second left right,
      part (key, first) = some left → part (key, second) = some right →
        part (key, first + second) = some (op left right))
    {entries : List (α × Fraction)}
    {total : K}
    (defined : strictFold op unit (entries.map part) = some total) :
    strictFold op unit ((ofEntries entries).map part) = some total := by
  induction entries using List.reverseRecOn generalizing total with
  | nil => exact defined
  | append_singleton entries entry hypothesis =>
      rw [List.map_append, strictFold_append, Option.map₂_eq_some_iff] at defined
      obtain ⟨before, here, earlier, last, rfl⟩ := defined
      rw [List.map_singleton, strictFold_singleton] at last
      rw [ofEntries_append_singleton]
      exact strictFold_insert op unit added (hypothesis earlier) last

/-- A tally keeps every total in which the amounts of the given keys add up. -/
theorem foldr_ofEntries
    {part : α × Fraction → K}
    {entries : List (α × Fraction)}
    (added : ∀ key ∈ keys entries, ∀ first second,
      part (key, first + second) = op (part (key, first)) (part (key, second))) :
    ((ofEntries entries).map part).foldr op unit = (entries.map part).foldr op unit := by
  -- Keys that are not given have no part, so that nothing is asked of them.
  let givenPart (entry : α × Fraction) : Option K :=
    if entry.1 ∈ keys entries then some (part entry) else none
  have adds : ∀ key first second left right,
      givenPart (key, first) = some left → givenPart (key, second) = some right →
        givenPart (key, first + second) = some (op left right) := by
    intro key first second left right leftPart rightPart
    obtain ⟨given, ⟨⟩⟩ := Option.ite_none_right_eq_some.mp leftPart
    obtain ⟨_, ⟨⟩⟩ := Option.ite_none_right_eq_some.mp rightPart
    exact (if_pos given).trans (congrArg some (added key given first second))
  have ofGiven : ∀ {list : List (α × Fraction)}, (∀ entry ∈ list, entry.1 ∈ keys entries) →
      strictFold op unit (list.map givenPart) = some ((list.map part).foldr op unit) :=
    fun given => strictFold_map_eq_some op unit fun entry member => if_pos (given entry member)
  have before := ofGiven fun entry member => List.mem_map_of_mem member
  have after := ofGiven fun entry member => mem_keys_ofEntries.mp (List.mem_map_of_mem member)
  exact Option.some.inj (after.symm.trans (strictFold_ofEntries op unit adds before))

end Fold

/-! ## Entries in another order, and under other keys -/

/-- The amount of a key in a tally is the total of the amounts given for it. -/
theorem total_of_mem_ofEntries
    {entries : List (α × Fraction)}
    {entry : α × Fraction}
    (member : entry ∈ ofEntries entries) :
    (entries.map fun given => if given.1 = entry.1 then given.2.toRat else 0).sum =
      entry.2.toRat := by
  let part (given : α × Fraction) : ℚ := if given.1 = entry.1 then given.2.toRat else 0
  have kept : ((ofEntries entries).map part).foldr (· + ·) 0 =
      (entries.map part).foldr (· + ·) 0 := by
    refine foldr_ofEntries (· + ·) 0 fun key _ first second => ?_
    by_cases here : key = entry.1
    · simp only [part, if_pos here, Fraction.toRat_add]
    · simp only [part, if_neg here, add_zero]
  have distinct : (((ofEntries entries).map (Prod.map id Fraction.toRat)).map Prod.fst).Nodup := by
    rw [List.map_map]
    exact nodup_keys_ofEntries entries
  have alone := sum_ite_eq_of_mem distinct (List.mem_map_of_mem member)
  rw [List.map_map] at alone
  rw [List.sum_eq_foldr, ← kept, ← List.sum_eq_foldr]
  exact alone

/-- The order of the entries decides the order of a tally only. -/
theorem ofEntries_perm {left right : List (α × Fraction)} (perm : left.Perm right) :
    (ofEntries left).Perm (ofEntries right) := by
  have subset {first second : List (α × Fraction)} (perm : first.Perm second) :
      ofEntries first ⊆ ofEntries second := by
    intro entry member
    have given := mem_keys_ofEntries.mp (List.mem_map_of_mem member)
    have present := mem_keys_ofEntries.mpr ((perm.map Prod.fst).mem_iff.mp given)
    obtain ⟨other, inSecond, sameKey⟩ := List.mem_map.mp present
    have sameTotal : entry.2 = other.2 := by
      apply Fraction.toRat_injective
      rw [← total_of_mem_ofEntries member, ← total_of_mem_ofEntries inSecond, sameKey]
      exact (perm.map _).sum_eq
    exact Prod.ext sameKey sameTotal.symm ▸ inSecond
  have distinct (entries : List (α × Fraction)) : (ofEntries entries).Nodup :=
    (nodup_keys_ofEntries entries).of_map
  exact (List.perm_ext_iff_of_nodup (distinct left) (distinct right)).mpr fun entry =>
    ⟨fun member => subset perm member, fun member => subset perm.symm member⟩

section Relabel

variable {β : Type} [DecidableEq β] {relabel : α → β}

theorem insert_map
    {key : α}
    {tally : Tally α}
    (amount : Fraction)
    (injective : ∀ other ∈ keys tally, relabel other = relabel key → other = key) :
    Tally.insert (relabel key) amount (tally.map (Prod.map relabel id)) =
      (tally.insert key amount).map (Prod.map relabel id) := by
  induction tally with
  | nil => rfl
  | cons entry rest hypothesis =>
      obtain ⟨other, total⟩ := entry
      rw [keys_cons, List.forall_mem_cons] at injective
      rw [List.map_cons, Prod.map_apply, insert, insert]
      by_cases equal : other = key
      · rw [if_pos equal, if_pos (congrArg relabel equal)]
        rfl
      · rw [if_neg equal, if_neg (mt injective.1 equal), hypothesis injective.2]
        rfl

/-- Keys that are relabeled one to one are relabeled in the tally. -/
theorem ofEntries_map
    {entries : List (α × Fraction)}
    (injective : ∀ first ∈ keys entries, ∀ second ∈ keys entries,
      relabel first = relabel second → first = second) :
    ofEntries (entries.map (Prod.map relabel id)) =
      (ofEntries entries).map (Prod.map relabel id) := by
  induction entries using List.reverseRecOn with
  | nil => rfl
  | append_singleton entries entry hypothesis =>
      have given : ∀ key ∈ keys entries, key ∈ keys (entries ++ [entry]) := fun key member => by
        rw [keys_append]
        exact List.mem_append_left _ member
      have last : entry.1 ∈ keys (entries ++ [entry]) := by simp
      have before := hypothesis fun first inFirst second inSecond =>
        injective first (given first inFirst) second (given second inSecond)
      rw [List.map_append, List.map_singleton, ofEntries_append_singleton, before,
        ofEntries_append_singleton]
      exact insert_map entry.2 fun other member =>
        injective other (given other (mem_keys_ofEntries.mp member)) entry.1 last

end Relabel

end Tally
end ExactAlgebra
