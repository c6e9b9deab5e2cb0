import Mathlib.Algebra.BigOperators.Group.List.Basic
import Mathlib.Algebra.GroupWithZero.Nat
import Rulebook.Missing
import Rulebook.Text.Bytes

/-!
# Sums of missing answers

Merging adds weights, and a set is given by its weights, so that sets are added
as numbers are: in any order, and in groups of any kind. Any number of sets are
merged in one run through their entries, in which the weights only grow. Each
set has its names in the order of their bytes, so equal sets are written alike.

* `mergeAll_eq_sum`: sets are a commutative monoid, and merging is its sum.
* `isSum_iff`: what the sum of a list of sets is.
* `mergeAll_map_mergeAll`: groups of sets can be merged first.
* `getD_addWeights_le`: the weights on the way.
* `mergeAll_commutative_sum`: all of this together.
-/

namespace Rulebook

namespace Missing

variable {m : Missing} {sets : List Missing} {name : String}

/-! ## The monoid of sets -/

instance : Zero Missing := ⟨empty⟩

instance : Add Missing := ⟨merge⟩

theorem weight_zero (name : String) : (0 : Missing).weight name = 0 :=
  weight_empty name

theorem weight_add (m n : Missing) (name : String) :
    (m + n).weight name = m.weight name + n.weight name :=
  weight_merge m n name

instance : AddCommMonoid Missing where
  add_assoc l m n := eq_of_weight_eq fun name => by simp only [weight_add, Nat.add_assoc]
  zero_add m := eq_of_weight_eq fun name => by rw [weight_add, weight_zero, Nat.zero_add]
  add_zero m := eq_of_weight_eq fun name => by rw [weight_add, weight_zero, Nat.add_zero]
  add_comm m n := eq_of_weight_eq fun name => by rw [weight_add, weight_add, Nat.add_comm]
  nsmul := nsmulRec

theorem mergeAll_eq_sum (sets : List Missing) : mergeAll sets = sets.sum :=
  List.sum_eq_foldl.symm

/-! ## What a sum is -/

/-- Whether a set is the sum of others: it has all of their names, with the sums of their weights. It
lists them in the order of their bytes, each of them once. -/
structure IsSum (sets : List Missing) (m : Missing) : Prop where
  weight (name : String) : m.weight name = (sets.map fun n => n.weight name).sum
  contains (name : String) : m.contains name = true ↔ ∃ n ∈ sets, n.contains name = true
  mem_names (name : String) : name ∈ m.names ↔ ∃ n ∈ sets, name ∈ n.names
  ordered : m.names.Pairwise fun name other => Text.bytes name < Text.bytes other
  nodup : m.names.Nodup
  entries : m.toList = m.names.map fun name => (name, (sets.map fun n => n.weight name).sum)

theorem weight_mergeAll (sets : List Missing) (name : String) :
    (mergeAll sets).weight name = (sets.map fun n => n.weight name).sum := by
  induction sets with
  | nil => exact weight_mergeAll_nil name
  | cons m sets ih => rw [weight_mergeAll_cons, ih, List.map_cons, List.sum_cons]

theorem contains_mergeAll_iff :
    (mergeAll sets).contains name = true ↔ ∃ n ∈ sets, n.contains name = true := by
  simp only [contains_iff, weight_mergeAll, Ne, List.sum_eq_zero_iff_forall_eq_nat,
    List.forall_mem_map, not_forall, exists_prop]

theorem isSum_mergeAll (sets : List Missing) : IsSum sets (mergeAll sets) where
  weight := weight_mergeAll sets
  contains _ := contains_mergeAll_iff
  mem_names name := by simp only [mem_names_iff, contains_mergeAll_iff]
  ordered := (pairwise_names _).imp Text.lt_iff_bytes_lt.1
  nodup := (pairwise_names _).imp String.ne_of_lt
  entries := by simp only [← weight_mergeAll, ← toList_eq_map_names]

/-- Merging makes the sum, and no other set is one. -/
theorem isSum_iff : IsSum sets m ↔ m = mergeAll sets := by
  constructor
  · exact fun h => eq_of_weight_eq fun name => by rw [h.weight, weight_mergeAll]
  · rintro rfl
    exact isSum_mergeAll sets

/-- A sum is empty just if all of its sets are. -/
theorem isEmpty_mergeAll_iff :
    (mergeAll sets).isEmpty = true ↔ ∀ m ∈ sets, m.isEmpty = true := by
  simp only [isEmpty_iff, eq_empty_iff, weight_mergeAll, List.sum_eq_zero_iff_forall_eq_nat,
    List.forall_mem_map]
  exact ⟨fun h m hm name => h name m hm, fun h name m hm => h m hm name⟩

/-! ## The order of a sum -/

theorem mergeAll_eq_of_perm {others : List Missing} (h : others.Perm sets) :
    mergeAll others = mergeAll sets := by
  rw [mergeAll_eq_sum, mergeAll_eq_sum, h.sum_eq]

/-- Groups of sets can be merged first. -/
theorem mergeAll_map_mergeAll (groups : List (List Missing)) :
    mergeAll (groups.map mergeAll) = mergeAll groups.flatten := by
  have hsum : mergeAll = List.sum := funext mergeAll_eq_sum
  rw [hsum, List.sum_flatten]

/-! ## The weights on the way -/

/-- No weight on the way is greater than it is in the end. -/
theorem getD_addWeights_le {entries : List (String × Nat)} (h : entries <+: sets.flatMap toList)
    (name : String) :
    (addWeights ∅ entries)[name]?.getD 0 ≤ (mergeAll sets).weight name := by
  obtain ⟨rest, hrest⟩ := h
  rw [weight_mergeAll_eq_listed, ← hrest, listed_append, getD_addWeights_empty]
  exact Nat.le_add_right ..

/-- Merging any number of sets makes their sum, and no other set is one. The order of the sets does not
matter, and groups of them can be merged first. The sum is empty just if all of the sets are. The
entries are added one after another, and no weight on the way is greater than the sum, so that a word
that holds the sums holds all of these weights. -/
theorem mergeAll_commutative_sum (sets : List Missing) :
    (∀ m, IsSum sets m ↔ m = mergeAll sets) ∧
      (∀ others : List Missing, others.Perm sets → mergeAll others = mergeAll sets) ∧
      (∀ groups : List (List Missing), groups.flatten.Perm sets →
        mergeAll (groups.map mergeAll) = mergeAll sets) ∧
      ((mergeAll sets).isEmpty = true ↔ ∀ m ∈ sets, m.isEmpty = true) ∧
      (mergeAll sets).weights = addWeights ∅ (sets.flatMap toList) ∧
      ∀ entries, entries <+: sets.flatMap toList → ∀ name,
        (addWeights ∅ entries)[name]?.getD 0 ≤ (sets.map fun n => n.weight name).sum := by
  refine ⟨fun m => isSum_iff, fun others => mergeAll_eq_of_perm, fun groups h => ?_,
    isEmpty_mergeAll_iff, weights_mergeAll sets, fun entries h name => ?_⟩
  · rw [mergeAll_map_mergeAll, mergeAll_eq_of_perm h]
  · rw [← weight_mergeAll]
    exact getD_addWeights_le h name

/-- Two names that UTF-16 would put the other way round, one of which stands in two groups. -/
theorem mergeAll_commutative_sum_groups :
    let letter := single "𝑓"
    let ligature := single "ﬁ"
    let sets := [letter, ligature, empty, letter]
    let groups := [[letter, empty], [], [letter, ligature]]
    let entries := [("𝑓", 1), ("ﬁ", 1)]
    (mergeAll (groups.map mergeAll)).toList = [("ﬁ", 1), ("𝑓", 2)] ∧
      groups.flatten.Perm sets ∧ mergeAll (groups.map mergeAll) = mergeAll sets ∧
      sets.reverse.Perm sets ∧ mergeAll sets.reverse = mergeAll sets ∧
      entries <+: sets.flatMap toList ∧
      (addWeights ∅ entries)["𝑓"]?.getD 0 ≤ (sets.map fun n => n.weight "𝑓").sum := by
  intro letter ligature sets groups entries
  have hgroups : groups.flatten.Perm sets := by decide +kernel
  have hreverse : sets.reverse.Perm sets := List.reverse_perm sets
  have hentries : entries <+: sets.flatMap toList := by decide +kernel
  obtain ⟨-, hperm, hflatten, -, -, hweights⟩ := mergeAll_commutative_sum sets
  exact ⟨by decide +kernel, hgroups, hflatten groups hgroups, hreverse, hperm _ hreverse, hentries,
    hweights entries hentries "𝑓"⟩

end Missing

end Rulebook
