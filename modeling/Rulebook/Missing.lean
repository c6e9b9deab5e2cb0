import Std.Data.ExtTreeMap

/-!
# Missing answers

What an unfinished calculation still waits for: names, each with a weight that
counts the ways in which the calculation depends on it. Sets are merged by
adding weights, and equal weights make equal sets.

* `eq_of_weight_eq`: a set is given by its weights.
* `weight_merge`: merging adds the weights.
* `weights_mergeAll`: merging any number of sets is one run through their entries.
* `weight_mergeAll_cons`: it adds their weights.
* `contains_iff`, `mem_names_iff`: the names of a set are those with a weight.
* `eq_empty_iff`: a set without names has no weights.
-/

namespace Rulebook

open Std (ExtTreeMap)

/-- A set of names, each with a positive weight. -/
structure Missing where
  weights : ExtTreeMap String Nat
  positive : ∀ name : String, weights[name]? ≠ some 0
deriving DecidableEq

namespace Missing

/-- The weight of a name, which is 0 for a name outside the set. -/
def weight (m : Missing) (name : String) : Nat :=
  m.weights[name]?.getD 0

/-- The weight of a name of the set. -/
def weight? (m : Missing) (name : String) : Option Nat :=
  m.weights[name]?

def contains (m : Missing) (name : String) : Bool :=
  m.weights.contains name

/-- The number of names. -/
def size (m : Missing) : Nat :=
  m.weights.size

def isEmpty (m : Missing) : Bool :=
  m.weights.isEmpty

/-- The names in order, with their weights. -/
def toList (m : Missing) : List (String × Nat) :=
  m.weights.toList

/-- The names in order. -/
def names (m : Missing) : List String :=
  m.toList.map Prod.fst

/-- The set without names. -/
def empty : Missing :=
  ⟨∅, fun name => by simp⟩

/-- The set of one name, with the weight 1. -/
def single (name : String) : Missing :=
  ⟨(∅ : ExtTreeMap String Nat).insert name 1, fun other => by
    rw [ExtTreeMap.getElem?_insert]
    split <;> simp⟩

/-- Adds to the weight of a name. -/
def addWeight (weights : ExtTreeMap String Nat) (entry : String × Nat) : ExtTreeMap String Nat :=
  weights.alter entry.1 fun old => some (old.getD 0 + entry.2)

/-- Adds the weights of a list of entries. -/
def addWeights (weights : ExtTreeMap String Nat) (entries : List (String × Nat)) :
    ExtTreeMap String Nat :=
  entries.foldl addWeight weights

theorem positive_addWeights {weights : ExtTreeMap String Nat} {entries : List (String × Nat)}
    (hweights : ∀ name : String, weights[name]? ≠ some 0) (hentries : ∀ e ∈ entries, e.2 ≠ 0)
    (name : String) : (addWeights weights entries)[name]? ≠ some 0 := by
  induction entries generalizing weights with
  | nil => exact hweights name
  | cons e entries ih =>
    refine ih (fun other => ?_) fun e he => hentries e (List.mem_cons_of_mem _ he)
    rw [addWeight, ExtTreeMap.getElem?_alter]
    split
    · have := hentries e (List.mem_cons_self ..)
      rw [Ne, Option.some_inj]
      omega
    · exact hweights other

theorem ne_zero_of_mem_toList {m : Missing} {e : String × Nat} (h : e ∈ m.toList) : e.2 ≠ 0 := by
  intro hzero
  rw [toList, ExtTreeMap.mem_toList_iff_getElem?_eq_some, hzero] at h
  exact m.positive _ h

/-- Both sets, with the weights of a name in both added. -/
def merge (m n : Missing) : Missing :=
  ⟨addWeights m.weights n.toList,
    positive_addWeights m.positive fun _ he => ne_zero_of_mem_toList he⟩

/-- Any number of sets together. -/
def mergeAll (sets : List Missing) : Missing :=
  sets.foldl merge empty

/-! ## Weights -/

theorem weight_eq_zero_iff {m : Missing} {name : String} :
    m.weight name = 0 ↔ m.weights[name]? = none := by
  have := m.positive name
  rw [weight]
  cases h : m.weights[name]? with
  | none => simp
  | some w => simp_all

/-- A set is given by its weights. -/
theorem eq_of_weight_eq {m n : Missing} (h : ∀ name, m.weight name = n.weight name) : m = n := by
  have hweights : m.weights = n.weights := by
    refine ExtTreeMap.ext_getElem? fun name => ?_
    have hname := h name
    cases hm : m.weights[name]? with
    | none => exact (weight_eq_zero_iff.1 (hname ▸ weight_eq_zero_iff.2 hm)).symm
    | some v =>
      cases hn : n.weights[name]? with
      | none =>
        rw [weight_eq_zero_iff.2 hn, weight_eq_zero_iff, hm] at hname
        cases hname
      | some w => simp_all [weight]
  cases m; cases n; cases hweights; rfl

/-- The sum of the weights that a list of entries has for a name. -/
def listed : List (String × Nat) → String → Nat
  | [], _ => 0
  | e :: entries, name => (if e.1 = name then e.2 else 0) + listed entries name

theorem listed_append (entries rest : List (String × Nat)) (name : String) :
    listed (entries ++ rest) name = listed entries name + listed rest name := by
  induction entries with
  | nil => rw [List.nil_append, listed, Nat.zero_add]
  | cons e entries ih => rw [List.cons_append, listed, listed, ih, Nat.add_assoc]

theorem getD_addWeights (weights : ExtTreeMap String Nat) (entries : List (String × Nat))
    (name : String) :
    (addWeights weights entries)[name]?.getD 0 = weights[name]?.getD 0 + listed entries name := by
  induction entries generalizing weights with
  | nil => rfl
  | cons e entries ih =>
    have hhead : (addWeight weights e)[name]?.getD 0 =
        weights[name]?.getD 0 + if e.1 = name then e.2 else 0 := by
      simp only [addWeight, ExtTreeMap.getElem?_alter, Std.compare_eq_iff_eq]
      split
      · rename_i h
        rw [h, Option.getD_some]
      · rw [Nat.add_zero]
    have hrest := ih (addWeight weights e)
    rw [hhead, Nat.add_assoc] at hrest
    exact hrest

theorem listed_eq_zero {entries : List (String × Nat)} {name : String}
    (h : ∀ e ∈ entries, e.1 ≠ name) : listed entries name = 0 := by
  induction entries with
  | nil => rfl
  | cons e entries ih =>
    rw [listed, if_neg (h e (List.mem_cons_self ..)),
      ih fun other hother => h other (List.mem_cons_of_mem _ hother)]

theorem listed_of_mem {entries : List (String × Nat)} {name : String} {w : Nat}
    (hdistinct : entries.Pairwise fun a b => a.1 ≠ b.1) (h : (name, w) ∈ entries) :
    listed entries name = w := by
  induction entries with
  | nil => cases h
  | cons e entries ih =>
    rw [List.pairwise_cons] at hdistinct
    rw [List.mem_cons] at h
    rcases h with rfl | h
    · rw [listed, if_pos rfl, listed_eq_zero fun e he => (hdistinct.1 e he).symm, Nat.add_zero]
    · rw [listed, if_neg (hdistinct.1 _ h), ih hdistinct.2 h, Nat.zero_add]

theorem listed_toList (m : Missing) (name : String) : listed m.toList name = m.weight name := by
  cases h : m.weights[name]? with
  | none =>
    rw [weight_eq_zero_iff.2 h]
    refine listed_eq_zero fun e he hname => ?_
    rw [toList, ExtTreeMap.mem_toList_iff_getElem?_eq_some, hname, h] at he
    cases he
  | some w =>
    rw [weight, h, Option.getD_some]
    refine listed_of_mem ?_ (ExtTreeMap.mem_toList_iff_getElem?_eq_some.2 h)
    refine ExtTreeMap.ordered_keys_toList.imp fun hlt he => ?_
    rw [Std.compare_eq_iff_eq.2 he] at hlt
    cases hlt

/-- Merging adds the weights. -/
theorem weight_merge (m n : Missing) (name : String) :
    (m.merge n).weight name = m.weight name + n.weight name := by
  rw [← listed_toList n]
  exact getD_addWeights m.weights n.toList name

theorem weight_empty (name : String) : empty.weight name = 0 := by
  rw [weight_eq_zero_iff]
  exact ExtTreeMap.getElem?_empty

theorem weight_single (name other : String) :
    (single name).weight other = if name = other then 1 else 0 := by
  simp only [weight, single, ExtTreeMap.getElem?_insert, Std.compare_eq_iff_eq]
  split <;> rfl

/-! ## Any number of sets -/

theorem weights_foldl_merge (sets : List Missing) (init : Missing) :
    (sets.foldl merge init).weights = addWeights init.weights (sets.flatMap toList) := by
  induction sets generalizing init with
  | nil => rfl
  | cons m sets ih =>
    rw [List.foldl_cons, ih, List.flatMap_cons, addWeights, addWeights, List.foldl_append]
    rfl

/-- Any number of sets are merged in one run through their entries. -/
theorem weights_mergeAll (sets : List Missing) :
    (mergeAll sets).weights = addWeights ∅ (sets.flatMap toList) :=
  weights_foldl_merge sets empty

theorem getD_addWeights_empty (entries : List (String × Nat)) (name : String) :
    (addWeights ∅ entries)[name]?.getD 0 = listed entries name := by
  rw [getD_addWeights, ExtTreeMap.getElem?_empty, Option.getD_none, Nat.zero_add]

theorem weight_mergeAll_eq_listed (sets : List Missing) (name : String) :
    (mergeAll sets).weight name = listed (sets.flatMap toList) name := by
  rw [weight, weights_mergeAll, getD_addWeights_empty]

theorem weight_mergeAll_nil (name : String) : (mergeAll []).weight name = 0 :=
  weight_empty name

/-- Merging any number of sets adds their weights. -/
theorem weight_mergeAll_cons (m : Missing) (sets : List Missing) (name : String) :
    (mergeAll (m :: sets)).weight name = m.weight name + (mergeAll sets).weight name := by
  rw [weight_mergeAll_eq_listed, List.flatMap_cons, listed_append, listed_toList,
    ← weight_mergeAll_eq_listed]

theorem weight_mergeAll_pair (m n : Missing) (name : String) :
    (mergeAll [m, n]).weight name = m.weight name + n.weight name := by
  rw [weight_mergeAll_cons, weight_mergeAll_cons, weight_mergeAll_nil, Nat.add_zero]

/-! ## Names -/

theorem contains_iff {m : Missing} {name : String} : m.contains name = true ↔ m.weight name ≠ 0 := by
  rw [Ne, weight_eq_zero_iff, contains, ExtTreeMap.contains_eq_isSome_getElem?, ← Ne,
    Option.ne_none_iff_isSome]

theorem names_eq_keys (m : Missing) : m.names = m.weights.keys :=
  ExtTreeMap.map_fst_toList_eq_keys

theorem mem_names_iff {m : Missing} {name : String} : name ∈ m.names ↔ m.contains name = true := by
  rw [names_eq_keys, ExtTreeMap.mem_keys, contains, ExtTreeMap.contains_iff_mem]

theorem pairwise_names (m : Missing) : m.names.Pairwise (· < ·) := by
  have hordered : m.weights.keys.Pairwise fun a b => compare a b = .lt := ExtTreeMap.ordered_keys
  rw [names_eq_keys]
  exact hordered.imp compareOfLessAndEq_eq_lt.1

/-- The entries of a set are its names with their weights. -/
theorem toList_eq_map_names (m : Missing) :
    m.toList = m.names.map fun name => (name, m.weight name) := by
  have hentry : ∀ e ∈ m.toList, id e = (e.1, m.weight e.1) := by
    intro e he
    rw [toList, ExtTreeMap.mem_toList_iff_getElem?_eq_some] at he
    rw [weight, he, Option.getD_some, id]
  rw [names, List.map_map]
  exact (List.map_id _).symm.trans (List.map_congr_left hentry)

/-! ## Sets without names -/

theorem eq_empty_iff {m : Missing} : m = empty ↔ ∀ name, m.weight name = 0 := by
  constructor
  · rintro rfl name
    exact weight_empty name
  · intro h
    exact eq_of_weight_eq fun name => by rw [h, weight_empty]

theorem isEmpty_iff {m : Missing} : m.isEmpty = true ↔ m = empty := by
  rw [isEmpty, ExtTreeMap.isEmpty_iff]
  exact ⟨fun h => by cases m; cases h; rfl, fun h => by rw [h]; rfl⟩

/-- Two sets together are empty just if both are. -/
theorem mergeAll_pair_eq_empty_iff {m n : Missing} :
    mergeAll [m, n] = empty ↔ m = empty ∧ n = empty := by
  simp only [eq_empty_iff, weight_mergeAll_pair, Nat.add_eq_zero_iff, forall_and]

theorem weight_single_eq_zero_iff {name other : String} :
    (single name).weight other = 0 ↔ name ≠ other := by
  rw [weight_single, ite_eq_right_iff]
  exact ⟨fun h hname => Nat.one_ne_zero (h hname), fun h hname => absurd hname h⟩

theorem single_ne_empty (name : String) : single name ≠ empty :=
  fun h => weight_single_eq_zero_iff.1 (eq_empty_iff.1 h name) rfl

end Missing

end Rulebook
