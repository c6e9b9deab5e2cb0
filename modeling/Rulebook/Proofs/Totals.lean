import Mathlib.Algebra.BigOperators.Group.List.Basic
import Mathlib.Algebra.Ring.Rat
import Rulebook.Proofs.Accounting
import Rulebook.Proofs.Adjustments

/-!
# Totals

A sum of any number of terms is the sum of those that apply. Its terms are
numbers in one unit or in none, and what does not apply counts as nothing. As
long as no sum on the way is rounded, the order of the terms and the way they
are grouped do not matter.

* `Operator.calculate_add`: two terms are added without a warning.
* `CountsAs.sum`, `CountsAs.countsAs_sum`: their sum is a number, and a term again.
* `Total.adds`: so are sums of any shape.
* `Evaluates.unit_ne_empty`: evaluation gives the empty unit to nothing.
* `evaluate_total`: what a sum comes to, and that its terms can be rearranged.
-/

namespace Rulebook

/-! ## Terms -/

/-- What an outcome adds to a sum: what is no number adds nothing. -/
def Outcome.counted (o : Outcome) : Rat :=
  o.number?.elim 0 Decimal.value

/-- Whether the quantity is a number in the unit `u` or in none, or does not apply. -/
inductive Quantity.IsTerm (u : Measure) : Quantity → Prop
  | inUnit (n : Decimal) : IsTerm u ⟨.number n, some u⟩
  | unitless (n : Decimal) : IsTerm u ⟨.number n, none⟩
  | inapplicable : IsTerm u ⟨.inapplicable, none⟩

namespace Quantity

variable {u : Measure} {l r c : Quantity}

theorem IsTerm.unit_eq (h : c.IsTerm u) : c.unit = none ∨ c.unit = some u := by
  cases h with
  | inUnit n => exact .inr rfl
  | unitless n => exact .inl rfl
  | inapplicable => exact .inl rfl

theorem isTerm_number {w : Option Measure} (h : w = none ∨ w = some u) (n : Decimal) :
    IsTerm u ⟨.number n, w⟩ := by
  rcases h with rfl | rfl
  · exact .unitless n
  · exact .inUnit n

theorem IsTerm.isPercent (h : c.IsTerm u) (hu : u ≠ .percent) : c.isPercent = false := by
  rw [← Bool.not_eq_true, isPercent_iff]
  intro hpercent
  rcases h.unit_eq with hunit | hunit
  · cases hunit.symm.trans hpercent
  · exact hu (Option.some_inj.1 (hunit.symm.trans hpercent))

/-- A term is added as a number. -/
theorem IsTerm.exists_orZero? (h : c.IsTerm u) :
    ∃ n : Decimal, c.outcome.orZero? = some (.number n) ∧ n.value = c.outcome.counted := by
  cases h with
  | inUnit n => exact ⟨n, rfl, rfl⟩
  | unitless n => exact ⟨n, rfl, rfl⟩
  | inapplicable => exact ⟨.zero, rfl, Decimal.value_zero⟩

/-- Two terms of a sum share their unit, or one of them has none. -/
theorem IsTerm.reconcile? (hl : l.IsTerm u) (hr : r.IsTerm u) :
    l.reconcile? r = .ok (⟨l.outcome, l.unit.or r.unit⟩, ⟨r.outcome, l.unit.or r.unit⟩) := by
  refine reconcile?_of_unit ?_ l.outcome r.outcome
  rcases hl.unit_eq with hlunit | hlunit
  · exact .inl hlunit
  · rcases hr.unit_eq with hrunit | hrunit
    · exact .inr (.inl hrunit)
    · exact .inr (.inr (hlunit.trans hrunit.symm))

end Quantity

namespace Operator

/-- Numbers are added, where zero stands for what does not apply. -/
theorem combineKnown_add {left right : Outcome} {m n s : Decimal}
    (hleft : left.orZero? = some (.number m)) (hright : right.orZero? = some (.number n))
    (hs : m.value + n.value = s.value) : add.combineKnown left right = pure (.number s) := by
  have hopen {o : Outcome} {n : Decimal} (h : o.orZero? = some (.number n)) :
      o ≠ .indeterminate := by
    rintro rfl
    cases h
  have hdate {o : Outcome} {n : Decimal} (h : o.orZero? = some (.number n)) :
      o.dateText? = none := by
    cases o with
    | value v => cases h; rfl
    | inapplicable => rfl
    | indeterminate => cases h
  have happly : add.apply left right = .ok (.number s) := by
    simp only [apply, hleft, hright, Arithmetic.result?, Decimal.add?_of_value hs,
      Option.map_some]
  rw [combineKnown_of_ne (hopen hleft) (hopen hright), combine, hdate hleft]
  exact applyOrWarn_of_ok happly

/-- Two terms are added without a warning, in the unit of the first one that has one. -/
theorem calculate_add {u : Measure} {l r : Quantity} (hu : u ≠ .percent) (hl : l.IsTerm u)
    (hr : r.IsTerm u) (hfits : Decimal.Fits (l.outcome.counted + r.outcome.counted)) :
    add.calculate l r =
      (do
        let o ← pure (.number ⟨_, hfits⟩)
        pure ⟨o, Measure.normal (l.unit.or r.unit)⟩) := by
  have hadjustment : add.adjustment? l r = none := by
    unfold adjustment?
    rw [hr.isPercent hu]
    rfl
  obtain ⟨m, hm, hmvalue⟩ := hl.exists_orZero?
  obtain ⟨n, hn, hnvalue⟩ := hr.exists_orZero?
  have hsum : m.value + n.value = (⟨_, hfits⟩ : Decimal).value := by rw [hmvalue, hnvalue]
  have hunit : add.unit? (l.unit.or r.unit) (l.unit.or r.unit) =
    Measure.normal (l.unit.or r.unit) := congrArg Measure.normal (Option.or_self ..)
  rw [calculate_of_reconcile? rfl hadjustment (hl.reconcile? hr), combineKnown_add hm hn hsum,
    hunit]

end Operator

/-! ## Sums -/

namespace Expr

variable {resolve : String → Logged Node} {u : Measure} {left right : Expr} {x y : Rat}
  {w v : Option Measure}

/-- Whether the expression comes to a term that counts `x` in the unit `w`. -/
structure CountsAs (resolve : String → Logged Node) (u : Measure) (e : Expr) (x : Rat)
    (w : Option Measure) : Prop where
  isTerm : (e.evaluate resolve).result.quantity.IsTerm u
  counted : (e.evaluate resolve).result.outcome.counted = x
  unit : (e.evaluate resolve).result.quantity.unit = w
  unit_ne_empty : w ≠ some .empty

/-- The sum of two terms is a number in the unit of the first one that has one, and its log is that
of the terms. -/
theorem CountsAs.sum (hu : u ≠ .percent) (hleft : CountsAs resolve u left x w)
    (hright : CountsAs resolve u right y v) (hfits : Decimal.Fits (x + y)) (symbol : String) :
    ((operation .add symbol left right).evaluate resolve).result.quantity =
        ⟨.number ⟨_, hfits⟩, w.or v⟩ ∧
      ((operation .add symbol left right).evaluate resolve).events =
        (left.evaluate resolve).events ++ (right.evaluate resolve).events := by
  obtain ⟨hl, rfl, rfl, hw⟩ := hleft
  obtain ⟨hr, rfl, rfl, hv⟩ := hright
  obtain ⟨hunit, houtcome, hevents⟩ :=
    calculatedAs_of_calculate rfl rfl rfl rfl (Operator.calculate_add hu hl hr hfits) symbol
  rw [Measure.normal_normal, Measure.normal_eq_self (Measure.or_ne_empty hw hv)] at hunit
  rw [Logged.events_pure, List.append_nil] at hevents
  exact ⟨congrArg₂ Quantity.mk houtcome hunit, hevents⟩

/-- So the sum is a term as well. -/
theorem CountsAs.countsAs_sum (hu : u ≠ .percent) (hleft : CountsAs resolve u left x w)
    (hright : CountsAs resolve u right y v) (hfits : Decimal.Fits (x + y)) (symbol : String) :
    CountsAs resolve u (operation .add symbol left right) (x + y) (w.or v) := by
  obtain ⟨hquantity, -⟩ := hleft.sum hu hright hfits symbol
  have houtcome : ((operation .add symbol left right).evaluate resolve).result.outcome =
    .number ⟨_, hfits⟩ := congrArg Quantity.outcome hquantity
  have hunit : w.or v = none ∨ w.or v = some u := by
    rcases hleft.unit ▸ hleft.isTerm.unit_eq with rfl | rfl
    · exact hright.unit ▸ hright.isTerm.unit_eq
    · exact .inr rfl
  refine ⟨?_, congrArg Outcome.counted houtcome, congrArg Quantity.unit hquantity,
    Measure.or_ne_empty hleft.unit_ne_empty hright.unit_ne_empty⟩
  rw [hquantity]
  exact Quantity.isTerm_number hunit _

end Expr

/-- Expressions that are added, in any shape. -/
inductive Total
  | term (e : Expr)
  | sum (symbol : String) (left right : Total)

namespace Total

def expr : Total → Expr
  | term e => e
  | sum symbol left right => .operation .add symbol left.expr right.expr

/-- The expressions that are added, from left to right. -/
def terms : Total → List Expr
  | term e => [e]
  | sum _ left right => left.terms ++ right.terms

/-- The sum itself and the sums that it is made of. -/
def parts : Total → List Total
  | term e => [term e]
  | sum symbol left right => sum symbol left right :: (left.parts ++ right.parts)

/-- The sum of the terms that are numbers. -/
def amount (resolve : String → Logged Node) (t : Total) : Rat :=
  (t.terms.map fun e => (e.evaluate resolve).result.outcome.counted).sum

/-- The unit of the first term that has one. -/
def unit? (resolve : String → Logged Node) (t : Total) : Option Measure :=
  t.terms.findSome? fun e => (e.evaluate resolve).result.quantity.unit

variable {resolve : String → Logged Node} {u : Measure} {t t' : Total}

theorem amount_sum (resolve : String → Logged Node) (symbol : String) (left right : Total) :
    (sum symbol left right).amount resolve = left.amount resolve + right.amount resolve := by
  rw [amount, terms, List.map_append, List.sum_append, amount, amount]

theorem unit?_sum (resolve : String → Logged Node) (symbol : String) (left right : Total) :
    (sum symbol left right).unit? resolve = (left.unit? resolve).or (right.unit? resolve) :=
  List.findSome?_append

/-- What an expression that adds terms comes to. -/
structure Adds (resolve : String → Logged Node) (u : Measure) (t : Total) : Prop where
  countsAs : t.expr.CountsAs resolve u (t.amount resolve) (t.unit? resolve)
  /-- Several terms make a number, even if none of them applies. -/
  isNumber : 1 < t.terms.length → ∃ n, (t.expr.evaluate resolve).result.outcome = .number n
  events : (t.expr.evaluate resolve).events = t.terms.flatMap fun e => (e.evaluate resolve).events

theorem adds_term {e : Expr} (hterm : (e.evaluate resolve).result.quantity.IsTerm u)
    (hunit : (e.evaluate resolve).result.quantity.unit ≠ some .empty) :
    (term e).Adds resolve u where
  countsAs := by
    have hamount : (term e).amount resolve = (e.evaluate resolve).result.outcome.counted :=
      List.sum_singleton
    have hfirst : (term e).unit? resolve = (e.evaluate resolve).result.quantity.unit :=
      List.findSome?_singleton
    rw [hamount, hfirst]
    exact ⟨hterm, rfl, rfl, hunit⟩
  isNumber h := absurd h (Nat.lt_irrefl 1)
  events := (List.append_nil _).symm

theorem Adds.sum {left right : Total} (hu : u ≠ .percent) (hleft : left.Adds resolve u)
    (hright : right.Adds resolve u) {symbol : String}
    (hfits : Decimal.Fits ((sum symbol left right).amount resolve)) :
    (sum symbol left right).Adds resolve u := by
  rw [amount_sum] at hfits
  obtain ⟨hquantity, hevents⟩ := hleft.countsAs.sum hu hright.countsAs hfits symbol
  refine ⟨?_, fun _ => ⟨_, congrArg Quantity.outcome hquantity⟩, ?_⟩
  · rw [amount_sum, unit?_sum]
    exact hleft.countsAs.countsAs_sum hu hright.countsAs hfits symbol
  · rw [terms, List.flatMap_append, ← hleft.events, ← hright.events]
    exact hevents

/-- Terms are added as long as no sum on the way is rounded. -/
theorem adds (hu : u ≠ .percent)
    (hterms : ∀ e ∈ t.terms, (e.evaluate resolve).result.quantity.IsTerm u)
    (hunits : ∀ e ∈ t.terms, (e.evaluate resolve).result.quantity.unit ≠ some .empty)
    (hfits : ∀ s ∈ t.parts, Decimal.Fits (s.amount resolve)) : t.Adds resolve u := by
  induction t with
  | term e =>
    have he : e ∈ (term e).terms := List.mem_singleton_self e
    exact adds_term (hterms e he) (hunits e he)
  | sum symbol left right ihl ihr =>
    obtain ⟨hlterms, hrterms⟩ := List.forall_mem_append.1 hterms
    obtain ⟨hlunits, hrunits⟩ := List.forall_mem_append.1 hunits
    obtain ⟨hself, hparts⟩ := List.forall_mem_cons.1 hfits
    obtain ⟨hlparts, hrparts⟩ := List.forall_mem_append.1 hparts
    exact (ihl hlterms hlunits hlparts).sum hu (ihr hrterms hrunits hrparts) hself

/-- The unit of a sum is that of any term that has one. -/
theorem unit?_eq (hterms : ∀ e ∈ t.terms, (e.evaluate resolve).result.quantity.IsTerm u) :
    t.unit? resolve =
      if ∃ e ∈ t.terms, (e.evaluate resolve).result.quantity.unit = some u then some u
      else none := by
  cases hfirst : t.unit? resolve with
  | none =>
    have hnone := List.findSome?_eq_none_iff.1 hfirst
    rw [if_neg]
    rintro ⟨e, he, hunit⟩
    rw [hnone e he] at hunit
    cases hunit
  | some v =>
    obtain ⟨e, he, hunit⟩ := List.exists_of_findSome?_eq_some hfirst
    have hv : v = u := by
      rcases (hterms e he).unit_eq with h | h
      · cases h.symm.trans hunit
      · exact Option.some_inj.1 (hunit.symm.trans h)
    rw [if_pos ⟨e, he, hv ▸ hunit⟩, hv]

theorem amount_eq_of_perm (h : t'.terms.Perm t.terms) : t'.amount resolve = t.amount resolve :=
  List.Perm.sum_eq (h.map _)

end Total

/-! ## Evaluations -/

namespace Questionnaire

variable {q : Questionnaire} {depth : Nat} {e : Expr} {n : Node} {events : List Event}

/-- Evaluation gives the empty unit to nothing. -/
theorem Evaluates.unit_ne_empty (h : q.Evaluates depth e n events) :
    n.quantity.unit ≠ some .empty := by
  induction h with
  | constant c => exact Measure.normal_ne_empty c.unit
  | @given _ name rule answer v _ _ =>
    cases v with
    | number n => exact rule.unit_ne_empty
    | boolean b => nofun
    | text t => nofun
    | date d => nofun
  | unknown _ => nofun
  | unreadable _ _ => nofun
  | @question _ _ rule _ => exact rule.unit_ne_empty
  | cutOff _ => nofun
  | @rule _ _ rule _ _ _ _ _ ih => exact Measure.or_ne_empty ih rule.unit_ne_empty
  | decidedByLeft _ _ _ => nofun
  | decidedByRight _ _ _ _ _ _ => nofun
  | calculated _ _ _ _ _ _ _ => exact Measure.normal_ne_empty _

section

variable {u : Measure} {t : Total} (hu : u ≠ .percent) (ht : 1 < t.terms.length)
  (hterms : ∀ e ∈ t.terms, (q.evaluate e).result.quantity.IsTerm u)
  (hfits : ∀ s ∈ t.parts, Decimal.Fits (s.amount (q.resolve q.settings.maxDepth)))

include hu hterms hfits

theorem adds_terms : t.Adds (q.resolve q.settings.maxDepth) u :=
  t.adds hu hterms (fun e _ => (evaluates_evaluate q e).unit_ne_empty) hfits

include ht

theorem exists_result_total :
    ∃ n : Decimal, n.value = t.amount (q.resolve q.settings.maxDepth) ∧
      (q.evaluate t.expr).result.result =
        .complete ⟨.number n,
          if ∃ e ∈ t.terms, (q.evaluate e).result.quantity.unit = some u then some u
          else none⟩ := by
  have hadds := adds_terms hu hterms hfits
  obtain ⟨n, hn⟩ := hadds.isNumber ht
  have hamount := hadds.countsAs.counted
  rw [hn] at hamount
  -- A number is not open, so that there is nothing left to wait for.
  have hsettled : (q.evaluate t.expr).result.outcome ≠ .indeterminate := by
    intro hopen
    cases hn.symm.trans hopen
  have hmissing : (q.evaluate t.expr).result.missing = .empty :=
    ((evaluates_evaluate q t.expr).accounted _ (Node.self_mem_parts _)).settled hsettled
  have hquantity := congrArg₂ Quantity.mk hn (hadds.countsAs.unit.trans (Total.unit?_eq hterms))
  exact ⟨n, hamount, congrArg₂ Result.mk hquantity hmissing⟩

end

/-- A sum of terms in one unit, or in none, and of terms that do not apply. If no sum on the way is
rounded, it is the number that its numbers add up to, in the unit of any of them that has one. No
answer is missing, nothing is reported but what the terms report, and another sum of the same terms
comes to the same. -/
theorem evaluate_total {u : Measure} {t : Total} (hu : u ≠ .percent) (ht : 1 < t.terms.length)
    (hterms : ∀ e ∈ t.terms, (q.evaluate e).result.quantity.IsTerm u)
    (hfits : ∀ s ∈ t.parts, Decimal.Fits (s.amount (q.resolve q.settings.maxDepth))) :
    (∃ n : Decimal, n.value = t.amount (q.resolve q.settings.maxDepth) ∧
        (q.evaluate t.expr).result.result =
          .complete ⟨.number n,
            if ∃ e ∈ t.terms, (q.evaluate e).result.quantity.unit = some u then some u else none⟩) ∧
      (q.evaluate t.expr).events = (t.terms.flatMap fun e => (q.evaluate e).events) ∧
      ∀ t' : Total, t'.terms.Perm t.terms →
        (∀ s ∈ t'.parts, Decimal.Fits (s.amount (q.resolve q.settings.maxDepth))) →
        (q.evaluate t'.expr).result.result = (q.evaluate t.expr).result.result := by
  have hresult := exists_result_total hu ht hterms hfits
  refine ⟨hresult, (adds_terms hu hterms hfits).events, fun t' hperm hfits' => ?_⟩
  -- The other sum is of the same terms, so that it comes to their amount in their unit as well.
  obtain ⟨n, hn, hsum⟩ := hresult
  obtain ⟨n', hn', hsum'⟩ := exists_result_total hu (hperm.length_eq ▸ ht)
    (fun e he => hterms e (hperm.mem_iff.1 he)) hfits'
  have hsame : n' = n := Decimal.eq_of_value_eq (by rw [hn', hn, Total.amount_eq_of_perm hperm])
  simp only [hsum', hsum, hsame, hperm.mem_iff]

/-- A tip of half a euro, a gift that does not apply and a price of three euros are three euros and
a half, in whatever order. -/
theorem evaluate_total_price :
    let q : Questionnaire := { rules := ∅ }
    let euro : Measure := .atom "€"
    let tip := Total.term (.number (.ofParts 5 1))
    let gift := Total.term .inapplicable
    let price := Total.term (.constant ⟨.number (.ofParts 3 0), some euro⟩)
    let t := Total.sum "+" (.sum "+" tip gift) price
    let t' := Total.sum "+" gift (.sum "+" price tip)
    euro ≠ .percent ∧ 1 < t.terms.length ∧
      (∀ e ∈ t.terms, (q.evaluate e).result.quantity.IsTerm euro) ∧
      (∀ s ∈ t.parts, Decimal.Fits (s.amount (q.resolve q.settings.maxDepth))) ∧
      (q.evaluate t.expr).result.result = .complete ⟨.number (.ofParts 35 1), some euro⟩ ∧
      (q.evaluate t.expr).events = [] ∧
      (q.evaluate t'.expr).result.result = (q.evaluate t.expr).result.result := by
  intro q euro tip gift price t t'
  have heuro : euro ≠ .percent := by decide
  have hlength : 1 < t.terms.length := by decide
  have hterms : ∀ e ∈ t.terms, (q.evaluate e).result.quantity.IsTerm euro := by
    intro e he
    rcases List.mem_cons.1 he with rfl | he
    · exact .unitless _
    · rcases List.mem_cons.1 he with rfl | he
      · exact .inapplicable
      · rw [List.mem_singleton.1 he]
        exact .inUnit _
  have hfits : ∀ s ∈ t.parts, Decimal.Fits (s.amount (q.resolve q.settings.maxDepth)) := by
    decide +kernel
  have hperm : t'.terms.Perm t.terms := by decide +kernel
  obtain ⟨⟨n, hn, hsum⟩, hevents, hrearranged⟩ := evaluate_total heuro hlength hterms hfits
  have hvalue : n = .ofParts 35 1 := Decimal.eq_of_value_eq (hn.trans (by decide +kernel))
  rw [hvalue] at hsum
  exact ⟨heuro, hlength, hterms, hfits, hsum, hevents, hrearranged t' hperm (by decide +kernel)⟩

end Questionnaire

end Rulebook
