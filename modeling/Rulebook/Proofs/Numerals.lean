import Mathlib.Data.List.TakeWhile
import Rulebook.Decimal.Notation

/-!
# Numerals

A number that is shown is read back. What is shown is a numeral: digits before a
point and, if there are any, decimals after it, with a minus sign in front of a
negative number. A numeral is read as the decimal nearest to what its digits
write, and the digits that are shown write the number itself.

* `signed_coefficient`: the digits of a decimal write its value.
* `readPlain?_numeral`: what a numeral is read as.
* `exists_showChars_eq_numeral`: what is shown is a numeral.
* `readChars?_showChars`: what is shown is read back.
-/

namespace Rulebook.Decimal

/-! ## The digits of a decimal -/

/-- A decimal is a whole number at its scale. -/
theorem value_mul_tenTo_scale (d : Decimal) :
    d.value * tenTo d.scale = (d.value * tenTo d.scale).num := by
  obtain ⟨m, s, hs, -, hv⟩ := d.fits
  have hden : (d.value * tenTo s).den = 1 := by
    rw [hv, div_tenTo_mul, Rat.den_intCast]
  have hsome :
      ((List.range (maxScale + 1)).find? fun s => (d.value * tenTo s).den == 1).isSome := by
    rw [List.find?_isSome]
    exact ⟨s, List.mem_range.2 (Nat.lt_succ_of_le hs), beq_iff_eq.2 hden⟩
  obtain ⟨t, ht⟩ := Option.isSome_iff_exists.1 hsome
  have hwhole := List.find?_some ht
  rw [scale, ht, Option.getD_some]
  exact Rat.ext rfl (beq_iff_eq.1 hwhole)

/-- The digits of a decimal write its value, with its sign. -/
theorem signed_coefficient (d : Decimal) :
    (if d.value < 0 then -(d.coefficient / tenTo d.scale : Rat)
      else d.coefficient / tenTo d.scale) = d.value := by
  have hwhole := d.value_mul_tenTo_scale
  rw [coefficient]
  generalize (d.value * tenTo d.scale).num = m at hwhole ⊢
  have hvalue : d.value = m / tenTo d.scale := by rw [← hwhole, mul_tenTo_div]
  have hneg : d.value < 0 ↔ m < 0 := by
    rw [hvalue, Rat.div_lt_iff (tenTo_pos _), Rat.zero_mul, ← Rat.intCast_zero,
      Rat.intCast_lt_intCast]
  rw [← Rat.intCast_natCast]
  split
  · rename_i h
    have habs : (m.natAbs : Int) = -m := by have := hneg.1 h; omega
    rw [habs, Rat.intCast_neg, hvalue]
    grind
  · rename_i h
    have habs : (m.natAbs : Int) = m := by have := mt hneg.2 h; omega
    rw [habs, hvalue]

/-! ## Numerals -/

/-- The digits `whole`, with a point and the digits `decimals` after them if there are any, and a
minus sign before them if the number is negative. -/
def numeral (negative : Bool) (whole decimals : List Char) : List Char :=
  (if negative then ['-'] else []) ++ whole ++ (if decimals = [] then [] else '.' :: decimals)

variable {negative : Bool} {whole decimals : List Char} {c : Char}

theorem mem_numeral (hwhole : ∀ c ∈ whole, c.isDigit = true)
    (hdecimals : ∀ c ∈ decimals, c.isDigit = true) (h : c ∈ numeral negative whole decimals) :
    c.isDigit = true ∨ c = '-' ∨ c = '.' := by
  rw [numeral, List.mem_append, List.mem_append] at h
  rcases h with (h | h) | h
  · split at h
    · exact .inr (.inl (List.mem_singleton.1 h))
    · cases h
  · exact .inl (hwhole c h)
  · split at h
    · cases h
    · rcases List.mem_cons.1 h with rfl | h
      · exact .inr (.inr rfl)
      · exact .inl (hdecimals c h)

theorem ne_of_isDigit {other : Char} (h : c.isDigit = true) (hother : other.isDigit = false) :
    c ≠ other := by
  rintro rfl
  rw [hother] at h
  cases h

theorem sign_of_isDigit (h : c.isDigit = true) (cs : List Char) :
    sign (c :: cs) = (false, c :: cs) := by
  unfold sign
  split
  · rename_i heq
    cases heq
    cases h
  · rename_i heq
    cases heq
    cases h
  · rfl

theorem bne_point_of_notMem {cs : List Char} (h : '.' ∉ cs) : ∀ c ∈ cs, (c != '.') = true :=
  fun _ hc => bne_iff_ne.2 fun he => h (he ▸ hc)

theorem atPoint_of_notMem {cs : List Char} (h : '.' ∉ cs) : atPoint cs = (cs, []) := by
  have hne := bne_point_of_notMem h
  rw [atPoint, List.takeWhile_eq_self_iff.2 hne, List.dropWhile_eq_nil_iff.2 hne, List.drop_nil]

theorem atPoint_append (h : '.' ∉ whole) (decimals : List Char) :
    atPoint (whole ++ '.' :: decimals) = (whole, decimals) := by
  have hne := bne_point_of_notMem h
  rw [atPoint, List.takeWhile_append_of_pos hne, List.dropWhile_append_of_pos hne]
  exact congrArg (·, decimals) (List.append_nil whole)

/-- The sign of a numeral is found, and then its digits before and after the point. -/
theorem sign_numeral (negative : Bool) (decimals : List Char) (hne : whole ≠ [])
    (hwhole : ∀ c ∈ whole, c.isDigit = true) :
    ∃ cs, sign (numeral negative whole decimals) = (negative, cs) ∧
      atPoint cs = (whole, decimals) := by
  have hpoint : '.' ∉ whole := fun h => ne_of_isDigit (hwhole _ h) rfl rfl
  refine ⟨whole ++ if decimals = [] then [] else '.' :: decimals, ?_, ?_⟩
  · rw [numeral, List.append_assoc]
    cases negative with
    | true => rfl
    | false =>
      obtain ⟨c, cs, rfl⟩ := List.exists_cons_of_ne_nil hne
      exact sign_of_isDigit (hwhole c (List.mem_cons_self ..)) _
  · split
    · rename_i h
      rw [List.append_nil, h, atPoint_of_notMem hpoint]
    · exact atPoint_append hpoint decimals

theorem isGrouped_of_isDigit {cs : List Char} (hne : cs ≠ []) (h : ∀ c ∈ cs, c.isDigit = true) :
    isGrouped cs = true := by
  obtain ⟨c, cs, rfl⟩ := List.exists_cons_of_ne_nil hne
  have hall : ((c :: cs).all fun c => c.isDigit || c == '_') = true :=
    List.all_eq_true.2 fun c hc => by rw [h c hc, Bool.true_or]
  rw [isGrouped, hall, List.head?_cons, Option.any_some, h c (List.mem_cons_self ..), Bool.and_self]

/-- A numeral is read as the decimal nearest to what its digits write. -/
theorem readPlain?_numeral (hne : whole ≠ []) (hwhole : ∀ c ∈ whole, c.isDigit = true)
    (hdecimals : ∀ c ∈ decimals, c.isDigit = true) :
    readPlain? (numeral negative whole decimals) = nearest? .awayFromZero
      (if negative then -ofDigits whole decimals else ofDigits whole decimals) := by
  obtain ⟨cs, hsign, hpoint⟩ := sign_numeral negative decimals hne hwhole
  have hgrouped : isGrouped (whole ++ decimals) = true :=
    isGrouped_of_isDigit (List.append_ne_nil_of_left_ne_nil hne _)
      (List.forall_mem_append.2 ⟨hwhole, hdecimals⟩)
  have hbar {cs : List Char} (h : ∀ c ∈ cs, c.isDigit = true) : '_' ∉ cs :=
    fun hmem => ne_of_isDigit (h _ hmem) rfl rfl
  rw [readPlain?, hsign]
  simp only [hpoint, hgrouped, if_true, ungrouped_of_notMem (hbar hwhole),
    keptDecimals_of_notMem whole (hbar hdecimals)]

/-- A text without a power of ten is read as digits alone. -/
theorem readChars?_of_isBeforePower {cs : List Char} (h : ∀ c ∈ cs, isBeforePower c = true) :
    readChars? cs = readPlain? cs := by
  rw [readChars?, List.takeWhile_eq_self_iff.2 h, List.dropWhile_eq_nil_iff.2 h]
  cases readPlain? cs <;> rfl

/-! ## Shown numbers -/

/-- What is shown is a numeral whose digits write the number. -/
theorem exists_showChars_eq_numeral (d : Decimal) :
    ∃ whole decimals, d.showChars = numeral (d.value < 0) whole decimals ∧ whole ≠ [] ∧
      (∀ c ∈ whole, c.isDigit = true) ∧ (∀ c ∈ decimals, c.isDigit = true) ∧
      ofDigits whole decimals = d.coefficient / tenTo d.scale := by
  have hlength := Text.length_paddedDigits (d.scale + 1) d.coefficient
  have hvalue := Text.ofDigitChars_paddedDigits (d.scale + 1) d.coefficient
  have hdigits {c : Char} (h : c ∈ Text.paddedDigits (d.scale + 1) d.coefficient) :
      c.isDigit = true := Text.isDigit_of_mem_paddedDigits h
  rw [showChars]
  generalize Text.paddedDigits (d.scale + 1) d.coefficient = digits at hlength hvalue hdigits ⊢
  have hscale : (digits.drop (digits.length - d.scale)).length = d.scale := by
    rw [List.length_drop]
    omega
  refine ⟨digits.take (digits.length - d.scale), digits.drop (digits.length - d.scale), ?_, ?_,
    fun c hc => hdigits (List.mem_of_mem_take hc),
    fun c hc => hdigits (List.mem_of_mem_drop hc), ?_⟩
  · simp only [numeral, decide_eq_true_eq, ← List.length_eq_zero_iff, hscale]
  · rw [Ne, ← List.length_eq_zero_iff, List.length_take]
    omega
  · rw [ofDigits, List.take_append_drop, hvalue, hscale]

theorem mem_showChars {d : Decimal} (h : c ∈ d.showChars) :
    c.isDigit = true ∨ c = '-' ∨ c = '.' := by
  obtain ⟨whole, decimals, hshow, -, hwhole, hdecimals, -⟩ := d.exists_showChars_eq_numeral
  rw [hshow] at h
  exact mem_numeral hwhole hdecimals h

/-- What is shown is read back. -/
theorem readChars?_showChars (d : Decimal) : readChars? d.showChars = some d := by
  have hbefore : ∀ c ∈ d.showChars, isBeforePower c = true := by
    intro c hc
    rw [isBeforePower, Bool.and_eq_true, bne_iff_ne, bne_iff_ne]
    rcases mem_showChars hc with h | rfl | rfl
    · exact ⟨ne_of_isDigit h rfl, ne_of_isDigit h rfl⟩
    · decide
    · decide
  obtain ⟨whole, decimals, hshow, hne, hwhole, hdecimals, hvalue⟩ := d.exists_showChars_eq_numeral
  rw [readChars?_of_isBeforePower hbefore, hshow, readPlain?_numeral hne hwhole hdecimals, hvalue]
  simp only [decide_eq_true_eq, signed_coefficient]
  exact nearest?_value _ d

end Rulebook.Decimal
