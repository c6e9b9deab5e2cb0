import Rulebook.Measure.Notation

/-!
# The grammar of units

Which texts are read as units, and as which. A text holds one bar at most. Each
side of the bar is cut at its dots, and the pieces without the blanks at their
ends are the atoms, none of which is blank. Only above the bar, or if there is
no bar, may the atoms be left out altogether.

* `readAtoms?_eq_some_iff`: one side is read as the atoms that it writes.
* `parse_eq_ok_iff_writes`: a text is read as the unit that it writes.
-/

namespace Rulebook.Measure

/-- The atoms that characters write: none if they are blank, and otherwise one for each piece
between dots. -/
inductive WritesAtoms : List Char → List String → Prop
  | blank {cs : List Char} : Text.trim cs = [] → WritesAtoms cs []
  | dotted {pieces : List (List Char)} : pieces ≠ [] →
    (∀ piece ∈ pieces, '.' ∉ piece ∧ Text.trim piece ≠ []) →
    WritesAtoms (Text.join '.' pieces) (pieces.map fun piece => String.ofList (Text.trim piece))

/-- The unit that characters write: atoms, or atoms over atoms that are not left out. -/
inductive Writes : List Char → Measure → Prop
  | atoms {cs : List Char} {numerators : List String} : '/' ∉ cs → WritesAtoms cs numerators →
    Writes cs ⟨numerators, []⟩
  | fraction {above below : List Char} {numerators denominators : List String} : '/' ∉ above →
    '/' ∉ below → Text.trim below ≠ [] → WritesAtoms above numerators →
    WritesAtoms below denominators → Writes (above ++ '/' :: below) ⟨numerators, denominators⟩

variable {u : Measure} {cs : List Char} {atoms : List String}

/-! ## One side of the bar -/

theorem trim_join_ne_nil {sep : Char} {pieces : List (List Char)} {piece : List Char}
    (hmem : piece ∈ pieces) (hpiece : Text.trim piece ≠ []) :
    Text.trim (Text.join sep pieces) ≠ [] := by
  simp only [Ne, Text.trim_eq_nil_iff] at hpiece ⊢
  exact fun hall => hpiece fun c hc => hall c (Text.mem_join_of_mem hmem hc)

/-- Just what is blank writes no atoms. -/
theorem WritesAtoms.eq_nil_iff (h : WritesAtoms cs atoms) : atoms = [] ↔ Text.trim cs = [] := by
  cases h with
  | blank hblank => exact iff_of_true rfl hblank
  | @dotted pieces hne hpieces =>
    obtain ⟨piece, hmem⟩ := List.exists_mem_of_ne_nil pieces hne
    refine iff_of_false (mt List.map_eq_nil_iff.1 hne) ?_
    exact trim_join_ne_nil hmem (hpieces piece hmem).2

/-- One side of the bar is read as the atoms that it writes. -/
theorem readAtoms?_eq_some_iff : readAtoms? cs = some atoms ↔ WritesAtoms cs atoms := by
  simp only [readAtoms?]
  constructor
  · intro h
    split at h
    · rename_i hblank
      cases h
      exact .blank hblank
    · split at h
      · cases h
      · rename_i hnil
        cases h
        have hpieces : ∀ piece ∈ Text.split '.' cs, '.' ∉ piece ∧ Text.trim piece ≠ [] :=
          fun piece hpiece =>
            ⟨Text.notMem_of_mem_split hpiece, fun he => hnil (he ▸ List.mem_map_of_mem hpiece)⟩
        have hdotted := WritesAtoms.dotted (Text.split_ne_nil cs) hpieces
        rw [Text.join_split] at hdotted
        rwa [List.map_map]
  · intro h
    have hempty := h.eq_nil_iff
    cases h with
    | blank hblank => rw [if_pos hblank]
    | @dotted pieces hne hpieces =>
      have hsplit : Text.split '.' (Text.join '.' pieces) = pieces :=
        Text.split_join hne fun piece hpiece => (hpieces piece hpiece).1
      have hnil : [] ∉ pieces.map Text.trim := by
        intro hmem
        obtain ⟨piece, hpiece, hblank⟩ := List.mem_map.1 hmem
        exact (hpieces piece hpiece).2 hblank
      rw [if_neg (mt hempty.2 (mt List.map_eq_nil_iff.1 hne)), hsplit, if_neg hnil, List.map_map]
      rfl

/-! ## Both sides -/

theorem parse_eq_ok_iff {text : String} : parse text = .ok u ↔ readChars? text.toList = some u := by
  rw [parse]
  cases readChars? text.toList <;> simp

/-- Characters are read as the unit that they write. -/
theorem readChars?_eq_some_iff : readChars? cs = some u ↔ Writes cs u := by
  constructor
  · intro h
    have hjoin : Text.join '/' (Text.split '/' cs) = cs := Text.join_split cs
    have hbar : ∀ piece ∈ Text.split '/' cs, '/' ∉ piece := fun _ => Text.notMem_of_mem_split
    rw [readChars?] at h
    split at h
    · rename_i side hsplit
      rw [hsplit] at hjoin hbar
      obtain ⟨numerators, hside, heq⟩ := Option.bind_eq_some_iff.1 h
      cases heq
      subst hjoin
      exact .atoms (hbar side (List.mem_singleton_self side)) (readAtoms?_eq_some_iff.1 hside)
    · rename_i above below hsplit
      rw [hsplit] at hjoin hbar
      obtain ⟨habove, hbelow⟩ := List.forall_mem_cons.1 hbar
      obtain ⟨numerators, hnumerators, h⟩ := Option.bind_eq_some_iff.1 h
      obtain ⟨denominators, hdenominators, h⟩ := Option.bind_eq_some_iff.1 h
      rw [readAtoms?_eq_some_iff] at hnumerators hdenominators
      obtain ⟨hne, heq⟩ := Option.ite_none_left_eq_some.1 h
      cases heq
      subst hjoin
      have hbelow := hbelow below (List.mem_singleton_self below)
      refine .fraction habove hbelow (fun hblank => ?_) hnumerators hdenominators
      exact hne (List.isEmpty_iff.2 (hdenominators.eq_nil_iff.2 hblank))
    · cases h
  · intro h
    cases h with
    | atoms hbar hatoms =>
      rw [readChars?, Text.split_of_notMem hbar]
      simp only [readAtoms?_eq_some_iff.2 hatoms, Option.bind_eq_bind, Option.bind_some]
    | @fraction _ _ _ denominators habove hbelow hblank hnumerators hdenominators =>
      have hne : denominators.isEmpty = false := by
        rw [← Bool.not_eq_true, List.isEmpty_iff, hdenominators.eq_nil_iff]
        exact hblank
      rw [readChars?, Text.split_append_sep habove, Text.split_of_notMem hbelow]
      simp only [readAtoms?_eq_some_iff.2 hnumerators, readAtoms?_eq_some_iff.2 hdenominators,
        Option.bind_eq_bind, Option.bind_some, hne, Bool.false_eq_true, if_false]

/-- A text is read as the unit that it writes. -/
theorem parse_eq_ok_iff_writes {text : String} : parse text = .ok u ↔ Writes text.toList u :=
  parse_eq_ok_iff.trans readChars?_eq_some_iff

/-- A text that writes no unit is refused. -/
theorem parse_eq_error {text : String} (h : ∀ u, ¬ Writes text.toList u) :
    parse text = .error (.malformed text) := by
  cases hread : readChars? text.toList with
  | some u => exact absurd (readChars?_eq_some_iff.1 hread) (h u)
  | none => rw [parse, hread]

end Rulebook.Measure
