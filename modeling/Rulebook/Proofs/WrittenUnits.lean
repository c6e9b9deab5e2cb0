import Rulebook.Proofs.UnitGrammar

/-!
# Units that can be written

A unit can be written if its atoms can: they are not empty, have no blanks at
their ends, and hold no dots and bars. These are the units that are read from
texts, and reading the text of such a unit gives the unit. Products and
quotients of units that can be written can be written.

* `writesAtoms_atomsText`: atoms are written by their text.
* `parse_text`: the text of a unit that can be written is read as that unit.
* `writable_of_parse`: what is read can be written.
* `Writable.multiply`, `Writable.inverse`: what is calculated can be written.
-/

namespace Rulebook.Measure

/-- Whether a name is read as one atom. -/
structure IsAtom (name : String) : Prop where
  ne_nil : name.toList ≠ []
  trim_eq : Text.trim name.toList = name.toList
  dot_notMem : '.' ∉ name.toList
  bar_notMem : '/' ∉ name.toList

/-- Whether all atoms of a unit are read as atoms. -/
structure Writable (u : Measure) : Prop where
  numerators : ∀ name ∈ u.numerators, IsAtom name
  denominators : ∀ name ∈ u.denominators, IsAtom name

variable {u v : Measure} {atoms above below : List String} {name : String}

/-! ## Atoms -/

theorem toList_atomsText (atoms : List String) :
    (atomsText atoms).toList = Text.join '.' (atoms.map String.toList) :=
  String.toList_ofList

theorem bar_notMem_atomsText (h : ∀ name ∈ atoms, IsAtom name) :
    '/' ∉ (atomsText atoms).toList := by
  rw [toList_atomsText]
  intro hbar
  obtain ⟨piece, hpiece, hbar⟩ := Text.exists_mem_of_mem_join hbar (by decide)
  obtain ⟨name, hname, rfl⟩ := List.mem_map.1 hpiece
  exact (h name hname).bar_notMem hbar

theorem map_trim_toList (h : ∀ name ∈ atoms, IsAtom name) :
    (atoms.map String.toList).map (fun piece => String.ofList (Text.trim piece)) = atoms := by
  rw [List.map_map]
  refine (List.map_congr_left fun name hname => ?_).trans (List.map_id _)
  rw [Function.comp_apply, (h name hname).trim_eq, String.ofList_toList, id]

/-- The text of atoms writes these atoms. -/
theorem writesAtoms_atomsText (h : ∀ name ∈ atoms, IsAtom name) :
    WritesAtoms (atomsText atoms).toList atoms := by
  rw [toList_atomsText]
  by_cases hnil : atoms = []
  · subst hnil
    exact .blank rfl
  · have hpieces : ∀ piece ∈ atoms.map String.toList, '.' ∉ piece ∧ Text.trim piece ≠ [] :=
      List.forall_mem_map.2 fun name hname =>
        ⟨(h name hname).dot_notMem, (h name hname).trim_eq.symm ▸ (h name hname).ne_nil⟩
    have hdotted := WritesAtoms.dotted (mt List.map_eq_nil_iff.1 hnil) hpieces
    rwa [map_trim_toList h] at hdotted

/-- The atoms that are written without bars are read again. -/
theorem WritesAtoms.isAtom {cs : List Char} (h : WritesAtoms cs atoms) (hbar : '/' ∉ cs) :
    ∀ name ∈ atoms, IsAtom name := by
  cases h with
  | blank _ => exact List.forall_mem_nil _
  | dotted _ hpieces =>
    refine List.forall_mem_map.2 fun piece hpiece => ?_
    obtain ⟨hdot, hblank⟩ := hpieces piece hpiece
    constructor <;> rw [String.toList_ofList]
    · exact hblank
    · exact Text.trim_trim piece
    · exact fun hc => hdot (Text.mem_of_mem_trim hc)
    · exact fun hc => hbar (Text.mem_join_of_mem hpiece (Text.mem_of_mem_trim hc))

/-! ## Reading what is written -/

/-- The text of a unit that can be written writes that unit. -/
theorem Writable.writes (h : u.Writable) : Writes u.text.toList u := by
  obtain ⟨above, below⟩ := u
  have hbarAbove := bar_notMem_atomsText h.numerators
  have hbarBelow := bar_notMem_atomsText h.denominators
  have habove := writesAtoms_atomsText h.numerators
  have hbelow := writesAtoms_atomsText h.denominators
  rw [text]
  split
  · rename_i hempty
    cases List.isEmpty_iff.1 hempty
    exact .atoms hbarAbove habove
  · rename_i hempty
    have hblank := mt hbelow.eq_nil_iff.2 (mt List.isEmpty_iff.2 hempty)
    rw [String.toList_append, String.toList_append, List.append_assoc]
    exact .fraction hbarAbove hbarBelow hblank habove hbelow

/-- What is written can be written. -/
theorem Writes.writable {cs : List Char} (h : Writes cs u) : u.Writable := by
  cases h with
  | atoms hbar hatoms => exact ⟨hatoms.isAtom hbar, List.forall_mem_nil _⟩
  | fraction habove hbelow _ hnumerators hdenominators =>
    exact ⟨hnumerators.isAtom habove, hdenominators.isAtom hbelow⟩

/-- The text of a unit that can be written is read as that unit. -/
theorem parse_text (h : u.Writable) : parse u.text = .ok u :=
  parse_eq_ok_iff_writes.2 h.writes

/-- What is read can be written. -/
theorem writable_of_parse {text : String} (h : parse text = .ok u) : u.Writable :=
  (parse_eq_ok_iff_writes.1 h).writable

/-- A text is read as a unit just if it writes that unit by the grammar, and any other text is
refused. A unit that was read from a text, and every unit whose atoms are not empty, have no blanks
at their ends and hold no dots and bars, is read again from its own text. -/
theorem parse_grammar_and_text :
    (∀ (t : String) (u : Measure), parse t = .ok u ↔ Writes t.toList u) ∧
      (∀ t : String, (∀ u, ¬ Writes t.toList u) → parse t = .error (.malformed t)) ∧
      (∀ (t : String) (u : Measure), parse t = .ok u → parse u.text = .ok u) ∧
      ∀ u : Measure, u.Writable → parse u.text = .ok u :=
  ⟨fun _ _ => parse_eq_ok_iff_writes, fun _ => parse_eq_error,
    fun _ _ h => parse_text (writable_of_parse h), fun _ => parse_text⟩

/-- Kilograms over square metres are read from a text with blanks, and again from their own text.
Nothing is read between two dots. What divides may stand alone. -/
theorem parse_grammar_and_text_blanks :
    let u : Measure := ⟨["kg"], ["m", "m"]⟩
    let monthly : Measure := ⟨[], ["month"]⟩
    parse " kg / m. m" = .ok u ∧ Writes " kg / m. m".toList u ∧
      parse u.text = .ok u ∧ u.text = "kg/m.m" ∧
      (∀ v, ¬ Writes "kg. .m".toList v) ∧ parse "kg. .m" = .error (.malformed "kg. .m") ∧
      monthly.Writable ∧ monthly.text = "/month" ∧ parse monthly.text = .ok monthly := by
  intro u monthly
  obtain ⟨hgrammar, hrefused, hagain, hwritable⟩ := parse_grammar_and_text
  have hread : parse " kg / m. m" = .ok u := parse_eq_ok_iff.2 (by decide +kernel)
  have hunread : ∀ v, ¬ Writes "kg. .m".toList v := by
    intro v hv
    have hnone : readChars? "kg. .m".toList = none := by decide +kernel
    rw [readChars?_eq_some_iff.2 hv] at hnone
    cases hnone
  have hmonthly : monthly.Writable := {
    numerators := List.forall_mem_nil _
    denominators := List.forall_mem_singleton.2 ⟨by decide, by decide, by decide, by decide⟩ }
  exact ⟨hread, (hgrammar _ u).1 hread, hagain _ u hread, by decide +kernel, hunread,
    hrefused _ hunread, hmonthly, by decide +kernel, hwritable monthly hmonthly⟩

/-! ## Calculated units -/

theorem writable_empty : empty.Writable :=
  ⟨List.forall_mem_nil _, List.forall_mem_nil _⟩

theorem writable_percent : percent.Writable where
  numerators := List.forall_mem_singleton.2 ⟨by decide, by decide, by decide, by decide⟩
  denominators := List.forall_mem_nil _

theorem writable_cancel (habove : ∀ name ∈ above, IsAtom name)
    (hbelow : ∀ name ∈ below, IsAtom name) : (cancel above below).Writable where
  numerators name h := habove name ((numerators_cancel_sublist above below).mem h)
  denominators name h := hbelow name ((denominators_cancel_sublist above below).mem h)

theorem Writable.inverse (h : u.Writable) : u.inverse.Writable :=
  ⟨h.denominators, h.numerators⟩

theorem Writable.multiply (hu : u.Writable) (hv : v.Writable) : (u.multiply v).Writable :=
  writable_cancel (List.forall_mem_append.2 ⟨hu.numerators, hv.numerators⟩)
    (List.forall_mem_append.2 ⟨hu.denominators, hv.denominators⟩)

end Rulebook.Measure
