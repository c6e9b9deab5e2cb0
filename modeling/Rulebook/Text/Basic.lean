/-!
# Characters and blanks

A class of characters is given by runs of code points. Texts are read without
the blanks at their ends. A blank is a character with the Unicode property
White_Space: the no-break space is one, and the zero width space is not.

* `CharClass.contains_iff`: the characters of a class.
* `trim_eq_nil_iff`: only a text of blanks has nothing left.
* `trim_eq_self`: a text that neither begins nor ends with a blank is kept.
* `trim_append_blanks`, `trim_blanks_append`: blanks at either end do not matter.
* `trim_trim`: what is trimmed has no blanks at its ends.
-/

namespace Rulebook.Text

/-! ## Classes of characters -/

/-- A class of characters, by the first and the last code point of each of its runs. -/
structure CharClass where
  runs : List (Nat × Nat)

namespace CharClass

/-- Whether one of the runs covers `c`. -/
def contains (k : CharClass) (c : Char) : Bool :=
  k.runs.any fun run => run.1 ≤ c.toNat && c.toNat ≤ run.2

theorem contains_iff {k : CharClass} {c : Char} :
    k.contains c = true ↔ ∃ run ∈ k.runs, run.1 ≤ c.toNat ∧ c.toNat ≤ run.2 := by
  simp only [contains, List.any_eq_true, Bool.and_eq_true, decide_eq_true_eq]

end CharClass

/-! ## Blanks -/

/-- The characters with the property White_Space. -/
def blanks : CharClass where
  runs :=
    [(0x09, 0x0D), (0x20, 0x20), (0x85, 0x85), (0xA0, 0xA0), (0x1680, 0x1680),
     (0x2000, 0x200A), (0x2028, 0x2029), (0x202F, 0x202F), (0x205F, 0x205F), (0x3000, 0x3000)]

def isBlank (c : Char) : Bool :=
  blanks.contains c

/-- The characters from the first one that is not blank. -/
def trimStart (cs : List Char) : List Char :=
  cs.dropWhile isBlank

/-- The characters up to the last one that is not blank. -/
def trimEnd (cs : List Char) : List Char :=
  (trimStart cs.reverse).reverse

/-- The characters without the blanks at either end. -/
def trim (cs : List Char) : List Char :=
  trimEnd (trimStart cs)

/-- A text without the blanks at either end. -/
def trimmed (text : String) : String :=
  String.ofList (trim text.toList)

/-! ## What is left -/

theorem trimStart_cons (c : Char) (cs : List Char) :
    trimStart (c :: cs) = if isBlank c then trimStart cs else c :: cs :=
  List.dropWhile_cons

theorem trimStart_eq_nil_iff {cs : List Char} : trimStart cs = [] ↔ ∀ c ∈ cs, isBlank c := by
  induction cs with
  | nil => simp [trimStart]
  | cons c cs ih => by_cases h : isBlank c <;> simp [trimStart_cons, h, ih]

theorem trimEnd_eq_nil_iff {cs : List Char} : trimEnd cs = [] ↔ ∀ c ∈ cs, isBlank c := by
  simp only [trimEnd, List.reverse_eq_nil_iff, trimStart_eq_nil_iff, List.mem_reverse]

theorem trimStart_blanks_append {bs : List Char} (h : ∀ b ∈ bs, isBlank b) (cs : List Char) :
    trimStart (bs ++ cs) = trimStart cs := by
  simp only [trimStart, List.dropWhile_append_of_pos h]

theorem trimEnd_append_blanks {bs : List Char} (h : ∀ b ∈ bs, isBlank b) (cs : List Char) :
    trimEnd (cs ++ bs) = trimEnd cs := by
  rw [trimEnd, trimEnd, List.reverse_append, trimStart_blanks_append]
  simpa using h

theorem trim_blanks_append {bs : List Char} (h : ∀ b ∈ bs, isBlank b) (cs : List Char) :
    trim (bs ++ cs) = trim cs := by
  rw [trim, trim, trimStart_blanks_append h]

theorem trim_append_blanks {bs : List Char} (h : ∀ b ∈ bs, isBlank b) (cs : List Char) :
    trim (cs ++ bs) = trim cs := by
  induction cs with
  | nil => rw [List.nil_append, trim, trimStart_eq_nil_iff.2 h]; rfl
  | cons c cs ih =>
    simp only [trim, List.cons_append, trimStart_cons] at ih ⊢
    split
    · exact ih
    · rw [← List.cons_append, trimEnd_append_blanks h]

/-- Only a text of blanks has nothing left. -/
theorem trim_eq_nil_iff {cs : List Char} : trim cs = [] ↔ ∀ c ∈ cs, isBlank c := by
  rw [trim, trimEnd_eq_nil_iff]
  induction cs with
  | nil => simp [trimStart]
  | cons c cs ih =>
    rw [trimStart_cons]
    split <;> simp_all

theorem trimStart_eq_self {cs : List Char} (h : ∀ c ∈ cs.head?, isBlank c = false) :
    trimStart cs = cs := by
  cases cs with
  | nil => rfl
  | cons c cs => simp [trimStart_cons, h c rfl]

/-- A text that neither begins nor ends with a blank is kept. -/
theorem trim_eq_self {cs : List Char} (hstart : ∀ c ∈ cs.head?, isBlank c = false)
    (hend : ∀ c ∈ cs.getLast?, isBlank c = false) : trim cs = cs := by
  rw [trim, trimStart_eq_self hstart, trimEnd, trimStart_eq_self, List.reverse_reverse]
  rwa [List.head?_reverse]

/-! ## Ends -/

theorem trimEnd_isPrefix (cs : List Char) : trimEnd cs <+: cs := by
  have h := List.dropWhile_suffix isBlank (l := cs.reverse)
  rw [← List.reverse_prefix, List.reverse_reverse] at h
  exact h

theorem mem_of_mem_trim {cs : List Char} {c : Char} (h : c ∈ trim cs) : c ∈ cs :=
  List.dropWhile_subset _ ((trimEnd_isPrefix _).subset h)

theorem isBlank_head?_trimStart {cs : List Char} {c : Char} (h : c ∈ (trimStart cs).head?) :
    isBlank c = false := by
  have hhead := List.head?_dropWhile_not isBlank cs
  rw [trimStart, Option.mem_def] at h
  rw [h] at hhead
  exact hhead

/-- What is trimmed has no blanks at its ends. -/
theorem trim_trim (cs : List Char) : trim (trim cs) = trim cs := by
  refine trim_eq_self (fun c hc => ?_) (fun c hc => ?_)
  · obtain ⟨rest, hrest⟩ := trimEnd_isPrefix (trimStart cs)
    have hhead : c ∈ (trimStart cs).head? := by
      rw [← hrest, List.head?_append]
      exact Option.or_eq_some_iff.2 (.inl hc)
    exact isBlank_head?_trimStart hhead
  · rw [trim, trimEnd, List.getLast?_reverse] at hc
    exact isBlank_head?_trimStart hc

end Rulebook.Text
