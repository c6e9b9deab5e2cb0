/-!
# Texts in pieces

A text is cut at each separator, and pieces are joined with one between them.

* `join_split`: nothing but the separators is lost.
* `split_join`: pieces without separators are found again.
* `mem_join_of_mem`, `exists_mem_of_mem_join`: what is joined holds the
  characters of its pieces and the separator.
-/

namespace Rulebook.Text

/-- The pieces of a text between the separators `sep`, one more than there are separators. -/
def split (sep : Char) : List Char → List (List Char)
  | [] => [[]]
  | c :: cs =>
    if c = sep then [] :: split sep cs
    else match split sep cs with
      | [] => [[c]]
      | piece :: pieces => (c :: piece) :: pieces

/-- The pieces in one text, with `sep` between them. -/
def join (sep : Char) : List (List Char) → List Char
  | [] => []
  | [piece] => piece
  | piece :: pieces => piece ++ sep :: join sep pieces

variable {sep : Char}

theorem join_cons_cons (piece next : List Char) (pieces : List (List Char)) :
    join sep (piece :: next :: pieces) = piece ++ sep :: join sep (next :: pieces) :=
  rfl

theorem split_ne_nil (cs : List Char) : split sep cs ≠ [] := by
  induction cs with
  | nil => simp [split]
  | cons c cs ih =>
    rw [split]
    split
    · exact List.cons_ne_nil _ _
    · split <;> exact List.cons_ne_nil _ _

theorem split_of_notMem {cs : List Char} (h : sep ∉ cs) : split sep cs = [cs] := by
  induction cs with
  | nil => rfl
  | cons c cs ih =>
    rw [List.mem_cons, not_or] at h
    rw [split, if_neg (Ne.symm h.1), ih h.2]

theorem split_append_sep {piece : List Char} (h : sep ∉ piece) (cs : List Char) :
    split sep (piece ++ sep :: cs) = piece :: split sep cs := by
  induction piece with
  | nil => rw [List.nil_append, split, if_pos rfl]
  | cons c piece ih =>
    rw [List.mem_cons, not_or] at h
    rw [List.cons_append, split, if_neg (Ne.symm h.1), ih h.2]

theorem notMem_of_mem_split {cs piece : List Char} (h : piece ∈ split sep cs) : sep ∉ piece := by
  induction cs generalizing piece with
  | nil => simp_all [split]
  | cons c cs ih =>
    rw [split] at h
    split at h
    · rw [List.mem_cons] at h
      rcases h with rfl | h
      · exact List.not_mem_nil
      · exact ih h
    · rename_i hc
      split at h
      · rw [List.mem_singleton] at h
        subst h
        simpa using Ne.symm hc
      · rename_i first rest hs
        rw [List.mem_cons] at h
        rcases h with rfl | h
        · have := ih (hs ▸ List.mem_cons_self ..)
          simp [Ne.symm hc, this]
        · exact ih (hs ▸ List.mem_cons_of_mem _ h)

/-- Nothing but the separators is lost. -/
theorem join_split (cs : List Char) : join sep (split sep cs) = cs := by
  induction cs with
  | nil => rfl
  | cons c cs ih =>
    rw [split]
    cases hs : split sep cs with
    | nil => exact absurd hs (split_ne_nil cs)
    | cons piece pieces =>
      rw [hs] at ih
      split
      · rename_i hc
        rw [join_cons_cons, ih, hc, List.nil_append]
      · cases pieces with
        | nil => simp_all [join]
        | cons next pieces => simp_all [join]

/-- Pieces without separators are found again. -/
theorem split_join {pieces : List (List Char)} (hne : pieces ≠ [])
    (h : ∀ piece ∈ pieces, sep ∉ piece) : split sep (join sep pieces) = pieces := by
  induction pieces with
  | nil => exact absurd rfl hne
  | cons piece pieces ih =>
    have hpiece := h piece (List.mem_cons_self ..)
    cases pieces with
    | nil => exact split_of_notMem hpiece
    | cons next pieces =>
      rw [join_cons_cons, split_append_sep hpiece,
        ih (List.cons_ne_nil _ _) fun p hp => h p (List.mem_cons_of_mem _ hp)]

/-! ## Characters -/

/-- The characters of the pieces stand in what is joined from them. -/
theorem mem_join_of_mem {pieces : List (List Char)} {piece : List Char} {c : Char}
    (h : piece ∈ pieces) (hc : c ∈ piece) : c ∈ join sep pieces := by
  induction pieces with
  | nil => exact absurd h List.not_mem_nil
  | cons first pieces ih =>
    cases pieces with
    | nil => exact List.mem_singleton.1 h ▸ hc
    | cons next pieces =>
      rw [join_cons_cons, List.mem_append, List.mem_cons]
      rcases List.mem_cons.1 h with rfl | h
      · exact .inl hc
      · exact .inr (.inr (ih h))

/-- Nothing else does, but the separator. -/
theorem exists_mem_of_mem_join {pieces : List (List Char)} {c : Char} (h : c ∈ join sep pieces)
    (hc : c ≠ sep) : ∃ piece ∈ pieces, c ∈ piece := by
  induction pieces with
  | nil => exact absurd h List.not_mem_nil
  | cons first pieces ih =>
    cases pieces with
    | nil => exact ⟨first, List.mem_cons_self .., h⟩
    | cons next pieces =>
      rw [join_cons_cons, List.mem_append, List.mem_cons] at h
      rcases h with h | h | h
      · exact ⟨first, List.mem_cons_self .., h⟩
      · exact absurd h hc
      · obtain ⟨piece, hpiece, h⟩ := ih h
        exact ⟨piece, List.mem_cons_of_mem _ hpiece, h⟩

end Rulebook.Text
