/-!
# Splitting texts

A text is taken apart at every occurrence of a separator and put together again with a separator
between each two parts.  The two undo each other (`unsplit_split`, `split_unsplit`).
-/

namespace CommandRelay.Text

/-- What stands between the separators of a list of characters; there is always at least one part.
-/
def split (sep : Char) : List Char → List (List Char)
  | [] => [[]]
  | c :: cs =>
    if c = sep then [] :: split sep cs
    else match split sep cs with
      | part :: rest => (c :: part) :: rest
      | [] => [[c]]

/-- Parts with a separator between each two. -/
def unsplit (sep : Char) : List (List Char) → List Char
  | [] => []
  | [part] => part
  | part :: rest => part ++ sep :: unsplit sep rest

theorem split_ne_nil (sep : Char) (cs : List Char) : split sep cs ≠ [] := by
  cases cs with
  | nil => simp [split]
  | cons c cs =>
    simp only [split]
    split
    · simp
    · split <;> simp

theorem unsplit_cons (sep : Char) {part : List Char} {rest : List (List Char)} (h : rest ≠ []) :
    unsplit sep (part :: rest) = part ++ sep :: unsplit sep rest := by
  cases rest with
  | nil => exact absurd rfl h
  | cons => rfl

theorem unsplit_split (sep : Char) (cs : List Char) : unsplit sep (split sep cs) = cs := by
  induction cs with
  | nil => rfl
  | cons c cs ih =>
    simp only [split]
    split
    · rename_i h
      rw [unsplit_cons sep (split_ne_nil sep cs), ih, h]; rfl
    · cases hs : split sep cs with
      | nil => exact absurd hs (split_ne_nil sep cs)
      | cons part rest =>
        rw [hs] at ih
        cases rest with
        | nil => simp only [unsplit] at ih ⊢; rw [ih]
        | cons => simp only [unsplit, List.cons_append] at ih ⊢; rw [ih]

theorem split_of_notMem {sep : Char} {cs : List Char} (h : sep ∉ cs) : split sep cs = [cs] := by
  induction cs with
  | nil => rfl
  | cons c cs ih =>
    simp only [List.mem_cons, not_or] at h
    simp [split, Ne.symm h.1, ih h.2]

theorem split_append_cons {sep : Char} {part : List Char} (h : sep ∉ part) (rest : List Char) :
    split sep (part ++ sep :: rest) = part :: split sep rest := by
  induction part with
  | nil => simp [split]
  | cons c cs ih =>
    simp only [List.mem_cons, not_or] at h
    simp [split, Ne.symm h.1, ih h.2]

theorem split_unsplit {sep : Char} {parts : List (List Char)} (hne : parts ≠ [])
    (h : ∀ p ∈ parts, sep ∉ p) : split sep (unsplit sep parts) = parts := by
  induction parts with
  | nil => exact absurd rfl hne
  | cons p ps ih =>
    cases ps with
    | nil => exact split_of_notMem (h p (by simp))
    | cons q qs =>
      rw [unsplit_cons sep (by simp), split_append_cons (h p (by simp)),
        ih (by simp) fun x hx => h x (List.mem_cons_of_mem _ hx)]

end CommandRelay.Text
