import Mathlib
import CommandRelay.Text.Blank

/-!
# What is trimmed

Trimming takes a text apart: what is left stands between, or before, characters that are trimmed,
and does not end in one (`dropEndWhile_splits`, `stripWhile_splits`).  The other way round, it does
not matter what of them stands around a text (`stripWhile_append`), and a body that neither begins
nor ends with one is left as it is (`stripWhile_of_ends`).
-/

namespace CommandRelay.Text

variable {α : Type} {p : α → Bool}

/-- What is dropped stands at the end, and what is left does not end so. -/
theorem dropEndWhile_splits (p : α → Bool) (l : List α) :
    ∃ back, l = dropEndWhile p l ++ back ∧ (∀ a ∈ back, p a = true) ∧
      ∀ a, (dropEndWhile p l).getLast? = some a → p a = false := by
  refine ⟨(l.reverse.takeWhile p).reverse, ?_, ?_, ?_⟩
  · rw [dropEndWhile, ← List.reverse_append, List.takeWhile_append_dropWhile, List.reverse_reverse]
  · intro a ha
    exact List.mem_takeWhile_imp (List.mem_reverse.mp ha)
  · intro a ha
    have hfirst := List.head?_dropWhile_not p l.reverse
    rw [dropEndWhile, List.getLast?_reverse] at ha
    rw [ha] at hfirst
    simpa using hfirst

/-- What is stripped stands at the ends. -/
theorem stripWhile_splits (p : α → Bool) (l : List α) : ∃ front back,
    l = front ++ stripWhile p l ++ back ∧ (∀ a ∈ front, p a = true) ∧ ∀ a ∈ back, p a = true := by
  obtain ⟨back, hback, hdropped, -⟩ := dropEndWhile_splits p (l.dropWhile p)
  refine ⟨l.takeWhile p, back, ?_, fun a ha => List.mem_takeWhile_imp ha, hdropped⟩
  rw [List.append_assoc, stripWhile, ← hback, List.takeWhile_append_dropWhile]

/-- Nor does what is left begin with what was stripped. -/
theorem head?_stripWhile {l : List α} {a : α} (h : (stripWhile p l).head? = some a) :
    p a = false := by
  obtain ⟨back, hback, -, -⟩ := dropEndWhile_splits p (l.dropWhile p)
  have hfirst := List.head?_dropWhile_not p l
  rw [stripWhile] at h
  rw [hback, List.head?_append, h] at hfirst
  simpa using hfirst

/-- A text that was trimmed does not end in what was trimmed. -/
theorem getLast?_stripWhile {l : List α} {a : α} (h : (stripWhile p l).getLast? = some a) :
    p a = false := by
  obtain ⟨-, -, -, hlast⟩ := dropEndWhile_splits p (l.dropWhile p)
  exact hlast a h

/-- What neither begins nor ends with what is stripped is left as it is. -/
theorem stripWhile_of_ends {l : List α} (hhead : ∀ a, l.head? = some a → p a = false)
    (hlast : ∀ a, l.getLast? = some a → p a = false) : stripWhile p l = l := by
  have hkeep : ∀ l : List α, (∀ a, l.head? = some a → p a = false) → l.dropWhile p = l := by
    intro l hl
    cases l with
    | nil => rfl
    | cons a l => exact List.dropWhile_cons_of_neg (by simp [hl a rfl])
  rw [stripWhile, dropEndWhile, hkeep l hhead, hkeep, List.reverse_reverse]
  rwa [List.head?_reverse]

/-- What is trimmed may be added at the end. -/
theorem dropEndWhile_append {back : List α} (hback : ∀ a ∈ back, p a = true) (l : List α) :
    dropEndWhile p (l ++ back) = dropEndWhile p l := by
  rw [dropEndWhile, List.reverse_append, List.dropWhile_append_of_pos, dropEndWhile]
  exact fun a ha => hback a (List.mem_reverse.mp ha)

/-- What would be stripped may stand at both ends. -/
theorem stripWhile_append {front back : List α} (hfront : ∀ a ∈ front, p a = true)
    (hback : ∀ a ∈ back, p a = true) (l : List α) :
    stripWhile p (front ++ l ++ back) = stripWhile p l := by
  rw [List.append_assoc, stripWhile, List.dropWhile_append_of_pos hfront, List.dropWhile_append,
    stripWhile]
  split
  · rename_i hnil
    rw [List.dropWhile_eq_nil_iff.mpr hback, List.isEmpty_iff.mp hnil]
  · exact dropEndWhile_append hback (l.dropWhile p)

/-- Between what is stripped stands what has nothing of it. -/
theorem stripWhile_between {front body back : List α} (hfront : ∀ a ∈ front, p a = true)
    (hbody : ∀ a ∈ body, p a = false) (hback : ∀ a ∈ back, p a = true) :
    stripWhile p (front ++ body ++ back) = body := by
  rw [stripWhile_append hfront hback]
  exact stripWhile_of_ends (fun a ha => hbody a (List.mem_of_mem_head? ha))
    fun a ha => hbody a (List.mem_of_mem_getLast? ha)

/-- Nothing is left exactly if all of it is stripped. -/
theorem stripWhile_eq_nil_iff {l : List α} : stripWhile p l = [] ↔ ∀ a ∈ l, p a = true := by
  constructor
  · intro hnil a ha
    obtain ⟨front, back, hl, hfront, hback⟩ := stripWhile_splits p l
    rw [hnil, List.append_nil] at hl
    rw [hl] at ha
    exact (List.mem_append.mp ha).elim (hfront a) (hback a)
  · intro h
    rw [stripWhile, List.dropWhile_eq_nil_iff.mpr h]
    rfl

end CommandRelay.Text
