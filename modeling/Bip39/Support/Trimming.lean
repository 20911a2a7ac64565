import Mathlib.Data.List.DropRight

/-!
# Trimming a list

Trimming removes the elements of one kind from both ends of a list.  What is
left starts and ends with elements of another kind, and this determines it.
-/

namespace Bip39.Support

variable {α : Type} {p : α → Bool} {list core first rest : List α}

/-- A maximal run of elements, and what stops it. -/
theorem takeWhile_dropWhile_append (all : ∀ element ∈ first, p element)
    (stop : ∀ element ∈ rest.head?, p element = false) :
    (first ++ rest).takeWhile p = first ∧
      (first ++ rest).dropWhile p = rest := by
  rw [List.takeWhile_append_of_pos all, List.dropWhile_append_of_pos all]
  cases rest with
  | nil => simp
  | cons element rest =>
      have stopped : p element = false := stop element (by simp)
      simp [stopped]

/-- Removes the elements that satisfy `p` from both ends. -/
def trim (p : α → Bool) (list : List α) : List α :=
  (list.dropWhile p).rdropWhile p

theorem rdropWhile_append (all : ∀ element ∈ rest, p element)
    (stop : ∀ element ∈ first.getLast?, p element = false) :
    (first ++ rest).rdropWhile p = first := by
  have backwards := @takeWhile_dropWhile_append _ p rest.reverse first.reverse
    (by simpa using all) (by simpa using stop)
  rw [List.rdropWhile, List.reverse_append, backwards.2, List.reverse_reverse]

/-- Trimming leaves a given core exactly when the list is that core between
elements that are trimmed. -/
theorem trim_eq_iff (starts : ∀ element ∈ core.head?, p element = false)
    (ends : ∀ element ∈ core.getLast?, p element = false) :
    trim p list = core ↔
      ∃ before after, list = before ++ core ++ after ∧
        (∀ element ∈ before, p element) ∧ ∀ element ∈ after, p element := by
  constructor
  · intro trimmed
    refine ⟨list.takeWhile p, (list.dropWhile p).rtakeWhile p, ?_, ?_, ?_⟩
    · rw [← trimmed, List.append_assoc, trim,
        List.rdropWhile_append_rtakeWhile, List.takeWhile_append_dropWhile]
    · intro element member
      exact List.mem_takeWhile_imp member
    · intro element member
      exact List.mem_rtakeWhile_imp member
  · intro padded
    obtain ⟨before, after, rfl, beforeAll, afterAll⟩ := padded
    rw [trim, List.append_assoc, List.dropWhile_append_of_pos beforeAll]
    cases core with
    | nil => simp [List.dropWhile_eq_nil_iff.mpr afterAll]
    | cons element core =>
        have solid : p element = false := starts element (by simp)
        rw [List.cons_append, List.dropWhile_cons_of_neg (by simp [solid]),
          ← List.cons_append]
        exact rdropWhile_append afterAll ends

end Bip39.Support
