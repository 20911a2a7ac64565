import Mathlib.Data.Fintype.BigOperators
import Mathlib.Data.List.Permutation
import Mathlib.Data.Set.Card

/-!
# Counting words and orderings
-/

namespace Bip39.Support

variable {α : Type}

/-- The words of a length over given letters. -/
def wordsOver (letters : Finset α) (length : Nat) : Set (List α) :=
  {word | word.length = length ∧ ∀ letter ∈ word, letter ∈ letters}

theorem wordsOver_zero (letters : Finset α) : wordsOver letters 0 = {[]} := by
  apply Set.ext
  intro word
  constructor
  · intro short
    exact List.eq_nil_of_length_eq_zero short.1
  · rintro rfl
    exact ⟨rfl, fun letter member => by cases member⟩

theorem wordsOver_succ (letters : Finset α) (length : Nat) :
    wordsOver letters (length + 1) =
      (fun pair : α × List α => pair.1 :: pair.2) ''
        ((letters : Set α) ×ˢ wordsOver letters length) := by
  apply Set.ext
  intro word
  constructor
  · rintro ⟨counted, listed⟩
    cases word with
    | nil => cases counted
    | cons letter word =>
        refine ⟨(letter, word), ⟨listed letter List.mem_cons_self, ?_⟩, rfl⟩
        refine ⟨Nat.succ.inj counted, fun other member => ?_⟩
        exact listed other (List.mem_cons_of_mem letter member)
  · rintro ⟨⟨letter, word⟩, ⟨first, counted, listed⟩, rfl⟩
    refine ⟨congrArg Nat.succ counted, fun other member => ?_⟩
    rcases List.mem_cons.mp member with rfl | inside
    · exact first
    · exact listed other inside

theorem ncard_wordsOver (letters : Finset α) (length : Nat) :
    (wordsOver letters length).ncard = letters.card ^ length := by
  induction length with
  | zero =>
      rw [wordsOver_zero, Set.ncard_singleton]
      rfl
  | succ length induction =>
      have injective :
          Function.Injective fun pair : α × List α => pair.1 :: pair.2 := by
        rintro ⟨letter, word⟩ ⟨other, rest⟩ same
        cases same
        rfl
      rw [wordsOver_succ, Set.ncard_image_of_injective _ injective,
        Set.ncard_prod, induction, Set.ncard_coe_finset, Nat.pow_succ,
        Nat.mul_comm]

/-- The orderings of distinct items. -/
theorem ncard_orderings [DecidableEq α] {items : List α} (unique : items.Nodup) :
    {order : List α | order.Perm items}.ncard = items.length.factorial := by
  have listed : {order : List α | order.Perm items} =
      (items.permutations.toFinset : Set (List α)) := by
    apply Set.ext
    intro order
    simp
  rw [listed, Set.ncard_coe_finset,
    List.toFinset_card_of_nodup (List.nodup_permutations items unique),
    List.length_permutations]

/-- The pairs of different items. -/
theorem ncard_offDiag {items : Set α} (finite : items.Finite) :
    items.offDiag.ncard = items.ncard * (items.ncard - 1) := by
  classical
  lift items to Finset α using finite
  rw [← Finset.coe_offDiag, Set.ncard_coe_finset, Set.ncard_coe_finset,
    Finset.offDiag_card, Nat.mul_sub_one]

end Bip39.Support
