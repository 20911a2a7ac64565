import Mathlib.Data.List.Basic

/-!
# Overlap chains of a code

Two different sequences of code words with the same concatenation are found by
laying the sequences out side by side: at every stage one side is ahead of the
other by an overhang, and the next word goes to the side that is behind.  A
chain records the two word counts and the overhang.  Sequences of equally many
words can collide exactly when some chain closes, with no overhang and equal
counts.
-/

namespace Bip39.Support

variable {α : Type}

/-- Two runs of code words that start with different words, the first run
reaching past the second by the overhang. -/
inductive Overlap (code : List (List α)) : Nat → Nat → List α → Prop where
  | start {short overhang : List α} :
      short ∈ code → short ++ overhang ∈ code → short ≠ short ++ overhang →
      Overlap code 1 1 overhang
  | inside {ahead behind : Nat} {word overhang : List α} :
      Overlap code ahead behind (word ++ overhang) → word ∈ code →
      Overlap code ahead (behind + 1) overhang
  | beyond {ahead behind : Nat} {covered overhang : List α} :
      Overlap code ahead behind covered → covered ++ overhang ∈ code →
      Overlap code (behind + 1) ahead overhang

/-- Two different sequences of `count` code words with one concatenation. -/
def Collision (code : List (List α)) (count : Nat) : Prop :=
  ∃ left right : List (List α),
    left.length = count ∧ right.length = count ∧
      (∀ word ∈ left, word ∈ code) ∧ (∀ word ∈ right, word ∈ code) ∧
      left ≠ right ∧ left.flatten = right.flatten

theorem Overlap.runs {code : List (List α)} {ahead behind : Nat}
    {overhang : List α} (chain : Overlap code ahead behind overhang) :
    ∃ longer shorter : List (List α),
      longer.length = ahead ∧ shorter.length = behind ∧
        (∀ word ∈ longer, word ∈ code) ∧ (∀ word ∈ shorter, word ∈ code) ∧
        longer.head? ≠ shorter.head? ∧ longer ≠ [] ∧ shorter ≠ [] ∧
        longer.flatten = shorter.flatten ++ overhang := by
  induction chain with
  | @start short overhang shortMember longMember different =>
      refine ⟨[short ++ overhang], [short], rfl, rfl, ?_, ?_, ?_, ?_, ?_, ?_⟩
      · simpa using longMember
      · simpa using shortMember
      · simpa using different
      · simp
      · simp
      · simp
  | @inside ahead behind word overhang chain member induction =>
      obtain ⟨longer, shorter, longLength, shortLength, longCode, shortCode,
        heads, longNonempty, shortNonempty, reach⟩ := induction
      refine ⟨longer, shorter ++ [word], longLength, by simp [shortLength],
        longCode, ?_, ?_, longNonempty, by simp, by simp [reach]⟩
      · intro item itemMember
        rcases List.mem_append.mp itemMember with old | new
        · exact shortCode item old
        · rw [List.mem_singleton.mp new]
          exact member
      · rwa [List.head?_append_of_ne_nil _ shortNonempty]
  | @beyond ahead behind covered overhang chain member induction =>
      obtain ⟨longer, shorter, longLength, shortLength, longCode, shortCode,
        heads, longNonempty, shortNonempty, reach⟩ := induction
      refine ⟨shorter ++ [covered ++ overhang], longer, by simp [shortLength],
        longLength, ?_, longCode, ?_, by simp, longNonempty, by simp [reach]⟩
      · intro item itemMember
        rcases List.mem_append.mp itemMember with old | new
        · exact shortCode item old
        · rw [List.mem_singleton.mp new]
          exact member
      · rw [List.head?_append_of_ne_nil _ shortNonempty]
        exact heads.symm

theorem Overlap.complete {code : List (List α)}
    (nonempty : ∀ word ∈ code, word ≠ []) (aheadRest behindRest : List (List α))
    (aheadCode : ∀ word ∈ aheadRest, word ∈ code)
    (behindCode : ∀ word ∈ behindRest, word ∈ code)
    {ahead behind : Nat} {overhang : List α}
    (chain : Overlap code ahead behind overhang)
    (meet : overhang ++ aheadRest.flatten = behindRest.flatten) :
    Overlap code (ahead + aheadRest.length) (behind + behindRest.length) [] ∨
      Overlap code (behind + behindRest.length) (ahead + aheadRest.length)
        [] := by
  -- The word that is placed next is the first one of the side behind.
  induction total : aheadRest.length + behindRest.length generalizing aheadRest
    behindRest ahead behind overhang with
  | zero =>
      have aheadDone : aheadRest = [] := List.eq_nil_of_length_eq_zero (by omega)
      have behindDone : behindRest = [] :=
        List.eq_nil_of_length_eq_zero (by omega)
      subst aheadDone behindDone
      have closed : overhang = [] := by simpa using meet
      subst closed
      exact .inl chain
  | succ total induction =>
      cases behindRest with
      | nil =>
          have empty : overhang = [] ∧ aheadRest.flatten = [] := by
            simpa using meet
          cases aheadRest with
          | nil => simp at total
          | cons word aheadRest =>
              have wordEmpty : word = [] := by
                have parts := empty.2
                simp only [List.flatten_cons, List.append_eq_nil_iff] at parts
                exact parts.1
              exact (nonempty word (aheadCode word (by simp)) wordEmpty).elim
      | cons word behindRest =>
          have wordCode : word ∈ code := behindCode word (by simp)
          have restCode : ∀ item ∈ behindRest, item ∈ code := by
            intro item member
            exact behindCode item (by simp [member])
          rw [List.flatten_cons] at meet
          rcases List.append_eq_append_iff.mp meet with
            ⟨excess, split, remainder⟩ | ⟨excess, split, remainder⟩
          · -- The word reaches past the overhang: the sides change places.
            have next : Overlap code (behind + 1) ahead excess :=
              chain.beyond (by rwa [← split])
            have followed := induction behindRest aheadRest restCode aheadCode
              next remainder.symm (by simp only [List.length_cons] at total; omega)
            simp only [List.length_cons]
            rw [show behind + (behindRest.length + 1) =
              behind + 1 + behindRest.length by omega]
            exact followed.symm
          · -- The word lies inside the overhang.
            rw [split] at chain
            have followed := induction aheadRest behindRest aheadCode restCode
              (chain.inside wordCode) remainder.symm
              (by simp only [List.length_cons] at total; omega)
            simp only [List.length_cons]
            rw [show behind + (behindRest.length + 1) =
              behind + 1 + behindRest.length by omega]
            exact followed

theorem Collision.closedChain {code : List (List α)}
    (nonempty : ∀ word ∈ code, word ≠ []) {count : Nat}
    (collision : Collision code count) :
    ∃ words, words ≤ count ∧ Overlap code words words [] := by
  obtain ⟨left, right, leftLength, rightLength, leftCode, rightCode,
    different, same⟩ := collision
  -- The common first words are dropped until the heads differ.
  induction left generalizing right count with
  | nil =>
      have empty : right = [] := by
        refine List.eq_nil_of_length_eq_zero ?_
        rw [rightLength, ← leftLength, List.length_nil]
      exact (different empty.symm).elim
  | cons first left induction =>
      cases right with
      | nil => simp [← rightLength] at leftLength
      | cons second right =>
          have leftTail : ∀ word ∈ left, word ∈ code := by
            intro word member
            exact leftCode word (by simp [member])
          have rightTail : ∀ word ∈ right, word ∈ code := by
            intro word member
            exact rightCode word (by simp [member])
          have lengths : left.length = right.length := by
            simp only [List.length_cons] at leftLength rightLength
            omega
          by_cases heads : first = second
          · subst heads
            have tails : left.flatten = right.flatten := by
              simpa using same
            have tailsDiffer : left ≠ right := by
              intro equal
              exact different (by rw [equal])
            obtain ⟨words, bound, chain⟩ := induction right rfl lengths.symm
              leftTail rightTail tailsDiffer tails
            refine ⟨words, ?_, chain⟩
            simp only [List.length_cons] at leftLength
            omega
          · have meet : first ++ left.flatten = second ++ right.flatten := by
              simpa using same
            have firstCode : first ∈ code := leftCode first (by simp)
            have secondCode : second ∈ code := rightCode second (by simp)
            refine ⟨count, Nat.le_refl count, ?_⟩
            rw [List.length_cons] at leftLength rightLength
            rcases List.append_eq_append_iff.mp meet with
              ⟨excess, split, remainder⟩ | ⟨excess, split, remainder⟩
            · rw [split] at heads secondCode
              have followed := Overlap.complete nonempty right left rightTail
                leftTail (.start firstCode secondCode heads) remainder.symm
              rw [← lengths, Nat.add_comm 1, leftLength] at followed
              exact followed.elim id id
            · rw [split] at heads firstCode
              have followed := Overlap.complete nonempty left right leftTail
                rightTail (.start secondCode firstCode (Ne.symm heads))
                remainder.symm
              rw [← lengths, Nat.add_comm 1, leftLength] at followed
              exact followed.elim id id

theorem Overlap.collision {code : List (List α)} {words count : Nat}
    (chain : Overlap code words words []) (fits : words ≤ count) :
    Collision code count := by
  obtain ⟨longer, shorter, longLength, shortLength, longCode, shortCode, heads,
    longNonempty, shortNonempty, reach⟩ := chain.runs
  obtain ⟨filler, fillerMember⟩ := List.exists_mem_of_ne_nil longer longNonempty
  let padding := List.replicate (count - words) filler
  have paddingCode : ∀ word ∈ padding, word ∈ code := by
    intro word member
    rw [List.eq_of_mem_replicate member]
    exact longCode filler fillerMember
  refine ⟨longer ++ padding, shorter ++ padding, ?_, ?_, ?_, ?_, ?_, ?_⟩
  · simp only [List.length_append, padding, List.length_replicate]
    omega
  · simp only [List.length_append, padding, List.length_replicate]
    omega
  · intro word member
    rcases List.mem_append.mp member with run | pad
    · exact longCode word run
    · exact paddingCode word pad
  · intro word member
    rcases List.mem_append.mp member with run | pad
    · exact shortCode word run
    · exact paddingCode word pad
  · intro same
    have equal : longer = shorter := List.append_cancel_right same
    exact heads (by rw [equal])
  · rw [List.append_nil] at reach
    rw [List.flatten_append, List.flatten_append, reach]

/-- Equally long sequences of at most `limit` words determine their
concatenation's factors exactly when no chain closes within the limit. -/
theorem exists_collision_iff {code : List (List α)}
    (nonempty : ∀ word ∈ code, word ≠ []) {limit : Nat} :
    (∃ count, count ≤ limit ∧ Collision code count) ↔
      ∃ words, words ≤ limit ∧ Overlap code words words [] := by
  constructor
  · rintro ⟨count, bound, collision⟩
    obtain ⟨words, fits, chain⟩ := collision.closedChain nonempty
    exact ⟨words, Nat.le_trans fits bound, chain⟩
  · rintro ⟨words, fits, chain⟩
    exact ⟨words, fits, chain.collision (Nat.le_refl words)⟩

end Bip39.Support
