import Bip39.CardDecks

/-!
# What the conditioners accept and hash

For each physical entropy mode, the bytes passed to SHA-256 and the arguments
for which there are any; every other call throws `invalid_argument`.
-/

namespace Bip39

open Bip39.Source Bip39.Support

/-- The entropy sizes of BIP-39, in bytes. -/
def entropySizes : List Nat := [16, 20, 24, 28, 32]

theorem mem_entropySizes_cases {byteCount : Nat}
    (supported : byteCount ∈ entropySizes) :
    byteCount = 16 ∨ byteCount = 20 ∨ byteCount = 24 ∨ byteCount = 28 ∨
      byteCount = 32 := by
  simpa [entropySizes] using supported

theorem requireSupportedEntropySize_of_mem {byteCount : Nat}
    (supported : byteCount ∈ entropySizes) :
    requireSupportedEntropySize byteCount = .ok () := by
  rcases mem_entropySizes_cases supported with rfl | rfl | rfl | rfl | rfl <;> rfl

theorem requireSupportedEntropySize_of_not_mem {byteCount : Nat}
    (unsupported : byteCount ∉ entropySizes) :
    requireSupportedEntropySize byteCount = .error unsupportedEntropyLength := by
  unfold requireSupportedEntropySize
  split
  all_goals first
    | exact (unsupported (by decide)).elim
    | rfl

theorem mixedDiceRollCount_of_mem {byteCount : Nat}
    (supported : byteCount ∈ entropySizes) :
    ∃ rollCount, mixedDiceRollCount byteCount = .ok rollCount := by
  rcases mem_entropySizes_cases supported with rfl | rfl | rfl | rfl | rfl <;>
    exact ⟨_, rfl⟩

theorem diceOnlyRollCount_of_mem {byteCount : Nat}
    (supported : byteCount ∈ entropySizes) :
    ∃ rollCount, diceOnlyRollCount byteCount = .ok rollCount := by
  rcases mem_entropySizes_cases supported with rfl | rfl | rfl | rfl | rfl <;>
    exact ⟨_, rfl⟩

theorem le_of_mem_entropySizes {byteCount : Nat}
    (supported : byteCount ∈ entropySizes) :
    16 ≤ byteCount ∧ byteCount ≤ 32 := by
  have sizes := mem_entropySizes_cases supported
  omega

/-- A computation yields `value` under `condition` and throws
`invalid_argument` otherwise. -/
def YieldsExactlyIf {α : Type} (result : Except Failure α) (value : α)
    (condition : Prop) : Prop :=
  (condition ∧ result = .ok value) ∨
    (¬condition ∧ ∃ what, result = .error (.invalidArgument what))

namespace YieldsExactlyIf

variable {α : Type} {result : Except Failure α} {value : α} {condition : Prop}

theorem ok_iff (yields : YieldsExactlyIf result value condition) :
    (∃ found, result = .ok found) ↔ condition := by
  rcases yields with ⟨holds, run⟩ | ⟨fails, what, run⟩
  · exact ⟨fun _ => holds, fun _ => ⟨value, run⟩⟩
  · constructor
    · intro success
      obtain ⟨found, success⟩ := success
      rw [run] at success
      cases success
    · intro holds
      exact (fails holds).elim

theorem eq_of_ok (yields : YieldsExactlyIf result value condition) {found : α}
    (success : result = .ok found) : condition ∧ found = value := by
  rcases yields with ⟨holds, run⟩ | ⟨_, what, run⟩
  · rw [run] at success
    cases success
    exact ⟨holds, rfl⟩
  · rw [run] at success
    cases success

theorem ok (holds : condition) : YieldsExactlyIf (.ok value) value condition :=
  .inl ⟨holds, rfl⟩

/-- A first step that fails exactly when a part of the condition does. -/
theorem bind {β : Type} {first : Except Failure β} {next : β → Except Failure α}
    {middle : β} {part : Prop} (step : YieldsExactlyIf first middle part)
    (needed : condition → part)
    (rest : part → YieldsExactlyIf (next middle) value condition) :
    YieldsExactlyIf (first >>= next) value condition := by
  rcases step with ⟨holds, run⟩ | ⟨fails, what, run⟩
  · rw [run]
    exact rest holds
  · right
    refine ⟨fun good => fails (needed good), what, ?_⟩
    rw [run]
    rfl

/-- A check that refuses only what does not meet the condition. -/
theorem check {refused : Prop} [Decidable refused] {what : Text}
    (needed : condition → ¬refused)
    (rest : ¬refused → YieldsExactlyIf result value condition) :
    YieldsExactlyIf
      (if refused then .error (.invalidArgument what) else result) value
      condition := by
  by_cases fails : refused
  · right
    exact ⟨fun good => needed good fails, what, if_pos fails⟩
  · rw [if_neg fails]
    exact rest fails

end YieldsExactlyIf

theorem requireSupportedEntropySize_yields (byteCount : Nat) :
    YieldsExactlyIf (requireSupportedEntropySize byteCount) ()
      (byteCount ∈ entropySizes) := by
  by_cases supported : byteCount ∈ entropySizes
  · exact .inl ⟨supported, requireSupportedEntropySize_of_mem supported⟩
  · exact .inr ⟨supported, _, requireSupportedEntropySize_of_not_mem supported⟩

theorem validateCanonicalDeck_yields (deck : Text) :
    YieldsExactlyIf (validateCanonicalDeck deck) () (IsDeck deck) := by
  by_cases ordering : IsDeck deck
  · exact .inl ⟨ordering, validateCanonicalDeck_eq_ok_iff.mpr ordering⟩
  · exact .inr ⟨ordering, validateCanonicalDeck_of_not_isDeck ordering⟩

/-- Hashing and truncating what a conditioner has built. -/
def hashTruncated (hash : Bytes → Digest) (byteCount : Nat) (input : Bytes) :
    Bytes :=
  (hash input).bytes.take byteCount

theorem hashTruncated_length (hash : Bytes → Digest) {byteCount : Nat}
    (supported : byteCount ∈ entropySizes) (input : Bytes) :
    (hashTruncated hash byteCount input).length = byteCount := by
  rw [hashTruncated, List.length_take, (hash input).size_eq]
  exact Nat.min_eq_left (le_of_mem_entropySizes supported).2

/-- The common last part of the conditioners: with a hash that reports
success nothing can go wrong any more. -/
theorem finish_conditioner (hash : Bytes → Digest)
    (random : (count : Nat) → Vector UInt8 count) {byteCount : Nat}
    {built : Except Failure Bytes} {input : Bytes} {condition : Prop}
    (small : condition → byteCount ∈ entropySizes)
    (yields : YieldsExactlyIf built input condition) :
    YieldsExactlyIf
      (built >>= fun conditionerInput => do
        let digest ← sha256 (.reliable hash random) conditionerInput
        truncateDigest digest byteCount)
      (hashTruncated hash byteCount input) condition := by
  apply yields.bind id
  intro holds
  have fits : byteCount ≤ (hash input).bytes.length := by
    rw [(hash input).size_eq]
    exact (le_of_mem_entropySizes (small holds)).2
  rw [sha256_reliable]
  exact .inl ⟨holds, if_pos fits⟩

theorem mixCardInput_yields (deck : Text) (systemRandom : Bytes)
    (byteCount : Nat) :
    YieldsExactlyIf (mixCardInput deck systemRandom byteCount)
      (mixedCardsDomain ++ deck ++ systemRandom)
      (byteCount ∈ entropySizes ∧ systemRandom.length = 32 ∧ IsDeck deck) := by
  unfold mixCardInput
  apply (requireSupportedEntropySize_yields byteCount).bind (fun good => good.1)
  intro supported
  apply (validateCanonicalDeck_yields deck).bind (fun good => good.2.2)
  intro ordering
  apply YieldsExactlyIf.check
  · exact fun good => not_not.mpr good.2.1
  · intro size
    exact .ok ⟨supported, not_not.mp size, ordering⟩

/-- The decks cards-only mode needs for an entropy size. -/
def SecondDeckFits (byteCount : Nat) (first second : Text) : Prop :=
  (byteCount < 32 ∧ second = []) ∨
    (byteCount = 32 ∧ IsDeck second ∧ second ≠ first)

theorem checkSecondDeck_yields (byteCount : Nat) (first second : Text)
    (supported : byteCount ∈ entropySizes) :
    YieldsExactlyIf
      (checkSecondDeck (if byteCount = 32 then 2 else 1) first second) ()
      (SecondDeckFits byteCount first second) := by
  unfold checkSecondDeck SecondDeckFits
  by_cases two : byteCount = 32
  · simp only [two, if_true, Nat.lt_irrefl, false_and, false_or, true_and,
      Nat.reduceEqDiff, if_false]
    apply (validateCanonicalDeck_yields second).bind (fun good => good.1)
    intro ordering
    apply YieldsExactlyIf.check
    · exact fun good => good.2.symm
    · intro different
      exact .ok ⟨ordering, Ne.symm different⟩
  · have small : byteCount < 32 :=
      Nat.lt_of_le_of_ne (le_of_mem_entropySizes supported).2 two
    simp only [two, small, if_false, if_true, true_and, false_and, or_false]
    apply YieldsExactlyIf.check
    · exact fun empty => not_not.mpr empty
    · intro empty
      exact .ok (not_not.mp empty)

theorem cardsOnlyInput_yields (first second : Text) (byteCount : Nat) :
    YieldsExactlyIf (cardsOnlyInput first second byteCount)
      (cardsOnlyDomain ++ first ++ second)
      (byteCount ∈ entropySizes ∧ IsDeck first ∧
        SecondDeckFits byteCount first second) := by
  unfold cardsOnlyInput cardsOnlyDeckCount
  rw [bind_assoc]
  apply (requireSupportedEntropySize_yields byteCount).bind (fun good => good.1)
  intro supported
  apply (YieldsExactlyIf.ok trivial).bind (fun _ => trivial)
  intro
  apply (validateCanonicalDeck_yields first).bind (fun good => good.2.1)
  intro ordering
  apply (checkSecondDeck_yields byteCount first second supported).bind
    (fun good => good.2.2)
  intro fits
  exact .ok ⟨supported, ordering, fits⟩

/-- The two big-endian bytes of a 16-bit field. -/
def uint16Be (value : UInt16) : Bytes :=
  [(value >>> 8).toUInt8, (value &&& 0xff).toUInt8]

theorem mixDiceInput_yields (rolls systemRandom : Bytes) (byteCount : Nat) :
    YieldsExactlyIf (mixDiceInput rolls systemRandom byteCount)
      (mixedDiceDomain ++ uint16Be (UInt16.ofNat (byteCount * 8)) ++
        uint16Be (UInt16.ofNat rolls.length) ++ rolls ++ systemRandom)
      (byteCount ∈ entropySizes ∧
        mixedDiceRollCount byteCount = .ok rolls.length ∧
        (∀ roll ∈ rolls, roll ≤ 5) ∧ systemRandom.length = 32) := by
  have range : rolls.all (fun roll => roll ≤ 5) = true ↔
      ∀ roll ∈ rolls, roll ≤ 5 := by simp
  unfold mixDiceInput
  apply (requireSupportedEntropySize_yields byteCount).bind (fun good => good.1)
  intro supported
  obtain ⟨rollCount, counted⟩ := mixedDiceRollCount_of_mem supported
  rw [counted, ← range]
  apply (YieldsExactlyIf.ok trivial).bind (fun _ => trivial)
  intro
  apply YieldsExactlyIf.check
  · exact fun good => not_not.mpr (Except.ok.inj good.2.1).symm
  · intro length
    apply YieldsExactlyIf.check
    · exact fun good => not_not.mpr good.2.2.1
    · intro inRange
      apply YieldsExactlyIf.check
      · exact fun good => not_not.mpr good.2.2.2
      · intro size
        exact .ok ⟨supported, congrArg _ (not_not.mp length).symm,
          not_not.mp inRange, not_not.mp size⟩

theorem diceOnlyInput_yields (rolls : Text) (byteCount : Nat) :
    YieldsExactlyIf (diceOnlyInput rolls byteCount) rolls
      (byteCount ∈ entropySizes ∧
        diceOnlyRollCount byteCount = .ok rolls.length ∧
        ∀ roll ∈ rolls, chr '1' ≤ roll ∧ roll ≤ chr '6') := by
  have range :
      rolls.all (fun roll => chr '1' ≤ roll && roll ≤ chr '6') = true ↔
        ∀ roll ∈ rolls, chr '1' ≤ roll ∧ roll ≤ chr '6' := by simp
  unfold diceOnlyInput
  apply (requireSupportedEntropySize_yields byteCount).bind (fun good => good.1)
  intro supported
  obtain ⟨rollCount, counted⟩ := diceOnlyRollCount_of_mem supported
  rw [counted, ← range]
  apply (YieldsExactlyIf.ok trivial).bind (fun _ => trivial)
  intro
  apply YieldsExactlyIf.check
  · exact fun good => not_not.mpr (Except.ok.inj good.2.1).symm
  · intro length
    apply YieldsExactlyIf.check
    · exact fun good => not_not.mpr good.2.2
    · intro inRange
      exact .ok ⟨supported, congrArg _ (not_not.mp length).symm,
        not_not.mp inRange⟩

theorem mixDiceEntropy_yields (hash : Bytes → Digest)
    (random : (count : Nat) → Vector UInt8 count) (rolls systemRandom : Bytes)
    (byteCount : Nat) :
    YieldsExactlyIf
      (mixDiceEntropy (.reliable hash random) rolls systemRandom byteCount)
      (hashTruncated hash byteCount
        (mixedDiceDomain ++ uint16Be (UInt16.ofNat (byteCount * 8)) ++
          uint16Be (UInt16.ofNat rolls.length) ++ rolls ++ systemRandom))
      (byteCount ∈ entropySizes ∧
        mixedDiceRollCount byteCount = .ok rolls.length ∧
        (∀ roll ∈ rolls, roll ≤ 5) ∧ systemRandom.length = 32) :=
  finish_conditioner hash random (fun good => good.1)
    (mixDiceInput_yields rolls systemRandom byteCount)

theorem diceOnlyEntropy_yields (hash : Bytes → Digest)
    (random : (count : Nat) → Vector UInt8 count) (rolls : Text)
    (byteCount : Nat) :
    YieldsExactlyIf
      (diceOnlyEntropy (.reliable hash random) rolls byteCount)
      (hashTruncated hash byteCount rolls)
      (byteCount ∈ entropySizes ∧
        diceOnlyRollCount byteCount = .ok rolls.length ∧
        ∀ roll ∈ rolls, chr '1' ≤ roll ∧ roll ≤ chr '6') :=
  finish_conditioner hash random (fun good => good.1)
    (diceOnlyInput_yields rolls byteCount)

theorem mixCardEntropy_yields (hash : Bytes → Digest)
    (random : (count : Nat) → Vector UInt8 count) (deck : Text)
    (systemRandom : Bytes) (byteCount : Nat) :
    YieldsExactlyIf
      (mixCardEntropy (.reliable hash random) deck systemRandom byteCount)
      (hashTruncated hash byteCount (mixedCardsDomain ++ deck ++ systemRandom))
      (byteCount ∈ entropySizes ∧ systemRandom.length = 32 ∧ IsDeck deck) :=
  finish_conditioner hash random (fun good => good.1)
    (mixCardInput_yields deck systemRandom byteCount)

theorem cardsOnlyEntropy_yields (hash : Bytes → Digest)
    (random : (count : Nat) → Vector UInt8 count) (first second : Text)
    (byteCount : Nat) :
    YieldsExactlyIf
      (cardsOnlyEntropy (.reliable hash random) first second byteCount)
      (hashTruncated hash byteCount (cardsOnlyDomain ++ first ++ second))
      (byteCount ∈ entropySizes ∧ IsDeck first ∧
        SecondDeckFits byteCount first second) :=
  finish_conditioner hash random (fun good => good.1)
    (cardsOnlyInput_yields first second byteCount)

/-- The card conditioners accept exactly the real deck orderings, throw
`invalid_argument` on everything else, never leave an array, and return as many
bytes as asked for. -/
theorem cardConditioners_correct (hash : Bytes → Digest)
    (random : (count : Nat) → Vector UInt8 count) :
    (∀ (deck : Text) (systemRandom : Bytes) (byteCount : Nat),
      let result :=
        mixCardEntropy (.reliable hash random) deck systemRandom byteCount
      ((∃ entropy, result = .ok entropy) ↔
        byteCount ∈ [16, 20, 24, 28, 32] ∧ systemRandom.length = 32 ∧
          ∃ names : List Text,
            names.Perm canonicalNames ∧ deck = names.flatten) ∧
      ((∃ entropy, result = .ok entropy ∧ entropy.length = byteCount) ∨
        ∃ what, result = .error (.invalidArgument what))) ∧
    ∀ (first second : Text) (byteCount : Nat),
      let result :=
        cardsOnlyEntropy (.reliable hash random) first second byteCount
      ((∃ entropy, result = .ok entropy) ↔
        byteCount ∈ [16, 20, 24, 28, 32] ∧ IsDeck first ∧
          ((byteCount < 32 ∧ second = []) ∨
            (byteCount = 32 ∧ IsDeck second ∧ second ≠ first))) ∧
      ((∃ entropy, result = .ok entropy ∧ entropy.length = byteCount) ∨
        ∃ what, result = .error (.invalidArgument what)) := by
  constructor
  · intro deck systemRandom byteCount
    have yields :=
      mixCardEntropy_yields hash random deck systemRandom byteCount
    refine ⟨yields.ok_iff, ?_⟩
    rcases yields with ⟨good, run⟩ | ⟨-, what, run⟩
    · exact .inl ⟨_, run, hashTruncated_length hash good.1 _⟩
    · exact .inr ⟨what, run⟩
  · intro first second byteCount
    have yields := cardsOnlyEntropy_yields hash random first second byteCount
    refine ⟨yields.ok_iff, ?_⟩
    rcases yields with ⟨good, run⟩ | ⟨-, what, run⟩
    · exact .inl ⟨_, run, hashTruncated_length hash good.1 _⟩
    · exact .inr ⟨what, run⟩

end Bip39
