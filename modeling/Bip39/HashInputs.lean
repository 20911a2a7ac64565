import Bip39.Conditioners
import Mathlib.Data.UInt

/-!
# Hash inputs of the physical entropy modes

The domain tags differ within their first thirteen bytes and a dice-only input
starts with a digit, so the mode can be read off the hashed bytes; within one
mode every field has a length that the earlier fields fix.
-/

namespace Bip39

open Bip39.Source Bip39.Support

/-- A call of one of the four physical conditioners. -/
inductive EntropyCall where
  | mixDice (rolls systemRandom : Bytes) (byteCount : Nat)
  | diceOnly (rolls : Text) (byteCount : Nat)
  | mixCard (deck : Text) (systemRandom : Bytes) (byteCount : Nat)
  | cardsOnly (first second : Text) (byteCount : Nat)

namespace EntropyCall

def result (openSsl : OpenSsl) : EntropyCall → Except Failure Bytes
  | mixDice rolls systemRandom byteCount =>
      mixDiceEntropy openSsl rolls systemRandom byteCount
  | diceOnly rolls byteCount => diceOnlyEntropy openSsl rolls byteCount
  | mixCard deck systemRandom byteCount =>
      mixCardEntropy openSsl deck systemRandom byteCount
  | cardsOnly first second byteCount =>
      cardsOnlyEntropy openSsl first second byteCount

/-- The bytes the call passes to SHA-256, when its arguments are accepted. -/
def hashInput : EntropyCall → Except Failure Bytes
  | mixDice rolls systemRandom byteCount =>
      mixDiceInput rolls systemRandom byteCount
  | diceOnly rolls byteCount => diceOnlyInput rolls byteCount
  | mixCard deck systemRandom byteCount =>
      mixCardInput deck systemRandom byteCount
  | cardsOnly first second byteCount => cardsOnlyInput first second byteCount

def byteCount : EntropyCall → Nat
  | mixDice _ _ byteCount => byteCount
  | diceOnly _ byteCount => byteCount
  | mixCard _ _ byteCount => byteCount
  | cardsOnly _ _ byteCount => byteCount

theorem result_eq (openSsl : OpenSsl) (call : EntropyCall) :
    call.result openSsl = (do
      let input ← call.hashInput
      let digest ← sha256 openSsl input
      truncateDigest digest call.byteCount) := by
  cases call <;> rfl

/-- The same mode with the same physical input, the same random bytes and the
same class of entropy size. -/
def SameSecret : EntropyCall → EntropyCall → Prop
  | mixDice rolls systemRandom byteCount,
      mixDice otherRolls otherRandom otherCount =>
      rolls = otherRolls ∧ systemRandom = otherRandom ∧ byteCount = otherCount
  | diceOnly rolls byteCount, diceOnly otherRolls otherCount =>
      rolls = otherRolls ∧ byteCount = otherCount
  | mixCard deck systemRandom _, mixCard otherDeck otherRandom _ =>
      deck = otherDeck ∧ systemRandom = otherRandom
  | cardsOnly first second byteCount,
      cardsOnly otherFirst otherSecond otherCount =>
      first = otherFirst ∧ second = otherSecond ∧
        (byteCount = 32 ↔ otherCount = 32)
  | _, _ => False

/-- The mode that hashed the given bytes, by their first thirteen. -/
inductive Mode where
  | mixDice
  | diceOnly
  | mixCard
  | cardsOnly
  deriving DecidableEq

def mode : EntropyCall → Mode
  | mixDice .. => .mixDice
  | diceOnly .. => .diceOnly
  | mixCard .. => .mixCard
  | cardsOnly .. => .cardsOnly

def readMode (input : Bytes) : Mode :=
  if input.take 13 = mixedDiceDomain.take 13 then .mixDice
  else if input.take 13 = mixedCardsDomain.take 13 then .mixCard
  else if input.take 13 = cardsOnlyDomain.take 13 then .cardsOnly
  else .diceOnly

end EntropyCall

theorem uint16Be_injective {left right : UInt16}
    (same : uint16Be left = uint16Be right) : left = right := by
  have high : ∀ value : UInt16,
      (value >>> 8).toUInt8.toNat = value.toNat / 256 := by
    intro value
    have bound := value.toNat_lt
    rw [UInt16.toNat_toUInt8, UInt16.toNat_shiftRight]
    change (value.toNat >>> 8) % 2 ^ 8 = _
    rw [Nat.shiftRight_eq_div_pow]
    omega
  have low : ∀ value : UInt16,
      (value &&& 0xff).toUInt8.toNat = value.toNat % 256 := by
    intro value
    rw [UInt16.toNat_toUInt8, UInt16.toNat_and]
    change (value.toNat &&& (2 ^ 8 - 1)) % 2 ^ 8 = _
    rw [Nat.and_two_pow_sub_one_eq_mod]
    omega
  simp only [uint16Be, List.cons.injEq, and_true] at same
  have highEq := congrArg UInt8.toNat same.1
  have lowEq := congrArg UInt8.toNat same.2
  rw [high, high] at highEq
  rw [low, low] at lowEq
  apply UInt16.toNat_inj.mp
  omega

theorem uint16_ofNat_injective {left right : Nat} (leftSmall : left < 65536)
    (rightSmall : right < 65536)
    (same : UInt16.ofNat left = UInt16.ofNat right) : left = right := by
  have values := congrArg UInt16.toNat same
  rwa [UInt16.toNat_ofNat_of_lt' leftSmall,
    UInt16.toNat_ofNat_of_lt' rightSmall] at values

theorem mixedDiceRollCount_small {byteCount rollCount : Nat}
    (counted : mixedDiceRollCount byteCount = .ok rollCount) :
    rollCount < 65536 := by
  unfold mixedDiceRollCount at counted
  split at counted <;> simp_all <;> omega

theorem diceOnlyRollCount_injective {left right rollCount : Nat}
    (fromLeft : diceOnlyRollCount left = .ok rollCount)
    (fromRight : diceOnlyRollCount right = .ok rollCount) :
    left = right ∧ 0 < rollCount := by
  unfold diceOnlyRollCount at fromLeft fromRight
  split at fromLeft <;> split at fromRight <;> simp_all <;> omega

/-- The first bytes of an accepted input tell its mode. -/
theorem EntropyCall.readMode_eq {call : EntropyCall} {input : Bytes}
    (accepted : call.hashInput = .ok input) :
    EntropyCall.readMode input = call.mode := by
  cases call with
  | mixDice rolls systemRandom byteCount =>
      obtain ⟨-, rfl⟩ :=
        (mixDiceInput_yields rolls systemRandom byteCount).eq_of_ok accepted
      unfold readMode
      simp only [List.append_assoc]
      rw [List.take_append_of_le_length (by decide)]
      exact if_pos rfl
  | diceOnly rolls byteCount =>
      obtain ⟨good, built⟩ :=
        (diceOnlyInput_yields rolls byteCount).eq_of_ok accepted
      have positive := (diceOnlyRollCount_injective good.2.1 good.2.1).2
      have notTag : ∀ tag : Text, (tag.take 13).head? = some (chr 'b') →
          rolls.take 13 ≠ tag.take 13 := by
        intro tag head same
        cases rolls with
        | nil => simp at positive
        | cons roll rolls =>
            have range := good.2.2 roll (by simp)
            rw [← same] at head
            have rollEq : roll = chr 'b' := by simpa using head
            rw [rollEq] at range
            exact absurd range (by decide)
      rw [built]
      unfold readMode
      rw [if_neg (notTag mixedDiceDomain (by decide)),
        if_neg (notTag mixedCardsDomain (by decide)),
        if_neg (notTag cardsOnlyDomain (by decide))]
      rfl
  | mixCard deck systemRandom byteCount =>
      obtain ⟨-, rfl⟩ :=
        (mixCardInput_yields deck systemRandom byteCount).eq_of_ok accepted
      unfold readMode
      rw [List.append_assoc, List.take_append_of_le_length (by decide),
        if_neg (by decide)]
      exact if_pos rfl
  | cardsOnly first second byteCount =>
      obtain ⟨-, rfl⟩ :=
        (cardsOnlyInput_yields first second byteCount).eq_of_ok accepted
      unfold readMode
      rw [List.append_assoc, List.take_append_of_le_length (by decide),
        if_neg (by decide), if_neg (by decide)]
      exact if_pos rfl

theorem mixDice_sameSecret {rolls systemRandom otherRolls otherRandom input :
      Bytes} {byteCount otherCount : Nat}
    (accepted : mixDiceInput rolls systemRandom byteCount = .ok input)
    (otherAccepted : mixDiceInput otherRolls otherRandom otherCount =
      .ok input) :
    rolls = otherRolls ∧ systemRandom = otherRandom ∧
      byteCount = otherCount := by
  obtain ⟨good, built⟩ :=
    (mixDiceInput_yields rolls systemRandom byteCount).eq_of_ok accepted
  obtain ⟨otherGood, otherBuilt⟩ :=
    (mixDiceInput_yields otherRolls otherRandom otherCount).eq_of_ok
      otherAccepted
  have same := built.symm.trans otherBuilt
  -- The fields are peeled off from the front; each length is known by then.
  simp only [List.append_assoc] at same
  have afterTag := List.append_cancel_left same
  obtain ⟨bitHeader, afterBits⟩ := List.append_inj afterTag rfl
  obtain ⟨rollHeader, afterRolls⟩ := List.append_inj afterBits rfl
  have size := le_of_mem_entropySizes good.1
  have otherSize := le_of_mem_entropySizes otherGood.1
  have bits : byteCount * 8 = otherCount * 8 :=
    uint16_ofNat_injective (by omega) (by omega)
      (uint16Be_injective bitHeader)
  have count : rolls.length = otherRolls.length :=
    uint16_ofNat_injective (mixedDiceRollCount_small good.2.1)
      (mixedDiceRollCount_small otherGood.2.1)
      (uint16Be_injective rollHeader)
  obtain ⟨sameRolls, sameRandom⟩ := List.append_inj afterRolls count
  exact ⟨sameRolls, sameRandom, by omega⟩

theorem diceOnly_sameSecret {rolls otherRolls : Text} {input : Bytes}
    {byteCount otherCount : Nat}
    (accepted : diceOnlyInput rolls byteCount = .ok input)
    (otherAccepted : diceOnlyInput otherRolls otherCount = .ok input) :
    rolls = otherRolls ∧ byteCount = otherCount := by
  obtain ⟨good, built⟩ :=
    (diceOnlyInput_yields rolls byteCount).eq_of_ok accepted
  obtain ⟨otherGood, otherBuilt⟩ :=
    (diceOnlyInput_yields otherRolls otherCount).eq_of_ok otherAccepted
  have sameRolls : rolls = otherRolls := built.symm.trans otherBuilt
  have otherCounted := otherGood.2.1
  rw [← sameRolls] at otherCounted
  exact ⟨sameRolls, (diceOnlyRollCount_injective good.2.1 otherCounted).1⟩

theorem mixCard_sameSecret {deck otherDeck : Text}
    {systemRandom otherRandom input : Bytes} {byteCount otherCount : Nat}
    (accepted : mixCardInput deck systemRandom byteCount = .ok input)
    (otherAccepted : mixCardInput otherDeck otherRandom otherCount =
      .ok input) :
    deck = otherDeck ∧ systemRandom = otherRandom := by
  obtain ⟨good, built⟩ :=
    (mixCardInput_yields deck systemRandom byteCount).eq_of_ok accepted
  obtain ⟨otherGood, otherBuilt⟩ :=
    (mixCardInput_yields otherDeck otherRandom otherCount).eq_of_ok
      otherAccepted
  have same := built.symm.trans otherBuilt
  simp only [List.append_assoc] at same
  have afterTag := List.append_cancel_left same
  apply List.append_inj afterTag
  rw [good.2.2.length, otherGood.2.2.length]

/-- An accepted second deck is there exactly when 32 bytes are asked for. -/
theorem SecondDeckFits.eq_32_iff {byteCount : Nat} {first second : Text}
    (fits : SecondDeckFits byteCount first second) :
    byteCount = 32 ↔ second ≠ [] := by
  rcases fits with ⟨small, empty⟩ | ⟨full, ordering, -⟩
  · simp only [empty, ne_eq, not_true_eq_false, iff_false]
    omega
  · simp only [full, true_iff]
    intro empty
    have length := ordering.length
    rw [empty] at length
    cases length

theorem cardsOnly_sameSecret {first second otherFirst otherSecond : Text}
    {input : Bytes} {byteCount otherCount : Nat}
    (accepted : cardsOnlyInput first second byteCount = .ok input)
    (otherAccepted : cardsOnlyInput otherFirst otherSecond otherCount =
      .ok input) :
    first = otherFirst ∧ second = otherSecond ∧
      (byteCount = 32 ↔ otherCount = 32) := by
  obtain ⟨good, built⟩ :=
    (cardsOnlyInput_yields first second byteCount).eq_of_ok accepted
  obtain ⟨otherGood, otherBuilt⟩ :=
    (cardsOnlyInput_yields otherFirst otherSecond otherCount).eq_of_ok
      otherAccepted
  have same := built.symm.trans otherBuilt
  simp only [List.append_assoc] at same
  have afterTag := List.append_cancel_left same
  obtain ⟨sameFirst, sameSecond⟩ := List.append_inj afterTag (by
    rw [good.2.1.length, otherGood.2.1.length])
  refine ⟨sameFirst, sameSecond, ?_⟩
  rw [good.2.2.eq_32_iff, otherGood.2.2.eq_32_iff, sameSecond]

/-- Every conditioner hashes its input once.  Accepted calls that hash the same
bytes are calls of one mode with the same secret, and the two header fields of
mixed dice are written in full. -/
theorem hashInput_unambiguous :
    (∀ (openSsl : OpenSsl) (call : EntropyCall),
      call.result openSsl = (do
        let input ← call.hashInput
        let digest ← sha256 openSsl input
        truncateDigest digest call.byteCount)) ∧
    (∀ (left right : EntropyCall) (input : Bytes),
      left.hashInput = .ok input → right.hashInput = .ok input →
        left.SameSecret right) ∧
    ∀ (rolls systemRandom : Bytes) (byteCount : Nat) (input : Bytes),
      mixDiceInput rolls systemRandom byteCount = .ok input →
        (UInt16.ofNat (byteCount * 8)).toNat = byteCount * 8 ∧
          (UInt16.ofNat rolls.length).toNat = rolls.length := by
  refine ⟨EntropyCall.result_eq, ?_, ?_⟩
  · intro left right input accepted otherAccepted
    have sameMode : left.mode = right.mode := by
      rw [← EntropyCall.readMode_eq accepted,
        ← EntropyCall.readMode_eq otherAccepted]
    cases left with
    | mixDice rolls systemRandom byteCount =>
        cases right with
        | mixDice otherRolls otherRandom otherCount =>
            exact mixDice_sameSecret accepted otherAccepted
        | _ => cases sameMode
    | diceOnly rolls byteCount =>
        cases right with
        | diceOnly otherRolls otherCount =>
            exact diceOnly_sameSecret accepted otherAccepted
        | _ => cases sameMode
    | mixCard deck systemRandom byteCount =>
        cases right with
        | mixCard otherDeck otherRandom otherCount =>
            exact mixCard_sameSecret accepted otherAccepted
        | _ => cases sameMode
    | cardsOnly first second byteCount =>
        cases right with
        | cardsOnly otherFirst otherSecond otherCount =>
            exact cardsOnly_sameSecret accepted otherAccepted
        | _ => cases sameMode
  · intro rolls systemRandom byteCount input accepted
    obtain ⟨good, -⟩ :=
      (mixDiceInput_yields rolls systemRandom byteCount).eq_of_ok accepted
    have size := le_of_mem_entropySizes good.1
    constructor
    · apply UInt16.toNat_ofNat_of_lt'
      change byteCount * 8 < 65536
      omega
    · exact UInt16.toNat_ofNat_of_lt' (mixedDiceRollCount_small good.2.1)

end Bip39
