import Bip39.Source.Mnemonic
import Bip39.Support.Positional
import Mathlib.Data.UInt
import Mathlib.Tactic.NormNum

/-!
# Packing entropy and checksum into word indices

The combined sequence is the entropy followed by the leading checksum bits of
the digest.  The inner loop of `make_indices` reads one eleven-bit group of it,
the outer loop all groups in order, so the result written back in eleven-bit
numbers is the combined sequence itself.
-/

namespace Bip39

open Bip39.Source Bip39.Support

/-- The bits of a byte list, most significant bit of the first byte first. -/
def bitString (bytes : Bytes) : List Bool :=
  expand 8 (bytes.map UInt8.toNat)

/-- The eleven-bit forms of word indices, one after the other. -/
def indexBits (indices : List UInt16) : List Bool :=
  expand bitsPerWord (indices.map UInt16.toNat)

@[simp] theorem bitString_length (bytes : Bytes) :
    (bitString bytes).length = bytes.length * 8 := by
  simp [bitString]

def checksumBits (byteCount : Nat) : Nat := 8 * byteCount / 32

/-- The sequence the word indices are cut from. -/
def combinedBits (entropy : Bytes) (digest : Digest) : List Bool :=
  bitString entropy ++
    (bitString digest.bytes).take (checksumBits entropy.length)

theorem entropyBytesForWordCount_eq_ok_iff {wordCount byteCount : Nat} :
    entropyBytesForWordCount wordCount = .ok byteCount ↔
      (wordCount = 12 ∧ byteCount = 16) ∨ (wordCount = 15 ∧ byteCount = 20) ∨
      (wordCount = 18 ∧ byteCount = 24) ∨ (wordCount = 21 ∧ byteCount = 28) ∨
      (wordCount = 24 ∧ byteCount = 32) := by
  unfold entropyBytesForWordCount
  split <;> simp_all [eq_comm]

theorem entropyBytesForWordCount_ratio {wordCount byteCount : Nat}
    (supported : entropyBytesForWordCount wordCount = .ok byteCount) :
    byteCount * 3 = wordCount * 4 ∧ 16 ≤ byteCount ∧ byteCount ≤ 32 ∧
      byteCount % 4 = 0 := by
  rw [entropyBytesForWordCount_eq_ok_iff] at supported
  omega

theorem entropyBytesForWordCount_error {wordCount : Nat} {failure : Failure}
    (failed : entropyBytesForWordCount wordCount = .error failure) :
    failure = .invalidArgument
      (text "word count must be 12, 15, 18, 21, or 24") := by
  unfold entropyBytesForWordCount at failed
  split at failed <;> simp_all

theorem readBit_eq {bytes : Bytes} {position : Nat}
    (inside : position < (bitString bytes).length) :
    readBit bytes position = .ok (bitString bytes)[position] := by
  have byteInside : position / 8 < bytes.length := by
    rw [bitString_length] at inside
    omega
  have bit := expand_getElem 8 (bytes.map UInt8.toNat) position inside
    (by simpa using byteInside)
  have masked : ∀ byte shift : Nat,
      decide ((byte >>> shift) &&& 1 ≠ 0) = byte.testBit shift := by
    intro byte shift
    simp [Nat.testBit, Nat.and_comm, bne]
  change (subscript bytes (position / 8) >>= fun byte =>
    .ok (decide ((byte.toNat >>> (7 - position % 8)) &&& 1 ≠ 0))) = _
  rw [subscript_of_lt byteInside]
  change Except.ok _ = _
  rw [List.getElem_map] at bit
  rw [masked]
  exact congrArg Except.ok bit.symm

theorem combinedBits_length {entropy : Bytes} {digest : Digest}
    {wordCount : Nat}
    (supported : entropyBytesForWordCount wordCount = .ok entropy.length) :
    (combinedBits entropy digest).length = wordCount * bitsPerWord := by
  have ratio := entropyBytesForWordCount_ratio supported
  simp only [combinedBits, checksumBits, List.length_append, List.length_take,
    bitString_length, digest.size_eq, sha256Size, bitsPerWord]
  omega

/-- Both branches of the inner loop read the combined sequence. -/
theorem packBit_eq {entropy : Bytes} {digest : Digest} {wordNumber bit : Nat}
    (index : UInt16)
    (inside : wordNumber * bitsPerWord + bit <
      (combinedBits entropy digest).length) :
    packBit entropy digest (entropy.length * 8) wordNumber bit index =
      .ok ((index <<< 1) ||| (combinedBits entropy digest)[
        wordNumber * bitsPerWord + bit].toUInt16) := by
  unfold packBit
  by_cases inEntropy : wordNumber * bitsPerWord + bit < entropy.length * 8
  · have fits : wordNumber * bitsPerWord + bit < (bitString entropy).length := by
      simpa using inEntropy
    simp only [inEntropy, if_true, readBit_eq fits]
    simp only [combinedBits, List.getElem_append_left fits]
    rfl
  · have offset : wordNumber * bitsPerWord + bit - entropy.length * 8 <
        (bitString digest.bytes).length := by
      simp only [combinedBits, List.length_append, List.length_take,
        bitString_length] at inside ⊢
      omega
    have past : (bitString entropy).length ≤ wordNumber * bitsPerWord + bit := by
      simpa using inEntropy
    simp only [inEntropy, if_false, readBit_eq offset]
    simp only [combinedBits, List.getElem_append_right past,
      List.getElem_take, bitString_length]
    rfl

theorem shiftIn_toNat {index : UInt16} (bit : Bool)
    (small : index.toNat < 2 ^ 10) :
    ((index <<< 1) ||| bit.toUInt16).toNat = index.toNat * 2 + bit.toNat := by
  have shifted : (index <<< 1).toNat = index.toNat * 2 := by
    rw [UInt16.toNat_shiftLeft]
    change (index.toNat <<< 1) % 2 ^ 16 = _
    rw [Nat.shiftLeft_eq]
    omega
  have bitValue : bit.toUInt16.toNat = bit.toNat := by cases bit <;> rfl
  rw [UInt16.toNat_or, shifted, bitValue]
  have even : 2 ^ 1 * index.toNat + bit.toNat =
      2 ^ 1 * index.toNat ||| bit.toNat :=
    Nat.two_pow_add_eq_or_of_lt bit.toNat_lt index.toNat
  rw [Nat.mul_comm index.toNat 2]
  exact even.symm

theorem packWord_inner {entropy : Bytes} {digest : Digest} {wordNumber : Nat}
    (fits : (wordNumber + 1) * bitsPerWord ≤
      (combinedBits entropy digest).length) :
    ∃ index,
      forCount bitsPerWord
        (packBit entropy digest (entropy.length * 8) wordNumber) 0 = .ok index ∧
      index.toNat =
        bitsValue (group bitsPerWord (combinedBits entropy digest) wordNumber) := by
  -- After `bit` rounds the index holds the first `bit` bits of the group.
  apply forCount_ok _ _ _ fun (bit : Nat) (index : UInt16) =>
    index.toNat = bitsValue
      (((combinedBits entropy digest).drop (wordNumber * bitsPerWord)).take bit)
  · rfl
  · intro bit below index held
    have position : wordNumber * bitsPerWord + bit <
        (combinedBits entropy digest).length := by
      rw [Nat.succ_mul] at fits
      omega
    have dropped : bit <
        ((combinedBits entropy digest).drop (wordNumber * bitsPerWord)).length := by
      rw [List.length_drop]
      omega
    have small : index.toNat < 2 ^ 10 := by
      rw [held]
      refine (bitsValue_lt _).trans_le (Nat.pow_le_pow_right (by omega) ?_)
      have bound : bit < 11 := below
      exact (List.length_take_le ..).trans (by omega)
    refine ⟨_, packBit_eq index position, ?_⟩
    rw [shiftIn_toNat _ small, List.take_add_one,
      List.getElem?_eq_getElem dropped, Option.toList_some, bitsValue_snoc, held,
      List.getElem_drop]

theorem packWord_eq {entropy : Bytes} {digest : Digest} {wordNumber : Nat}
    (indices : List UInt16)
    (fits : (wordNumber + 1) * bitsPerWord ≤
      (combinedBits entropy digest).length) :
    ∃ index,
      packWord entropy digest (entropy.length * 8) wordNumber indices =
        .ok (indices ++ [index]) ∧
      index.toNat =
        bitsValue (group bitsPerWord (combinedBits entropy digest) wordNumber) := by
  obtain ⟨index, run, value⟩ := packWord_inner fits
  have small : ¬index.toNat ≥ wordlistSize := by
    have bound := bitsValue_lt
      (group bitsPerWord (combinedBits entropy digest) wordNumber)
    rw [← value, group_length fits] at bound
    exact Nat.not_le_of_lt bound
  refine ⟨index, ?_, value⟩
  unfold packWord
  rw [run]
  simp only [bind, Except.bind, small, if_false]
  rfl

/-- With matching sizes `make_indices` cuts the combined sequence into
eleven-bit groups. -/
theorem makeIndices_of_supported {entropy : Bytes} (digest : Digest)
    {wordCount : Nat}
    (supported : entropyBytesForWordCount wordCount = .ok entropy.length) :
    ∃ indices, makeIndices entropy digest wordCount = .ok indices ∧
      indices.map UInt16.toNat =
        regroup bitsPerWord wordCount (combinedBits entropy digest) := by
  have length : (combinedBits entropy digest).length =
      wordCount * bitsPerWord := combinedBits_length supported
  have loop := forCount_ok wordCount
    (packWord entropy digest (entropy.length * 8)) []
    (fun done indices => indices.map UInt16.toNat =
      regroup bitsPerWord done (combinedBits entropy digest))
    rfl (by
      intro wordNumber below indices held
      have fits : (wordNumber + 1) * bitsPerWord ≤
          (combinedBits entropy digest).length := by
        rw [length]
        exact Nat.mul_le_mul_right _ below
      obtain ⟨index, run, value⟩ := packWord_eq indices fits
      refine ⟨_, run, ?_⟩
      simp only [List.map_append, held, List.map_cons, List.map_nil, value,
        regroup, List.range_succ])
  obtain ⟨indices, run, value⟩ := loop
  refine ⟨indices, ?_, value⟩
  have combined :
      entropy.length * 8 + entropy.length * 8 / 32 = wordCount * bitsPerWord := by
    have ratio := entropyBytesForWordCount_ratio supported
    simp only [bitsPerWord]
    omega
  unfold makeIndices
  rw [supported]
  simp only [bind, Except.bind, ne_eq, not_true_eq_false, if_false, combined]
  exact run

theorem makeIndices_of_unsupported {entropy : Bytes} (digest : Digest)
    {wordCount : Nat}
    (unsupported : entropyBytesForWordCount wordCount ≠ .ok entropy.length) :
    ∃ what, makeIndices entropy digest wordCount =
      .error (.invalidArgument what) := by
  unfold makeIndices
  cases count : entropyBytesForWordCount wordCount with
  | error failure =>
      refine ⟨text "word count must be 12, 15, 18, 21, or 24", ?_⟩
      rw [entropyBytesForWordCount_error count]
      rfl
  | ok expected =>
      have mismatch : entropy.length ≠ expected := by
        intro same
        rw [count, same] at unsupported
        exact unsupported rfl
      refine ⟨text "entropy size does not match word count", ?_⟩
      simp only [bind, Except.bind, mismatch, ne_eq, not_false_eq_true, if_true]
      rfl

/-- The indices `make_indices` returns, written in eleven bits each, are the
combined sequence. -/
theorem makeIndices_spec {entropy : Bytes} {digest : Digest} {wordCount : Nat}
    {indices : List UInt16}
    (run : makeIndices entropy digest wordCount = .ok indices) :
    entropyBytesForWordCount wordCount = .ok entropy.length ∧
      indices.length = wordCount ∧
      (∀ index ∈ indices, index.toNat < wordlistSize) ∧
      indexBits indices = combinedBits entropy digest := by
  by_cases supported : entropyBytesForWordCount wordCount = .ok entropy.length
  · obtain ⟨found, foundRun, value⟩ := makeIndices_of_supported digest supported
    rw [run] at foundRun
    cases foundRun
    refine ⟨supported, ?_, ?_, ?_⟩
    · simpa using congrArg List.length value
    · intro index member
      have mapped : index.toNat ∈ indices.map UInt16.toNat :=
        List.mem_map_of_mem member
      rw [value] at mapped
      exact regroup_lt bitsPerWord wordCount _ _ mapped
    · rw [indexBits, value]
      exact expand_regroup _ _ _ (combinedBits_length supported)
  · obtain ⟨what, failed⟩ := makeIndices_of_unsupported digest supported
    rw [failed] at run
    cases run

/-- `make_indices` succeeds on exactly the five supported sizes and fails with
`invalid_argument` otherwise; the indices are the base-2048 digits of the
entropy followed by its checksum bits. -/
theorem makeIndices_correct (entropy : Bytes) (digest : Digest)
    (wordCount : Nat) :
    ((∃ indices, makeIndices entropy digest wordCount = .ok indices) ↔
      wordCount ∈ [12, 15, 18, 21, 24] ∧
        entropyBytesForWordCount wordCount = .ok entropy.length) ∧
    ((∃ indices, makeIndices entropy digest wordCount = .ok indices) ∨
      ∃ what, makeIndices entropy digest wordCount =
        .error (.invalidArgument what)) ∧
    ∀ indices, makeIndices entropy digest wordCount = .ok indices →
      indices.length = wordCount ∧
      (∀ index ∈ indices, index.toNat < 2048) ∧
      bigEndian 2048 (indices.map UInt16.toNat) =
        bigEndian 256 (entropy.map UInt8.toNat) *
            2 ^ (8 * entropy.length / 32) +
          bitsValue ((bitString digest.bytes).take (8 * entropy.length / 32)) := by
  refine ⟨⟨?_, ?_⟩, ?_, ?_⟩
  · rintro ⟨indices, run⟩
    obtain ⟨supported, -⟩ := makeIndices_spec run
    refine ⟨?_, supported⟩
    rw [entropyBytesForWordCount_eq_ok_iff] at supported
    simp only [List.mem_cons, List.not_mem_nil, or_false]
    omega
  · rintro ⟨-, supported⟩
    obtain ⟨indices, run, -⟩ := makeIndices_of_supported digest supported
    exact ⟨indices, run⟩
  · by_cases supported : entropyBytesForWordCount wordCount = .ok entropy.length
    · obtain ⟨indices, run, -⟩ := makeIndices_of_supported digest supported
      exact .inl ⟨indices, run⟩
    · exact .inr (makeIndices_of_unsupported digest supported)
  · intro indices run
    obtain ⟨supported, count, small, bits⟩ := makeIndices_spec run
    refine ⟨count, small, ?_⟩
    have byteSmall : ∀ value ∈ entropy.map UInt8.toNat, value < 2 ^ 8 := by
      intro value member
      obtain ⟨byte, -, rfl⟩ := List.mem_map.mp member
      exact byte.toNat_lt
    have indexSmall :
        ∀ value ∈ indices.map UInt16.toNat, value < 2 ^ bitsPerWord := by
      intro value member
      obtain ⟨index, indexMember, rfl⟩ := List.mem_map.mp member
      exact small index indexMember
    have checksumLength :
        ((bitString digest.bytes).take (8 * entropy.length / 32)).length =
          8 * entropy.length / 32 := by
      have ratio := entropyBytesForWordCount_ratio supported
      rw [List.length_take, bitString_length, digest.size_eq]
      simp only [sha256Size]
      omega
    calc
      bigEndian 2048 (indices.map UInt16.toNat) = bitsValue (indexBits indices) :=
        (bitsValue_expand bitsPerWord _ indexSmall).symm
      _ = bitsValue (bitString entropy) * 2 ^ (8 * entropy.length / 32) +
          bitsValue ((bitString digest.bytes).take (8 * entropy.length / 32)) := by
        rw [bits, combinedBits, bitsValue_append, checksumBits, checksumLength]
      _ = _ := by
        rw [bitString, bitsValue_expand 8 _ byteSmall]
        norm_num

end Bip39
