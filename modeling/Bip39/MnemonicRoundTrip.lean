import Bip39.IndexPacking
import Bip39.MnemonicSentence
import Bip39.Source.EnglishWords
import Mathlib.Data.List.Nodup

/-!
# Mnemonic round trip for the compiled English list

A generated sentence splits into list words whose positions carry the entropy
and its checksum, and a sentence whose checksum is right is generated for
exactly one entropy.  The hash function is arbitrary.
-/

namespace Bip39

open Bip39.Source Bip39.Support

set_option maxRecDepth 10000 in
/-- All that is computed about the compiled list, in one evaluation of it: its
size, its order, and the letters and the length of each word. -/
theorem englishWords_table :
    makeEnglishWordList.length = wordlistSize ∧
      makeEnglishWordList.IsChain (· < ·) ∧
      makeEnglishWordList.all fun word =>
        (3 ≤ word.length && word.length ≤ 8) &&
          word.all fun letter => chr 'a' ≤ letter && letter ≤ chr 'z' := by
  decide +kernel

theorem englishWords_length : makeEnglishWordList.length = wordlistSize :=
  englishWords_table.1

/-- The list is sorted, which is faster to check than distinctness. -/
theorem englishWords_sorted : makeEnglishWordList.IsChain (· < ·) :=
  englishWords_table.2.1

theorem englishWords_letters {word : Text}
    (member : word ∈ makeEnglishWordList) :
    (3 ≤ word.length ∧ word.length ≤ 8) ∧
      ∀ letter ∈ word, chr 'a' ≤ letter ∧ letter ≤ chr 'z' := by
  have shape := List.all_eq_true.mp englishWords_table.2.2 word member
  simpa using shape

/-- A character outside the lower-case letters is in no word. -/
theorem not_mem_englishWord {word : Text} (member : word ∈ makeEnglishWordList)
    {character : UInt8}
    (other : ¬(chr 'a' ≤ character ∧ character ≤ chr 'z')) :
    character ∉ word := by
  intro inside
  exact other ((englishWords_letters member).2 character inside)

theorem englishWords_tight :
    ∀ word ∈ makeEnglishWordList, word ≠ [] ∧ chr ' ' ∉ word := by
  intro word member
  constructor
  · have long := (englishWords_letters member).1.1
    exact List.ne_nil_of_length_pos (by omega)
  · exact not_mem_englishWord member (by decide)

theorem englishWords_nodup : makeEnglishWordList.Nodup := by
  have ordered := englishWords_sorted.pairwise
  refine ordered.imp ?_
  rintro left right less rfl
  exact List.lt_irrefl left less

/-- The eleven-bit positions of words in the compiled list. -/
def positionBits (words : List Text) : List Bool :=
  expand bitsPerWord (words.map fun word => makeEnglishWordList.idxOf word)

/-- The composition of index generation and sentence building in `main`. -/
def generateSentence (hash : Bytes → Digest) (entropy : Bytes)
    (wordCount : Nat) : Except Failure Text := do
  let indices ← makeIndices entropy (hash entropy) wordCount
  makeMnemonic makeEnglishWordList indices

theorem idxOf_lt_wordlistSize {word : Text}
    (member : word ∈ makeEnglishWordList) :
    makeEnglishWordList.idxOf word < wordlistSize := by
  rw [← englishWords_length]
  exact List.idxOf_lt_length_iff.mpr member

/-- Looking a selected word up again gives the index it was selected by. -/
theorem positionBits_selectedWords {indices : List UInt16}
    (small : ∀ index ∈ indices, index.toNat < wordlistSize) :
    positionBits (selectedWords makeEnglishWordList indices) =
      indexBits indices := by
  unfold positionBits indexBits selectedWords
  rw [List.map_map]
  congr 1
  refine List.map_congr_left fun index member => ?_
  have inside : index.toNat < makeEnglishWordList.length := by
    rw [englishWords_length]
    exact small index member
  simp only [Function.comp_apply]
  rw [List.getD_eq_getElem _ _ inside]
  exact englishWords_nodup.idxOf_getElem index.toNat inside

theorem existsUnique_position {word : Text}
    (member : word ∈ makeEnglishWordList) :
    ∃! position : Nat, makeEnglishWordList[position]? = some word := by
  obtain ⟨position, inside, found⟩ := List.mem_iff_getElem.mp member
  refine ⟨position, ?_, ?_⟩
  · simp [inside, found]
  · intro other otherFound
    obtain ⟨otherInside, otherWord⟩ := List.getElem?_eq_some_iff.mp otherFound
    exact englishWords_nodup.getElem_inj_iff.mp (otherWord.trans found.symm)

/-- What is known of every generated sentence: it joins one list word per
index, and the positions of these words spell the combined sequence. -/
theorem generateSentence_spec {hash : Bytes → Digest} {entropy : Bytes}
    {wordCount : Nat} {mnemonic : Text}
    (generated : generateSentence hash entropy wordCount = .ok mnemonic) :
    entropyBytesForWordCount wordCount = .ok entropy.length ∧
      (mnemonic.splitOn (chr ' ')).length = wordCount ∧
      (∀ word ∈ mnemonic.splitOn (chr ' '), word ∈ makeEnglishWordList) ∧
      positionBits (mnemonic.splitOn (chr ' ')) =
        combinedBits entropy (hash entropy) := by
  obtain ⟨indices, packed, joined⟩ := bind_eq_ok.mp generated
  obtain ⟨supported, count, small, bits⟩ := makeIndices_spec packed
  have inRange : ∀ index ∈ indices,
      index.toNat < makeEnglishWordList.length := by
    rw [englishWords_length]
    exact small
  rw [makeMnemonic_eq inRange, Except.ok.injEq] at joined
  have listed := selectedWords_mem inRange
  have nonempty : selectedWords makeEnglishWordList indices ≠ [] := by
    rw [← List.length_pos_iff, selectedWords_length, count]
    have ratio := entropyBytesForWordCount_ratio supported
    omega
  have split : mnemonic.splitOn (chr ' ') =
      selectedWords makeEnglishWordList indices := by
    rw [← joined]
    exact splitOn_sentence nonempty fun word member =>
      (englishWords_tight word (listed word member)).2
  rw [split]
  refine ⟨supported, by simpa using count, listed, ?_⟩
  rw [positionBits_selectedWords small, bits]

theorem generateSentence_of_supported (hash : Bytes → Digest)
    {entropy : Bytes} {wordCount : Nat}
    (supported : entropyBytesForWordCount wordCount = .ok entropy.length) :
    ∃ mnemonic, generateSentence hash entropy wordCount = .ok mnemonic := by
  obtain ⟨indices, run, -⟩ := makeIndices_of_supported (hash entropy) supported
  obtain ⟨-, -, small, -⟩ := makeIndices_spec run
  rw [← englishWords_length] at small
  refine ⟨sentence (selectedWords makeEnglishWordList indices), ?_⟩
  unfold generateSentence
  rw [run]
  exact makeMnemonic_eq small

theorem bitString_injective {left right : Bytes}
    (same : bitString left = bitString right) : left = right := by
  have small : ∀ bytes : Bytes, ∀ value ∈ bytes.map UInt8.toNat,
      value < 2 ^ 8 := by
    intro bytes value member
    obtain ⟨byte, -, rfl⟩ := List.mem_map.mp member
    exact byte.toNat_lt
  have values := expand_injective (by omega) (small left) (small right) same
  exact List.map_injective_iff.mpr (fun _ _ => UInt8.toNat_inj.mp) values

theorem indexBits_injective {left right : List UInt16}
    (leftSmall : ∀ index ∈ left, index.toNat < wordlistSize)
    (rightSmall : ∀ index ∈ right, index.toNat < wordlistSize)
    (same : indexBits left = indexBits right) : left = right := by
  have small : ∀ indices : List UInt16,
      (∀ index ∈ indices, index.toNat < wordlistSize) →
        ∀ value ∈ indices.map UInt16.toNat, value < 2 ^ bitsPerWord := by
    intro indices bound value member
    obtain ⟨index, indexMember, rfl⟩ := List.mem_map.mp member
    exact bound index indexMember
  have values := expand_injective (by decide) (small left leftSmall)
    (small right rightSmall) same
  exact List.map_injective_iff.mpr (fun _ _ => UInt16.toNat_inj.mp) values

/-- The first `byteCount` bytes of a bit string. -/
def leadingBytes (byteCount : Nat) (bits : List Bool) : Bytes :=
  (regroup 8 byteCount (bits.take (byteCount * 8))).map UInt8.ofNat

@[simp] theorem leadingBytes_length (byteCount : Nat) (bits : List Bool) :
    (leadingBytes byteCount bits).length = byteCount := by
  simp [leadingBytes]

theorem bitString_leadingBytes {byteCount : Nat} {bits : List Bool}
    (enough : byteCount * 8 ≤ bits.length) :
    bitString (leadingBytes byteCount bits) = bits.take (byteCount * 8) := by
  have values : (leadingBytes byteCount bits).map UInt8.toNat =
      regroup 8 byteCount (bits.take (byteCount * 8)) := by
    rw [leadingBytes, List.map_map]
    refine (List.map_congr_left fun value member => ?_).trans (List.map_id _)
    have small : value < 256 := regroup_lt 8 _ _ value member
    exact UInt8.toNat_ofNat_of_lt' small
  rw [bitString, values]
  refine expand_regroup 8 byteCount _ ?_
  rw [List.length_take, Nat.min_eq_left enough]

theorem leadingBytes_bitString (bytes : Bytes) :
    leadingBytes bytes.length (bitString bytes) = bytes := by
  have whole : bytes.length * 8 = (bitString bytes).length :=
    (bitString_length bytes).symm
  apply bitString_injective
  rw [bitString_leadingBytes whole.le, whole, List.take_length]

/-- The indices that select the given list words. -/
def indicesOf (words : List Text) : List UInt16 :=
  words.map fun word => UInt16.ofNat (makeEnglishWordList.idxOf word)

section IndicesOf

variable {words : List Text}
  (listed : ∀ word ∈ words, word ∈ makeEnglishWordList)

include listed

theorem indicesOf_toNat :
    (indicesOf words).map UInt16.toNat =
      words.map fun word => makeEnglishWordList.idxOf word := by
  rw [indicesOf, List.map_map]
  apply List.map_congr_left
  intro word member
  have bound := idxOf_lt_wordlistSize (listed word member)
  apply UInt16.toNat_ofNat_of_lt'
  exact bound.trans (by decide)

theorem indicesOf_lt : ∀ index ∈ indicesOf words, index.toNat < wordlistSize := by
  intro index member
  have mapped : index.toNat ∈ (indicesOf words).map UInt16.toNat :=
    List.mem_map_of_mem member
  rw [indicesOf_toNat listed] at mapped
  obtain ⟨word, wordMember, same⟩ := List.mem_map.mp mapped
  rw [← same]
  exact idxOf_lt_wordlistSize (listed word wordMember)

theorem indexBits_indicesOf :
    indexBits (indicesOf words) = positionBits words := by
  rw [indexBits, indicesOf_toNat listed, positionBits]

theorem selectedWords_indicesOf :
    selectedWords makeEnglishWordList (indicesOf words) = words := by
  have selected : selectedWords makeEnglishWordList (indicesOf words) =
      ((indicesOf words).map UInt16.toNat).map
        fun position => makeEnglishWordList.getD position [] := by
    rw [selectedWords, List.map_map]
    rfl
  rw [selected, indicesOf_toNat listed, List.map_map]
  refine (List.map_congr_left fun word member => ?_).trans (List.map_id _)
  have inside := List.idxOf_lt_length_iff.mpr (listed word member)
  simp only [Function.comp_apply]
  rw [List.getD_eq_getElem _ _ inside]
  exact List.getElem_idxOf inside

end IndicesOf

/-- The sentence of list words whose trailing bits are the checksum of their
leading bytes is the one generated for these bytes. -/
theorem generateSentence_of_checksum {hash : Bytes → Digest} {wordCount : Nat}
    {words : List Text} (count : words.length = wordCount)
    (listed : ∀ word ∈ words, word ∈ makeEnglishWordList)
    {byteCount : Nat}
    (supported : entropyBytesForWordCount wordCount = .ok byteCount)
    (checksum : (positionBits words).drop (byteCount * 8) =
      (bitString (hash (leadingBytes byteCount (positionBits words))).bytes).take
        (wordCount / 3)) :
    generateSentence hash (leadingBytes byteCount (positionBits words))
      wordCount = .ok (sentence words) := by
  let entropy := leadingBytes byteCount (positionBits words)
  have ratio := entropyBytesForWordCount_ratio supported
  have enough : byteCount * 8 ≤ (positionBits words).length := by
    simp only [positionBits, expand_length, List.length_map, count, bitsPerWord]
    omega
  have entropySupported :
      entropyBytesForWordCount wordCount = .ok entropy.length := by
    simpa [entropy] using supported
  obtain ⟨indices, run, -⟩ :=
    makeIndices_of_supported (hash entropy) entropySupported
  obtain ⟨-, -, small, bits⟩ := makeIndices_spec run
  have combined : combinedBits entropy (hash entropy) = positionBits words := by
    have checksumCount : checksumBits entropy.length = wordCount / 3 := by
      simp only [checksumBits, entropy, leadingBytes_length]
      omega
    unfold combinedBits
    rw [checksumCount, ← checksum, bitString_leadingBytes enough,
      List.take_append_drop]
  have found : indices = indicesOf words := by
    apply indexBits_injective small (indicesOf_lt listed)
    rw [bits, combined, indexBits_indicesOf listed]
  rw [← englishWords_length] at small
  have joined := makeMnemonic_eq small
  rw [found, selectedWords_indicesOf listed] at joined
  unfold generateSentence
  rw [run, found]
  exact joined

/-- A sentence is generated for at most one entropy, of any supported size. -/
theorem generateSentence_injective {hash : Bytes → Digest}
    {left right : Bytes} {leftCount rightCount : Nat} {mnemonic : Text}
    (fromLeft : generateSentence hash left leftCount = .ok mnemonic)
    (fromRight : generateSentence hash right rightCount = .ok mnemonic) :
    left = right ∧ leftCount = rightCount := by
  obtain ⟨leftSupported, leftLength, -, leftBits⟩ :=
    generateSentence_spec fromLeft
  obtain ⟨rightSupported, rightLength, -, rightBits⟩ :=
    generateSentence_spec fromRight
  have sameCount : leftCount = rightCount := leftLength.symm.trans rightLength
  have sameSize : left.length = right.length := by
    rw [sameCount, rightSupported, Except.ok.injEq] at leftSupported
    exact leftSupported.symm
  have sameBits := leftBits.symm.trans rightBits
  unfold combinedBits at sameBits
  obtain ⟨sameEntropy, -⟩ := List.append_inj sameBits (by simp [sameSize])
  exact ⟨bitString_injective sameEntropy, sameCount⟩

/-- Round trip between entropies and checked English sentences. -/
theorem mnemonic_roundTrip (hash : Bytes → Digest) :
    (∀ (entropy : Bytes) (wordCount : Nat),
      entropyBytesForWordCount wordCount = .ok entropy.length →
      ∃ mnemonic, generateSentence hash entropy wordCount = .ok mnemonic ∧
        (mnemonic.splitOn (chr ' ')).length = wordCount ∧
        (∀ word ∈ mnemonic.splitOn (chr ' '),
          ∃! position : Nat, makeEnglishWordList[position]? = some word) ∧
        positionBits (mnemonic.splitOn (chr ' ')) =
          bitString entropy ++
            (bitString (hash entropy).bytes).take (entropy.length / 4)) ∧
    ∀ (wordCount : Nat) (words : List Text),
      wordCount ∈ [12, 15, 18, 21, 24] → words.length = wordCount →
      (∀ word ∈ words, word ∈ makeEnglishWordList) →
      let bits := positionBits words
      let entropy := leadingBytes (wordCount / 3 * 4) bits
      bits.drop (wordCount / 3 * 32) =
          (bitString (hash entropy).bytes).take (wordCount / 3) →
        generateSentence hash entropy wordCount = .ok (sentence words) ∧
        ∀ (other : Bytes) (otherCount : Nat),
          generateSentence hash other otherCount = .ok (sentence words) →
            other = entropy := by
  constructor
  · intro entropy wordCount supported
    obtain ⟨mnemonic, generated⟩ := generateSentence_of_supported hash supported
    obtain ⟨-, count, listed, bits⟩ := generateSentence_spec generated
    refine ⟨mnemonic, generated, count,
      fun word member => existsUnique_position (listed word member), ?_⟩
    have checksumCount : checksumBits entropy.length = entropy.length / 4 := by
      unfold checksumBits
      omega
    rw [bits, combinedBits, checksumCount]
  · intro wordCount words counted length listed bits entropy checksum
    have supported :
        entropyBytesForWordCount wordCount = .ok (wordCount / 3 * 4) := by
      rw [entropyBytesForWordCount_eq_ok_iff]
      simp only [List.mem_cons, List.not_mem_nil, or_false] at counted
      omega
    have size : wordCount / 3 * 32 = wordCount / 3 * 4 * 8 := by omega
    rw [size] at checksum
    have generated :=
      generateSentence_of_checksum length listed supported checksum
    exact ⟨generated, fun other otherCount fromOther =>
      (generateSentence_injective fromOther generated).1⟩

/-- A digest that begins with both kinds of bits. -/
def countedDigest : Digest :=
  ⟨(List.range 32).map fun step => UInt8.ofNat (160 + step), rfl⟩

def countedMnemonic : Text :=
  text ("pass artist pottery enable foil fatigue pencil crystal produce " ++
    "grace hill gap")

theorem countedMnemonic_generated :
    generateSentence (fun _ => countedDigest) (countedDigest.bytes.take 16) 12 =
      .ok countedMnemonic := by
  decide +kernel

end Bip39
