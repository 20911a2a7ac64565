import Bip39.MnemonicRoundTrip
import Bip39.Support.Counting

/-!
# Checked sentences

A sentence of list words is generated for some entropy exactly when its last
bits are the checksum of the others.  The words but the last leave a fixed
number of choices for it, whatever they are and whatever the hash function is.
Four letters are enough of each word.
-/

namespace Bip39

open Bip39.Source Bip39.Support

theorem positionBits_append (left right : List Text) :
    positionBits (left ++ right) = positionBits left ++ positionBits right := by
  rw [positionBits, List.map_append, expand_append]
  rfl

theorem positionBits_length (words : List Text) :
    (positionBits words).length = words.length * bitsPerWord := by
  rw [positionBits, expand_length, List.length_map]

theorem leadingBytes_append {byteCount : Nat} {bits : List Bool}
    (covered : bits.length = byteCount * 8) (rest : List Bool) :
    leadingBytes byteCount (bits ++ rest) = leadingBytes byteCount bits := by
  unfold leadingBytes
  rw [List.take_left' covered, ← covered, List.take_length]

theorem getD_idxOf {word : Text} (member : word ∈ makeEnglishWordList) :
    makeEnglishWordList.getD (makeEnglishWordList.idxOf word) [] = word := by
  have inside := List.idxOf_lt_length_iff.mpr member
  rw [List.getD_eq_getElem _ _ inside]
  exact List.getElem_idxOf inside

theorem getD_mem {position : Nat} (inside : position < 2 ^ bitsPerWord) :
    makeEnglishWordList.getD position [] ∈ makeEnglishWordList := by
  have listed : position < makeEnglishWordList.length := by
    rw [englishWords_length]
    exact inside
  rw [List.getD_eq_getElem _ _ listed]
  exact List.getElem_mem listed

theorem idxOf_getD {position : Nat} (inside : position < 2 ^ bitsPerWord) :
    makeEnglishWordList.idxOf (makeEnglishWordList.getD position []) =
      position := by
  have listed : position < makeEnglishWordList.length := by
    rw [englishWords_length]
    exact inside
  rw [List.getD_eq_getElem _ _ listed]
  exact englishWords_nodup.idxOf_getElem position listed

/-- The word at a position written in bits. -/
def wordAt (bits : List Bool) : Text :=
  makeEnglishWordList.getD (bitsValue bits) []

section WordAt

variable {bits : List Bool} (full : bits.length = bitsPerWord)

include full

theorem bitsValue_inside : bitsValue bits < 2 ^ bitsPerWord := by
  rw [← full]
  exact bitsValue_lt bits

theorem wordAt_mem : wordAt bits ∈ makeEnglishWordList :=
  getD_mem (bitsValue_inside full)

theorem positionBits_wordAt : positionBits [wordAt bits] = bits := by
  have written := bitsOf_bitsValue bits
  rw [full] at written
  rw [positionBits, List.map_singleton, wordAt,
    idxOf_getD (bitsValue_inside full), expand_cons, expand_nil,
    List.append_nil, written]

end WordAt

theorem wordAt_positionBits {word : Text} (member : word ∈ makeEnglishWordList) :
    wordAt (positionBits [word]) = word := by
  have small : makeEnglishWordList.idxOf word < 2 ^ bitsPerWord :=
    idxOf_lt_wordlistSize member
  rw [positionBits, List.map_singleton, expand_cons, expand_nil,
    List.append_nil, wordAt, bitsValue_bitsOf small]
  exact getD_idxOf member

/-- The words make a sentence that is generated for some entropy. -/
def IsGenerated (hash : Bytes → Digest) (words : List Text) : Prop :=
  ∃ entropy, generateSentence hash entropy words.length = .ok (sentence words)

/-- The checksum of the entropy that is written in bits. -/
def checksumOf (hash : Bytes → Digest) (wordCount : Nat) (bits : List Bool) :
    List Bool :=
  (bitString (hash (leadingBytes (wordCount / 3 * 4) bits)).bytes).take
    (wordCount / 3)

theorem checksumOf_length (hash : Bytes → Digest) {wordCount : Nat}
    (small : wordCount ≤ 24) (bits : List Bool) :
    (checksumOf hash wordCount bits).length = wordCount / 3 := by
  rw [checksumOf, List.length_take, bitString_length, Digest.size_eq,
    sha256Size]
  omega

/-- The entropy and the checksum are read off the positions of the words. -/
theorem generated_iff (hash : Bytes → Digest) {words : List Text}
    (listed : ∀ word ∈ words, word ∈ makeEnglishWordList)
    (supported : words.length ∈ [12, 15, 18, 21, 24]) :
    IsGenerated hash words ↔
      (positionBits words).drop (words.length / 3 * 32) =
        checksumOf hash words.length (positionBits words) := by
  have accepted : entropyBytesForWordCount words.length =
      .ok (words.length / 3 * 4) := by
    rw [entropyBytesForWordCount_eq_ok_iff]
    simp only [List.mem_cons, List.not_mem_nil, or_false] at supported
    omega
  have size : words.length / 3 * 32 = words.length / 3 * 4 * 8 := by omega
  constructor
  · rintro ⟨entropy, generated⟩
    obtain ⟨counted, -, -, bits⟩ := generateSentence_spec generated
    have nonempty : words ≠ [] := by
      rintro rfl
      simp at supported
    have spaceFree : ∀ word ∈ words, chr ' ' ∉ word := fun word member =>
      (englishWords_tight word (listed word member)).2
    rw [splitOn_sentence nonempty spaceFree, combinedBits] at bits
    have count : words.length / 3 * 4 = entropy.length := by
      rw [accepted] at counted
      exact Except.ok.inj counted
    have covered : (bitString entropy).length = words.length / 3 * 4 * 8 := by
      rw [bitString_length, count]
    have check : checksumBits entropy.length = words.length / 3 := by
      unfold checksumBits
      omega
    unfold checksumOf
    rw [bits, size, List.drop_left' covered, leadingBytes_append covered, count,
      leadingBytes_bitString, check]
  · intro checksum
    rw [size] at checksum
    exact ⟨_, generateSentence_of_checksum rfl listed accepted checksum⟩

section LastWord

variable (hash : Bytes → Digest) (words : List Text)

/-- How many bits of the last word are not checksum. -/
def freeBits : Nat :=
  bitsPerWord - (words.length + 1) / 3

/-- The last word whose first bits are chosen. -/
def completion (free : List Bool) : Text :=
  wordAt (free ++
    checksumOf hash (words.length + 1) (positionBits words ++ free))

variable {words} (supported : words.length + 1 ∈ [12, 15, 18, 21, 24])

include supported

theorem completion_full {free : List Bool}
    (chosen : free.length = freeBits words) :
    (free ++ checksumOf hash (words.length + 1)
      (positionBits words ++ free)).length = bitsPerWord := by
  simp only [List.mem_cons, List.not_mem_nil, or_false] at supported
  rw [List.length_append, checksumOf_length hash (by omega), chosen, freeBits,
    bitsPerWord]
  omega

/-- The entropy ends where the free bits end. -/
theorem entropyBits_length {free : List Bool}
    (chosen : free.length = freeBits words) :
    (positionBits words ++ free).length = (words.length + 1) / 3 * 4 * 8 := by
  simp only [List.mem_cons, List.not_mem_nil, or_false] at supported
  rw [List.length_append, positionBits_length, chosen, freeBits, bitsPerWord]
  omega

theorem checksumOf_append {free : List Bool}
    (chosen : free.length = freeBits words) (rest : List Bool) :
    checksumOf hash (words.length + 1) (positionBits words ++ free ++ rest) =
      checksumOf hash (words.length + 1) (positionBits words ++ free) := by
  unfold checksumOf
  rw [leadingBytes_append (entropyBits_length supported chosen)]

variable (listed : ∀ word ∈ words, word ∈ makeEnglishWordList)

include listed

theorem generated_snoc_iff {word : Text} (member : word ∈ makeEnglishWordList)
    {free check : List Bool} (chosen : free.length = freeBits words)
    (bits : positionBits [word] = free ++ check) :
    IsGenerated hash (words ++ [word]) ↔
      check = checksumOf hash (words.length + 1)
        (positionBits words ++ free) := by
  have all : ∀ other ∈ words ++ [word], other ∈ makeEnglishWordList := by
    intro other inside
    rcases List.mem_append.mp inside with earlier | last
    · exact listed other earlier
    · rw [List.mem_singleton.mp last]
      exact member
  have count : (words ++ [word]).length = words.length + 1 :=
    List.length_append
  have size : (words.length + 1) / 3 * 32 = (words.length + 1) / 3 * 4 * 8 := by
    omega
  rw [generated_iff hash all (by rw [count]; exact supported), count,
    positionBits_append, bits, ← List.append_assoc,
    checksumOf_append hash supported chosen, size,
    List.drop_left' (entropyBits_length supported chosen)]

/-- The last words that complete a sentence are the ones with free first
bits. -/
theorem lastWords_eq :
    {word | word ∈ makeEnglishWordList ∧ IsGenerated hash (words ++ [word])} =
      completion hash words '' wordsOver Finset.univ (freeBits words) := by
  apply Set.ext
  intro word
  constructor
  · rintro ⟨member, generated⟩
    have full : (positionBits [word]).length = bitsPerWord :=
      positionBits_length [word]
    have chosen : ((positionBits [word]).take (freeBits words)).length =
        freeBits words := by
      rw [List.length_take, full]
      exact Nat.min_eq_left (Nat.sub_le ..)
    have bits := (List.take_append_drop (freeBits words)
      (positionBits [word])).symm
    refine ⟨_, ⟨chosen, fun bit _ => Finset.mem_univ bit⟩, ?_⟩
    rw [completion, ← (generated_snoc_iff hash supported listed member chosen
      bits).mp generated, ← bits]
    exact wordAt_positionBits member
  · rintro ⟨free, ⟨chosen, -⟩, rfl⟩
    have full := completion_full hash supported chosen
    have member := wordAt_mem full
    exact ⟨member, (generated_snoc_iff hash supported listed member chosen
      (positionBits_wordAt full)).mpr rfl⟩

omit listed in
theorem completion_injOn :
    Set.InjOn (completion hash words)
      (wordsOver Finset.univ (freeBits words)) := by
  rintro free ⟨chosen, -⟩ other ⟨otherChosen, -⟩ same
  have bits := congrArg (fun word => positionBits [word]) same
  simp only [completion, positionBits_wordAt
    (completion_full hash supported chosen), positionBits_wordAt
    (completion_full hash supported otherChosen)] at bits
  exact (List.append_inj bits (chosen.trans otherChosen.symm)).1

/-- Whatever the other words are, the same number of list words complete the
sentence: 128, 64, 32, 16 or 8 for 12 to 24 words. -/
theorem lastWord_count :
    {word | word ∈ makeEnglishWordList ∧
      IsGenerated hash (words ++ [word])}.ncard =
        2 ^ (bitsPerWord - (words.length + 1) / 3) := by
  rw [lastWords_eq hash supported listed,
    (completion_injOn hash supported).ncard_image, ncard_wordsOver,
    Finset.card_univ, Fintype.card_bool]
  rfl

end LastWord

theorem lastWord_count_sample :
    {word | word ∈ makeEnglishWordList ∧
      IsGenerated (fun _ => ⟨List.replicate 32 0, rfl⟩)
        (List.replicate 11 (text "abandon") ++ [word])}.ncard = 128 := by
  have listed : ∀ word ∈ List.replicate 11 (text "abandon"),
      word ∈ makeEnglishWordList := by
    intro word member
    rw [List.eq_of_mem_replicate member]
    decide +kernel
  exact lastWord_count _ (by decide) listed

theorem englishPrefixes_table :
    (makeEnglishWordList.zip makeEnglishWordList.tail).all fun pair =>
      pair.1.take 4 < pair.2.take 4 := by
  decide +kernel

theorem isChain_of_zip {α : Type} {relation : α → α → Prop} {items : List α}
    (related : ∀ pair ∈ items.zip items.tail, relation pair.1 pair.2) :
    items.IsChain relation := by
  induction items with
  | nil => exact .nil
  | cons first items induction =>
      cases items with
      | nil => exact .singleton first
      | cons second items =>
          rw [List.tail_cons, List.zip_cons_cons, List.forall_mem_cons]
            at related
          exact List.isChain_cons_cons.mpr ⟨related.1, induction related.2⟩

/-- Four letters tell the words apart, since they keep them sorted. -/
theorem englishPrefixes_nodup :
    (makeEnglishWordList.map (List.take 4)).Nodup := by
  have sorted : (makeEnglishWordList.map (List.take 4)).IsChain (· < ·) := by
    apply (List.isChain_map (List.take 4)).mpr
    apply isChain_of_zip
    intro pair member
    exact of_decide_eq_true
      (List.all_eq_true.mp englishPrefixes_table pair member)
  refine sorted.pairwise.imp ?_
  rintro left right less rfl
  exact List.lt_irrefl left less

/-- The first word with the first four letters of what is written. -/
def fullWord (written : Text) : Text :=
  (makeEnglishWordList.find? fun word =>
    word.take 4 = written.take 4).getD []

theorem fullWord_eq {word written : Text} (member : word ∈ makeEnglishWordList)
    (letters : written.take 4 = word.take 4) : fullWord written = word := by
  unfold fullWord
  rw [letters]
  cases found : makeEnglishWordList.find? fun other =>
      other.take 4 = word.take 4 with
  | none =>
      have absent := List.find?_eq_none.mp found word member
      simp at absent
  | some other =>
      have same : other.take 4 = word.take 4 := by
        simpa using List.find?_some found
      exact List.inj_on_of_nodup_map englishPrefixes_nodup
        (List.mem_of_find?_eq_some found) member same

theorem map_fullWord {words written : List Text}
    (listed : ∀ word ∈ words, word ∈ makeEnglishWordList)
    (letters : written.map (List.take 4) = words.map (List.take 4)) :
    written.map fullWord = words := by
  induction words generalizing written with
  | nil =>
      rw [List.map_nil, List.map_eq_nil_iff] at letters
      rw [letters]
      rfl
  | cons word words induction =>
      cases written with
      | nil => cases letters
      | cons first written =>
          rw [List.map_cons, List.map_cons, List.cons.injEq] at letters
          have rest : ∀ other ∈ words, other ∈ makeEnglishWordList := by
            intro other member
            exact listed other (List.mem_cons_of_mem word member)
          rw [List.map_cons, induction rest letters.2,
            fullWord_eq (listed word List.mem_cons_self) letters.1]

/-- A generated sentence and its entropy are recovered from four letters of
each word, or from more. -/
theorem fourLetters_recover {hash : Bytes → Digest} {entropy : Bytes}
    {wordCount : Nat} {mnemonic : Text}
    (generated : generateSentence hash entropy wordCount = .ok mnemonic)
    {written : List Text}
    (letters : written.map (List.take 4) =
      (mnemonic.splitOn (chr ' ')).map (List.take 4)) :
    sentence (written.map fullWord) = mnemonic ∧
      leadingBytes (written.length / 3 * 4)
        (positionBits (written.map fullWord)) = entropy := by
  obtain ⟨supported, count, listed, bits⟩ := generateSentence_spec generated
  have ratio := entropyBytesForWordCount_ratio supported
  have length : written.length = wordCount := by
    have lengths := congrArg List.length letters
    rw [List.length_map, List.length_map, count] at lengths
    exact lengths
  have byteCount : written.length / 3 * 4 = entropy.length := by omega
  rw [map_fullWord listed letters, byteCount, bits, combinedBits,
    leadingBytes_append (bitString_length entropy), leadingBytes_bitString]
  exact ⟨List.intercalate_splitOn (chr ' '), rfl⟩

/-- Some words of the counted sentence, cut to four letters, and the others in
full. -/
def countedLetters : List Text :=
  [text "pass", text "arti", text "pott", text "enab", text "foil",
    text "fatigue", text "penc", text "cryst", text "prod", text "grac",
    text "hill", text "gap"]

theorem fourLetters_recover_sample :
    sentence (countedLetters.map fullWord) = countedMnemonic ∧
      leadingBytes 16 (positionBits (countedLetters.map fullWord)) =
        countedDigest.bytes.take 16 :=
  fourLetters_recover countedMnemonic_generated (by decide +kernel)

end Bip39
