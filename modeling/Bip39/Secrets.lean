import Bip39.DisplayedForms
import Bip39.WholeRun

/-!
# Secrets

What a run is for, apart from how it gets there: entropy of one of five
strengths with its digest, shown over a wordlist.  The types exclude a wrong
size, a short wordlist and a repeated word.  The functions of the program that
work on a secret do not fail.
-/

namespace Bip39

open Bip39.Source Bip39.Support

inductive Strength where
  | bits128
  | bits160
  | bits192
  | bits224
  | bits256
  deriving DecidableEq, Repr

namespace Strength

def byteCount : Strength → Nat
  | bits128 => 16
  | bits160 => 20
  | bits192 => 24
  | bits224 => 28
  | bits256 => 32

def wordCount : Strength → Nat
  | bits128 => 12
  | bits160 => 15
  | bits192 => 18
  | bits224 => 21
  | bits256 => 24

/-- The rolls of the mixed and of the unmixed dice source. -/
def mixedRolls : Strength → Nat
  | bits128 => 75
  | bits160 => 87
  | bits192 => 100
  | bits224 => 112
  | bits256 => 124

def onlyRolls : Strength → Nat
  | bits128 => 50
  | bits160 => 62
  | bits192 => 75
  | bits224 => 87
  | bits256 => 99

theorem entropyBytes (strength : Strength) :
    entropyBytesForWordCount strength.wordCount = .ok strength.byteCount := by
  cases strength <;> rfl

theorem mixedDiceRollCount_eq (strength : Strength) :
    mixedDiceRollCount strength.byteCount = .ok strength.mixedRolls := by
  cases strength <;> rfl

theorem diceOnlyRollCount_eq (strength : Strength) :
    diceOnlyRollCount strength.byteCount = .ok strength.onlyRolls := by
  cases strength <;> rfl

theorem byteCount_mem (strength : Strength) :
    strength.byteCount ∈ entropySizes := by
  cases strength <;> simp [entropySizes, byteCount]

theorem exists_wordCount {wordCount : Nat}
    (supported : wordCount ∈ [12, 15, 18, 21, 24]) :
    ∃ strength : Strength, strength.wordCount = wordCount := by
  simp only [List.mem_cons, List.not_mem_nil, or_false] at supported
  rcases supported with rfl | rfl | rfl | rfl | rfl
  · exact ⟨bits128, rfl⟩
  · exact ⟨bits160, rfl⟩
  · exact ⟨bits192, rfl⟩
  · exact ⟨bits224, rfl⟩
  · exact ⟨bits256, rfl⟩

theorem byteCount_injective {left right : Strength}
    (same : left.byteCount = right.byteCount) : left = right := by
  cases left <;> cases right <;> first | rfl | cases same

end Strength

/-- A list of words as BIP-39 asks for it. -/
structure Wordlist where
  words : List Text
  size : words.length = wordlistSize
  unique : words.Nodup
  nonempty : ∀ word ∈ words, word ≠ []

namespace Wordlist

def english : Wordlist where
  words := makeEnglishWordList
  size := englishWords_length
  unique := englishWords_nodup
  nonempty := fun word member => (englishWords_tight word member).1

/-- The wordlist made of the lines of a file, or the first objection to it. -/
def ofLines (lines : List Text) : Except Failure Wordlist :=
  if nonempty : ∀ word ∈ lines, word ≠ [] then
    if size : lines.length = wordlistSize then
      if unique : lines.Nodup then
        .ok { words := lines, size, unique, nonempty }
      else .error (.runtimeError (text "wordlist contains duplicate words"))
    else .error (.runtimeError
      (text "wordlist must contain exactly 2048 words; found " ++
        digits 10 lines.length))
  else .error (.runtimeError (text "wordlist contains an empty line"))

end Wordlist

structure Entropy (strength : Strength) where
  bytes : Bytes
  size_eq : bytes.length = strength.byteCount

structure Secret (strength : Strength) where
  entropy : Entropy strength
  digest : Digest

namespace Secret

variable {strength : Strength} (secret : Secret strength)

/-- The entropy followed by its checksum. -/
def bits : List Bool :=
  combinedBits secret.entropy.bytes secret.digest

/-- The positions of the words in a wordlist. -/
def positions : List Nat :=
  regroup bitsPerWord strength.wordCount secret.bits

def rows : List (List Bool) :=
  secret.positions.map (bitsOf bitsPerWord)

def words (wordlist : Wordlist) : List Text :=
  secret.positions.map fun position => wordlist.words.getD position []

def mnemonic (wordlist : Wordlist) : Text :=
  sentence (secret.words wordlist)

def indices : List UInt16 :=
  secret.positions.map UInt16.ofNat

def internals : Text :=
  internalsPage (secret.entropy.bytes.flatMap hexPair)
    (((bitString secret.digest.bytes).take
      (checksumBits strength.byteCount)).map checksumDigit)
    (strength.byteCount * 8) (checksumBits strength.byteCount)

/-- What is printed before a seed is asked for. -/
def pages (wordlist : Wordlist) (showEntropy : Bool) : Text :=
  (if showEntropy then secret.internals else []) ++
    mnemonicPage (secret.words wordlist) ++ tinySeedPage secret.rows

theorem entropyBytes :
    entropyBytesForWordCount strength.wordCount =
      .ok secret.entropy.bytes.length := by
  rw [secret.entropy.size_eq]
  exact strength.entropyBytes

theorem bits_length :
    secret.bits.length = strength.wordCount * bitsPerWord :=
  combinedBits_length secret.entropyBytes

theorem positions_length : secret.positions.length = strength.wordCount :=
  regroup_length _ _ _

theorem positions_lt : ∀ position ∈ secret.positions, position < 2048 :=
  regroup_lt _ _ _

theorem rows_flatten : secret.rows.flatten = secret.bits := by
  have whole := expand_regroup bitsPerWord strength.wordCount secret.bits
    secret.bits_length
  rw [expand, List.flatMap_def] at whole
  exact whole

theorem makeIndices_eq :
    makeIndices secret.entropy.bytes secret.digest strength.wordCount =
      .ok secret.indices := by
  obtain ⟨indices, run, positions⟩ :=
    makeIndices_of_supported secret.digest secret.entropyBytes
  have same : secret.indices = indices := by
    rw [Secret.indices, Secret.positions, Secret.bits, ← positions,
      List.map_map]
    exact (List.map_congr_left fun index _ => UInt16.ofNat_toNat).trans
      (List.map_id indices)
  rw [run, same]

theorem indices_toNat : secret.indices.map UInt16.toNat = secret.positions := by
  rw [Secret.indices, List.map_map]
  refine (List.map_congr_left fun position member => ?_).trans
    (List.map_id secret.positions)
  have small := secret.positions_lt position member
  simp only [Function.comp_apply, UInt16.toNat_ofNat']
  exact Nat.mod_eq_of_lt (by omega)

theorem indices_lt {wordlist : Wordlist} :
    ∀ index ∈ secret.indices, index.toNat < wordlist.words.length := by
  intro index member
  have listed : index.toNat ∈ secret.positions := by
    rw [← secret.indices_toNat]
    exact List.mem_map_of_mem member
  rw [wordlist.size]
  exact secret.positions_lt _ listed

theorem selectedWords_eq (wordlist : Wordlist) :
    selectedWords wordlist.words secret.indices = secret.words wordlist := by
  rw [Secret.words, ← secret.indices_toNat, List.map_map]
  rfl

theorem makeMnemonic_eq (wordlist : Wordlist) :
    makeMnemonic wordlist.words secret.indices =
      .ok (secret.mnemonic wordlist) := by
  rw [Bip39.makeMnemonic_eq secret.indices_lt, selectedWords_eq]
  rfl

theorem printMnemonic_eq (wordlist : Wordlist) (written : Text) :
    printMnemonic wordlist.words secret.indices { text := written } =
      .ok { text := written ++ mnemonicPage (secret.words wordlist) } := by
  rw [Bip39.printMnemonic_eq secret.indices_lt, selectedWords_eq]

theorem printTinySeed_eq (written : Text) :
    printTinySeed secret.indices { text := written } =
      .ok { text := written ++ tinySeedPage secret.rows } := by
  rw [Bip39.printTinySeed_eq, Secret.rows, ← secret.indices_toNat,
    List.map_map]
  rfl

theorem printEntropyAndChecksum_eq (written : Text) :
    printEntropyAndChecksum secret.entropy.bytes secret.digest
        { text := written } =
      .ok { text := written ++ secret.internals } := by
  have size := secret.entropy.size_eq
  have fits : checksumBits secret.entropy.bytes.length ≤
      (bitString secret.digest.bytes).length := by
    have ratio := entropyBytesForWordCount_ratio secret.entropyBytes
    rw [bitString_length, secret.digest.size_eq, checksumBits, sha256Size]
    omega
  rw [Bip39.printEntropyAndChecksum_eq fits, size]
  rfl

theorem mem_words {wordlist : Wordlist} {word : Text}
    (member : word ∈ secret.words wordlist) : word ∈ wordlist.words := by
  rw [← selectedWords_eq] at member
  exact selectedWords_mem secret.indices_lt word member

end Secret

theorem readWords_of_empty {words lines : List Text}
    (empty : ¬∀ line ∈ lines, stripCarriageReturn line ≠ []) :
    readWords words lines =
      .error (.runtimeError (text "wordlist contains an empty line")) := by
  induction lines generalizing words with
  | nil => exact absurd (by simp) empty
  | cons line lines induction =>
      rw [readWords]
      by_cases first : stripCarriageReturn line = []
      · rw [if_pos first]
      · rw [if_neg first]
        apply induction
        intro rest
        apply empty
        simpa [first] using rest

/-- The program makes the same objections in the same order. -/
theorem loadWordlist_eq (filename : Text) (content : Option Bytes) :
    loadWordlist filename content =
      match content with
      | none => .error
          (.runtimeError (text "could not open wordlist file: " ++ filename))
      | some bytes => (Wordlist.ofLines (fileLines bytes)).map (·.words) := by
  cases content with
  | none => rfl
  | some bytes =>
      have lines : fileLines bytes =
          (getlines bytes).map stripCarriageReturn := by
        rw [fileLines, getlines_eq_segments]
      change (readWords [] (getlines bytes) >>= checkWords) =
        (Wordlist.ofLines (fileLines bytes)).map (·.words)
      have each : (∀ word ∈ (getlines bytes).map stripCarriageReturn,
          word ≠ []) ↔ ∀ line ∈ getlines bytes, stripCarriageReturn line ≠ [] :=
        List.forall_mem_map
      rw [lines]
      unfold Wordlist.ofLines
      by_cases nonempty :
          ∀ word ∈ (getlines bytes).map stripCarriageReturn, word ≠ []
      · have read : readWords [] (getlines bytes) =
            .ok ((getlines bytes).map stripCarriageReturn) :=
          readWords_eq_ok_iff.mpr
            ⟨each.mp nonempty, (List.nil_append _).symm⟩
        rw [read, dif_pos nonempty]
        change checkWords _ = _
        unfold checkWords
        by_cases size :
            ((getlines bytes).map stripCarriageReturn).length = wordlistSize
        · rw [if_neg (not_not.mpr size), dif_pos size]
          by_cases unique :
              ((getlines bytes).map stripCarriageReturn).Nodup
          · rw [if_neg (not_not.mpr (dedup_length_eq_iff.mpr unique)),
              dif_pos unique]
            rfl
          · rw [if_pos (mt dedup_length_eq_iff.mp unique), dif_neg unique]
            rfl
        · rw [if_pos size, dif_neg size]
          rfl
      · rw [dif_neg nonempty,
          readWords_of_empty (mt each.mpr nonempty)]
        rfl

end Bip39
