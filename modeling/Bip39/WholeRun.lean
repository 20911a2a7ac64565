import Bip39.CardEntry
import Bip39.DiceEntry
import Bip39.IndexPacking
import Bip39.MnemonicRoundTrip
import Bip39.Source.Main
import Bip39.WordlistLoading

/-!
# Whole runs

Each source of entropy either runs out of input or hands on exactly as many
bytes as the word count asks for; the two checks in between, made by a
different layer of the program, never fail on what the readers collect.
-/

namespace Bip39

open Bip39.Source Bip39.Support

/-- What the dispatch can end with: a required input that stops early, two
equal shuffles in the two-shuffle mode, or exactly the bytes asked for. -/
inductive EntropyOutcome (options : ProgramOptions) (byteCount : Nat) :
    Except Failure Bytes → Prop where
  | diceEnded : EntropyOutcome options byteCount (.error diceEnded)
  | cardsEnded : EntropyOutcome options byteCount (.error cardsEnded)
  | sameOrdering (mode : options.useCardsOnly) (size : byteCount = 32) :
      EntropyOutcome options byteCount (.error (.invalidArgument (text
        "the second card-only shuffle must differ from the first")))
  | supplied (entropy : Bytes) (size : entropy.length = byteCount) :
      EntropyOutcome options byteCount (.ok entropy)

section Sources

variable (hash : Bytes → Digest) (random : (count : Nat) → Vector UInt8 count)
  {options : ProgramOptions} {byteCount : Nat}

theorem generateSystemEntropy_reliable (count : Nat) :
    generateSystemEntropy (.reliable hash random) count =
      .ok (random count).toList := rfl

/-- A conditioner whose condition holds supplies the bytes. -/
theorem supplied_of_yields (supported : byteCount ∈ entropySizes)
    {result : Except Failure Bytes} {input : Bytes} {condition : Prop}
    (yields : YieldsExactlyIf result (hashTruncated hash byteCount input)
      condition)
    (holds : condition) : EntropyOutcome options byteCount result := by
  rcases yields with ⟨-, run⟩ | ⟨fails, -⟩
  · rw [run]
    exact .supplied _ (hashTruncated_length hash supported input)
  · exact (fails holds).elim

theorem generateMixedDiceEntropy_outcome
    (supported : byteCount ∈ entropySizes) (console : Console) :
    EntropyOutcome options byteCount
      (generateMixedDiceEntropy (.reliable hash random) byteCount
        console).1 := by
  obtain ⟨rollCount, counted⟩ := mixedDiceRollCount_of_mem supported
  unfold generateMixedDiceEntropy
  simp only [counted, Program.lift_bind_run, Program.cout_bind_run,
    generateSystemEntropy_reliable, readMixedDiceRolls_eq]
  rcases readRolls_cases (fun face => face - chr '1') rollCount rollCount _ with
    ⟨faces, after, run, length, listed⟩ | ⟨after, run⟩
  · rw [Program.bind_run_ok run]
    apply supplied_of_yields hash supported
      (mixDiceEntropy_yields hash random _ _ byteCount)
    refine ⟨supported, ?_, ?_, by simp [sha256Size]⟩
    · rw [counted, List.length_map, length]
    · intro roll member
      obtain ⟨face, faceMember, rfl⟩ := List.mem_map.mp member
      exact zeroBased_le_five (listed face faceMember)
  · rw [Program.bind_run_error run]
    exact .diceEnded

theorem generateDiceOnlyEntropy_outcome
    (supported : byteCount ∈ entropySizes) (console : Console) :
    EntropyOutcome options byteCount
      (generateDiceOnlyEntropy (.reliable hash random) byteCount
        console).1 := by
  obtain ⟨rollCount, counted⟩ := diceOnlyRollCount_of_mem supported
  unfold generateDiceOnlyEntropy
  simp only [counted, Program.lift_bind_run, Program.cout_bind_run,
    readAsciiDiceRolls_eq]
  rcases readRolls_cases id rollCount rollCount _ with
    ⟨faces, after, run, length, listed⟩ | ⟨after, run⟩
  · rw [List.map_id] at run
    rw [Program.bind_run_ok run]
    apply supplied_of_yields hash supported
      (diceOnlyEntropy_yields hash random _ byteCount)
    refine ⟨supported, ?_, ?_⟩
    · rw [counted, length]
    · intro face member
      exact faces_range (listed face member)
  · rw [Program.bind_run_error run]
    exact .diceEnded

theorem generateMixedCardEntropy_outcome
    (supported : byteCount ∈ entropySizes) (console : Console) :
    EntropyOutcome options byteCount
      (generateMixedCardEntropy (.reliable hash random) byteCount
        console).1 := by
  unfold generateMixedCardEntropy printCardEntryInstructions
  simp only [Program.cout_bind_run, generateSystemEntropy_reliable]
  rcases readCardDeck_cases 1 _ with ⟨deck, after, run, ordering⟩ | ⟨after, run⟩
  · rw [Program.bind_run_ok run]
    apply supplied_of_yields hash supported
      (mixCardEntropy_yields hash random _ _ byteCount)
    exact ⟨supported, by simp [sha256Size], ordering⟩
  · rw [Program.bind_run_error run]
    exact .cardsEnded

theorem generateCardsOnlyEntropy_outcome (mode : options.useCardsOnly)
    (supported : byteCount ∈ entropySizes) (console : Console) :
    EntropyOutcome options byteCount
      (generateCardsOnlyEntropy (.reliable hash random) byteCount
        console).1 := by
  rcases deckLines_cases console.input with
    ⟨short, -⟩ | ⟨used, rest, split, reaches, -⟩
  · obtain ⟨complaints, run⟩ := cardsOnly_firstDeck_ends supported
      (.reliable hash random) short
    rw [run]
    exact .cardsEnded
  · by_cases two : byteCount = 32
    · subst two
      rcases deckLines_cases rest with
        ⟨short, -⟩ | ⟨between, remaining, splitRest, again, -⟩
      · obtain ⟨complaints, run⟩ := cardsOnly_secondDeck_ends
          (.reliable hash random) split reaches short
        rw [run]
        exact .cardsEnded
      · obtain ⟨complaints, run⟩ := cardsOnly_twoDecks hash random
          (splitRest ▸ split) reaches again
        rw [run]
        by_cases same : distinctCards used = distinctCards between
        · rw [if_pos same]
          exact .sameOrdering mode rfl
        · rw [if_neg same]
          exact .supplied _ (hashTruncated_length hash supported _)
    · obtain ⟨complaints, run⟩ :=
        cardsOnly_oneDeck hash random supported two split reaches
      rw [run]
      exact .supplied _ (hashTruncated_length hash supported _)

theorem dispatchEntropy_outcome (options : ProgramOptions)
    (supported : byteCount ∈ entropySizes) (console : Console) :
    EntropyOutcome options byteCount
      (dispatchEntropy options (.reliable hash random) byteCount
        console).1 := by
  unfold dispatchEntropy
  split
  · rename_i mode
    exact generateCardsOnlyEntropy_outcome hash random mode supported _
  · split
    · exact generateMixedCardEntropy_outcome hash random supported _
    · split
      · exact generateDiceOnlyEntropy_outcome hash random supported _
      · split
        · exact generateMixedDiceEntropy_outcome hash random supported _
        · exact .supplied _ (Vector.length_toList ..)

end Sources

/-- The three ways a run can end: an early end of input, two equal shuffles
for 24 words in cards-only mode, or a sentence of as many words as asked for,
each looked up inside the list. -/
inductive RunOutcome (options : ProgramOptions) (words : List Text) :
    Except Failure Generated → Prop where
  | diceEnded : RunOutcome options words (.error (.runtimeError (text
      "input ended before all dice rolls were entered")))
  | cardsEnded : RunOutcome options words (.error (.runtimeError (text
      "input ended before all cards were entered")))
  | sameOrdering (mode : options.useCardsOnly) (size : options.wordCount = 24) :
      RunOutcome options words (.error (.invalidArgument (text
        "the second card-only shuffle must differ from the first")))
  | mnemonic (generated : Generated)
      (count : generated.indices.length = options.wordCount)
      (inRange : ∀ index ∈ generated.indices, index.toNat < words.length)
      (joined : generated.mnemonic =
        sentence (selectedWords words generated.indices)) :
      RunOutcome options words (.ok generated)

theorem mem_entropySizes_of_wordCount {wordCount byteCount : Nat}
    (supported : entropyBytesForWordCount wordCount = .ok byteCount) :
    byteCount ∈ entropySizes := by
  rcases entropyBytesForWordCount_eq_ok_iff.mp supported with
    ⟨-, rfl⟩ | ⟨-, rfl⟩ | ⟨-, rfl⟩ | ⟨-, rfl⟩ | ⟨-, rfl⟩ <;> decide

theorem entropyBytesForWordCount_of_mem {wordCount : Nat}
    (supported : wordCount ∈ [12, 15, 18, 21, 24]) :
    ∃ byteCount, entropyBytesForWordCount wordCount = .ok byteCount := by
  simp only [List.mem_cons, List.not_mem_nil, or_false] at supported
  rcases supported with rfl | rfl | rfl | rfl | rfl <;> exact ⟨_, rfl⟩

/-- After the entropy nothing can fail. -/
theorem generateMnemonic_supplied (hash : Bytes → Digest)
    (random : (count : Nat) → Vector UInt8 count) {options : ProgramOptions}
    {words : List Text} (size : words.length = wordlistSize)
    {entropy : Bytes}
    (supported :
      entropyBytesForWordCount options.wordCount = .ok entropy.length)
    {console after : Console}
    (run : dispatchEntropy options (.reliable hash random) entropy.length
      console = (.ok entropy, after)) :
    RunOutcome options words
      (generateMnemonic options (.reliable hash random) words console).1 := by
  obtain ⟨indices, packed, -⟩ :=
    makeIndices_of_supported (hash entropy) supported
  obtain ⟨-, count, inRange, -⟩ := makeIndices_spec packed
  have listed : ∀ index ∈ indices, index.toNat < words.length := by
    intro index member
    exact size.symm ▸ inRange index member
  unfold generateMnemonic
  rw [supported, Program.lift_bind_run, Program.bind_run_ok run,
    sha256_reliable, Program.lift_bind_run, packed, Program.lift_bind_run,
    makeMnemonic_eq listed, Program.lift_bind_run]
  exact .mnemonic _ count listed rfl

theorem generateMnemonic_failed (openSsl : OpenSsl) {options : ProgramOptions}
    (words : List Text) {byteCount : Nat} {failure : Failure}
    (supported : entropyBytesForWordCount options.wordCount = .ok byteCount)
    {console after : Console}
    (run : dispatchEntropy options openSsl byteCount console =
      (.error failure, after)) :
    (generateMnemonic options openSsl words console).1 = .error failure := by
  unfold generateMnemonic
  rw [supported, Program.lift_bind_run, Program.bind_run_error run]

theorem generateMnemonic_outcome (hash : Bytes → Digest)
    (random : (count : Nat) → Vector UInt8 count) (options : ProgramOptions)
    (supported : options.wordCount ∈ [12, 15, 18, 21, 24])
    (words : List Text)
    (wordlist : words = makeEnglishWordList ∨
      ∃ filename content, loadWordlist filename content = .ok words)
    (console : Console) :
    RunOutcome options words
      (generateMnemonic options (.reliable hash random) words console).1 := by
  have size : words.length = wordlistSize := by
    rcases wordlist with rfl | ⟨filename, content, loaded⟩
    · exact englishWords_length
    · exact (loadWordlist_accepted loaded).1
  obtain ⟨byteCount, bytes⟩ := entropyBytesForWordCount_of_mem supported
  have outcome := dispatchEntropy_outcome hash random options
    (mem_entropySizes_of_wordCount bytes) console
  cases run : dispatchEntropy options (.reliable hash random) byteCount
    console with
  | mk result after =>
      rw [run] at outcome
      cases outcome with
      | diceEnded =>
          rw [generateMnemonic_failed _ words bytes run]
          exact .diceEnded
      | cardsEnded =>
          rw [generateMnemonic_failed _ words bytes run]
          exact .cardsEnded
      | sameOrdering mode two =>
          have most : options.wordCount = 24 := by
            have ratio := (entropyBytesForWordCount_ratio bytes).1
            omega
          rw [generateMnemonic_failed _ words bytes run]
          exact .sameOrdering mode most
      | supplied entropy length =>
          subst length
          exact generateMnemonic_supplied hash random size bytes run

/-- The beginning of the data in place of a hash. -/
def startDigest (data : Bytes) : Digest :=
  ⟨(data ++ List.replicate sha256Size 0).take sha256Size, by simp⟩

/-- A refused line and fifty rolls, in dice-only mode. -/
theorem generateMnemonic_rolls :
    let result := (generateMnemonic { useDiceOnly := true }
      (.reliable startDigest fun count => Vector.replicate count 0)
      makeEnglishWordList
      { input := text "7" :: List.replicate 50 (text "3") }).1
    RunOutcome { useDiceOnly := true } makeEnglishWordList result ∧
      result.map Generated.mnemonic = .ok (text ("creek office smoke grid " ++
        "creek office smoke grid creek office smoke grid")) :=
  ⟨generateMnemonic_outcome _ _ _ (by decide) _ (.inl rfl) _,
    by decide +kernel⟩

end Bip39
