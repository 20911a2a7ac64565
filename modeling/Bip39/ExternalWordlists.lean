import Bip39.CheckedSentences
import Bip39.InputLocality
import Bip39.ProgramEndings
import Bip39.WordlistAmbiguity

/-!
# External wordlists

A file that renders the compiled list makes no difference to a run.  Over any
accepted list without spaces in its words a sentence is read back as the
entropy it was made of.
-/

namespace Bip39

open Bip39.Source Bip39.Support

section Reading

/-- The entropy of a sentence: a third of its words are checksum bits. -/
def readSentence (words : List Text) (mnemonic : Text) : Bytes :=
  let positions := (mnemonic.splitOn (chr ' ')).map fun word =>
    words.idxOf word
  leadingBytes (positions.length / 3 * 4) (expand bitsPerWord positions)

theorem idxOf_selectedWords {words : List Text} (unique : words.Nodup)
    {indices : List UInt16}
    (inRange : ∀ index ∈ indices, index.toNat < words.length) :
    (selectedWords words indices).map (fun word => words.idxOf word) =
      indices.map UInt16.toNat := by
  rw [selectedWords, List.map_map]
  apply List.map_congr_left
  intro index member
  have inside := inRange index member
  simp only [Function.comp_apply]
  rw [List.getD_eq_getElem _ _ inside]
  exact unique.idxOf_getElem index.toNat inside

variable {filename : Text} {content : Option Bytes} {words : List Text}

/-- What the program makes of entropy over an accepted list is read back. -/
theorem readSentence_makeMnemonic
    (loaded : loadWordlist filename content = .ok words)
    (spaceFree : ∀ word ∈ words, chr ' ' ∉ word) {entropy : Bytes}
    {digest : Digest} {wordCount : Nat} {indices : List UInt16}
    {mnemonic : Text}
    (packed : makeIndices entropy digest wordCount = .ok indices)
    (joined : makeMnemonic words indices = .ok mnemonic) :
    readSentence words mnemonic = entropy := by
  obtain ⟨size, unique⟩ := loadWordlist_accepted loaded
  obtain ⟨supported, count, small, bits⟩ := makeIndices_spec packed
  have ratio := entropyBytesForWordCount_ratio supported
  have inRange : ∀ index ∈ indices, index.toNat < words.length := by
    rw [size]
    exact small
  rw [makeMnemonic_eq inRange, Except.ok.injEq] at joined
  have nonempty : selectedWords words indices ≠ [] := by
    rw [← List.length_pos_iff, selectedWords_length, count]
    omega
  have listed := selectedWords_mem inRange
  unfold readSentence
  rw [← joined, splitOn_sentence nonempty fun word member =>
    spaceFree word (listed word member)]
  simp only [idxOf_selectedWords unique inRange]
  have byteCount : indices.length / 3 * 4 = entropy.length := by
    rw [count]
    omega
  change leadingBytes _ (indexBits indices) = entropy
  rw [List.length_map, byteCount, bits, combinedBits,
    leadingBytes_append (bitString_length entropy), leadingBytes_bitString]

end Reading

/-- A file that renders the compiled list is loaded as that list. -/
theorem loadWordlist_english (filename : Text) {content : Bytes}
    (rendering : Rendering makeEnglishWordList content) :
    loadWordlist filename (some content) = .ok makeEnglishWordList := by
  apply loadWordlist_eq_ok_iff.mpr
  refine ⟨?_, englishWords_length, englishWords_nodup, ?_⟩
  · exact (getlines_rendering rendering fun word => englishWords_fitLines).symm
  · exact fun word member => (englishWords_tight word member).1

theorem readSentence_makeMnemonic_sample :
    readSentence makeEnglishWordList countedMnemonic =
      countedDigest.bytes.take 16 := by
  obtain ⟨indices, packed, joined⟩ := bind_eq_ok.mp countedMnemonic_generated
  have loaded := loadWordlist_english []
    (rendering_terminatedLines makeEnglishWordList)
  exact readSentence_makeMnemonic loaded
    (fun word member => (englishWords_tight word member).2) packed joined

section Runs

variable {environment : Environment} {options : CommandLineOptions}

/-- Whether options are accepted does not depend on the wordlist. -/
theorem parseCommandLine_wordlist (filename : Text) :
    parseCommandLine (.ok { options with wordlistFilename := filename }) =
      (parseCommandLine (.ok options)).map fun parsed =>
        { parsed with wordlistFilename := filename } := by
  obtain ⟨program, _, showEntropy, showHelp, showSeed⟩ := options
  unfold parseCommandLine
  simp only [Except.mapError, bind, Except.bind]
  cases showHelp with
  | true => rfl
  | false =>
      simp only [Bool.false_eq_true, not_false_eq_true, if_true]
      split
      · rfl
      · cases entropyBytesForWordCount program.wordCount <;> rfl

theorem parseCommandLine_unchanged {parsed : CommandLineOptions}
    (run : parseCommandLine (.ok options) = .ok parsed) : parsed = options := by
  rcases parseCommandLine_cases (.ok options) with
    ⟨message, impossible, -⟩ | ⟨other, same, cases⟩
  · cases impossible
  cases same
  rcases cases with ⟨-, found⟩ | ⟨-, -, found⟩ | ⟨-, -, found⟩ | ⟨-, -, -, found⟩
  all_goals
    rw [run] at found
    cases found
  · rfl
  · rfl

theorem selectWordlist_english (compiled : options.wordlistFilename = []) :
    selectWordlist environment options = .ok makeEnglishWordList :=
  if_pos compiled

theorem selectWordlist_rendering (named : options.wordlistFilename ≠ [])
    {content : Bytes} (rendering : Rendering makeEnglishWordList content)
    (opened : environment.file options.wordlistFilename = some content) :
    selectWordlist environment options = .ok makeEnglishWordList := by
  unfold selectWordlist
  rw [if_neg named, opened]
  exact loadWordlist_english options.wordlistFilename rendering

/-- A run over a file that renders the compiled list is a run without it. -/
theorem main_english_file (stored : environment.stored = .ok options)
    (compiled : options.wordlistFilename = []) {filename : Text}
    (named : filename ≠ []) {content : Bytes}
    (rendering : Rendering makeEnglishWordList content)
    (opened : environment.file filename = some content) (console : Console)
    (process : Process) :
    main { environment with
        stored := .ok { options with wordlistFilename := filename } }
      console process = main environment console process := by
  have parsed := @parseCommandLine_wordlist options filename
  rw [← stored] at parsed
  cases plain : parseCommandLine environment.stored with
  | error failure =>
      rw [plain] at parsed
      unfold main
      rw [plain]
      dsimp only
      rw [parsed]
      rfl
  | ok accepted =>
      rw [plain] at parsed
      have unchanged : accepted = options := by
        rw [stored] at plain
        exact parseCommandLine_unchanged plain
      subst unchanged
      let renamed : CommandLineOptions :=
        { accepted with wordlistFilename := filename }
      let other : Environment := { environment with stored := .ok renamed }
      have words : selectWordlist other renamed =
          selectWordlist environment accepted := by
        rw [selectWordlist_english compiled]
        exact @selectWordlist_rendering other renamed named content rendering
          opened
      have shown : showMnemonic other renamed console =
          showMnemonic environment accepted console := by
        unfold showMnemonic
        rw [words]
      by_cases help : accepted.showHelp = true
      · unfold main
        rw [plain]
        dsimp only
        rw [parsed]
        simp only [Except.map, help, if_true]
      · rw [main_concludes environment console process plain help]
        have run := @main_concludes other console process renamed parsed help
        rw [shown] at run
        exact run

end Runs

/-- The sample environment with one file, whatever its name is. -/
def fileEnvironment (content : Bytes) : Environment :=
  { sampleEnvironment {} with file := fun _ => some content }

theorem main_english_file_sample :
    main { fileEnvironment (terminatedLines makeEnglishWordList) with
        stored := .ok { wordlistFilename := text "english-seeds.txt" } }
      { input := [] } freshProcess =
        main (fileEnvironment (terminatedLines makeEnglishWordList))
          { input := [] } freshProcess := by
  have named : text "english-seeds.txt" ≠ [] := by decide
  exact @main_english_file
    (fileEnvironment (terminatedLines makeEnglishWordList)) {} rfl rfl _ named
    _ (rendering_terminatedLines makeEnglishWordList) rfl { input := [] }
    freshProcess

end Bip39
