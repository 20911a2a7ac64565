import Bip39.SeedReports

/-!
# Reading a secret back from the output

All that a run leaves is text on a terminal that may have held anything before.
The last Tiny Seed in it can be found, ends where its rows end, and gives the
entropy and the mnemonic back, whatever was printed before it and whether or
not a seed was shown after it.
-/

namespace Bip39

open Bip39.Source Bip39.Support

def tinySeedTitle : Text :=
  text "    Tiny Seed"

/-- The lines after the last line that is equal to the title. -/
def afterLast (title : Text) (lines : List Text) : List Text :=
  (lines.reverse.takeWhile fun line => line ≠ title).reverse

/-- The rows of the last Tiny Seed, read from a whole output. -/
def sheetRows (printed : Text) : List (List Bool) :=
  (((afterLast tinySeedTitle (getlines printed)).drop 1).map readCells).takeWhile
    fun row => row.length = bitsPerWord

/-- The entropy they hold: the checksum takes one bit for three words. -/
def recoverEntropy (printed : Text) : Bytes :=
  let rows := sheetRows printed
  leadingBytes (rows.length / 3 * 4) rows.flatten

/-- The mnemonic they stand for. -/
def recoverMnemonic (words : List Text) (printed : Text) : Text :=
  sentence ((sheetRows printed).map fun row => words.getD (bitsValue row) [])

theorem afterLast_append {title : Text} {later : List Text}
    (absent : title ∉ later) (earlier : List Text) :
    afterLast title (earlier ++ title :: later) = later := by
  have different : ∀ line ∈ later.reverse, decide (line ≠ title) = true := by
    intro line member
    apply decide_eq_true
    rintro rfl
    exact absent (List.mem_reverse.mp member)
  unfold afterLast
  rw [List.reverse_append, List.reverse_cons, List.append_assoc,
    List.takeWhile_append_of_pos different]
  simp

theorem getlines_append (first rest : Text) :
    getlines (first ++ chr '\n' :: rest) =
      first.splitOn (chr '\n') ++ getlines rest := by
  induction first with
  | nil => simp [getlines, List.splitOn]
  | cons byte first induction =>
      obtain ⟨line, lines, split⟩ := List.exists_cons_of_ne_nil
        (show first.splitOn (chr '\n') ≠ [] by simp [List.splitOn])
      rw [List.cons_append, getlines, splitOn_lineFeed_cons]
      by_cases ends : byte = chr '\n'
      · rw [if_pos ends, if_pos ends, induction, List.cons_append]
      · rw [if_neg ends, if_neg ends, induction, split, List.modifyHead_cons]
        rfl

theorem getlines_terminatedLines_append {lines : List Text}
    (oneLine : ∀ line ∈ lines, chr '\n' ∉ line) (rest : Text) :
    getlines (terminatedLines lines ++ rest) = lines ++ getlines rest := by
  induction lines with
  | nil => rfl
  | cons line lines induction =>
      have tail : ∀ other ∈ lines, chr '\n' ∉ other := by
        intro other member
        exact oneLine other (List.mem_cons_of_mem _ member)
      rw [terminatedLines_cons, List.append_assoc, List.cons_append,
        getlines_line _ (oneLine line List.mem_cons_self), induction tail]
      rfl

theorem oneLine_of_mem_getlines {content : Bytes} {line : Text}
    (member : line ∈ getlines content) : chr '\n' ∉ line := by
  induction content generalizing line with
  | nil => cases member
  | cons byte rest induction =>
      rw [getlines] at member
      split at member
      · rcases List.mem_cons.mp member with rfl | later
        · exact List.not_mem_nil
        · exact induction later
      · rename_i different
        have fresh : ∀ tail : Text, chr '\n' ∉ tail →
            chr '\n' ∉ byte :: tail := by
          intro tail absent inside
          rcases List.mem_cons.mp inside with same | inside
          · exact different same.symm
          · exact absent inside
        cases lines : getlines rest with
        | nil =>
            rw [lines] at member
            cases List.mem_singleton.mp member
            exact fresh [] List.not_mem_nil
        | cons first later =>
            rw [lines] at member induction
            rcases List.mem_cons.mp member with rfl | inside
            · exact fresh first (induction List.mem_cons_self)
            · exact induction (List.mem_cons_of_mem _ inside)

/-- The line of a row of cells. -/
def sheetLine (position : Nat) (row : List Bool) : Text :=
  rowLabel position ++ row.flatMap cell

theorem tinySeedPage_eq (rows : List (List Bool)) :
    tinySeedPage rows = chr '\n' :: (tinySeedTitle ++ chr '\n' ::
      ([] ++ chr '\n' :: terminatedLines (rows.mapIdx sheetLine))) := by
  have header : tinySeedHeader =
      chr '\n' :: (tinySeedTitle ++ [chr '\n', chr '\n']) := rfl
  have lines : (rows.map fun row => row.flatMap cell).mapIdx
      (fun position row => rowLabel position ++ row) =
        rows.mapIdx sheetLine := by
    apply List.ext_getElem
    · simp
    · intro position left right
      simp only [List.getElem_mapIdx, List.getElem_map, sheetLine]
  rw [tinySeedPage, numberedRows, header, lines]
  simp only [List.cons_append, List.append_assoc, List.nil_append]

theorem readCells_sheetLine (position : Nat) (row : List Bool) :
    readCells (sheetLine position row) = row := by
  have label : ∀ byte ∈ rowLabel position, byte.toNat < 95 := by
    intro byte member
    have range := mem_rowLabel member
    omega
  rw [sheetLine, readCells_skip label, readCells_cells]

/-- A row has a bracket, which the title does not have. -/
theorem sheetLine_ne_title (position : Nat) (row : List Bool) :
    sheetLine position row ≠ tinySeedTitle := by
  have bracket : chr ')' ∈ sheetLine position row := by
    have bytes : text ") " = [chr ')', chr ' '] := rfl
    simp [sheetLine, rowLabel, bytes]
  have plain : chr ')' ∉ tinySeedTitle := by decide
  intro same
  exact plain (same ▸ bracket)

/-- The rows are found between the last title and what follows them. -/
theorem sheetRows_printed {rows : List (List Bool)}
    (full : ∀ row ∈ rows, row.length = bitsPerWord) (before : Text)
    {after : Text} (noTitle : tinySeedTitle ∉ getlines after)
    (stops : ∀ line ∈ (getlines after).head?,
      (readCells line).length ≠ bitsPerWord) :
    sheetRows (before ++ tinySeedPage rows ++ after) = rows := by
  have oneLine : ∀ line ∈ rows.mapIdx sheetLine, chr '\n' ∉ line := by
    intro line member
    obtain ⟨position, inside, rfl⟩ := List.mem_mapIdx.mp member
    exact lineFeed_not_mem_tinySeedRow position _
  have title : chr '\n' ∉ tinySeedTitle := by decide
  have lines : getlines (before ++ tinySeedPage rows ++ after) =
      before.splitOn (chr '\n') ++ tinySeedTitle ::
        ([] :: (rows.mapIdx sheetLine ++ getlines after)) := by
    rw [tinySeedPage_eq, List.append_assoc, List.cons_append, getlines_append,
      List.append_assoc, List.cons_append, getlines_line _ title,
      List.nil_append, List.cons_append, getlines, if_pos rfl,
      getlines_terminatedLines_append oneLine]
  have absent : tinySeedTitle ∉
      ([] :: (rows.mapIdx sheetLine ++ getlines after)) := by
    intro member
    rcases List.mem_cons.mp member with empty | member
    · exact absurd empty (by decide)
    · rcases List.mem_append.mp member with row | later
      · obtain ⟨position, inside, same⟩ := List.mem_mapIdx.mp row
        exact sheetLine_ne_title position _ same
      · exact noTitle later
  have cells : (rows.mapIdx sheetLine).map readCells = rows := by
    apply List.ext_getElem
    · simp
    · intro position left right
      simp only [List.getElem_map, List.getElem_mapIdx, readCells_sheetLine]
  have ends : ∀ row ∈ ((getlines after).map readCells).head?,
      decide (row.length = bitsPerWord) = false := by
    intro row member
    rw [List.head?_map] at member
    obtain ⟨line, first, rfl⟩ := Option.map_eq_some_iff.mp member
    exact decide_eq_false (stops line first)
  unfold sheetRows
  rw [lines, afterLast_append absent, List.drop_one, List.tail_cons,
    List.map_append, cells]
  exact (takeWhile_dropWhile_append
    (fun row member => decide_eq_true (full row member)) ends).1

section Tails

variable (mnemonic passphrase : Text) (seed : Seed)

/-- The lines after the Tiny Seed of a run that shows the seed. -/
def seedLines : List Text :=
  passphrasePrompt :: ((if passphrase = [] then [] else [confirmPrompt]) ++
    [[], text "    BIP-39 Derivation", [],
      text "Mnemonic:   " ++ mnemonic,
      text "Passphrase: " ++
        (if passphrase ≠ [] then text "set (not displayed)" else text "empty"),
      text "Seed:       " ++ seed.bytes.flatMap hexPair,
      text "Warning: the mnemonic and seed are secret wallet material.",
      text "Terminal scrollback, logs, and screenshots may retain them.",
      []])

theorem seedLines_printed :
    dialogue passphrase ++ derivationPage mnemonic (passphrase ≠ []) seed ++
        [chr '\n'] =
      terminatedLines (seedLines mnemonic passphrase seed) := by
  have title : text "\n    BIP-39 Derivation\n\n" =
      chr '\n' :: (text "    BIP-39 Derivation" ++ [chr '\n', chr '\n']) := rfl
  have warning :
      text "Warning: the mnemonic and seed are secret wallet material.\n" =
        text "Warning: the mnemonic and seed are secret wallet material." ++
          [chr '\n'] := rfl
  have terminal :
      text "Terminal scrollback, logs, and screenshots may retain them.\n" =
        text "Terminal scrollback, logs, and screenshots may retain them." ++
          [chr '\n'] := rfl
  by_cases empty : passphrase = []
  · simp [dialogue, derivationPage, seedLines, empty, title,
      warning, terminal, terminatedLines]
  · simp [dialogue, derivationPage, seedLines, empty, title,
      warning, terminal, terminatedLines]

/-- A line that is not taken for the title. -/
structure Plain (line : Text) : Prop where
  oneLine : chr '\n' ∉ line
  other : line ≠ tinySeedTitle

theorem plain_append {label content : Text} {first : UInt8}
    (head : label.head? = some first) (different : first ≠ chr ' ')
    (labelLine : chr '\n' ∉ label) (contentLine : chr '\n' ∉ content) :
    Plain (label ++ content) := by
  constructor
  · intro member
    rcases List.mem_append.mp member with inside | inside
    · exact labelLine inside
    · exact contentLine inside
  · intro same
    have space : tinySeedTitle.head? = some (chr ' ') := rfl
    rw [← same, List.head?_append, head] at space
    exact different (Option.some.inj space)

theorem seedLines_plain (oneLine : chr '\n' ∉ mnemonic) :
    ∀ line ∈ seedLines mnemonic passphrase seed, Plain line := by
  have prompt : Plain passphrasePrompt := ⟨by decide, by decide⟩
  have confirm : Plain confirmPrompt := ⟨by decide, by decide⟩
  have blank : Plain [] := ⟨by decide, by decide⟩
  have title : Plain (text "    BIP-39 Derivation") := ⟨by decide, by decide⟩
  have shown : Plain (text "Mnemonic:   " ++ mnemonic) :=
    @plain_append _ _ (chr 'M') rfl (by decide) (by decide) oneLine
  have set : Plain (text "Passphrase: " ++ text "set (not displayed)") :=
    @plain_append _ _ (chr 'P') rfl (by decide) (by decide) (by decide)
  have unset : Plain (text "Passphrase: " ++ text "empty") :=
    @plain_append _ _ (chr 'P') rfl (by decide) (by decide) (by decide)
  have digits : Plain (text "Seed:       " ++ seed.bytes.flatMap hexPair) :=
    @plain_append _ _ (chr 'S') rfl (by decide) (by decide)
      (lineFeed_not_mem_hexDigits seed.bytes)
  have warning : Plain
      (text "Warning: the mnemonic and seed are secret wallet material.") :=
    ⟨by decide, by decide⟩
  have terminal : Plain
      (text "Terminal scrollback, logs, and screenshots may retain them.") :=
    ⟨by decide, by decide⟩
  by_cases empty : passphrase = []
  · simp [seedLines, empty, prompt, blank, title, shown, unset, digits,
      warning, terminal]
  · simp [seedLines, empty, prompt, confirm, blank, title, shown, set, digits,
      warning, terminal]

end Tails

/-- The Tiny Seed is found whatever a run prints after it. -/
theorem sheetRows_finished {rows : List (List Bool)}
    (full : ∀ row ∈ rows, row.length = bitsPerWord) (before : Text) :
    sheetRows (before ++ tinySeedPage rows ++ [chr '\n']) = rows := by
  apply sheetRows_printed full
  · exact fun member => absurd member (by decide)
  · exact fun line member => by
      cases member
      decide

theorem sheetRows_seed {rows : List (List Bool)}
    (full : ∀ row ∈ rows, row.length = bitsPerWord) (before : Text)
    {mnemonic : Text} (oneLine : chr '\n' ∉ mnemonic) (passphrase : Text)
    (seed : Seed) :
    sheetRows (before ++ tinySeedPage rows ++
      (dialogue passphrase ++ derivationPage mnemonic (passphrase ≠ []) seed ++
        [chr '\n'])) = rows := by
  have plain := seedLines_plain mnemonic passphrase seed oneLine
  have lines := getlines_terminatedLines
    fun line member => (plain line member).oneLine
  rw [seedLines_printed]
  apply sheetRows_printed full
  · rw [lines]
    exact fun member => (plain _ member).other rfl
  · rw [lines]
    intro line member
    cases member
    decide

section Words

variable {environment : Environment} {options : CommandLineOptions}

theorem wordlist_oneLine {wordlist : Wordlist}
    (chosen : chosenWordlist environment options = .ok wordlist) :
    ∀ word ∈ wordlist.words, chr '\n' ∉ word := by
  unfold chosenWordlist at chosen
  split at chosen
  · cases chosen
    exact fun word member => not_mem_englishWord member (by decide)
  · split at chosen
    · cases chosen
    · rename_i bytes opened
      have lines : wordlist.words = fileLines bytes := by
        unfold Wordlist.ofLines at chosen
        split at chosen
        · split at chosen
          · split at chosen
            · cases chosen
              rfl
            · cases chosen
          · cases chosen
        · cases chosen
      rw [lines, fileLines, ← getlines_eq_segments]
      intro word member
      obtain ⟨line, inside, rfl⟩ := List.mem_map.mp member
      have whole := oneLine_of_mem_getlines inside
      unfold stripCarriageReturn
      split
      · exact fun feed => whole (List.mem_of_mem_dropLast feed)
      · exact whole

theorem sentence_oneLine {words : List Text}
    (oneLine : ∀ word ∈ words, chr '\n' ∉ word) :
    chr '\n' ∉ sentence words := by
  induction words with
  | nil => exact List.not_mem_nil
  | cons word words induction =>
      have rest : ∀ other ∈ words, chr '\n' ∉ other := by
        intro other member
        exact oneLine other (List.mem_cons_of_mem _ member)
      have first := oneLine word List.mem_cons_self
      by_cases last : words = []
      · subst last
        simpa [sentence] using first
      · rw [sentence_cons last]
        intro member
        rcases List.mem_append.mp member with inside | inside
        · exact first inside
        · rcases List.mem_cons.mp inside with same | later
          · exact absurd same (by decide)
          · exact induction rest later

theorem mnemonic_oneLine {mode : EntropyMode} {strength : Strength}
    {input rest : List Text} {wordlist : Wordlist} {secret : Secret strength}
    (made : session environment options mode strength input =
      .ok ((wordlist, secret), rest)) :
    chr '\n' ∉ secret.mnemonic wordlist := by
  apply sentence_oneLine
  intro word member
  apply wordlist_oneLine (session_eq_ok_iff.mp made).1
  exact secret.mem_words member

end Words

section Secrets

variable {strength : Strength} (secret : Secret strength)

theorem Secret.rows_full : ∀ row ∈ secret.rows, row.length = bitsPerWord := by
  intro row member
  obtain ⟨position, -, rfl⟩ := List.mem_map.mp member
  exact bitsOf_length _ _

theorem Secret.rows_length : secret.rows.length = strength.wordCount := by
  rw [Secret.rows, List.length_map, secret.positions_length]

/-- The rows hold the entropy. -/
theorem recoverEntropy_of_rows {printed : Text}
    (read : sheetRows printed = secret.rows) :
    recoverEntropy printed = secret.entropy.bytes := by
  have count : strength.wordCount / 3 * 4 = strength.byteCount := by
    cases strength <;> rfl
  have size := secret.entropy.size_eq
  unfold recoverEntropy
  simp only [read]
  rw [secret.rows_length, count, secret.rows_flatten]
  apply bitString_injective
  have enough : strength.byteCount * 8 ≤ secret.bits.length := by
    rw [Secret.bits, combinedBits, List.length_append, bitString_length, size]
    exact Nat.le_add_right _ _
  rw [bitString_leadingBytes enough, Secret.bits, combinedBits]
  exact List.take_left' (by rw [bitString_length, size])

/-- The rows number the words. -/
theorem recoverMnemonic_of_rows (wordlist : Wordlist) {printed : Text}
    (read : sheetRows printed = secret.rows) :
    recoverMnemonic wordlist.words printed = secret.mnemonic wordlist := by
  unfold recoverMnemonic Secret.mnemonic Secret.words
  rw [read, Secret.rows, List.map_map]
  apply congrArg sentence
  apply List.map_congr_left
  intro position member
  simp only [Function.comp_apply]
  rw [bitsValue_bitsOf (secret.positions_lt position member)]

end Secrets

/-- A run with accepted options that ends with status 0 has a secret, whose
rows are found in its output. -/
theorem main_rows {environment : Environment} {options : CommandLineOptions}
    {mode : EntropyMode} {strength : Strength}
    (stored : environment.stored = .ok options)
    (accepted : Accepted options mode strength) (input : List Text)
    (out err : Text) (process : Process)
    (finished : (main environment
      { input, cout := { text := out }, cerr := { text := err } }
      process).exit = .status 0) :
    ∃ wordlist secret rest,
      session environment options mode strength input =
        .ok ((wordlist, secret), rest) ∧
      sheetRows (main environment
        { input, cout := { text := out }, cerr := { text := err } }
        process).console.cout.text = secret.rows := by
  have run := main_session stored accepted input out err process
  have planned := @session_ends environment options strength mode input
  cases made : session environment options mode strength input with
  | error failure =>
      rw [made] at run planned
      obtain ⟨after, run⟩ := run
      obtain ⟨what, found⟩ := (RunFailure.session stored accepted planned).what
      have reports := (handleException_reports found after process).1
      rw [run, reports.1] at finished
      cases finished
  | ok result =>
      obtain ⟨⟨wordlist, secret⟩, rest⟩ := result
      rw [made] at run
      obtain ⟨prompts, reported, run⟩ := run
      refine ⟨wordlist, secret, rest, rfl, ?_⟩
      rw [run] at finished ⊢
      dsimp only at finished ⊢
      unfold Secret.pages at finished ⊢
      simp only [← List.append_assoc] at finished ⊢
      split
      · rename_i asked
        simp only [asked, if_true] at finished
        obtain ⟨passphrase, seed, -, -, -, shown⟩ :=
          showSeed_finished finished
        rw [shown, List.append_assoc, List.append_assoc]
        have read := sheetRows_seed secret.rows_full
          (out ++ prompts ++ (if options.showEntropy then secret.internals
            else []) ++ mnemonicPage (secret.words wordlist))
          (mnemonic_oneLine made) passphrase seed
        simpa [List.append_assoc] using read
      · rw [finishRun, OStream.put_mk]
        exact sheetRows_finished secret.rows_full _

/-- The text on the terminal gives the entropy, the checksum and the mnemonic of
a finished run back, whatever was there before. -/
theorem main_recoverable {environment : Environment}
    {options : CommandLineOptions} {mode : EntropyMode} {strength : Strength}
    (stored : environment.stored = .ok options)
    (accepted : Accepted options mode strength) (input : List Text)
    (out err : Text) (process : Process)
    (finished : (main environment
      { input, cout := { text := out }, cerr := { text := err } }
      process).exit = .status 0) :
    ∃ wordlist secret rest,
      session environment options mode strength input =
        .ok ((wordlist, secret), rest) ∧
      let printed := (main environment
        { input, cout := { text := out }, cerr := { text := err } }
        process).console.cout.text
      (sheetRows printed).flatten = secret.bits ∧
        recoverEntropy printed = secret.entropy.bytes ∧
        recoverMnemonic wordlist.words printed = secret.mnemonic wordlist := by
  obtain ⟨wordlist, secret, rest, made, read⟩ :=
    main_rows stored accepted input out err process finished
  refine ⟨wordlist, secret, rest, made, ?_, recoverEntropy_of_rows secret read,
    recoverMnemonic_of_rows secret wordlist read⟩
  rw [read]
  exact secret.rows_flatten

theorem dice_finished (digest : Digest) (out err : Text) :
    (main (diceEnvironment digest false)
      { input := diceLines, cout := { text := out }, cerr := { text := err } }
      freshProcess).exit = .status 0 := by
  have run := @main_session (diceEnvironment digest false) (diceOptions false)
    .diceOnly .bits128 rfl (diceOptions_accepted false) diceLines out err
    freshProcess
  rw [dice_session] at run
  obtain ⟨prompts, reported, run⟩ := run
  rw [run]
  rfl

/-- The title of an older sheet stands on the terminal. -/
theorem main_recoverable_sample :
    let printed := (main (diceEnvironment countedDigest false)
      { input := diceLines
        cout := { text := text "\n    Tiny Seed\n\n" }
        cerr := { text := [] } }
      freshProcess).console.cout.text
    (sheetRows printed).flatten = (diceSecret countedDigest).bits ∧
      recoverEntropy printed = countedDigest.bytes.take 16 ∧
      recoverMnemonic makeEnglishWordList printed =
        (diceSecret countedDigest).mnemonic .english := by
  obtain ⟨wordlist, secret, rest, made, recovered⟩ :=
    @main_recoverable (diceEnvironment countedDigest false) (diceOptions false)
      .diceOnly .bits128 rfl (diceOptions_accepted false) diceLines
      (text "\n    Tiny Seed\n\n") [] freshProcess (dice_finished _ _ _)
  rw [dice_session] at made
  cases made
  exact recovered

end Bip39
