import Bip39.Reproduction

/-!
# Restoring a seed

The rows of the Tiny Seed and the passphrase are all it takes to derive the
seed again that a run has shown.  A run that does not finish has shown none.
-/

namespace Bip39

open Bip39.Source Bip39.Support

def seedLabel : Text :=
  text "Seed:       "

/-- The seed on the last line that shows one. -/
def recoverSeed (printed : Text) : Bytes :=
  ((getlines printed).reverse.find? fun line => seedLabel.isPrefixOf line).elim
    [] fun line => leadingBytes seedSize (hexBits (line.drop seedLabel.length))

/-- The lines after that of the seed. -/
def seedTail : List Text :=
  [text "Warning: the mnemonic and seed are secret wallet material.",
    text "Terminal scrollback, logs, and screenshots may retain them.", []]

theorem derivationPage_eq (mnemonic : Text) (hasPassphrase : Bool)
    (seed : Seed) :
    ∃ front, derivationPage mnemonic hasPassphrase seed ++ [chr '\n'] =
      front ++ chr '\n' :: terminatedLines
        ((seedLabel ++ seed.bytes.flatMap hexPair) :: seedTail) := by
  have warning :
      text "Warning: the mnemonic and seed are secret wallet material.\n" =
        text "Warning: the mnemonic and seed are secret wallet material." ++
          [chr '\n'] := rfl
  have terminal :
      text "Terminal scrollback, logs, and screenshots may retain them.\n" =
        text "Terminal scrollback, logs, and screenshots may retain them." ++
          [chr '\n'] := rfl
  refine ⟨text "\n    BIP-39 Derivation\n\n" ++
    (text "Mnemonic:   " ++ mnemonic ++ [chr '\n']) ++
    (text "Passphrase: " ++
      (if hasPassphrase then text "set (not displayed)" else text "empty")), ?_⟩
  simp only [derivationPage, warning, terminal, seedTail, terminatedLines_cons,
    seedLabel, List.append_assoc, List.cons_append, List.nil_append]
  rfl

/-- The seed is found whatever was printed before it. -/
theorem recoverSeed_printed (before mnemonic : Text) (hasPassphrase : Bool)
    (seed : Seed) :
    recoverSeed (before ++
      (derivationPage mnemonic hasPassphrase seed ++ [chr '\n'])) =
        seed.bytes := by
  obtain ⟨front, page⟩ := derivationPage_eq mnemonic hasPassphrase seed
  have tailLines : ∀ line ∈ seedTail, chr '\n' ∉ line := by decide
  have oneLine : ∀ line ∈ (seedLabel ++ seed.bytes.flatMap hexPair) :: seedTail,
      chr '\n' ∉ line := by
    intro line member
    rcases List.mem_cons.mp member with rfl | tail
    · intro inside
      rcases List.mem_append.mp inside with label | digits
      · exact absurd label (by decide)
      · exact lineFeed_not_mem_hexDigits seed.bytes digits
    · exact tailLines line tail
  have lines := getlines_append (before ++ front) (terminatedLines
    ((seedLabel ++ seed.bytes.flatMap hexPair) :: seedTail))
  rw [getlines_terminatedLines oneLine] at lines
  have found : (getlines (before ++
      (derivationPage mnemonic hasPassphrase seed ++ [chr '\n']))).reverse.find?
        (fun line => seedLabel.isPrefixOf line) =
      some (seedLabel ++ seed.bytes.flatMap hexPair) := by
    have missed : seedTail.reverse.find? (fun line =>
        seedLabel.isPrefixOf line) = none := by decide
    have labelled : seedLabel.isPrefixOf
        (seedLabel ++ seed.bytes.flatMap hexPair) = true :=
      List.isPrefixOf_iff_prefix.mpr (List.prefix_append _ _)
    rw [page, ← List.append_assoc, lines, List.reverse_append,
      List.reverse_cons, List.find?_append, List.find?_append, missed,
      Option.none_or, List.find?_cons_of_pos labelled, Option.some_or]
  unfold recoverSeed
  rw [found, Option.elim_some, List.drop_left, hexBits_flatMap_hexPair]
  rw [← seed.size_eq]
  exact leadingBytes_bitString seed.bytes

/-- The seed that a finished run has shown is that of the mnemonic on its sheet
and of the passphrase it has read after the pages. -/
theorem main_seed_restored {mode : EntropyMode} {strength : Strength}
    (run : FinishedRun mode strength) (asked : run.options.showSeed = true) :
    ∃ wordlist secret rest passphrase seed after,
      session run.environment run.options mode strength run.input =
        .ok ((wordlist, secret), rest) ∧
      readPassphrase run.environment.firstScript run.environment.secondScript []
          { run.process with cout := {
            text := run.out ++ (mode.transcript strength run.input).asked ++
              secret.pages wordlist run.options.showEntropy } } =
        { outcome := .returned, target := passphrase, process := after } ∧
      deriveSeed run.environment.openSsl run.environment.pkcs5Pbkdf2Hmac
        (recoverMnemonic wordlist.words run.printed) passphrase = .ok seed ∧
      recoverSeed run.printed = seed.bytes := by
  obtain ⟨wordlist, secret, rest, made, read⟩ := main_rows run.stored
    run.accepted run.input run.out run.err run.process run.finished
  have mnemonic := recoverMnemonic_of_rows secret wordlist read
  obtain ⟨chosen, planned⟩ := session_eq_ok_iff.mp made
  have shown := showMnemonic_transcript run.accepted chosen run.input run.out
    run.err
  rw [planned] at shown
  have ended := main_accepted run.stored run.accepted
    { input := run.input
      cout := { text := run.out }
      cerr := { text := run.err } } run.process
  rw [shown.2] at ended
  simp only [asked, if_true] at ended
  have finished := run.finished
  rw [ended] at finished
  obtain ⟨passphrase, seed, after, entry, derived, console⟩ :=
    showSeed_finished finished
  refine ⟨wordlist, secret, rest, passphrase, seed, after, made, entry, ?_, ?_⟩
  · rw [FinishedRun.printed, mnemonic]
    exact derived
  · rw [FinishedRun.printed, ended, console]
    exact (congrArg recoverSeed (List.append_assoc ..)).trans
      (recoverSeed_printed ..)

/-- A run of the sample environment at whose terminal two lines are entered. -/
def seedRun : FinishedRun .system .bits128 where
  environment := typed (sampleEnvironment { showSeed := true }) cutLine wholeLine
  options := { showSeed := true }
  input := []
  out := []
  err := []
  process := freshProcess
  stored := rfl
  accepted := ⟨rfl, rfl, rfl⟩
  finished := by
    have ended := @main_session
      (typed (sampleEnvironment { showSeed := true }) cutLine wholeLine)
      { showSeed := true } .system .bits128 rfl ⟨rfl, rfl, rfl⟩ [] [] []
      freshProcess
    have made : session
        (typed (sampleEnvironment { showSeed := true }) cutLine wholeLine)
        { showSeed := true } .system .bits128 [] =
          .ok ((.english, sampleSecret), []) := rfl
    rw [made] at ended
    obtain ⟨prompts, reported, ended⟩ := ended
    obtain ⟨after, shown⟩ := showSeed_typed
      (sampleEnvironment { showSeed := true }) (sampleSecret.mnemonic .english)
      cutLine wholeLine [] ([] ++ prompts ++ sampleSecret.pages .english false)
      { text := [] ++ reported } freshProcess
    have same : wholeLine.stored = cutLine.stored := by decide
    rw [cutLine_confirmed same] at shown
    rw [ended]
    dsimp only
    rw [if_pos rfl]
    exact congrArg Ended.exit shown

theorem main_seed_restored_sample :
    ∃ passphrase seed, deriveSeed (sampleEnvironment {}).openSsl
        (sampleEnvironment {}).pkcs5Pbkdf2Hmac
        (recoverMnemonic makeEnglishWordList seedRun.printed) passphrase =
          .ok seed ∧
      recoverSeed seedRun.printed = seed.bytes := by
  obtain ⟨wordlist, secret, rest, passphrase, seed, after, made, -, derived,
    shown⟩ := main_seed_restored seedRun rfl
  cases (session_eq_ok_iff.mp made).1
  exact ⟨passphrase, seed, derived, shown⟩

/-- The stream has got a beginning of this text. -/
def Begins (limit written : Text) (stream : OStream) : Prop :=
  ∃ shown, stream = { text := written ++ shown } ∧ shown <+: limit

theorem Begins.whole {limit written : Text} :
    Begins limit written { text := written ++ limit } :=
  ⟨limit, rfl, List.prefix_rfl⟩

theorem Begins.front {first limit written : Text} {stream : OStream}
    (begins : Begins first written stream) :
    Begins (first ++ limit) written stream := by
  obtain ⟨shown, written, short⟩ := begins
  exact ⟨shown, written, short.trans (List.prefix_append _ _)⟩

theorem Begins.back {first limit written : Text} {stream : OStream}
    (begins : Begins limit (written ++ first) stream) :
    Begins (first ++ limit) written stream := by
  obtain ⟨shown, written, short⟩ := begins
  refine ⟨first ++ shown, ?_, ?_⟩
  · rw [written, List.append_assoc]
  · exact List.prefix_append_right_inj first |>.mpr short

theorem readHiddenLine_begins (script : Script) (prompt target : Text)
    {process : Process} {written : Text}
    (plain : process.cout = { text := written }) :
    Begins (prompt ++ [chr '\n']) written
      (readHiddenLine script prompt target process).process.cout := by
  have prompted : process.cout.put prompt = { text := written ++ prompt } := by
    rw [plain, OStream.put_mk]
  have early : Begins (prompt ++ [chr '\n']) written
      (process.cout.put prompt) := by
    rw [prompted]
    exact Begins.whole.front
  have ended : Begins (prompt ++ [chr '\n']) written
      ((process.cout.put prompt).put [chr '\n']) := by
    rw [prompted, OStream.put_mk, List.append_assoc]
    exact Begins.whole
  rcases readHiddenLine_runs script prompt target process with
    ⟨failure, flag, -, run⟩ | ⟨exit, flag, -, run⟩
  · rw [run]
    exact early
  · rw [run]
    cases exit with
    | waiting => exact early
    | thrown failure => exact early
    | broke rest signalNumber =>
        cases signalNumber with
        | none => exact ended
        | some signal =>
            rw [finishLine, raiseLine_cout]
            exact ended

/-- The prompts for a passphrase and its confirmation. -/
def passphraseDialogue : Text :=
  (passphrasePrompt ++ [chr '\n']) ++ (confirmPrompt ++ [chr '\n'])

theorem readPassphrase_begins (first second : Script) (passphrase : Text)
    {process : Process} {written : Text}
    (plain : process.cout = { text := written }) :
    Begins passphraseDialogue written
      (readPassphrase first second passphrase process).process.cout := by
  have entered := readHiddenLine_begins first passphrasePrompt passphrase plain
  unfold readPassphrase
  dsimp only
  cases line : readHiddenLine first
    (text "BIP-39 passphrase (empty for none): ") passphrase process with
  | mk outcome target between =>
      change readHiddenLine first passphrasePrompt passphrase process = _
        at line
      rw [line] at entered
      cases outcome with
      | waiting => exact entered.front
      | killed signal => exact entered.front
      | thrown failure => exact entered.front
      | returned =>
          have left : between.cout =
              { text := written ++ (passphrasePrompt ++ [chr '\n']) } := by
            rw [readHiddenLine_returned plain line, ← List.append_assoc]
          have confirmed := readHiddenLine_begins second confirmPrompt [] left
          dsimp only
          split
          · exact entered.front
          · split
            · exact confirmed.back
            · exact confirmed.back
            · exact confirmed.back
            · exact confirmed.back

theorem handleException_cout (environment : Environment) (failure : Failure)
    (console : Console) (process : Process) :
    (handleException environment failure console process).console.cout =
      console.cout := by
  unfold handleException
  cases failure.what environment.errorMessage <;> rfl

/-- A call that does not finish has not got as far as the derivation. -/
theorem showSeed_unfinished {environment : Environment} {mnemonic : Text}
    {input : List Text} {written : Text} {cerr : OStream} {process : Process}
    (unfinished : (showSeed environment mnemonic
      { input, cout := { text := written }, cerr } process).exit ≠ .status 0) :
    Begins passphraseDialogue written (showSeed environment mnemonic
      { input, cout := { text := written }, cerr } process).console.cout := by
  have begins := @readPassphrase_begins environment.firstScript
    environment.secondScript [] { process with cout := { text := written } }
    written rfl
  unfold showSeed at unfinished ⊢
  dsimp only at unfinished ⊢
  generalize readPassphrase environment.firstScript environment.secondScript []
    { process with cout := { text := written } } = entry
    at begins unfinished ⊢
  cases outcome : entry.outcome with
  | waiting => exact begins
  | killed signal => exact begins
  | thrown failure =>
      dsimp only
      rw [handleException_cout]
      exact begins
  | returned =>
      rw [outcome] at unfinished
      dsimp only at unfinished ⊢
      cases derived : deriveSeed environment.openSsl
        environment.pkcs5Pbkdf2Hmac mnemonic entry.target with
      | error failure =>
          dsimp only
          rw [handleException_cout]
          exact begins
      | ok seed =>
          rw [derived] at unfinished
          exact (unfinished rfl).elim

/-- What is on standard output when a run does not end with status 0: the
prompts, then the pages if there is a secret, then no more than the prompts for
the passphrase. -/
theorem main_unfinished {environment : Environment}
    {options : CommandLineOptions} {mode : EntropyMode} {strength : Strength}
    (stored : environment.stored = .ok options)
    (accepted : Accepted options mode strength) (input : List Text)
    (out err : Text) (process : Process)
    (unfinished : (main environment
      { input, cout := { text := out }, cerr := { text := err } }
      process).exit ≠ .status 0) :
    let cout := (main environment
      { input, cout := { text := out }, cerr := { text := err } }
      process).console.cout
    let asked := (mode.transcript strength input).asked
    ((∃ failure, chosenWordlist environment options = .error failure) ∧
      cout = { text := out }) ∨
    ((∃ failure, mode.secret environment.openSsl strength input =
      .error failure) ∧ cout = { text := out ++ asked }) ∨
    ∃ wordlist secret rest,
      session environment options mode strength input =
        .ok ((wordlist, secret), rest) ∧
      options.showSeed = true ∧
      Begins passphraseDialogue
        (out ++ asked ++ secret.pages wordlist options.showEntropy) cout := by
  rw [main_accepted stored accepted] at unfinished ⊢
  cases chosen : chosenWordlist environment options with
  | error failure =>
      left
      have shown : showMnemonic environment options
          { input, cout := { text := out }, cerr := { text := err } } =
        (.error failure,
          { input, cout := { text := out }, cerr := { text := err } }) := by
        unfold showMnemonic
        rw [selectWordlist_eq, chosen]
        rfl
      refine ⟨⟨failure, rfl⟩, ?_⟩
      rw [shown]
      exact handleException_cout ..
  | ok wordlist =>
      right
      have shown := showMnemonic_transcript accepted chosen input out err
      cases planned : mode.secret environment.openSsl strength input with
      | error failure =>
          left
          rw [planned] at shown
          refine ⟨⟨failure, rfl⟩, ?_⟩
          dsimp only at shown
          rw [shown]
          exact handleException_cout ..
      | ok result =>
          right
          obtain ⟨secret, rest⟩ := result
          rw [planned] at shown
          obtain ⟨-, shown⟩ := shown
          rw [shown] at unfinished ⊢
          have made := session_eq_ok_iff.mpr ⟨chosen, planned⟩
          refine ⟨wordlist, secret, rest, made, ?_⟩
          by_cases wanted : options.showSeed = true
          · refine ⟨wanted, ?_⟩
            simp only [wanted, if_true] at unfinished ⊢
            exact showSeed_unfinished unfinished
          · simp only [wanted] at unfinished
            exact (unfinished rfl).elim

/-- An interrupt key at the prompt for the passphrase. -/
def interruptedEnvironment : Environment :=
  { diceEnvironment countedDigest true with
    firstScript := interruptedRun.script }

theorem interrupted_session :
    session interruptedEnvironment (diceOptions true) .diceOnly .bits128
      diceLines = .ok ((.english, diceSecret countedDigest), [text "unread"]) :=
  dice_session countedDigest true

theorem interrupted_exit :
    (main interruptedEnvironment
      { input := diceLines, cout := { text := [] }, cerr := { text := [] } }
      freshProcess).exit = .killed .sigint := by
  have run := @main_session interruptedEnvironment (diceOptions true) .diceOnly
    .bits128 rfl (diceOptions_accepted true) diceLines [] [] freshProcess
  rw [interrupted_session] at run
  obtain ⟨prompts, reported, run⟩ := run
  rw [run]
  rfl

/-- The process is killed after the pages have been shown. -/
theorem main_unfinished_sample :
    let asked := (EntropyMode.diceOnly.transcript .bits128 diceLines).asked
    Begins passphraseDialogue
      ([] ++ asked ++ (diceSecret countedDigest).pages .english false)
      (main interruptedEnvironment
        { input := diceLines, cout := { text := [] }, cerr := { text := [] } }
        freshProcess).console.cout := by
  have unfinished : (main interruptedEnvironment
      { input := diceLines, cout := { text := [] }, cerr := { text := [] } }
      freshProcess).exit ≠ .status 0 := by
    rw [interrupted_exit]
    exact Exit.noConfusion
  rcases @main_unfinished interruptedEnvironment (diceOptions true) .diceOnly
    .bits128 rfl (diceOptions_accepted true) diceLines [] [] freshProcess
    unfinished with
    ⟨⟨failure, refused⟩, -⟩ | ⟨⟨failure, short⟩, -⟩ |
    ⟨wordlist, secret, rest, made, -, begins⟩
  · cases refused
  · rw [(session_eq_ok_iff.mp interrupted_session).2] at short
    cases short
  · rw [interrupted_session] at made
    cases made
    exact begins

end Bip39
