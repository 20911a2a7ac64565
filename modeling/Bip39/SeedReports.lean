import Bip39.PassphraseEntry
import Bip39.ProgramEndings

/-!
# Runs that show the seed

After the Tiny Seed such a run asks for a passphrase and derives the seed from
the mnemonic it has shown.  Nothing of the passphrase itself is printed.
-/

namespace Bip39

open Bip39.Source Bip39.Support

def passphrasePrompt : Text :=
  text "BIP-39 passphrase (empty for none): "

def confirmPrompt : Text :=
  text "Confirm passphrase: "

/-- What is seen of the dialogue about a passphrase. -/
def dialogue (passphrase : Text) : Text :=
  passphrasePrompt ++ [chr '\n'] ++
    if passphrase = [] then [] else confirmPrompt ++ [chr '\n']

def derivationPage (mnemonic : Text) (hasPassphrase : Bool) (seed : Seed) :
    Text :=
  text "\n    BIP-39 Derivation\n\n" ++
    (text "Mnemonic:   " ++ mnemonic ++ [chr '\n']) ++
    (text "Passphrase: " ++
      (if hasPassphrase then text "set (not displayed)" else text "empty") ++
      [chr '\n']) ++
    (text "Seed:       " ++ seed.bytes.flatMap hexPair ++ [chr '\n']) ++
    text "Warning: the mnemonic and seed are secret wallet material.\n" ++
    text "Terminal scrollback, logs, and screenshots may retain them.\n"

theorem printSeedDerivation_eq (mnemonic : Text) (hasPassphrase : Bool)
    (seed : Seed) (written : Text) :
    printSeedDerivation mnemonic hasPassphrase seed { text := written } =
      { text := written ++ derivationPage mnemonic hasPassphrase seed } := by
  unfold printSeedDerivation derivationPage
  simp only [OStream.put_mk, putHexBytes_eq]
  simp only [List.append_assoc]

/-- A line that is returned has left its prompt and a line feed. -/
theorem readHiddenLine_returned {script : Script} {prompt target line : Text}
    {process after : Process} {written : Text}
    (plain : process.cout = { text := written })
    (run : readHiddenLine script prompt target process =
      { outcome := .returned, target := line, process := after }) :
    after = { process with
      caughtSignal := after.caughtSignal
      cout := { text := written ++ prompt ++ [chr '\n'] } } := by
  rcases readHiddenLine_runs script prompt target process with
    ⟨failure, flag, -, ended⟩ | ⟨exit, flag, -, ended⟩
  · rw [ended] at run
    cases run
  · rw [ended] at run
    cases exit with
    | waiting => cases run
    | thrown failure => cases run
    | broke input signalNumber =>
        cases signalNumber with
        | some signal =>
            rw [finishLine, raiseLine_eq] at run
            have ended := congrArg HiddenLine.outcome run
            exact ((interruptedBy_ended _ _).2 ended).elim
        | none =>
            cases run
            simp only [unguarded, guarded, Process.write, plain,
              OStream.put_mk]

theorem readPassphrase_returned {first second : Script}
    {passphrase entered : Text} {process after : Process} {written : Text}
    (plain : process.cout = { text := written })
    (run : readPassphrase first second passphrase process =
      { outcome := .returned, target := entered, process := after }) :
    after.cout = { text := written ++ dialogue entered } := by
  unfold readPassphrase at run
  dsimp only at run
  cases line : readHiddenLine first
    (text "BIP-39 passphrase (empty for none): ") passphrase process with
  | mk outcome target between =>
      rw [line] at run
      cases outcome with
      | waiting => cases run
      | killed signal => cases run
      | thrown failure => cases run
      | returned =>
          have left := readHiddenLine_returned plain line
          dsimp only at run
          split at run
          · rename_i empty
            cases run
            rw [left, dialogue, if_pos empty, List.append_nil,
              ← List.append_assoc]
            rfl
          · rename_i set
            have shown : between.cout =
                { text := written ++ passphrasePrompt ++ [chr '\n'] } := by
              rw [left]
              rfl
            cases again : readHiddenLine second (text "Confirm passphrase: ")
              [] between with
            | mk outcome confirmation last =>
                rw [again] at run
                cases outcome with
                | waiting => cases run
                | killed signal => cases run
                | thrown failure => cases run
                | returned =>
                    have leftAgain := readHiddenLine_returned shown again
                    dsimp only at run
                    split at run
                    · cases run
                    · cases run
                      rw [leftAgain, dialogue, if_neg set]
                      simp only [confirmPrompt, List.append_assoc]

theorem handleException_unfinished (environment : Environment)
    (failure : Failure) (console : Console) (process : Process) :
    (handleException environment failure console process).exit ≠ .status 0 := by
  unfold handleException
  split <;> exact fun impossible => nomatch impossible

/-- A run that shows the seed and finishes has read a passphrase and has shown
the dialogue and the derivation. -/
theorem showSeed_finished {environment : Environment} {mnemonic : Text}
    {input : List Text} {written : Text} {cerr : OStream} {process : Process}
    (finished : (showSeed environment mnemonic
      { input, cout := { text := written }, cerr } process).exit = .status 0) :
    ∃ passphrase seed after,
      readPassphrase environment.firstScript environment.secondScript []
          { process with cout := { text := written } } =
        { outcome := .returned, target := passphrase, process := after } ∧
      deriveSeed environment.openSsl environment.pkcs5Pbkdf2Hmac mnemonic
        passphrase = .ok seed ∧
      (showSeed environment mnemonic
        { input, cout := { text := written }, cerr } process).console = {
      input
      cout := { text := written ++ dialogue passphrase ++
        derivationPage mnemonic (passphrase ≠ []) seed ++ [chr '\n'] }
      cerr } := by
  unfold showSeed at finished ⊢
  dsimp only at finished ⊢
  cases entry : readPassphrase environment.firstScript environment.secondScript
    [] { process with cout := { text := written } } with
  | mk outcome passphrase after =>
      rw [entry] at finished
      cases outcome with
      | waiting => exact nomatch finished
      | killed signal => exact nomatch finished
      | thrown failure =>
          exact (handleException_unfinished _ _ _ _ finished).elim
      | returned =>
          have shown := @readPassphrase_returned _ _ _ _
            { process with cout := { text := written } } _ written rfl entry
          dsimp only at finished ⊢
          cases derived : deriveSeed environment.openSsl
            environment.pkcs5Pbkdf2Hmac mnemonic passphrase with
          | error failure =>
              rw [derived] at finished
              exact (handleException_unfinished _ _ _ _ finished).elim
          | ok seed =>
              refine ⟨passphrase, seed, after, rfl, derived, ?_⟩
              simp only [shown, printSeedDerivation_eq, finishRun,
                OStream.put_mk]

/-- The environment in which these two lines are entered. -/
def typed (environment : Environment)
    (first second : EnteredLine) : Environment :=
  { environment with
    firstScript := first.script
    secondScript := second.script }

/-- The seed of two entered lines: the second one has to confirm a passphrase
that is not empty. -/
def confirmedSeed (environment : Environment) (mnemonic : Text)
    (first second : EnteredLine) : Except Failure Seed :=
  if first.stored = [] ∨ second.stored = first.stored then
    deriveSeed environment.openSsl environment.pkcs5Pbkdf2Hmac mnemonic
      first.stored
  else .error mismatch

/-- Two entered lines and what is seen of them. -/
theorem readPassphrase_typed (first second : EnteredLine) (passphrase : Text)
    {process : Process} {written : Text}
    (plain : process.cout = { text := written }) :
    ∃ after,
      readPassphrase first.script second.script passphrase process =
        { outcome :=
            if first.stored = [] ∨ second.stored = first.stored then .returned
            else .thrown mismatch
          target := first.stored
          process := after } ∧
      after.cout = { text := written ++ dialogue first.stored } := by
  obtain ⟨between, entered⟩ := readHiddenLine_entered first
    (text "BIP-39 passphrase (empty for none): ") passphrase process
  have left := readHiddenLine_returned plain entered
  have shown : between.cout =
      { text := written ++ passphrasePrompt ++ [chr '\n'] } := by
    rw [left]
    rfl
  obtain ⟨after, confirmed⟩ := readHiddenLine_entered second
    (text "Confirm passphrase: ") [] between
  have leftAgain := readHiddenLine_returned shown confirmed
  simp only [readPassphrase, entered]
  by_cases empty : first.stored = []
  · refine ⟨between, by simp [empty], ?_⟩
    rw [shown, dialogue, if_pos empty, List.append_nil, List.append_assoc]
  · refine ⟨after, ?_, ?_⟩
    · simp only [empty, if_false, confirmed, false_or]
      by_cases same : second.stored = first.stored
      · simp [same]
      · simp [same, Ne.symm same, mismatch]
    · rw [leftAgain, dialogue, if_neg empty]
      simp only [confirmPrompt, List.append_assoc]

theorem showSeed_typed (environment : Environment) (mnemonic : Text)
    (first second : EnteredLine) (input : List Text) (written : Text)
    (cerr : OStream) (process : Process) :
    ∃ after,
      showSeed (typed environment first second) mnemonic
          { input, cout := { text := written }, cerr } process =
        match confirmedSeed environment mnemonic first second with
        | .error failure => handleException environment failure {
            input
            cout := { text := written ++ dialogue first.stored }
            cerr } after
        | .ok seed => {
            exit := .status 0
            console := {
              input
              cout := { text := written ++ dialogue first.stored ++
                derivationPage mnemonic (first.stored ≠ []) seed ++ [chr '\n'] }
              cerr }
            process := after } := by
  obtain ⟨after, entry, shown⟩ := @readPassphrase_typed first second []
    { process with cout := { text := written } } written rfl
  refine ⟨after, ?_⟩
  unfold showSeed confirmedSeed
  simp only [typed, entry]
  by_cases accepted : first.stored = [] ∨ second.stored = first.stored
  · simp only [accepted, if_true]
    cases deriveSeed environment.openSsl environment.pkcs5Pbkdf2Hmac mnemonic
      first.stored with
    | error failure =>
        simp only [shown]
        rfl
    | ok seed =>
        simp only [shown, printSeedDerivation_eq, finishRun, OStream.put_mk]
  · simp only [accepted, if_false, shown]
    rfl

section Runs

variable {environment : Environment} {options : CommandLineOptions}
  {mode : EntropyMode} {strength : Strength} {input : List Text}

theorem confirmedSeed_ends (stored : environment.stored = .ok options)
    (asked : options.showSeed = true) {mnemonic : Text}
    (ascii : options.wordlistFilename = [] → IsAscii mnemonic)
    (first second : EnteredLine) :
    Outcome (fun _ => True) (RunFailure environment input)
      (confirmedSeed environment mnemonic first second) := by
  unfold confirmedSeed
  split
  · apply (deriveSeed_ends first.stored ascii).imp (fun _ _ => trivial)
    exact fun failure cause => .seed stored asked cause
  · exact .passphrase stored asked (.inr (.inr rfl))

/-- The report of a run that has a secret and shows the seed, with the two
lines entered at the terminal. -/
theorem main_derivation (stored : environment.stored = .ok options)
    (accepted : Accepted options mode strength)
    (asked : options.showSeed = true) {wordlist : Wordlist}
    {secret : Secret strength} {rest : List Text}
    (made : session environment options mode strength input =
      .ok ((wordlist, secret), rest))
    (first second : EnteredLine) (out err : Text) (process : Process) :
    ∃ prompts reported,
      let ended := main (typed environment first second)
        { input, cout := { text := out }, cerr := { text := err } } process
      let mnemonic := secret.mnemonic wordlist
      let shown := out ++ prompts ++
        secret.pages wordlist options.showEntropy ++ dialogue first.stored
      match confirmedSeed environment mnemonic first second with
      | .error failure =>
          ∃ what, failure.what environment.errorMessage = some what ∧
            Reports what ended ∧ ended.console.cout = { text := shown }
      | .ok seed =>
          ended.exit = .status 0 ∧ ended.console = {
            input := rest
            cout := { text := shown ++
              derivationPage mnemonic (first.stored ≠ []) seed ++ [chr '\n'] }
            cerr := { text := err ++ reported } } := by
  have known : Outcome (fun _ => True) (RunFailure environment input)
      (confirmedSeed environment (secret.mnemonic wordlist) first second) :=
    confirmedSeed_ends stored asked (mnemonic_ascii made) first second
  have run := @main_session (typed environment first second) options mode
    strength stored accepted input out err process
  have sameSession :
      session (typed environment first second) options mode strength input =
        .ok ((wordlist, secret), rest) := made
  rw [sameSession] at run
  obtain ⟨prompts, reported, run⟩ := run
  refine ⟨prompts, reported, ?_⟩
  obtain ⟨after, typedRun⟩ := showSeed_typed environment
    (secret.mnemonic wordlist) first second rest
    (out ++ prompts ++ secret.pages wordlist options.showEntropy)
    { text := err ++ reported } process
  simp only [asked, if_true] at run
  rw [typedRun] at run
  rw [run]
  dsimp only
  cases derived : confirmedSeed environment (secret.mnemonic wordlist) first
    second with
  | error failure =>
      rw [derived] at known
      obtain ⟨what, found⟩ := RunFailure.what known
      refine ⟨what, found, (handleException_reports found _ _).1, ?_⟩
      simp only [handleException, found]
  | ok seed => exact ⟨rfl, rfl⟩

/-- With the compiled words nothing but OpenSSL can refuse the seed. -/
theorem deriveSeed_english (secret : Secret strength) {passphrase : Text}
    (ascii : IsAscii passphrase) (fits : passphrase.length ≤ 2 ^ 31 - 9)
    (openSsl : OpenSsl) (derive : Pbkdf2Call → Seed) :
    ∃ call, deriveSeed openSsl (fun call => some (derive call))
      (secret.mnemonic .english) passphrase = .ok (derive call) := by
  have mnemonicAscii : IsAscii (secret.mnemonic .english) := by
    apply isAscii_sentence
    intro word member
    exact englishWords_ascii word (secret.mem_words member)
  have short : (secret.mnemonic .english).length ≤ strength.wordCount * 9 := by
    have words := @sentence_length_le (secret.words .english) 8 (by
      intro word member
      exact (englishWords_letters (secret.mem_words member)).1.2)
    rw [Secret.words, List.length_map, secret.positions_length] at words
    exact words
  have small : strength.wordCount ≤ 24 := by cases strength <;> decide
  have call := pbkdf2Call_of_fits (isAscii_append.mpr ⟨mnemonicAscii, ascii⟩)
    ⟨by omega, fits⟩
  unfold deriveSeed
  rw [call]
  exact ⟨_, rfl⟩

/-- The secret of the sample environment. -/
def sampleSecret : Secret .bits128 where
  entropy := { bytes := List.replicate 16 0, size_eq := rfl }
  digest := zeroDigest

theorem sampleSecret_confirmed {first second : EnteredLine}
    (same : second.stored = first.stored) (ascii : IsAscii first.stored)
    (fits : first.stored.length ≤ 2 ^ 31 - 9) :
    confirmedSeed (sampleEnvironment { showSeed := true })
      (sampleSecret.mnemonic .english) first second = .ok sampleSeed := by
  obtain ⟨call, derived⟩ := @deriveSeed_english .bits128 sampleSecret
    first.stored ascii fits (sampleEnvironment {}).openSsl fun _ => sampleSeed
  rw [confirmedSeed, if_pos (.inr same)]
  exact derived

theorem cutLine_confirmed {second : EnteredLine}
    (same : second.stored = cutLine.stored) :
    confirmedSeed (sampleEnvironment { showSeed := true })
      (sampleSecret.mnemonic .english) cutLine second = .ok sampleSeed := by
  have stored : cutLine.stored = [97, 98] := by decide
  apply sampleSecret_confirmed same
  · rw [stored]
    simp [IsAscii]
  · rw [stored]
    decide

theorem main_derivation_sample :
    (main (typed (sampleEnvironment { showSeed := true }) cutLine cutLine)
      { input := [], cout := { text := [] }, cerr := { text := [] } }
      freshProcess).exit = .status 0 := by
  obtain ⟨prompts, reported, run⟩ := @main_derivation
    (sampleEnvironment { showSeed := true }) { showSeed := true } .system
    .bits128 [] rfl ⟨rfl, rfl, rfl⟩ rfl .english sampleSecret [] rfl cutLine
    cutLine [] [] freshProcess
  simp only [cutLine_confirmed rfl] at run
  exact run.1

/-- A run does not show a passphrase: what it prints and how it ends are the
same for two passphrases that are both empty or both not, when they lead to
the same seed or to the same failure. -/
theorem main_hides_passphrase (stored : environment.stored = .ok options)
    (accepted : Accepted options mode strength)
    {first second other otherSecond : EnteredLine}
    (empty : first.stored = [] ↔ other.stored = [])
    (agree : ∀ wordlist secret rest,
      session environment options mode strength input =
          .ok ((wordlist, secret), rest) →
        confirmedSeed environment (secret.mnemonic wordlist) first second =
          confirmedSeed environment (secret.mnemonic wordlist) other
            otherSecond)
    (out err : Text) (process : Process) :
    let ended := main (typed environment first second)
      { input, cout := { text := out }, cerr := { text := err } } process
    let again := main (typed environment other otherSecond)
      { input, cout := { text := out }, cerr := { text := err } } process
    ended.exit = again.exit ∧ ended.console = again.console := by
  have shown := @showMnemonic_session environment options mode strength
    accepted input out err
  have sameDialogue : dialogue first.stored = dialogue other.stored := by
    simp only [dialogue, empty]
  have sameReport : decide (first.stored ≠ []) = decide (other.stored ≠ []) := by
    simp only [ne_eq, empty]
  -- Up to the passphrase the two runs are the same.
  have before : ∀ left right, showMnemonic (typed environment left right)
      options = showMnemonic environment options := fun _ _ => rfl
  dsimp only
  rw [@main_accepted (typed environment first second) _ _ _ stored accepted,
    @main_accepted (typed environment other otherSecond) _ _ _ stored accepted,
    before, before]
  cases made : session environment options mode strength input with
  | error failure =>
      rw [made] at shown
      obtain ⟨after, run⟩ := shown
      rw [run]
      exact ⟨rfl, rfl⟩
  | ok result =>
      obtain ⟨⟨wordlist, secret⟩, rest⟩ := result
      rw [made] at shown
      obtain ⟨prompts, reported, run⟩ := shown
      rw [run]
      dsimp only
      split
      · obtain ⟨after, left⟩ := showSeed_typed environment
          (secret.mnemonic wordlist) first second rest
          (out ++ prompts ++ secret.pages wordlist options.showEntropy)
          { text := err ++ reported } process
        obtain ⟨later, right⟩ := showSeed_typed environment
          (secret.mnemonic wordlist) other otherSecond rest
          (out ++ prompts ++ secret.pages wordlist options.showEntropy)
          { text := err ++ reported } process
        rw [agree wordlist secret rest made, sameDialogue, sameReport] at left
        change Ended.exit (showSeed _ (secret.mnemonic wordlist) _ _) =
            Ended.exit (showSeed _ (secret.mnemonic wordlist) _ _) ∧
          Ended.console (showSeed _ (secret.mnemonic wordlist) _ _) =
            Ended.console (showSeed _ (secret.mnemonic wordlist) _ _)
        rw [left, right]
        cases confirmedSeed environment (secret.mnemonic wordlist) other
          otherSecond with
        | error failure =>
            dsimp only
            unfold handleException
            cases failure.what environment.errorMessage <;> exact ⟨rfl, rfl⟩
        | ok seed => exact ⟨rfl, rfl⟩
      · exact ⟨rfl, rfl⟩

/-- The line of `cutLine` in one piece, without a carriage return. -/
def wholeLine : EnteredLine where
  script := { reads := [.chunk ⟨text "ab\n", by decide, by decide⟩] }
  terminal := ⟨fun _ => rfl, ⟨rfl, rfl, rfl⟩, rfl⟩
  line := text "ab"
  oneLine := by decide
  brought := ⟨_, [], (List.append_nil _).symm, .chunk _ .nothing⟩

/-- Another passphrase. -/
def otherLine : EnteredLine where
  script := { reads := [.chunk ⟨text "correct horse\n", by decide, by decide⟩] }
  terminal := ⟨fun _ => rfl, ⟨rfl, rfl, rfl⟩, rfl⟩
  line := text "correct horse"
  oneLine := by decide
  brought := ⟨_, [], (List.append_nil _).symm, .chunk _ .nothing⟩

theorem otherLine_confirmed :
    confirmedSeed (sampleEnvironment { showSeed := true })
      (sampleSecret.mnemonic .english) otherLine otherLine = .ok sampleSeed := by
  have stored : otherLine.stored = text "correct horse" := by decide
  have ascii : ∀ byte ∈ text "correct horse", byte ≤ 0x7f := by
    decide +kernel
  apply sampleSecret_confirmed rfl
  · rw [stored]
    exact ascii
  · rw [stored]
    decide

theorem main_hides_passphrase_sample :
    cutLine.stored ≠ otherLine.stored ∧
      (main (typed (sampleEnvironment { showSeed := true }) cutLine wholeLine)
          { input := [], cout := { text := [] }, cerr := { text := [] } }
          freshProcess).console =
        (main
          (typed (sampleEnvironment { showSeed := true }) otherLine otherLine)
          { input := [], cout := { text := [] }, cerr := { text := [] } }
          freshProcess).console := by
  refine ⟨by decide, ?_⟩
  refine (@main_hides_passphrase (sampleEnvironment { showSeed := true })
    { showSeed := true } .system .bits128 [] rfl ⟨rfl, rfl, rfl⟩ cutLine
    wholeLine otherLine otherLine (by decide) ?_ [] [] freshProcess).2
  intro wordlist secret rest made
  have zeros : session (sampleEnvironment { showSeed := true })
      { showSeed := true } .system .bits128 [] =
        .ok ((.english, sampleSecret), []) := rfl
  rw [zeros] at made
  cases made
  exact (cutLine_confirmed (by decide)).trans otherLine_confirmed.symm

end Runs

end Bip39
