import Bip39.ReaderTranscripts

/-!
# The program implements the session

With accepted options, and up to the Tiny Seed, `main` fails exactly when its
session does, and with the same failure.  Otherwise it prints the pages of the
secret after its prompts, and has read the lines the session has taken.
-/

namespace Bip39

open Bip39.Source Bip39.Support

/-- What `main` holds of a secret. -/
def Secret.generated {strength : Strength} (secret : Secret strength)
    (wordlist : Wordlist) : Generated where
  entropy := secret.entropy.bytes
  digest := secret.digest
  indices := secret.indices
  mnemonic := secret.mnemonic wordlist

theorem selectWordlist_eq (environment : Environment)
    (options : CommandLineOptions) :
    selectWordlist environment options =
      (chosenWordlist environment options).map (·.words) := by
  unfold selectWordlist chosenWordlist
  split
  · rfl
  · rw [loadWordlist_eq]
    cases environment.file options.wordlistFilename <;> rfl

theorem dispatchEntropy_follows {options : ProgramOptions} {mode : EntropyMode}
    (selected : modeFlags options = mode.flags) (openSsl : OpenSsl)
    (strength : Strength) :
    Follows (SameEntropy strength)
      (dispatchEntropy options openSsl strength.byteCount)
      (mode.plan openSsl strength) := by
  rw [dispatchEntropy_mode selected]
  exact follows_cerr _ (generate_follows openSsl strength mode)

theorem generateMnemonic_follows {options : CommandLineOptions}
    {mode : EntropyMode} {strength : Strength}
    (accepted : Accepted options mode strength) (openSsl : OpenSsl)
    (wordlist : Wordlist) :
    Follows (fun generated secret => generated = secret.generated wordlist)
      (generateMnemonic options.toProgramOptions openSsl wordlist.words)
      (mode.secret openSsl strength) := by
  unfold generateMnemonic
  rw [accepted.counted, strength.entropyBytes]
  apply follows_ok
  apply Implements.bind
    (dispatchEntropy_follows accepted.selected openSsl strength)
  rintro bytes entropy rfl
  have hashed := congrFun Except.map_id (sha256 openSsl entropy.bytes)
  apply Implements.bind (follows_lift id hashed.symm)
  rintro digest expected rfl
  have packed := Secret.makeIndices_eq { entropy, digest }
  have joined := Secret.makeMnemonic_eq { entropy, digest } wordlist
  dsimp only [id_eq] at packed joined ⊢
  rw [packed]
  apply follows_ok
  rw [joined]
  apply follows_ok
  exact Implements.pure rfl

/-- The pages, printed on streams in their default format. -/
theorem showPages {strength : Strength} (secret : Secret strength)
    (wordlist : Wordlist) (showEntropy : Bool) (input : List Text)
    (out : Text) (cerr : OStream) :
    (do
      if showEntropy then
        Program.print
          (printEntropyAndChecksum secret.entropy.bytes secret.digest)
      Program.print (printMnemonic wordlist.words secret.indices)
      Program.print (printTinySeed secret.indices)
      return secret.generated wordlist : Program Generated)
        { input, cout := { text := out }, cerr } =
      (.ok (secret.generated wordlist), {
        input
        cout := { text := out ++ secret.pages wordlist showEntropy }
        cerr }) := by
  have words : ∀ written, Program.print
      (printMnemonic wordlist.words secret.indices)
        { input, cout := { text := written }, cerr } = (.ok (), {
          input
          cout := { text := written ++ mnemonicPage (secret.words wordlist) }
          cerr }) := by
    intro written
    unfold Program.print
    rw [secret.printMnemonic_eq wordlist written]
  have tiny : ∀ written, Program.print (printTinySeed secret.indices)
        { input, cout := { text := written }, cerr } = (.ok (), {
          input
          cout := { text := written ++ tinySeedPage secret.rows }
          cerr }) := by
    intro written
    unfold Program.print
    rw [secret.printTinySeed_eq written]
  unfold Secret.pages
  cases showEntropy with
  | false =>
      simp only [Bool.false_eq_true, if_false, List.nil_append]
      rw [Program.bind_run_ok (words out), Program.bind_run_ok (tiny _),
        List.append_assoc]
      rfl
  | true =>
      have internals : Program.print
          (printEntropyAndChecksum secret.entropy.bytes secret.digest)
            { input, cout := { text := out }, cerr } = (.ok (), {
              input, cout := { text := out ++ secret.internals }, cerr }) := by
        unfold Program.print
        rw [secret.printEntropyAndChecksum_eq out]
      simp only [if_true]
      rw [Program.bind_run_ok internals, Program.bind_run_ok (words _),
        Program.bind_run_ok (tiny _), List.append_assoc, List.append_assoc,
        List.append_assoc]
      rfl

/-- The run of `main` up to the Tiny Seed. -/
theorem showMnemonic_transcript {environment : Environment}
    {options : CommandLineOptions} {mode : EntropyMode} {strength : Strength}
    {wordlist : Wordlist} (accepted : Accepted options mode strength)
    (chosen : chosenWordlist environment options = .ok wordlist)
    (input : List Text) (out err : Text) :
    let transcript := mode.transcript strength input
    let run := showMnemonic environment options
      { input, cout := { text := out }, cerr := { text := err } }
    match mode.secret environment.openSsl strength input with
    | .error failure => run = (.error failure, told out err transcript)
    | .ok (secret, rest) => transcript.rest = rest ∧
        run = (.ok (secret.generated wordlist), {
          input := rest
          cout := { text := out ++ transcript.asked ++
            secret.pages wordlist options.showEntropy }
          cerr := { text := err ++ transcript.reported } }) := by
  have follows := generateMnemonic_follows accepted environment.openSsl
    wordlist { input, cout := { text := out }, cerr := { text := err } }
  have spoken := generateMnemonic_spoken accepted environment.openSsl
    wordlist.words input out err
  unfold showMnemonic
  rw [selectWordlist_eq, chosen]
  dsimp only at follows ⊢
  cases planned : mode.secret environment.openSsl strength input with
  | error failure =>
      rw [planned] at follows
      obtain ⟨after, run⟩ := follows
      have run : generateMnemonic _ _ _ _ = (.error failure, after) := run
      rw [run] at spoken
      subst spoken
      exact (Program.lift_bind_run ..).trans (Program.bind_run_error run)
  | ok result =>
      obtain ⟨secret, rest⟩ := result
      rw [planned] at follows
      obtain ⟨generated, after, run, same, read⟩ := follows
      have run : generateMnemonic _ _ _ _ = (.ok generated, after) := run
      rw [run] at spoken
      subst same spoken read
      refine ⟨rfl, (Program.lift_bind_run ..).trans
        ((Program.bind_run_ok run).trans ?_)⟩
      exact showPages secret wordlist options.showEntropy _ _ _

/-- What the run of `main` up to the Tiny Seed makes of a session. -/
theorem showMnemonic_session {environment : Environment}
    {options : CommandLineOptions} {mode : EntropyMode} {strength : Strength}
    (accepted : Accepted options mode strength) (input : List Text)
    (out err : Text) :
    match session environment options mode strength input with
    | .error failure =>
        ∃ after, showMnemonic environment options
            { input, cout := { text := out }, cerr := { text := err } } =
          (.error failure, after)
    | .ok ((wordlist, secret), rest) =>
        ∃ prompts reported, showMnemonic environment options
            { input, cout := { text := out }, cerr := { text := err } } =
          (.ok (secret.generated wordlist), {
            input := rest
            cout := { text := out ++ prompts ++
              secret.pages wordlist options.showEntropy }
            cerr := { text := err ++ reported } }) := by
  unfold session
  cases chosen : chosenWordlist environment options with
  | error failure =>
      unfold showMnemonic
      rw [selectWordlist_eq, chosen]
      exact ⟨_, rfl⟩
  | ok wordlist =>
      have shown := showMnemonic_transcript accepted chosen input out err
      change match (mode.secret environment.openSsl strength input >>=
          fun result => pure ((wordlist, result.1), result.2)) with
        | .error failure => _
        | .ok ((wordlist, secret), rest) => _
      cases planned : mode.secret environment.openSsl strength input with
      | error failure =>
          rw [planned] at shown
          exact ⟨_, shown⟩
      | ok result =>
          rw [planned] at shown
          exact ⟨_, _, shown.2⟩

theorem main_accepted {environment : Environment}
    {options : CommandLineOptions} {mode : EntropyMode} {strength : Strength}
    (stored : environment.stored = .ok options)
    (accepted : Accepted options mode strength) (console : Console)
    (process : Process) :
    main environment console process =
      match showMnemonic environment options console with
      | (.error failure, console) =>
          handleException environment failure console process
      | (.ok generated, console) =>
          if options.showSeed then
            showSeed environment generated.mnemonic console process
          else finishRun console process := by
  have noHelp : ¬options.showHelp = true := by
    rw [accepted.noHelp]
    exact Bool.false_ne_true
  unfold main
  rw [stored, accepted.parsed]
  exact if_neg noHelp

/-- What a run of `main` makes of a session. -/
theorem main_session {environment : Environment} {options : CommandLineOptions}
    {mode : EntropyMode} {strength : Strength}
    (stored : environment.stored = .ok options)
    (accepted : Accepted options mode strength) (input : List Text)
    (out err : Text) (process : Process) :
    match session environment options mode strength input with
    | .error failure =>
        ∃ after, main environment
            { input, cout := { text := out }, cerr := { text := err } } process =
          handleException environment failure after process
    | .ok ((wordlist, secret), rest) =>
        ∃ prompts reported, main environment
            { input, cout := { text := out }, cerr := { text := err } } process =
          let shown : Console := {
            input := rest
            cout := { text := out ++ prompts ++
              secret.pages wordlist options.showEntropy }
            cerr := { text := err ++ reported } }
          if options.showSeed then
            showSeed environment (secret.mnemonic wordlist) shown process
          else finishRun shown process := by
  have shown := @showMnemonic_session environment options mode strength
    accepted input out err
  simp only [main_accepted stored accepted]
  cases made : session environment options mode strength input with
  | error failure =>
      rw [made] at shown
      obtain ⟨after, run⟩ := shown
      rw [run]
      exact ⟨after, rfl⟩
  | ok result =>
      obtain ⟨⟨wordlist, secret⟩, rest⟩ := result
      rw [made] at shown
      obtain ⟨prompts, reported, run⟩ := shown
      rw [run]
      exact ⟨prompts, reported, rfl⟩

end Bip39
