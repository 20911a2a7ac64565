import Bip39.Reproduction

/-!
# Transcripts of whole runs

A run is a function of its session and of the lines it is given.  What it
writes outside the pages and what it reads depend on the source, the size and
these lines only.
-/

namespace Bip39

open Bip39.Source Bip39.Support

section Runs

variable {environment : Environment} {options : CommandLineOptions}
  {mode : EntropyMode} {strength : Strength} {wordlist : Wordlist}

/-- The whole run of `main`, with every prompt and every report, is a function
of its session and of the lines it is given. -/
theorem main_transcript (stored : environment.stored = .ok options)
    (accepted : Accepted options mode strength)
    (chosen : chosenWordlist environment options = .ok wordlist)
    (input : List Text) (out err : Text) (process : Process) :
    let transcript := mode.transcript strength input
    transcript.heard ++ transcript.rest = input ∧
    main environment
        { input, cout := { text := out }, cerr := { text := err } } process =
      match mode.secret environment.openSsl strength input with
      | .error failure => handleException environment failure {
          input := transcript.rest
          cout := { text := out ++ transcript.asked }
          cerr := { text := err ++ transcript.reported } } process
      | .ok (secret, _) =>
          let shown : Console := {
            input := transcript.rest
            cout := { text := out ++ transcript.asked ++
              secret.pages wordlist options.showEntropy }
            cerr := { text := err ++ transcript.reported } }
          if options.showSeed then
            showSeed environment (secret.mnemonic wordlist) shown process
          else finishRun shown process := by
  refine ⟨transcript_split strength mode input, ?_⟩
  have shown := showMnemonic_transcript accepted chosen input out err
  rw [main_accepted stored accepted]
  cases planned : mode.secret environment.openSsl strength input with
  | error failure =>
      rw [planned] at shown
      dsimp only at shown
      rw [shown]
      rfl
  | ok result =>
      rw [planned] at shown
      obtain ⟨read, shown⟩ := shown
      rw [shown, read]
      rfl

theorem main_transcript_sample :
    let ended := main (sampleEnvironment { useDiceOnly := true })
      { input := [text "7"], cout := { text := [] }, cerr := { text := [] } }
      freshProcess
    ended.console.cout.text = EntropyMode.diceOnly.opening .bits128 ++
        text "Roll 1/50: Roll 1/50: " ∧
      ended.console.cerr.text =
        text ("Entropy path: SHA-256(ASCII dice rolls), no system " ++
          "randomness\nPlease enter one die result from 1 through 6.\n" ++
          "Error: input ended before all dice rolls were entered\n") := by
  have run := (@main_transcript (sampleEnvironment { useDiceOnly := true }) _
    .diceOnly .bits128 .english rfl ⟨rfl, rfl, rfl⟩ rfl [text "7"] [] []
    freshProcess).2
  have failed : EntropyMode.diceOnly.secret
      (sampleEnvironment { useDiceOnly := true }).openSsl .bits128 [text "7"] =
        .error diceEnded := by
    rfl
  rw [failed] at run
  rw [run]
  constructor <;> decide +kernel

end Runs

namespace FinishedRun

variable {mode : EntropyMode} {strength : Strength}

/-- The streams when the run has ended. -/
def console (run : FinishedRun mode strength) : Console :=
  (main run.environment
    { input := run.input
      cout := { text := run.out }
      cerr := { text := run.err } }
    run.process).console

/-- Only what follows the transcript on standard output depends on more than
the lines the run is given. -/
theorem spoken (run : FinishedRun mode strength) :
    let transcript := mode.transcript strength run.input
    ∃ pages, run.console = {
      input := transcript.rest
      cout := { text := run.out ++ transcript.asked ++ pages }
      cerr := { text := run.err ++ transcript.reported } } := by
  obtain ⟨wordlist, secret, rest, session, -⟩ := main_rows run.stored
    run.accepted run.input run.out run.err run.process run.finished
  obtain ⟨chosen, made⟩ := session_eq_ok_iff.mp session
  have shown := showMnemonic_transcript run.accepted chosen run.input run.out
    run.err
  have finished := run.finished
  unfold console
  rw [main_accepted run.stored run.accepted] at finished ⊢
  rw [made] at shown
  obtain ⟨read, shown⟩ := shown
  rw [shown] at finished ⊢
  dsimp only at finished ⊢
  rw [read]
  split
  · rename_i asked
    rw [if_pos asked] at finished
    obtain ⟨passphrase, seed, -, -, -, ended⟩ := showSeed_finished finished
    rw [ended]
    refine ⟨secret.pages wordlist run.options.showEntropy ++
      dialogue passphrase ++ derivationPage (secret.generated wordlist).mnemonic
        (passphrase ≠ []) seed ++ [chr '\n'], ?_⟩
    simp only [List.append_assoc]
  · refine ⟨secret.pages wordlist run.options.showEntropy ++ [chr '\n'], ?_⟩
    rw [finishRun, OStream.put_mk, List.append_assoc (run.out ++ _)]

end FinishedRun

/-- The random bytes, the digests, the wordlist and the passphrase leave no
trace on standard error, in the prompts and in what is read of standard
input. -/
theorem main_reports_alike {mode : EntropyMode} {strength : Strength}
    (first second : FinishedRun mode strength)
    (sameInput : first.input = second.input) :
    let transcript := mode.transcript strength first.input
    (∃ pages, first.console = {
      input := transcript.rest
      cout := { text := first.out ++ transcript.asked ++ pages }
      cerr := { text := first.err ++ transcript.reported } }) ∧
    ∃ pages, second.console = {
      input := transcript.rest
      cout := { text := second.out ++ transcript.asked ++ pages }
      cerr := { text := second.err ++ transcript.reported } } := by
  refine ⟨first.spoken, ?_⟩
  rw [sameInput]
  exact second.spoken

theorem main_reports_alike_sample :
    (systemRun 0).console.cerr = (systemRun 255).console.cerr := by
  obtain ⟨⟨pages, first⟩, others, second⟩ :=
    main_reports_alike (systemRun 0) (systemRun 255) rfl
  rw [first, second]
  rfl

end Bip39
