import Bip39.ConsoleStreams

/-!
# What a run makes of the rest of its input

A run that does not fail for want of input has consumed a stretch of it and
would have been the same whatever came after that stretch: it never looks
ahead.
-/

namespace Bip39

open Bip39.Source Bip39.Support

/-- The failures of the two readers at the end of the input. -/
def InputEnded (failure : Failure) : Prop :=
  failure = diceEnded ∨ failure = cardsEnded

def withInput (input : List Text) (console : Console) : Console :=
  { console with input }

/-- The program does not depend on the input it leaves. -/
abbrev LocalProgram {α : Type} (program : Program α) : Prop :=
  Local Console.input withInput InputEnded program

theorem local_silent {α : Type} {program : Program α}
    (untouched : ∀ console, (program console).2.input = console.input)
    (independent : ∀ console input, program (withInput input console) =
      ((program console).1, withInput input (program console).2)) :
    LocalProgram program := by
  intro console
  left
  refine ⟨[], ?_, ?_⟩
  · exact (untouched console).symm
  · exact independent console

theorem readDieFace_local (rollNumber rollCount : Nat) :
    LocalProgram (readDieFace rollNumber rollCount) := by
  have lines : ∀ (input : List Text) (cout cerr : OStream),
      let run := readDieFaceFrom rollNumber rollCount cout cerr input
      (∃ used, input = used ++ run.2.input ∧
        ∀ rest, readDieFaceFrom rollNumber rollCount cout cerr (used ++ rest) =
          (run.1, withInput rest run.2)) ∨
      (∃ failure, run.1 = .error failure ∧ InputEnded failure) ∧
        run.2.input = [] := by
    intro input
    induction input with
    | nil =>
        intro cout cerr
        exact .inr ⟨⟨diceEnded, rfl, .inl rfl⟩, rfl⟩
    | cons line input induction =>
        intro cout cerr
        have later := induction (promptRoll rollNumber rollCount cout)
          (cerr.put (text "Please enter one die result from 1 through 6.\n"))
        cases accepted : dieFace line with
        | some face =>
            left
            refine ⟨[line], ?_, ?_⟩
            · simp only [readDieFaceFrom, accepted]
              rfl
            · intro rest
              simp only [List.singleton_append, readDieFaceFrom, accepted]
              rfl
        | none =>
            simp only [readDieFaceFrom, accepted]
            rcases later with ⟨used, split, runs⟩ | ended
            · left
              refine ⟨line :: used, ?_, ?_⟩
              · rw [List.cons_append, ← split]
              · intro rest
                rw [List.cons_append]
                simp only [readDieFaceFrom, accepted]
                exact runs rest
            · exact .inr ended
  intro console
  exact lines console.input console.cout console.cerr

section Cards

variable {shuffleNumber : Nat} {reader : DeckReader} (cout : OStream)
  {cerr : OStream}

theorem readCardDeckFrom_full (full : ¬reader.position ≤ cardsPerDeck)
    (lines : List Text) :
    readCardDeckFrom shuffleNumber reader cout cerr lines =
      (.ok reader.deck, { input := lines, cout, cerr }) := by
  rw [readCardDeckFrom.eq_def]
  exact if_neg full

theorem readCardDeckFrom_nil (more : reader.position ≤ cardsPerDeck) :
    readCardDeckFrom shuffleNumber reader cout cerr [] =
      (.error cardsEnded, {
        input := [],
        cout := promptCard shuffleNumber reader.position cout,
        cerr }) := by
  rw [readCardDeckFrom.eq_def]
  exact if_pos more

theorem readCardDeckFrom_cons (more : reader.position ≤ cardsPerDeck)
    (line : Text) (lines : List Text) :
    readCardDeckFrom shuffleNumber reader cout cerr (line :: lines) =
      match acceptCard reader cerr line with
      | .ok (next, after) => readCardDeckFrom shuffleNumber next
          (promptCard shuffleNumber reader.position cout) after lines
      | .error failure => (.error failure, {
          input := lines,
          cout := promptCard shuffleNumber reader.position cout,
          cerr }) := by
  rw [readCardDeckFrom.eq_def]
  exact if_pos more

end Cards

theorem readCardDeck_local (shuffleNumber : Nat) :
    LocalProgram (readCardDeck shuffleNumber) := by
  have lines : ∀ (input : List Text) (reader : DeckReader)
      (cout cerr : OStream),
      let run := readCardDeckFrom shuffleNumber reader cout cerr input
      (∃ used, input = used ++ run.2.input ∧
        ∀ rest, readCardDeckFrom shuffleNumber reader cout cerr (used ++ rest) =
          (run.1, withInput rest run.2)) ∨
      (∃ failure, run.1 = .error failure ∧ InputEnded failure) ∧
        run.2.input = [] := by
    intro input
    induction input with
    | nil =>
        intro reader cout cerr
        by_cases more : reader.position ≤ cardsPerDeck
        · rw [readCardDeckFrom_nil cout more]
          exact .inr ⟨⟨cardsEnded, rfl, .inr rfl⟩, rfl⟩
        · rw [readCardDeckFrom_full cout more]
          exact .inl ⟨[], rfl, readCardDeckFrom_full cout more⟩
    | cons line input induction =>
        intro reader cout cerr
        by_cases more : reader.position ≤ cardsPerDeck
        · have step := @readCardDeckFrom_cons shuffleNumber reader cout cerr
            more line
          cases accepted : acceptCard reader cerr line with
          | error failure =>
              simp only [accepted] at step
              rw [step]
              exact .inl ⟨[line], rfl, step⟩
          | ok result =>
              obtain ⟨next, after⟩ := result
              simp only [accepted] at step
              rw [step]
              rcases induction next
                (promptCard shuffleNumber reader.position cout) after with
                ⟨used, split, runs⟩ | ended
              · left
                refine ⟨line :: used, congrArg (line :: ·) split, ?_⟩
                intro rest
                rw [List.cons_append, step]
                exact runs rest
              · exact .inr ended
        · rw [readCardDeckFrom_full cout more]
          exact .inl ⟨[], rfl, readCardDeckFrom_full cout more⟩
  intro console
  exact lines console.input {} console.cout console.cerr

theorem Assembled.isLocal {α : Type} {program : Program α}
    (assembled : Assembled program) : LocalProgram program := by
  induction assembled with
  | pure value => exact .pure value
  | bind step rest first later => exact .bind first later
  | lift result =>
      apply local_silent
      · intro console
        rfl
      · intro console input
        rfl
  | cout appends =>
      apply local_silent
      · intro console
        rfl
      · intro console input
        rfl
  | cerr appends =>
      apply local_silent
      · intro console
        rfl
      · intro console input
        rfl
  | @print write appends =>
      apply local_silent
      · intro console
        unfold Program.print
        cases write console.cout <;> rfl
      · intro console input
        change Program.print write { console with input } = _
        unfold Program.print
        cases write console.cout <;> rfl
  | readDieFace rollNumber rollCount =>
      exact readDieFace_local rollNumber rollCount
  | readCardDeck shuffleNumber => exact readCardDeck_local shuffleNumber

def endedWithInput (input : List Text) (ended : Ended) : Ended :=
  { ended with console := withInput input ended.console }

section Ends

variable (environment : Environment) (rest : List Text) (console : Console)
  (process : Process)

theorem handleException_withInput (failure : Failure) :
    handleException environment failure (withInput rest console) process =
      endedWithInput rest
        (handleException environment failure console process) := by
  unfold handleException
  cases failure.what environment.errorMessage <;> rfl

theorem handleException_input (failure : Failure) :
    (handleException environment failure console process).console.input =
      console.input := by
  unfold handleException
  cases failure.what environment.errorMessage <;> rfl

/-- The passphrase is not read through `std::cin`. -/
theorem showSeed_withInput (mnemonic : Text) :
    showSeed environment mnemonic (withInput rest console) process =
      endedWithInput rest (showSeed environment mnemonic console process) := by
  obtain ⟨input, cout, cerr⟩ := console
  unfold showSeed
  dsimp only [withInput]
  generalize readPassphrase environment.firstScript environment.secondScript []
    { process with cout } = entry
  cases entry.outcome with
  | waiting => rfl
  | killed signal => rfl
  | thrown failure =>
      exact handleException_withInput environment rest
        { input, cout := entry.process.cout, cerr } entry.process failure
  | returned =>
      dsimp only
      cases deriveSeed environment.openSsl environment.pkcs5Pbkdf2Hmac mnemonic
          entry.target with
      | error failure =>
          exact handleException_withInput environment rest
            { input, cout := entry.process.cout, cerr } entry.process failure
      | ok seed => rfl

/-- The part of `main` after the Tiny Seed. -/
def concludeRun (options : CommandLineOptions)
    (result : Except Failure Generated) : Ended :=
  match result with
  | .error failure => handleException environment failure console process
  | .ok generated =>
      if options.showSeed then
        showSeed environment generated.mnemonic console process
      else finishRun console process

theorem concludeRun_withInput (options : CommandLineOptions)
    (result : Except Failure Generated) :
    concludeRun environment (withInput rest console) process options result =
      endedWithInput rest
        (concludeRun environment console process options result) := by
  unfold concludeRun
  cases result with
  | error failure =>
      exact handleException_withInput environment rest console process failure
  | ok generated =>
      by_cases asked : options.showSeed = true
      · simp only [asked, if_true]
        exact showSeed_withInput environment rest console process
          generated.mnemonic
      · simp only [asked]
        rfl

theorem concludeRun_input (options : CommandLineOptions)
    (result : Except Failure Generated) :
    (concludeRun environment console process options result).console.input =
      console.input := by
  have same := concludeRun_withInput environment console.input console process
    options result
  exact congrArg (fun ended => ended.console.input) same

theorem main_concludes {options : CommandLineOptions}
    (parsed : parseCommandLine environment.stored = .ok options)
    (noHelp : ¬options.showHelp = true) :
    main environment console process =
      concludeRun environment (showMnemonic environment options console).2
        process options (showMnemonic environment options console).1 := by
  unfold main
  rw [parsed]
  dsimp only
  rw [if_neg noHelp]
  obtain ⟨result, after⟩ := showMnemonic environment options console
  cases result <;> rfl

end Ends

/-- A run either fails because a reader found the input at its end, or does
not depend on the input it leaves. -/
theorem main_ignores_rest (environment : Environment) (console : Console)
    (process : Process) :
    let ended := main environment console process
    (∃ used, console.input = used ++ ended.console.input ∧
      ∀ rest, main environment (withInput (used ++ rest) console) process =
        endedWithInput rest ended) ∨
    (ended.exit = .status 1 ∧ ended.console.input = [] ∧
      ∃ failure after, InputEnded failure ∧
        ended = handleException environment failure after process) := by
  dsimp only
  cases parsed : parseCommandLine environment.stored with
  | error failure =>
      left
      unfold main
      rw [parsed]
      refine ⟨[], ?_, ?_⟩
      · exact (handleException_input environment console process failure).symm
      · intro rest
        exact handleException_withInput environment rest console process failure
  | ok options =>
      by_cases help : options.showHelp = true
      · left
        unfold main
        simp only [parsed, help, if_true]
        exact ⟨[], rfl, fun rest => rfl⟩
      · simp only [main_concludes environment _ process parsed help]
        have isLocal := (showMnemonic_assembled environment options).isLocal
          console
        rcases isLocal with ⟨used, split, runs⟩ | ⟨⟨failure, failed, isEnd⟩, empty⟩
        · left
          refine ⟨used, ?_, ?_⟩
          · rw [concludeRun_input]
            exact split
          · intro rest
            have run : showMnemonic environment options
                (withInput (used ++ rest) console) = _ := runs rest
            rw [run]
            exact concludeRun_withInput environment rest _ process options _
        · right
          have thrown : (showMnemonic environment options console).1 =
              .error failure := failed
          rw [thrown]
          refine ⟨?_, ?_, failure, _, isEnd, rfl⟩
          · rcases isEnd with same | same
            · rw [same]
              rfl
            · rw [same]
              rfl
          · rw [concludeRun_input]
            exact empty

end Bip39
