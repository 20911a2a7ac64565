import Bip39.DisplayedForms
import Bip39.PassphraseRuns
import Bip39.Source.WholeProgram
import Bip39.Support.Outcomes

/-!
# The standard streams over a whole run

Output is only ever appended, and every insertion finds the streams without a
pending width and in their default base and fill: the hexadecimal output of one
section never reaches the numbers of the next.  Standard input is consumed from
the front.
-/

namespace Bip39

open Bip39.Source Bip39.Support

instance : Runs Program Console Failure where
  run program := program
  run_pure _ _ := rfl
  run_bind first next console := by
    cases run : first console with
    | mk result after =>
        cases result with
        | ok value => exact Program.bind_run_ok run
        | error failure => exact Program.bind_run_error run

/-- From a stream in its default format the other one is reached by appending,
and is in its default format too. -/
def StreamContinues (before after : OStream) : Prop :=
  ∀ written, before = { text := written } →
    ∃ piece, after = { text := written ++ piece }

theorem StreamContinues.refl (stream : OStream) :
    StreamContinues stream stream := by
  intro written plain
  exact ⟨[], by rw [plain, List.append_nil]⟩

theorem StreamContinues.trans {first second third : OStream}
    (start : StreamContinues first second)
    (rest : StreamContinues second third) : StreamContinues first third := by
  intro written plain
  obtain ⟨piece, reached⟩ := start written plain
  obtain ⟨more, finished⟩ := rest _ reached
  exact ⟨piece ++ more, by rw [finished, List.append_assoc]⟩

/-- An insertion chain that leaves no formatting behind. -/
def Appends (write : OStream → OStream) : Prop :=
  ∀ stream, StreamContinues stream (write stream)

namespace Appends

variable {write : OStream → OStream}

theorem id : Appends fun stream => stream :=
  StreamContinues.refl

theorem put (appends : Appends write) (item : Text) :
    Appends fun stream => (write stream).put item := by
  intro stream
  apply (appends stream).trans
  intro written plain
  refine ⟨item, ?_⟩
  rw [← OStream.put_mk, ← plain]

theorem putNat (appends : Appends write) (value : Nat) :
    Appends fun stream => (write stream).putNat value := by
  intro stream
  apply (appends stream).trans
  intro written plain
  refine ⟨digits 10 value, ?_⟩
  rw [← OStream.putNat_mk, ← plain]

theorem comp {next : OStream → OStream} (later : Appends next)
    (appends : Appends write) : Appends fun stream => next (write stream) := by
  intro stream
  exact (appends stream).trans (later (write stream))

end Appends

/-- A printing function that leaves no formatting behind when it succeeds. -/
def PrintAppends (write : OStream → Except Failure OStream) : Prop :=
  ∀ stream after, write stream = .ok after → StreamContinues stream after

structure ConsoleContinues (before after : Console) : Prop where
  cout : StreamContinues before.cout after.cout
  cerr : StreamContinues before.cerr after.cerr
  input : after.input <:+ before.input

namespace ConsoleContinues

theorem refl (console : Console) : ConsoleContinues console console :=
  ⟨.refl _, .refl _, List.suffix_refl _⟩

theorem trans (first second third : Console)
    (start : ConsoleContinues first second)
    (rest : ConsoleContinues second third) : ConsoleContinues first third :=
  ⟨start.cout.trans rest.cout, start.cerr.trans rest.cerr,
    rest.input.trans start.input⟩

end ConsoleContinues

theorem promptRoll_appends (rollNumber rollCount : Nat) :
    Appends (promptRoll rollNumber rollCount) :=
  ((((Appends.id.put _).putNat _).put _).putNat _).put _

theorem readDieFace_continuing (rollNumber rollCount : Nat) :
    Keeps ConsoleContinues (readDieFace rollNumber rollCount) := by
  have lines : ∀ (input : List Text) (cout cerr : OStream),
      ConsoleContinues { input, cout, cerr }
        (readDieFaceFrom rollNumber rollCount cout cerr input).2 := by
    intro input
    induction input with
    | nil =>
        intro cout cerr
        exact ⟨promptRoll_appends _ _ cout, .refl _, List.suffix_refl _⟩
    | cons line input induction =>
        intro cout cerr
        have asked := promptRoll_appends rollNumber rollCount cout
        rw [readDieFaceFrom]
        cases dieFace line with
        | some face => exact ⟨asked, .refl _, List.suffix_cons _ _⟩
        | none =>
            have later := induction (promptRoll rollNumber rollCount cout)
              (cerr.put (text
                "Please enter one die result from 1 through 6.\n"))
            exact ⟨asked.trans later.cout,
              (Appends.id.put _ cerr).trans later.cerr,
              later.input.trans (List.suffix_cons _ _)⟩
  intro console
  exact lines console.input console.cout console.cerr

theorem promptCard_appends (shuffleNumber position : Nat) :
    Appends (promptCard shuffleNumber position) :=
  ((((((Appends.id.put _).putNat _).put _).putNat _).put _).putNat _).put _

/-- What is reported about a line that brings no new card. -/
theorem acceptCard_continues {reader next : DeckReader} {cerr after : OStream}
    {line : Text}
    (accepted : acceptCard reader cerr line = .ok (next, after)) :
    StreamContinues cerr after := by
  unfold acceptCard at accepted
  split at accepted
  · split at accepted
    · cases accepted
      exact ((Appends.id.put _).put _).put _ cerr
    · cases accepted
      exact .refl _
  · cases accepted
    exact (Appends.id.put _).put _ cerr
  · cases accepted

theorem readCardDeck_continuing (shuffleNumber : Nat) :
    Keeps ConsoleContinues (readCardDeck shuffleNumber) := by
  have lines : ∀ (input : List Text) (reader : DeckReader)
      (cout cerr : OStream),
      ConsoleContinues { input, cout, cerr }
        (readCardDeckFrom shuffleNumber reader cout cerr input).2 := by
    intro input
    induction input with
    | nil =>
        intro reader cout cerr
        rw [readCardDeckFrom]
        split
        · exact ⟨promptCard_appends _ _ cout, .refl _, List.suffix_refl _⟩
        · exact .refl _
    | cons line input induction =>
        intro reader cout cerr
        rw [readCardDeckFrom]
        split
        · have asked := promptCard_appends shuffleNumber reader.position cout
          cases accepted : acceptCard reader cerr line with
          | error failure =>
              simp only [accepted]
              exact ⟨asked, .refl _, List.suffix_cons _ _⟩
          | ok result =>
              obtain ⟨next, after⟩ := result
              simp only [accepted]
              have later := induction next
                (promptCard shuffleNumber reader.position cout) after
              exact ⟨asked.trans later.cout,
                (acceptCard_continues accepted).trans later.cerr,
                later.input.trans (List.suffix_cons _ _)⟩
        · exact .refl _
  intro console
  exact lines console.input {} console.cout console.cerr

/-- The programs made of the readers, of insertions that leave no formatting
behind and of calls that do not touch the console. -/
inductive Assembled : {α : Type} → Program α → Prop where
  | pure {α : Type} (value : α) : Assembled (Pure.pure value)
  | bind {α β : Type} {first : Program α} {next : α → Program β}
      (step : Assembled first) (rest : ∀ value, Assembled (next value)) :
      Assembled (first >>= next)
  | lift {α : Type} (result : Except Failure α) :
      Assembled (Program.lift result)
  | cout {write : OStream → OStream} (appends : Appends write) :
      Assembled (Program.cout write)
  | cerr {write : OStream → OStream} (appends : Appends write) :
      Assembled (Program.cerr write)
  | print {write : OStream → Except Failure OStream}
      (appends : PrintAppends write) : Assembled (Program.print write)
  | readDieFace (rollNumber rollCount : Nat) :
      Assembled (readDieFace rollNumber rollCount)
  | readCardDeck (shuffleNumber : Nat) : Assembled (readCardDeck shuffleNumber)

namespace Assembled

theorem forCount {α : Type} {count : Nat} {body : Nat → α → Program α}
    {init : α} (step : ∀ index value, Assembled (body index value)) :
    Assembled (Support.forCount count body init) := by
  induction count with
  | zero => exact .pure init
  | succ count induction =>
      rw [forCount_succ]
      exact .bind induction fun value => step count value

/-- Every run of an assembled program continues its streams. -/
theorem continuing {α : Type} {program : Program α}
    (assembled : Assembled program) : Keeps ConsoleContinues program := by
  induction assembled with
  | pure value => exact .pure ConsoleContinues.refl value
  | bind step rest first later =>
      exact Keeps.bind ConsoleContinues.trans first later
  | lift result => exact ConsoleContinues.refl
  | cout appends =>
      intro console
      exact ⟨appends console.cout, .refl _, List.suffix_refl _⟩
  | cerr appends =>
      intro console
      exact ⟨.refl _, appends console.cerr, List.suffix_refl _⟩
  | @print write appends =>
      intro console
      change ConsoleContinues console (Program.print write console).2
      unfold Program.print
      cases printed : write console.cout with
      | ok cout =>
          exact ⟨appends _ _ printed, .refl _, List.suffix_refl _⟩
      | error failure => exact .refl console
  | readDieFace rollNumber rollCount =>
      exact readDieFace_continuing rollNumber rollCount
  | readCardDeck shuffleNumber => exact readCardDeck_continuing shuffleNumber

end Assembled

theorem readMixedDiceRolls_assembled (rollCount : Nat) :
    Assembled (readMixedDiceRolls rollCount) := by
  apply Assembled.forCount
  intro index rolls
  apply Assembled.bind (.readDieFace _ _)
  exact fun face => Assembled.pure _

theorem readAsciiDiceRolls_assembled (rollCount : Nat) :
    Assembled (readAsciiDiceRolls rollCount) := by
  apply Assembled.forCount
  intro index rolls
  apply Assembled.bind (.readDieFace _ _)
  exact fun face => Assembled.pure _

section Modes

variable (openSsl : OpenSsl) (byteCount : Nat)

theorem generateMixedDiceEntropy_assembled :
    Assembled (generateMixedDiceEntropy openSsl byteCount) := by
  apply Assembled.bind (.lift _)
  intro rollCount
  apply Assembled.bind (.cout
    (((((Appends.id.put _).putNat _).put _).putNat _).put _ |>.put _))
  intro
  apply Assembled.bind (readMixedDiceRolls_assembled rollCount)
  intro rolls
  apply Assembled.bind (.lift _)
  exact fun systemRandom => Assembled.lift _

theorem generateDiceOnlyEntropy_assembled :
    Assembled (generateDiceOnlyEntropy openSsl byteCount) := by
  apply Assembled.bind (.lift _)
  intro rollCount
  apply Assembled.bind (.cout
    (((((Appends.id.put _).putNat _).put _).putNat _).put _ |>.put _ |>.put _))
  intro
  apply Assembled.bind (readAsciiDiceRolls_assembled rollCount)
  exact fun rolls => Assembled.lift _

theorem cardEntryInstructions_appends : Appends cardEntryInstructions :=
  (((Appends.id.put _).put _).put _).put _

theorem generateMixedCardEntropy_assembled :
    Assembled (generateMixedCardEntropy openSsl byteCount) := by
  apply Assembled.bind (.cout
    ((((Appends.id.put _).putNat _).put _).put _))
  intro
  apply Assembled.bind (.cout cardEntryInstructions_appends)
  intro
  apply Assembled.bind (.readCardDeck 1)
  intro deck
  apply Assembled.bind (.lift _)
  exact fun systemRandom => Assembled.lift _

theorem generateCardsOnlyEntropy_assembled :
    Assembled (generateCardsOnlyEntropy openSsl byteCount) := by
  apply Assembled.bind (.lift _)
  intro deckCount
  apply Assembled.bind (.cout
    ((((((Appends.id.put _).putNat _).put _).put _).putNat _).put _ |>.put _))
  intro
  apply Assembled.bind (.cout cardEntryInstructions_appends)
  intro
  apply Assembled.bind (.readCardDeck 1)
  intro firstDeck
  split
  · exact Assembled.lift _
  · apply Assembled.bind (.cout
      (((Appends.id.put _).put _).put _))
    intro
    apply Assembled.bind (.readCardDeck 2)
    exact fun secondDeck => Assembled.lift _

theorem dispatchEntropy_assembled (options : ProgramOptions) :
    Assembled (dispatchEntropy options openSsl byteCount) := by
  have path : ∀ announcement : Text, Assembled
      (Program.cerr fun stream => stream.put announcement) := by
    intro announcement
    exact .cerr (Appends.id.put _)
  unfold dispatchEntropy
  split
  · exact Assembled.bind (path _) fun _ =>
      generateCardsOnlyEntropy_assembled openSsl byteCount
  · split
    · exact Assembled.bind (path _) fun _ =>
        generateMixedCardEntropy_assembled openSsl byteCount
    · split
      · exact Assembled.bind (path _) fun _ =>
          generateDiceOnlyEntropy_assembled openSsl byteCount
      · split
        · exact Assembled.bind (path _) fun _ =>
            generateMixedDiceEntropy_assembled openSsl byteCount
        · apply Assembled.bind
            (.cerr (((Appends.id.put _).put _).put _))
          exact fun _ => Assembled.lift _

end Modes

theorem generateMnemonic_assembled (options : ProgramOptions)
    (openSsl : OpenSsl) (words : List Text) :
    Assembled (generateMnemonic options openSsl words) := by
  apply Assembled.bind (.lift _)
  intro byteCount
  apply Assembled.bind (dispatchEntropy_assembled openSsl byteCount options)
  intro entropy
  apply Assembled.bind (.lift _)
  intro digest
  apply Assembled.bind (.lift _)
  intro indices
  apply Assembled.bind (.lift _)
  exact fun mnemonic => Assembled.pure _

theorem printAppends_forCount {count : Nat}
    {body : Nat → OStream → Except Failure OStream}
    (step : ∀ index, PrintAppends (body index)) :
    PrintAppends (forCount count body) := by
  intro stream after run
  rcases forCount_run count body stream
    (fun _ reached => StreamContinues stream reached) (.refl stream)
    (fun index _ reached next held more => held.trans (step index _ _ more))
    with ⟨final, finished, held⟩ | ⟨_, _, failure, _, _, _, failed⟩
  · rw [run] at finished
    cases finished
    exact held
  · rw [run] at failed
    cases failed

/-- The base and the fill character are put back after hexadecimal output. -/
theorem hexBytes_appends (bytes : Bytes) :
    Appends fun stream =>
      (bytes.foldl putHexByte stream).dec.setfill (chr ' ') := by
  intro stream written plain
  have unpadded : stream.width = 0 := by rw [plain]
  refine ⟨bytes.flatMap hexPair, (putHexBytes_eq bytes unpadded).trans ?_⟩
  rw [plain]

theorem printEntropyAndChecksum_appends (entropy : Bytes) (digest : Digest) :
    PrintAppends (printEntropyAndChecksum entropy digest) := by
  intro stream after run
  obtain ⟨checked, loop, rest⟩ := bind_eq_ok.mp run
  cases rest
  have header := (((hexBytes_appends entropy).comp
    ((Appends.id.put (text "\n    BIP-39 Internals\n\n")).put
      (text "Entropy:      "))).put [chr '\n']).put (text "Checksum:     ")
  refine ((header stream).trans (printAppends_forCount ?_ _ _ loop)).trans
    (((((((Appends.id.put _).put _).putNat _).put _).put _).putNat _).put _
      checked)
  intro bit stream next printed
  obtain ⟨value, -, written⟩ := bind_eq_ok.mp printed
  cases written
  exact Appends.id.put _ stream

theorem printMnemonic_appends (words : List Text) (indices : List UInt16) :
    PrintAppends (printMnemonic words indices) := by
  intro stream after run
  refine (Appends.id.put _ stream).trans (printAppends_forCount ?_ _ _ run)
  intro position stream next printed
  obtain ⟨index, -, printed⟩ := bind_eq_ok.mp printed
  obtain ⟨word, -, printed⟩ := bind_eq_ok.mp printed
  cases printed
  intro written plain
  refine ⟨rowLabel position ++ word ++ [chr '\n'], ?_⟩
  rw [plain, rowLabel_printed, OStream.put_mk, OStream.put_mk]
  simp

theorem printTinySeedRow_appends (index : UInt16) :
    PrintAppends (printTinySeedRow index) := by
  apply printAppends_forCount
  intro position stream next printed
  obtain ⟨value, -, printed⟩ := bind_eq_ok.mp printed
  cases printed
  exact Appends.id.put _ stream

theorem printTinySeed_appends (indices : List UInt16) :
    PrintAppends (printTinySeed indices) := by
  intro stream after run
  refine (Appends.id.put _ stream).trans (printAppends_forCount ?_ _ _ run)
  intro position stream next printed
  obtain ⟨index, -, printed⟩ := bind_eq_ok.mp printed
  obtain ⟨row, cells, printed⟩ := bind_eq_ok.mp printed
  cases printed
  have labelled : StreamContinues stream
      (((stream.setw 6).putNat (position + 1)).put (text ") ")) := by
    intro written plain
    exact ⟨rowLabel position, by rw [plain, rowLabel_printed]⟩
  exact (labelled.trans (printTinySeedRow_appends index _ _ cells)).trans
    (Appends.id.put _ row)

theorem showMnemonic_assembled (environment : Environment)
    (options : CommandLineOptions) :
    Assembled (showMnemonic environment options) := by
  apply Assembled.bind (.lift _)
  intro words
  apply Assembled.bind (generateMnemonic_assembled _ _ words)
  intro generated
  have pages : Assembled (do
      Program.print (printMnemonic words generated.indices)
      Program.print (printTinySeed generated.indices)
      return generated) := by
    apply Assembled.bind (.print (printMnemonic_appends _ _))
    intro
    apply Assembled.bind (.print (printTinySeed_appends _))
    exact fun _ => Assembled.pure _
  split
  · apply Assembled.bind
      (.print (printEntropyAndChecksum_appends _ _))
    exact fun _ => pages
  · exact pages

theorem printSeedDerivation_appends (mnemonic : Text) (hasPassphrase : Bool)
    (seed : Seed) :
    Appends (printSeedDerivation mnemonic hasPassphrase seed) :=
  ((((hexBytes_appends seed.bytes).comp
    ((((((((Appends.id.put _).put _).put _).put _).put _).put _).put _).put
      _)).put _).put _).put _

theorem readHiddenLine_continues (script : Script) (prompt target : Text)
    (process : Process) :
    StreamContinues process.cout
      (readHiddenLine script prompt target process).process.cout := by
  have prompted := Appends.id.put prompt process.cout
  have ended := (Appends.id.put prompt).put [chr '\n'] process.cout
  rcases readHiddenLine_runs script prompt target process with
    ⟨failure, flag, -, run⟩ | ⟨exit, flag, -, run⟩
  · rw [run]
    exact prompted
  · rw [run]
    cases exit with
    | waiting => exact prompted
    | thrown failure => exact prompted
    | broke rest signalNumber =>
        cases signalNumber with
        | none => exact ended
        | some signal =>
            rw [finishLine, raiseLine_cout]
            exact ended

theorem readPassphrase_continues (first second : Script) (passphrase : Text)
    (process : Process) :
    StreamContinues process.cout
      (readPassphrase first second passphrase process).process.cout := by
  have entered := readHiddenLine_continues first
    (text "BIP-39 passphrase (empty for none): ") passphrase process
  have confirmed := entered.trans (readHiddenLine_continues second
    (text "Confirm passphrase: ") [] _)
  unfold readPassphrase
  dsimp only
  split
  · exact entered
  · exact entered
  · exact entered
  · split
    · exact entered
    · split <;> exact confirmed

theorem handleException_continues (environment : Environment)
    (failure : Failure) (console : Console) (process : Process) :
    ConsoleContinues console
      (handleException environment failure console process).console := by
  unfold handleException
  split
  · exact ⟨.refl _, ((Appends.id.put _).put _).put _ console.cerr,
      List.suffix_refl _⟩
  · exact .refl console

theorem finishRun_continues (console : Console) (process : Process) :
    ConsoleContinues console (finishRun console process).console :=
  ⟨Appends.id.put _ console.cout, .refl _, List.suffix_refl _⟩

theorem showSeed_continues (environment : Environment) (mnemonic : Text)
    (console : Console) (process : Process) :
    ConsoleContinues console
      (showSeed environment mnemonic console process).console := by
  have entered := readPassphrase_continues environment.firstScript
    environment.secondScript [] { process with cout := console.cout }
  unfold showSeed
  generalize readPassphrase environment.firstScript environment.secondScript []
    { process with cout := console.cout } = entry at entered ⊢
  have between : ConsoleContinues console
      { console with cout := entry.process.cout } :=
    ⟨entered, .refl _, List.suffix_refl _⟩
  dsimp only
  split
  · exact between
  · exact between
  · exact between.trans _ _ _ (handleException_continues ..)
  · split
    · exact between.trans _ _ _ (handleException_continues ..)
    · rename_i seed derived
      refine between.trans _ _ _ (ConsoleContinues.trans _
        { console with
          cout := printSeedDerivation mnemonic (entry.target ≠ []) seed
            entry.process.cout } _ ?_ (finishRun_continues ..))
      exact ⟨printSeedDerivation_appends _ _ _ _, .refl _, List.suffix_refl _⟩

theorem main_continues (environment : Environment) (console : Console)
    (process : Process) :
    ConsoleContinues console (main environment console process).console := by
  unfold main
  split
  · exact handleException_continues ..
  · rename_i options accepted
    split
    · refine ⟨?_, .refl _, List.suffix_refl _⟩
      exact ((((Appends.id.put _).put _).put _).put _).put _ console.cout
    · have shown := (showMnemonic_assembled environment options).continuing console
      change ConsoleContinues console (showMnemonic environment options
        console).2 at shown
      generalize showMnemonic environment options console = result at shown ⊢
      obtain ⟨outcome, after⟩ := result
      cases outcome with
      | error failure =>
          exact shown.trans _ _ _ (handleException_continues ..)
      | ok generated =>
          dsimp only
          split
          · exact shown.trans _ _ _ (showSeed_continues ..)
          · exact shown.trans _ _ _ (finishRun_continues ..)

/-- Whatever happens in a run, it only appends to its output streams, leaves
them in their default format, and consumes standard input from the front. -/
theorem main_streams (environment : Environment) (input : List Text)
    (out err : Text) (process : Process) :
    ∃ printed reported used,
      let ended := main environment
        { input, cout := { text := out }, cerr := { text := err } } process
      ended.console.cout = { text := out ++ printed } ∧
        ended.console.cerr = { text := err ++ reported } ∧
        input = used ++ ended.console.input := by
  have continued := main_continues environment
    { input, cout := { text := out }, cerr := { text := err } } process
  obtain ⟨printed, cout⟩ := continued.cout out rfl
  obtain ⟨reported, cerr⟩ := continued.cerr err rfl
  obtain ⟨used, split⟩ := continued.input
  exact ⟨printed, reported, used, cout, cerr, split.symm⟩

end Bip39
