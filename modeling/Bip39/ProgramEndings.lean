import Bip39.SeedDerivation
import Bip39.SessionRefinement

/-!
# How a run of the program ends

A run ends with status 0, waits for a passphrase, is killed by a signal, or ends
with status 1 and an error message whose cause lies outside the program: in its
arguments, its files, its input, the terminal or OpenSSL.  The internal checks
never fail, and no object is accessed outside its bounds.
-/

namespace Bip39

open Bip39.Source Bip39.Support

/-- The failures of `sha256`. -/
inductive HashFailure (openSsl : OpenSsl) : Failure → Prop where
  | refused {data : Bytes} (answer : openSsl.evpDigest data = none) :
      HashFailure openSsl (.runtimeError
        (text "SHA-256 failed: " ++ opensslErrorMessage openSsl))
  | length {data written : Bytes}
      (answer : openSsl.evpDigest data = some written)
      (other : written.length ≠ sha256Size) :
      HashFailure openSsl
        (.runtimeError (text "SHA-256 returned an unexpected length"))

/-- Why there is no wordlist. -/
inductive WordlistFailure (environment : Environment) (filename : Text) :
    Failure → Prop where
  | unopened (missing : environment.file filename = none) :
      WordlistFailure environment filename
        (.runtimeError (text "could not open wordlist file: " ++ filename))
  | emptyLine {bytes : Bytes} (opened : environment.file filename = some bytes)
      (empty : [] ∈ fileLines bytes) :
      WordlistFailure environment filename
        (.runtimeError (text "wordlist contains an empty line"))
  | size {bytes : Bytes} (opened : environment.file filename = some bytes)
      (other : (fileLines bytes).length ≠ 2048) :
      WordlistFailure environment filename (.runtimeError
        (text "wordlist must contain exactly 2048 words; found " ++
          digits 10 (fileLines bytes).length))
  | repeated {bytes : Bytes} (opened : environment.file filename = some bytes)
      (twice : ¬(fileLines bytes).Nodup) :
      WordlistFailure environment filename
        (.runtimeError (text "wordlist contains duplicate words"))

/-- Why a session has no secret. -/
inductive SessionFailure (environment : Environment)
    (options : CommandLineOptions) (mode : EntropyMode) (strength : Strength)
    (lines : List Text) : Failure → Prop where
  | wordlist {failure : Failure} (external : options.wordlistFilename ≠ [])
      (cause : WordlistFailure environment options.wordlistFilename failure) :
      SessionFailure environment options mode strength lines failure
  | mixedRolls (selected : mode = .mixedDice)
      (short : facesIn lines < strength.mixedRolls) :
      SessionFailure environment options mode strength lines diceEnded
  | onlyRolls (selected : mode = .diceOnly)
      (short : facesIn lines < strength.onlyRolls) :
      SessionFailure environment options mode strength lines diceEnded
  | firstDeck (selected : mode = .mixedCards ∨ mode = .cardsOnly)
      (short : cardsIn lines < cardsPerDeck) :
      SessionFailure environment options mode strength lines cardsEnded
  | secondDeck {used rest : List Text} (selected : mode = .cardsOnly)
      (strongest : strength = .bits256) (split : lines = used ++ rest)
      (reaches : Reaches cardsIn cardsPerDeck used)
      (short : cardsIn rest < cardsPerDeck) :
      SessionFailure environment options mode strength lines cardsEnded
  | sameOrdering (selected : mode = .cardsOnly)
      (strongest : strength = .bits256) :
      SessionFailure environment options mode strength lines sameOrdering
  | randomness {count : Nat} (selected : ¬mode.Physical)
      (refused : environment.openSsl.randPrivBytes count = none) :
      SessionFailure environment options mode strength lines (.runtimeError
        (text "RAND_priv_bytes failed: " ++
          opensslErrorMessage environment.openSsl))
  | hashing {failure : Failure}
      (cause : HashFailure environment.openSsl failure) :
      SessionFailure environment options mode strength lines failure

section Plans

variable {α β : Type} {good : β × List Text → Prop} {cause : Failure → Prop}
  {lines : List Text}

theorem plan_bind_ends {plan : Plan α} {next : α → Plan β}
    (step : Outcome (fun _ => True) cause (plan lines))
    (rest : ∀ value after, Outcome good cause (next value after)) :
    Outcome good cause ((plan >>= next) lines) :=
  step.bind fun result _ => rest result.1 result.2

theorem plan_only_ends {result : Except Failure α}
    (step : Outcome (fun _ => True) cause result) :
    Outcome (fun _ => True) cause (Plan.lift result lines) := by
  cases result with
  | error failure => exact step
  | ok value => trivial

theorem plan_lift_ends {result : Except Failure α} {next : α → Plan β}
    (step : Outcome (fun _ => True) cause result)
    (rest : ∀ value, Outcome good cause (next value lines)) :
    Outcome good cause ((Plan.lift result >>= next) lines) := by
  cases result with
  | error failure => exact step
  | ok value => exact rest value

end Plans

theorem wordlist_ends (environment : Environment) (filename : Text)
    {bytes : Bytes} (opened : environment.file filename = some bytes) :
    Outcome (fun _ => True) (WordlistFailure environment filename)
      (Wordlist.ofLines (fileLines bytes)) := by
  unfold Wordlist.ofLines
  split
  · split
    · split
      · trivial
      · rename_i twice
        exact .repeated opened twice
    · rename_i other
      exact .size opened other
  · rename_i nonempty
    apply WordlistFailure.emptyLine opened
    by_contra absent
    apply nonempty
    rintro word member rfl
    exact absent member

theorem sha256_ends (openSsl : OpenSsl) (data : Bytes) :
    Outcome (fun _ => True) (HashFailure openSsl) (sha256 openSsl data) := by
  unfold sha256
  split
  · rename_i answer
    exact .refused answer
  · rename_i answer
    split
    · trivial
    · rename_i other
      exact .length answer other

theorem takeRolls_ends (keep : UInt8 → UInt8) (count : Nat)
    (lines : List Text) :
    Outcome (fun _ => True)
      (fun failure => failure = diceEnded ∧ facesIn lines < count)
      (takeRolls keep count lines) := by
  by_cases enough : count ≤ facesIn lines
  · obtain ⟨used, rest, rfl, reaches⟩ := facesIn_gradual.exists_reaches enough
    rw [takeRolls, splitReaching_of_reaches reaches]
    trivial
  · have short := Nat.lt_of_not_le enough
    rw [takeRolls, splitReaching_of_short facesIn_gradual short]
    exact ⟨rfl, short⟩

theorem takeDeck_ends (lines : List Text) :
    Outcome
      (fun taken => ∃ used, lines = used ++ taken.2 ∧
        Reaches cardsIn cardsPerDeck used)
      (fun failure => failure = cardsEnded ∧ cardsIn lines < cardsPerDeck)
      (takeDeck lines) := by
  rcases deckLines_cases lines with
    ⟨short, found⟩ | ⟨used, rest, split, reaches, found⟩
  · rw [takeDeck, found]
    exact ⟨rfl, short⟩
  · rw [takeDeck, found]
    exact ⟨used, split, reaches⟩

section Session

variable {environment : Environment} {options : CommandLineOptions}
  {strength : Strength}

theorem entries_ends (mode : EntropyMode) (lines : List Text) :
    Outcome (fun _ => True)
      (SessionFailure environment options mode strength lines)
      (mode.entries strength lines) := by
  cases mode with
  | system => trivial
  | mixedDice =>
      apply (takeRolls_ends _ _ lines).imp (fun _ _ => trivial)
      rintro failure ⟨rfl, short⟩
      exact .mixedRolls rfl short
  | diceOnly =>
      apply (takeRolls_ends _ _ lines).imp (fun _ _ => trivial)
      rintro failure ⟨rfl, short⟩
      exact .onlyRolls rfl short
  | mixedCards =>
      apply (takeDeck_ends lines).imp (fun _ _ => trivial)
      rintro failure ⟨rfl, short⟩
      exact .firstDeck (.inl rfl) short
  | cardsOnly =>
      change Outcome _ _ (takeDeck lines >>= fun taken => _)
      refine Outcome.bind ((takeDeck_ends lines).imp (fun _ first => first) ?_) ?_
      · rintro failure ⟨rfl, short⟩
        exact .firstDeck (.inr rfl) short
      · rintro ⟨first, rest⟩ ⟨used, split, reaches⟩
        by_cases two : strength = .bits256
        · simp only [two, if_true]
          change Outcome _ _ (takeDeck rest >>= fun taken => _)
          refine Outcome.bind
            ((takeDeck_ends rest).imp (fun _ _ => trivial) ?_) ?_
          · rintro failure ⟨rfl, short⟩
            exact .secondDeck rfl rfl split reaches short
          · rintro ⟨second, after⟩ -
            by_cases same : first = second
            · simp only [same, if_true]
              exact .sameOrdering rfl rfl
            · simp only [same, if_false]
              trivial
        · simp only [two, if_false]
          trivial

theorem drawn_ends (openSsl : OpenSsl) (count : Nat) :
    Outcome (fun _ => True)
      (fun failure => openSsl.randPrivBytes count = none ∧
        failure = .runtimeError
          (text "RAND_priv_bytes failed: " ++ opensslErrorMessage openSsl))
      (drawn openSsl count) := by
  unfold drawn
  split
  · rename_i refused
    exact ⟨refused, rfl⟩
  · trivial

theorem condition_ends (mode : EntropyMode) (entered : Bytes)
    (lines : List Text) :
    Outcome (fun _ => True)
      (SessionFailure environment options mode strength lines)
      (mode.condition environment.openSsl strength entered) := by
  have draws : ∀ count, ¬mode.Physical →
      Outcome (fun _ => True)
        (SessionFailure environment options mode strength lines)
        (drawn environment.openSsl count) := by
    intro count selected
    apply (drawn_ends environment.openSsl count).imp (fun _ _ => trivial)
    rintro failure ⟨refused, rfl⟩
    exact .randomness selected refused
  have hashes : ∀ input,
      Outcome (fun _ => True)
        (SessionFailure environment options mode strength lines)
        (do
          let digest ← sha256 environment.openSsl input
          return Entropy.ofDigest strength digest) := by
    intro input
    apply Outcome.bind
    · apply (sha256_ends environment.openSsl input).imp (fun _ _ => trivial)
      exact fun failure cause => .hashing cause
    · exact fun _ _ => trivial
  cases mode with
  | system => exact (draws _ id).bind fun _ _ => trivial
  | mixedDice => exact (draws _ id).bind fun _ _ => hashes _
  | diceOnly => exact hashes _
  | mixedCards => exact (draws _ id).bind fun _ _ => hashes _
  | cardsOnly => exact hashes _

/-- Everything that can keep a session from its secret. -/
theorem session_ends (mode : EntropyMode) (lines : List Text) :
    Outcome (fun _ => True)
      (SessionFailure environment options mode strength lines)
      (session environment options mode strength lines) := by
  have wordlist : Outcome (fun _ => True)
      (SessionFailure environment options mode strength lines)
      (chosenWordlist environment options) := by
    unfold chosenWordlist
    split
    · trivial
    · rename_i external
      split
      · rename_i missing
        exact .wordlist external (.unopened missing)
      · rename_i bytes opened
        apply (wordlist_ends environment _ opened).imp (fun _ _ => trivial)
        exact fun failure cause => .wordlist external cause
  apply plan_lift_ends wordlist
  intro wordlist
  apply plan_bind_ends
  · apply plan_bind_ends
    · apply plan_bind_ends (entries_ends mode lines)
      intro entered rest
      apply plan_only_ends
      exact condition_ends mode entered lines
    · intro entropy rest
      apply plan_lift_ends
      · apply (sha256_ends environment.openSsl entropy.bytes).imp
          (fun _ _ => trivial)
        exact fun failure cause => .hashing cause
      · exact fun _ => trivial
  · exact fun _ _ => trivial

end Session

/-- Why there is no seed. -/
inductive SeedFailure (environment : Environment)
    (options : CommandLineOptions) : Failure → Prop where
  | mnemonic (external : options.wordlistFilename ≠ []) :
      SeedFailure environment options (.invalidArgument
        (text "mnemonic" ++ text " must contain ASCII characters only"))
  | passphrase :
      SeedFailure environment options (.invalidArgument
        (text "passphrase" ++ text " must contain ASCII characters only"))
  | tooLarge :
      SeedFailure environment options
        (.lengthError (text "BIP-39 input is too large"))
  | refused {call : Pbkdf2Call}
      (answer : environment.pkcs5Pbkdf2Hmac call = none) :
      SeedFailure environment options (.runtimeError
        (text "PBKDF2-HMAC-SHA512 failed: " ++
          opensslErrorMessage environment.openSsl))

/-- Everything that can make a run fail, apart from a signal. -/
inductive RunFailure (environment : Environment) (input : List Text) :
    Failure → Prop where
  | arguments {message : Text} (stored : environment.stored = .error message) :
      RunFailure environment input (.logicError message)
  | exclusive {options : CommandLineOptions}
      (stored : environment.stored = .ok options)
      (several : (modeFlags options.toProgramOptions).count true > 1) :
      RunFailure environment input (.invalidArgument (text
        ("--dice, --dice-only, --cards, and --cards-only are mutually " ++
          "exclusive")))
  | wordCount {options : CommandLineOptions}
      (stored : environment.stored = .ok options)
      (unsupported : options.wordCount ∉ [12, 15, 18, 21, 24]) :
      RunFailure environment input (.invalidArgument
        (text "word count must be 12, 15, 18, 21, or 24"))
  | session {options : CommandLineOptions} {mode : EntropyMode}
      {strength : Strength} {failure : Failure}
      (stored : environment.stored = .ok options)
      (accepted : Accepted options mode strength)
      (cause : SessionFailure environment options mode strength input failure) :
      RunFailure environment input failure
  | passphrase {options : CommandLineOptions} {failure : Failure}
      (stored : environment.stored = .ok options)
      (asked : options.showSeed = true)
      (cause : EntryFailure environment.firstScript failure ∨
        EntryFailure environment.secondScript failure ∨ failure = mismatch) :
      RunFailure environment input failure
  | seed {options : CommandLineOptions} {failure : Failure}
      (stored : environment.stored = .ok options)
      (asked : options.showSeed = true)
      (cause : SeedFailure environment options failure) :
      RunFailure environment input failure

/-- Every failure that is known has a text: no object is accessed outside its
bounds. -/
theorem RunFailure.what {environment : Environment} {input : List Text}
    {failure : Failure} (cause : RunFailure environment input failure) :
    ∃ what, failure.what environment.errorMessage = some what := by
  cases cause with
  | arguments stored => exact ⟨_, rfl⟩
  | exclusive stored several => exact ⟨_, rfl⟩
  | wordCount stored unsupported => exact ⟨_, rfl⟩
  | session stored accepted cause =>
      cases cause with
      | wordlist external cause => cases cause <;> exact ⟨_, rfl⟩
      | hashing cause => cases cause <;> exact ⟨_, rfl⟩
      | _ => exact ⟨_, rfl⟩
  | passphrase stored asked cause =>
      rcases cause with cause | cause | rfl
      · cases cause <;> exact ⟨_, rfl⟩
      · cases cause <;> exact ⟨_, rfl⟩
      · exact ⟨_, rfl⟩
  | seed stored asked cause => cases cause <;> exact ⟨_, rfl⟩

/-- The run ends with status 1, and the last line of its errors is this one. -/
def Reports (what : Text) (ended : Ended) : Prop :=
  ended.exit = .status 1 ∧
    text "Error: " ++ what ++ [chr '\n'] <:+ ended.console.cerr.text

/-- The handlers and the terminal are as they were. -/
structure Restored (before after : Process) : Prop where
  handlers : after.handlers = before.handlers
  terminal : after.terminal = before.terminal

/-- All the ways in which a run can end. -/
inductive RunEnds (environment : Environment) (input : List Text)
    (process : Process) (ended : Ended) : Prop where
  | finished (exit : ended.exit = .status 0)
      (restored : Restored process ended.process)
      (silent : ended.process.raised = process.raised)
  | failed {failure : Failure} {what : Text}
      (cause : RunFailure environment input failure)
      (text : failure.what environment.errorMessage = some what)
      (reports : Reports what ended)
      (restored : Restored process ended.process)
      (silent : ended.process.raised = process.raised)
  | killed {options : CommandLineOptions} {signal : Signal}
      (stored : environment.stored = .ok options)
      (asked : options.showSeed = true)
      (arrived : Delivered signal (timeline environment.firstScript) ∨
        Delivered signal (timeline environment.secondScript))
      (action : process.handlers signal = .defaultAction)
      (exit : ended.exit = .killed signal)
      (restored : Restored process ended.process)
      (raised : ended.process.raised = process.raised ++
        [{ signal, handlers := process.handlers, terminal := process.terminal }])
  | interrupted {options : CommandLineOptions} {signal : Signal}
      (stored : environment.stored = .ok options)
      (asked : options.showSeed = true)
      (arrived : Delivered signal (timeline environment.firstScript) ∨
        Delivered signal (timeline environment.secondScript))
      (action : process.handlers signal ≠ .defaultAction)
      (reports : Reports (text "passphrase entry interrupted") ended)
      (restored : Restored process ended.process)
      (raised : ended.process.raised = process.raised ++
        [{ signal, handlers := process.handlers, terminal := process.terminal }])
  | waiting {options : CommandLineOptions}
      (stored : environment.stored = .ok options)
      (asked : options.showSeed = true)
      (idle : Idle environment.firstScript ∨ Idle environment.secondScript)
      (exit : ended.exit = .waiting)
      (handlers : ended.process.handlers = fun _ => .rememberSignal)
      (terminal : ended.process.terminal =
        { process.terminal with echo := false, echonl := false })
      (silent : ended.process.raised = process.raised)

section Endings

variable {environment : Environment} {input : List Text} {failure : Failure}

theorem handleException_reports {what : Text}
    (found : failure.what environment.errorMessage = some what)
    (console : Console) (process : Process) :
    Reports what (handleException environment failure console process) ∧
      (handleException environment failure console process).process =
        process := by
  unfold handleException
  rw [found]
  refine ⟨⟨rfl, ?_⟩, rfl⟩
  refine ⟨console.cerr.text ++
    List.replicate (console.cerr.width - (text "Error: ").length)
      console.cerr.fill, ?_⟩
  simp [OStream.put]

theorem handleException_ends (cause : RunFailure environment input failure)
    (console : Console) {process after : Process}
    (restored : Restored process after)
    (silent : after.raised = process.raised) :
    RunEnds environment input process
      (handleException environment failure console after) := by
  obtain ⟨what, found⟩ := cause.what
  obtain ⟨reports, same⟩ := handleException_reports found console after
  refine .failed cause found reports ?_ ?_
  · rw [same]
    exact restored
  · rw [same]
    exact silent

/-- The signal is raised when everything has been put back. -/
theorem raise_restored {process after : Process} {signal : Signal}
    (restored : Restored process after)
    (silent : after.raised = process.raised) :
    Restored process (after.raise signal).2 ∧
      (after.raise signal).2.raised = process.raised ++ [{
        signal
        handlers := process.handlers
        terminal := process.terminal }] := by
  rw [raise_raised, restored.handlers, restored.terminal, silent]
  refine ⟨⟨?_, ?_⟩, rfl⟩
  · rw [raise_handlers, restored.handlers]
  · rw [raise_terminal, restored.terminal]

theorem requireAscii_ends (input description : Text) :
    Outcome (fun _ => True)
      (fun failure => ¬IsAscii input ∧ failure = .invalidArgument
        (description ++ text " must contain ASCII characters only"))
      (requireAscii input description) := by
  by_cases ascii : IsAscii input
  · rw [requireAscii_of_isAscii description ascii]
    trivial
  · rw [requireAscii_of_not_isAscii description ascii]
    exact ⟨ascii, rfl⟩

theorem checkedInt_ends (options : CommandLineOptions) (size : Nat) :
    Outcome (fun _ => True) (SeedFailure environment options)
      (checkedInt size) := by
  unfold checkedInt
  split
  · exact .tooLarge
  · trivial

theorem deriveSeed_ends {options : CommandLineOptions} {mnemonic : Text}
    (passphrase : Text)
    (ascii : options.wordlistFilename = [] → IsAscii mnemonic) :
    Outcome (fun _ => True) (SeedFailure environment options)
      (deriveSeed environment.openSsl environment.pkcs5Pbkdf2Hmac mnemonic
        passphrase) := by
  have call : Outcome (fun _ => True) (SeedFailure environment options)
      (pbkdf2Call mnemonic passphrase) := by
    apply Outcome.bind
    · apply (requireAscii_ends mnemonic _).imp (fun _ _ => trivial)
      rintro failure ⟨foreign, rfl⟩
      exact .mnemonic fun compiled => foreign (ascii compiled)
    intro _ _
    apply Outcome.bind
    · apply (requireAscii_ends passphrase _).imp (fun _ _ => trivial)
      rintro failure ⟨-, rfl⟩
      exact .passphrase
    intro _ _
    apply Outcome.bind (checkedInt_ends options _)
    intro passwordLength _
    apply Outcome.bind (checkedInt_ends options _)
    intro saltLength _
    apply Outcome.bind (checkedInt_ends options _)
    exact fun keyLength _ => trivial
  apply Outcome.bind call
  intro made _
  split
  · rename_i answer
    exact .refused answer
  · trivial

/-- The end of a run that shows the seed. -/
theorem showSeed_ends {options : CommandLineOptions}
    (stored : environment.stored = .ok options)
    (asked : options.showSeed = true) {mnemonic : Text}
    (ascii : options.wordlistFilename = [] → IsAscii mnemonic)
    (console : Console) (process : Process) :
    RunEnds environment input process
      (showSeed environment mnemonic console process) := by
  have entered := readPassphrase_ends environment.firstScript
    environment.secondScript [] { process with cout := console.cout }
  unfold showSeed
  generalize readPassphrase environment.firstScript environment.secondScript []
    { process with cout := console.cout } = entry at entered ⊢
  cases entered with
  | waiting idle => exact .waiting stored asked idle rfl rfl rfl rfl
  | thrown known =>
      exact handleException_ends (.passphrase stored asked known) _
        ⟨rfl, rfl⟩ rfl
  | @killed signal target flag cout arrived action =>
      obtain ⟨restored, raised⟩ := @raise_restored process
        { process with caughtSignal := flag, cout } signal ⟨rfl, rfl⟩ rfl
      exact .killed stored asked arrived action rfl restored raised
  | @interrupted signal target flag cout arrived action =>
      obtain ⟨restored, raised⟩ := @raise_restored process
        { process with caughtSignal := flag, cout } signal ⟨rfl, rfl⟩ rfl
      exact .interrupted stored asked arrived action
        (handleException_reports rfl _ _).1 restored raised
  | @returned passphrase flag cout =>
      have derived := @deriveSeed_ends environment options mnemonic passphrase
        ascii
      dsimp only
      cases run : deriveSeed environment.openSsl environment.pkcs5Pbkdf2Hmac
        mnemonic passphrase with
      | error failure =>
          rw [run] at derived
          exact handleException_ends (.seed stored asked derived) _ ⟨rfl, rfl⟩
            rfl
      | ok seed => exact .finished rfl ⟨rfl, rfl⟩ rfl

theorem mnemonic_ascii {options : CommandLineOptions} {mode : EntropyMode}
    {strength : Strength} {wordlist : Wordlist} {secret : Secret strength}
    {rest : List Text}
    (made : session environment options mode strength input =
      .ok ((wordlist, secret), rest))
    (compiled : options.wordlistFilename = []) :
    IsAscii (secret.mnemonic wordlist) := by
  have chosen : chosenWordlist environment options = .ok .english := by
    unfold chosenWordlist
    exact if_pos compiled
  rw [(session_eq_ok_iff.mp made).1] at chosen
  cases chosen
  apply isAscii_sentence
  intro word member
  exact englishWords_ascii word (secret.mem_words member)

/-- How a run on fresh streams ends, whatever its environment. -/
theorem main_runEnds (environment : Environment) (input : List Text)
    (out err : Text) (process : Process) :
    RunEnds environment input process
      (main environment
        { input, cout := { text := out }, cerr := { text := err } } process) := by
  rcases parseCommandLine_cases environment.stored with
    ⟨message, stored, parsed⟩ | ⟨options, stored, cases⟩
  · unfold main
    rw [parsed]
    exact handleException_ends (.arguments stored) _ ⟨rfl, rfl⟩ rfl
  rcases cases with ⟨help, parsed⟩ | ⟨help, several, parsed⟩ |
    ⟨help, unsupported, parsed⟩ | ⟨mode, strength, accepted, parsed⟩
  · unfold main
    simp only [parsed, help, if_true]
    exact .finished rfl ⟨rfl, rfl⟩ rfl
  · unfold main
    rw [parsed]
    exact handleException_ends (.exclusive stored several) _ ⟨rfl, rfl⟩ rfl
  · unfold main
    rw [parsed]
    exact handleException_ends (.wordCount stored unsupported) _ ⟨rfl, rfl⟩ rfl
  · have run := main_session stored accepted input out err process
    have planned := @session_ends environment options strength mode input
    cases made : session environment options mode strength input with
    | error failure =>
        rw [made] at run planned
        obtain ⟨after, run⟩ := run
        rw [run]
        exact handleException_ends (.session stored accepted planned) _
          ⟨rfl, rfl⟩ rfl
    | ok result =>
        obtain ⟨⟨wordlist, secret⟩, rest⟩ := result
        rw [made] at run
        obtain ⟨prompts, reported, run⟩ := run
        rw [run]
        dsimp only
        split
        · rename_i asked
          exact showSeed_ends stored asked (mnemonic_ascii made) _ process
        · exact .finished rfl ⟨rfl, rfl⟩ rfl

end Endings

theorem handleException_exit {environment : Environment} {failure : Failure}
    {console : Console} {process : Process} {signal : Signal} :
    (handleException environment failure console process).exit ≠
      .killed signal := by
  unfold handleException
  split
  · exact Exit.noConfusion
  · exact Exit.noConfusion

theorem showSeed_killed {environment : Environment} {mnemonic : Text}
    {console : Console} {process : Process} {signal : Signal}
    (killed : (showSeed environment mnemonic console process).exit =
      .killed signal) :
    (showSeed environment mnemonic console process).console.cerr =
      console.cerr := by
  unfold showSeed at killed ⊢
  dsimp only at killed ⊢
  generalize readPassphrase environment.firstScript environment.secondScript []
    { process with cout := console.cout } = entry at killed ⊢
  cases ended : entry.outcome with
  | waiting => rfl
  | killed number => rfl
  | thrown failure =>
      rw [ended] at killed
      exact (handleException_exit killed).elim
  | returned =>
      rw [ended] at killed
      dsimp only at killed ⊢
      cases derived : deriveSeed environment.openSsl
        environment.pkcs5Pbkdf2Hmac mnemonic entry.target with
      | error failure =>
          rw [derived] at killed
          exact (handleException_exit killed).elim
      | ok seed => rfl

/-- A killed run was asked for a passphrase, and reports nothing more. -/
theorem main_killed {environment : Environment} {console : Console}
    {process : Process} {signal : Signal}
    (killed : (main environment console process).exit = .killed signal) :
    ∃ options, environment.stored = .ok options ∧
      (main environment console process).console.cerr =
        (showMnemonic environment options console).2.cerr := by
  rcases parseCommandLine_cases environment.stored with
    ⟨message, stored, parsed⟩ | ⟨options, stored, cases⟩
  · unfold main at killed
    rw [parsed] at killed
    exact (handleException_exit killed).elim
  refine ⟨options, stored, ?_⟩
  rcases cases with ⟨help, parsed⟩ | ⟨help, several, parsed⟩ |
    ⟨help, unsupported, parsed⟩ | ⟨mode, strength, accepted, parsed⟩
  · unfold main at killed
    simp only [parsed, help, if_true] at killed
    cases killed
  · unfold main at killed
    rw [parsed] at killed
    exact (handleException_exit killed).elim
  · unfold main at killed
    rw [parsed] at killed
    exact (handleException_exit killed).elim
  · rw [main_accepted stored accepted] at killed ⊢
    cases shown : showMnemonic environment options console with
    | mk result after =>
        rw [shown] at killed
        cases result with
        | error failure => exact (handleException_exit killed).elim
        | ok generated =>
            dsimp only at killed ⊢
            by_cases asked : options.showSeed = true
            · rw [if_pos asked] at killed ⊢
              exact showSeed_killed killed
            · rw [if_neg asked] at killed
              cases killed

/-- Whatever the arguments, the files, the input, the terminal and OpenSSL
bring, a run ends with status 0, or is still waiting for a passphrase it was
asked for, or ends with status 1 and reports a failure that has its cause
outside the program.  A delivered signal that is raised again kills the run
under the default action, without a word, and is reported otherwise. -/
theorem main_ends (environment : Environment) (input : List Text)
    (out err : Text) (process : Process) :
    let console : Console :=
      { input, cout := { text := out }, cerr := { text := err } }
    let ended := main environment console process
    ended.exit = .status 0 ∨
    (ended.exit = .waiting ∧
      (∃ options, environment.stored = .ok options ∧
        options.showSeed = true) ∧
      (Idle environment.firstScript ∨ Idle environment.secondScript)) ∨
    (∃ failure what, RunFailure environment input failure ∧
      failure.what environment.errorMessage = some what ∧
      Reports what ended) ∨
    ∃ options signal, environment.stored = .ok options ∧
      options.showSeed = true ∧
      (Delivered signal (timeline environment.firstScript) ∨
        Delivered signal (timeline environment.secondScript)) ∧
      if process.handlers signal = .defaultAction then
        ended.exit = .killed signal ∧
          ended.console.cerr = (showMnemonic environment options console).2.cerr
      else Reports (text "passphrase entry interrupted") ended := by
  intro console ended
  cases main_runEnds environment input out err process with
  | finished exit restored silent => exact .inl exit
  | waiting stored asked idle exit handlers terminal silent =>
      exact .inr (.inl ⟨exit, ⟨_, stored, asked⟩, idle⟩)
  | failed cause found reports restored silent =>
      exact .inr (.inr (.inl ⟨_, _, cause, found, reports⟩))
  | @killed options signal stored asked arrived action exit restored raised =>
      obtain ⟨others, same, mute⟩ := main_killed exit
      cases stored.symm.trans same
      refine .inr (.inr (.inr ⟨options, signal, stored, asked, arrived, ?_⟩))
      rw [if_pos action]
      exact ⟨exit, mute⟩
  | @interrupted options signal stored asked arrived action reports restored
      raised =>
      refine .inr (.inr (.inr ⟨options, signal, stored, asked, arrived, ?_⟩))
      rw [if_neg action]
      exact reports

/-- Over a whole run, the handlers and the terminal are put back unless the
program is waiting for a passphrase, and then the terminal does not echo.  A
signal is raised at most once, when everything has been put back: the run is
killed there under the default action, and only so, and fails otherwise. -/
theorem main_restores (environment : Environment) (input : List Text)
    (out err : Text) (process : Process) :
    let ended := main environment
      { input, cout := { text := out }, cerr := { text := err } } process
    (ended.exit ≠ .waiting → Restored process ended.process) ∧
    (ended.exit = .waiting →
      (ended.process.handlers = fun _ => .rememberSignal) ∧
        ended.process.terminal =
          { process.terminal with echo := false, echonl := false }) ∧
    ((ended.process.raised = process.raised ∧
        ∀ signal, ended.exit ≠ .killed signal) ∨
      ∃ signal, (Delivered signal (timeline environment.firstScript) ∨
          Delivered signal (timeline environment.secondScript)) ∧
        ended.process.raised = process.raised ++ [{
          signal
          handlers := process.handlers
          terminal := process.terminal }] ∧
        ended.exit =
          if process.handlers signal = .defaultAction then .killed signal
          else .status 1) := by
  have ends := main_runEnds environment input out err process
  dsimp only
  generalize main environment
    { input, cout := { text := out }, cerr := { text := err } } process =
      ended at ends ⊢
  cases ends with
  | finished exit restored silent =>
      rw [exit]
      exact ⟨fun _ => restored, Exit.noConfusion,
        .inl ⟨silent, fun _ => Exit.noConfusion⟩⟩
  | waiting stored asked idle exit handlers terminal silent =>
      rw [exit]
      exact ⟨fun ended => (ended rfl).elim, fun _ => ⟨handlers, terminal⟩,
        .inl ⟨silent, fun _ => Exit.noConfusion⟩⟩
  | failed cause found reports restored silent =>
      rw [reports.1]
      exact ⟨fun _ => restored, Exit.noConfusion,
        .inl ⟨silent, fun _ => Exit.noConfusion⟩⟩
  | killed stored asked arrived action exit restored raised =>
      rw [exit]
      refine ⟨fun _ => restored, Exit.noConfusion, .inr ?_⟩
      refine ⟨_, arrived, raised, ?_⟩
      rw [if_pos action]
  | interrupted stored asked arrived action reports restored raised =>
      rw [reports.1]
      refine ⟨fun _ => restored, Exit.noConfusion, .inr ?_⟩
      refine ⟨_, arrived, raised, ?_⟩
      rw [if_neg action]

/-- The program implements its session up to the Tiny Seed.  When the session
fails, so does the run, with the message of the same failure.  Otherwise the
run has read the lines the session has taken and has printed the pages of its
secret; it then ends, or goes on to the seed. -/
theorem main_refines {environment : Environment} {options : CommandLineOptions}
    {mode : EntropyMode} {strength : Strength}
    (stored : environment.stored = .ok options)
    (accepted : Accepted options mode strength) (input : List Text)
    (out err : Text) (process : Process) :
    let ended := main environment
      { input, cout := { text := out }, cerr := { text := err } } process
    match session environment options mode strength input with
    | .error failure =>
        ∃ what, failure.what environment.errorMessage = some what ∧
          Reports what ended ∧ ended.process = process
    | .ok ((wordlist, secret), rest) =>
        ∃ prompts reported,
          let shown : Console := {
            input := rest
            cout := { text := out ++ prompts ++
              secret.pages wordlist options.showEntropy }
            cerr := { text := err ++ reported } }
          ended =
            if options.showSeed then
              showSeed environment (secret.mnemonic wordlist) shown process
            else {
              exit := .status 0
              console := { shown with cout := shown.cout.put [chr '\n'] }
              process } := by
  have run := main_session stored accepted input out err process
  have planned := @session_ends environment options strength mode input
  cases made : session environment options mode strength input with
  | error failure =>
      rw [made] at run planned
      obtain ⟨after, run⟩ := run
      obtain ⟨what, found⟩ :=
        (RunFailure.session stored accepted planned).what
      have handled := handleException_reports found after process
      rw [run]
      exact ⟨what, found, handled⟩
  | ok result =>
      rw [made] at run
      exact run

def zeroDigest : Digest :=
  ⟨List.replicate 32 0, rfl⟩

def sampleSeed : Seed :=
  ⟨List.replicate 64 0, rfl⟩

/-- An environment in which OpenSSL reports success and returns zeros, and the
terminal has nothing to read. -/
def sampleEnvironment (options : CommandLineOptions) : Environment where
  programName := text "seeds"
  stored := .ok options
  optionsDescription := []
  file := fun _ => none
  openSsl := .reliable (fun _ => zeroDigest) fun count =>
    Vector.replicate count 0
  pkcs5Pbkdf2Hmac := fun _ => some sampleSeed
  errorMessage := fun _ => []
  firstScript := { reads := [] }
  secondScript := { reads := [] }

/-- A line that is refused, fifty rolls, and a line that stays unread. -/
def diceLines : List Text :=
  text "7" :: List.replicate 50 (text "3") ++ [text "unread"]

def diceOptions (showSeed : Bool) : CommandLineOptions :=
  { useDiceOnly := true, showSeed }

def diceSecret (digest : Digest) : Secret .bits128 where
  entropy := .ofDigest .bits128 digest
  digest := digest

/-- The sample environment with another digest for everything. -/
def diceEnvironment (digest : Digest) (showSeed : Bool) : Environment :=
  { sampleEnvironment (diceOptions showSeed) with
    openSsl := .reliable (fun _ => digest) fun count =>
      Vector.replicate count 0 }

theorem diceOptions_accepted (showSeed : Bool) :
    Accepted (diceOptions showSeed) .diceOnly .bits128 :=
  ⟨rfl, rfl, rfl⟩

theorem diceLines_entries :
    EntropyMode.diceOnly.entries .bits128 diceLines =
      .ok (List.replicate 50 51, [text "unread"]) := by
  decide +kernel

theorem dice_session (digest : Digest) (showSeed : Bool) :
    session (diceEnvironment digest showSeed) (diceOptions showSeed) .diceOnly
      .bits128 diceLines =
        .ok ((.english, diceSecret digest), [text "unread"]) := by
  apply session_eq_ok_iff.mpr
  refine ⟨rfl, secret_eq_ok_iff.mpr ⟨_, diceLines_entries, ?_, rfl⟩⟩
  exact bind_eq_ok.mpr ⟨digest, sha256_eq_ok_iff.mpr rfl, rfl⟩

theorem main_refines_sample :
    ∃ prompts reported, main (diceEnvironment countedDigest false)
        { input := diceLines, cout := { text := [] }, cerr := { text := [] } }
        freshProcess = {
      exit := .status 0
      console := {
        input := [text "unread"]
        cout := ({ text := prompts ++
          (diceSecret countedDigest).pages .english false } :
            OStream).put [chr '\n']
        cerr := { text := reported } }
      process := freshProcess } := by
  have run := @main_refines (diceEnvironment countedDigest false)
    (diceOptions false) .diceOnly .bits128 rfl (diceOptions_accepted false)
    diceLines [] [] freshProcess
  rw [dice_session] at run
  exact run

end Bip39
