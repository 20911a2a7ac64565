import Bip39.InputLocality
import Bip39.Sessions
import Bip39.Support.Inquiries

/-!
# What a run says

The readers are inquiries.  With them the text a run writes before the pages
is a function of the source, the size and the lines it is given: which number
each prompt shows and which line is reported does not depend on OpenSSL.
-/

namespace Bip39

open Bip39.Source Bip39.Support

def rollQuestion (rollNumber rollCount : Nat) : Text :=
  text "Roll " ++ digits 10 rollNumber ++ [chr '/'] ++ digits 10 rollCount ++
    text ": "

/-- A prompt shows how many rolls are accepted so far, and one. -/
def diceInquiry (rollCount : Nat) : Inquiry Text UInt8 where
  size := facesIn
  ask earlier := rollQuestion (facesIn earlier + 1) rollCount
  report _ line :=
    if dieFace line = none then
      text "Please enter one die result from 1 through 6.\n"
    else []

def cardQuestion (shuffleNumber position : Nat) : Text :=
  text "Shuffle " ++ digits 10 shuffleNumber ++ text ", card " ++
    digits 10 position ++ [chr '/'] ++ digits 10 cardsPerDeck ++ text ": "

/-- A line is reported when it names no card or a card named before. -/
def cardRemark (earlier : List Text) (line : Text) : Text :=
  match normalizeCard line with
  | .ok card =>
      if (distinctCards earlier).contains card then
        text "Duplicate card: " ++ card ++ text ". Enter a different card.\n"
      else []
  | .error (.invalidArgument what) => what ++ [chr '\n']
  | .error _ => []

def deckInquiry (shuffleNumber : Nat) : Inquiry Text UInt8 where
  size := cardsIn
  ask earlier := cardQuestion shuffleNumber (cardsIn earlier + 1)
  report := cardRemark

/-- The streams after a transcript. -/
def told (out err : Text) (transcript : Transcript Text UInt8) : Console where
  input := transcript.rest
  cout := { text := out ++ transcript.asked }
  cerr := { text := err ++ transcript.reported }

theorem told_after (out err asked reported : Text)
    (transcript : Transcript Text UInt8) :
    told out err (transcript.after asked reported) =
      told (out ++ asked) (err ++ reported) transcript := by
  simp [told, Transcript.after]

/-- What a reader leaves, when it goes on with `input` after `earlier`: it
fails exactly when it does not hear enough. -/
structure Asks {α : Type} (inquiry : Inquiry Text UInt8) (count : Nat)
    (earlier input : List Text) (out err : Text)
    (run : Except Failure α × Console) : Prop where
  outcome :
    let heard := (inquiry.goOn count earlier input).heard
    Outcome (fun _ => count ≤ inquiry.size heard)
      (fun _ => inquiry.size heard < count) run.1
  console : run.2 = told out err (inquiry.goOn count earlier input)

theorem promptRoll_mk (rollNumber rollCount : Nat) (out : Text) :
    promptRoll rollNumber rollCount { text := out } =
      { text := out ++ rollQuestion rollNumber rollCount } := by
  simp [promptRoll, rollQuestion, OStream.put_mk, OStream.putNat_mk]

theorem facesIn_snoc (earlier : List Text) (line : Text) :
    facesIn (earlier ++ [line]) =
      facesIn earlier + if dieFace line = none then 0 else 1 := by
  unfold facesIn
  rw [List.filterMap_append, List.length_append]
  cases accepted : dieFace line <;> simp [accepted]

theorem readDieFaceFrom_asks (rollCount number : Nat) (lines : List Text) :
    ∀ (earlier : List Text) (out err : Text), facesIn earlier = number →
      Asks (diceInquiry rollCount) (number + 1) earlier lines out err
        (readDieFaceFrom (number + 1) rollCount { text := out } { text := err }
          lines) := by
  induction lines with
  | nil =>
      intro earlier out err counted
      subst counted
      have short : (diceInquiry rollCount).size earlier < facesIn earlier + 1 :=
        Nat.lt_succ_self _
      constructor
      · rw [Inquiry.goOn_nil short]
        exact short
      · rw [Inquiry.goOn_nil short, readDieFaceFrom, promptRoll_mk]
        simp [told, diceInquiry]
  | cons line lines induction =>
      intro earlier out err counted
      subst counted
      have short : (diceInquiry rollCount).size earlier < facesIn earlier + 1 :=
        Nat.lt_succ_self _
      have snoc := facesIn_snoc earlier line
      cases accepted : dieFace line with
      | some face =>
          rw [accepted, if_neg (Option.some_ne_none face)] at snoc
          have enough : facesIn earlier + 1 ≤
              (diceInquiry rollCount).size (earlier ++ [line]) :=
            Nat.le_of_eq snoc.symm
          constructor
          · rw [Inquiry.goOn_cons short, Inquiry.goOn_enough enough,
              readDieFaceFrom, accepted]
            exact enough
          · rw [Inquiry.goOn_cons short, Inquiry.goOn_enough enough,
              readDieFaceFrom, accepted, promptRoll_mk]
            simp [told, Transcript.after, diceInquiry, accepted]
      | none =>
          rw [accepted, if_pos rfl] at snoc
          have later := induction (earlier ++ [line])
            (out ++ rollQuestion (facesIn earlier + 1) rollCount)
            (err ++ text "Please enter one die result from 1 through 6.\n") snoc
          constructor
          · rw [Inquiry.goOn_cons short, readDieFaceFrom, accepted,
              promptRoll_mk, OStream.put_mk]
            exact later.outcome
          · rw [Inquiry.goOn_cons short, readDieFaceFrom, accepted,
              promptRoll_mk, OStream.put_mk, told_after]
            simpa [diceInquiry, accepted] using later.console

theorem readRolls_asks (keep : UInt8 → UInt8) (rollCount count : Nat)
    (input : List Text) (out err : Text) :
    Asks (diceInquiry rollCount) count [] input out err
      (readRolls keep rollCount count
        { input, cout := { text := out }, cerr := { text := err } }) := by
  induction count with
  | zero =>
      constructor
      · exact Nat.zero_le _
      · rw [Inquiry.goOn_enough (Nat.zero_le _)]
        simp [told, readRolls, forCount, Program.pure_run]
  | succ count induction =>
      have gradual : Gradual (diceInquiry rollCount).size := facesIn_gradual
      have atMost := @Inquiry.goOn_size _ _ (diceInquiry rollCount) count []
        gradual (Nat.zero_le count) input
      generalize run : readRolls keep rollCount count
        { input, cout := { text := out }, cerr := { text := err } } = reached
        at induction
      obtain ⟨result, between⟩ := reached
      obtain ⟨outcome, rfl⟩ := induction
      rw [readRolls_succ]
      cases result with
      | error failure =>
          rw [Program.bind_run_error run]
          have same := Inquiry.goOn_ends (Nat.le_succ count) input outcome
          constructor
          · rw [same]
            exact Nat.lt_succ_of_lt outcome
          · rw [same]
      | ok rolls =>
          rw [Program.bind_run_ok run]
          have counted := Nat.le_antisymm atMost outcome
          have stages := Inquiry.goOn_stages (Nat.le_succ count) input outcome
          generalize (diceInquiry rollCount).goOn count [] input = first
            at counted stages ⊢
          have last := readDieFaceFrom_asks rollCount count first.rest
            first.heard (out ++ first.asked) (err ++ first.reported) counted
          generalize read : readDieFaceFrom (count + 1) rollCount
            { text := out ++ first.asked } { text := err ++ first.reported }
            first.rest = reached at last
          obtain ⟨result, after⟩ := reached
          obtain ⟨outcome, rfl⟩ := last
          have read : readDieFace (count + 1) rollCount (told out err first) =
            (result, _) := read
          cases result with
          | error failure =>
              rw [Program.bind_run_error read]
              constructor
              · rw [stages]
                exact outcome
              · rw [stages, told_after]
          | ok face =>
              rw [Program.bind_run_ok read]
              constructor
              · rw [stages]
                exact outcome
              · rw [stages, told_after]
                rfl

theorem promptCard_mk (shuffleNumber position : Nat) (out : Text) :
    promptCard shuffleNumber position { text := out } =
      { text := out ++ cardQuestion shuffleNumber position } := by
  simp [promptCard, cardQuestion, OStream.put_mk, OStream.putNat_mk]

theorem acceptCard_remarks (earlier : List Text) (line : Text) (err : Text) :
    acceptCard (readerAfter earlier) { text := err } line =
      .ok (readerAfter (earlier ++ [line]),
        { text := err ++ cardRemark earlier line }) := by
  unfold acceptCard cardRemark
  rcases normalizeCard_cases line with ⟨card, run, -⟩ | ⟨what, run⟩
  · rw [run]
    have named := namedCard_eq_some_iff.mpr run
    by_cases known : card ∈ distinctCards earlier
    · have same := distinctCards_snoc_known named known
      simp [readerAfter, cardsIn, known, same, OStream.put_mk]
    · have more := distinctCards_snoc_new named known
      simp [readerAfter, cardsIn, known, more]
  · rw [run]
    have rejected : namedCard line = none := by
      simp [namedCard, run, Except.toOption]
    simp [readerAfter, cardsIn, distinctCards_snoc_none rejected,
      OStream.put_mk]

theorem readCardDeckFrom_asks (shuffleNumber : Nat) (lines : List Text) :
    ∀ (earlier : List Text) (out err : Text),
      Asks (deckInquiry shuffleNumber) cardsPerDeck earlier lines out err
        (readCardDeckFrom shuffleNumber (readerAfter earlier) { text := out }
          { text := err } lines) := by
  have full : ∀ (earlier lines : List Text) (out err : Text),
      cardsPerDeck ≤ cardsIn earlier →
      Asks (deckInquiry shuffleNumber) cardsPerDeck earlier lines out err
        (readCardDeckFrom shuffleNumber (readerAfter earlier) { text := out }
          { text := err } lines) := by
    intro earlier lines out err enough
    have finished : ¬(readerAfter earlier).position ≤ cardsPerDeck :=
      Nat.not_le_of_lt (Nat.lt_succ_of_le enough)
    have enough : cardsPerDeck ≤ (deckInquiry shuffleNumber).size earlier :=
      enough
    constructor
    · rw [Inquiry.goOn_enough enough, readCardDeckFrom_full _ finished]
      exact enough
    · rw [Inquiry.goOn_enough enough, readCardDeckFrom_full _ finished]
      simp [told]
  induction lines with
  | nil =>
      intro earlier out err
      by_cases short : cardsIn earlier < cardsPerDeck
      · have unfinished : (readerAfter earlier).position ≤ cardsPerDeck := short
        have short : (deckInquiry shuffleNumber).size earlier < cardsPerDeck :=
          short
        constructor
        · rw [Inquiry.goOn_nil short, readCardDeckFrom_nil _ unfinished]
          exact short
        · rw [Inquiry.goOn_nil short, readCardDeckFrom_nil _ unfinished,
            promptCard_mk]
          simp [told, deckInquiry, readerAfter]
      · exact full earlier [] out err (Nat.le_of_not_lt short)
  | cons line lines induction =>
      intro earlier out err
      by_cases short : cardsIn earlier < cardsPerDeck
      · have unfinished : (readerAfter earlier).position ≤ cardsPerDeck := short
        have short : (deckInquiry shuffleNumber).size earlier < cardsPerDeck :=
          short
        have step := @readCardDeckFrom_cons shuffleNumber _ { text := out }
          { text := err } unfinished line lines
        simp only [acceptCard_remarks, promptCard_mk] at step
        have later := induction (earlier ++ [line])
          (out ++ cardQuestion shuffleNumber (readerAfter earlier).position)
          (err ++ cardRemark earlier line)
        constructor
        · rw [Inquiry.goOn_cons short, step]
          exact later.outcome
        · rw [Inquiry.goOn_cons short, step, told_after]
          exact later.console
      · exact full earlier _ out err (Nat.le_of_not_lt short)

namespace EntropyMode

/-- The announcement on `std::cerr`. -/
def announcement : EntropyMode → Text
  | system => text ("Entropy path: OpenSSL RAND_priv_bytes()" ++
      " <- OpenSSL private CSPRNG <- operating-system random generator\n")
  | mixedDice => text "Entropy path: SHA-256(dice rolls || RAND_priv_bytes())\n"
  | diceOnly => text
      "Entropy path: SHA-256(ASCII dice rolls), no system randomness\n"
  | mixedCards => text
      "Entropy path: SHA-256(card ordering || RAND_priv_bytes())\n"
  | cardsOnly => text
      "Entropy path: SHA-256(canonical card ordering), no system randomness\n"

/-- What is printed before the first prompt. -/
def opening (strength : Strength) : EntropyMode → Text
  | system => []
  | mixedDice =>
      text "Dice mode requires " ++ digits 10 strength.mixedRolls ++
        text " rolls for " ++ digits 10 (strength.byteCount * 8) ++
        text " bits of BIP-39 entropy.\n" ++
        text "Enter each die result as a number from 1 through 6.\n\n"
  | diceOnly =>
      text "Dice-only compatibility mode requires " ++
        digits 10 strength.onlyRolls ++ text " rolls for " ++
        digits 10 (strength.byteCount * 8) ++
        text " bits of BIP-39 entropy.\n" ++
        text "This mode does not mix OpenSSL randomness.\n" ++
        text "Enter each die result as a number from 1 through 6.\n\n"
  | mixedCards =>
      text "Cards mode requires one shuffled 52-card deck for " ++
        digits 10 (strength.byteCount * 8) ++
        text " bits of BIP-39 entropy.\n" ++
        text ("This mode mixes the deck ordering with 32 bytes of " ++
          "OpenSSL randomness.\n") ++ (cardEntryInstructions {}).text
  | cardsOnly =>
      text "Cards-only mode requires " ++
        (if strength = .bits256 then text "2 independent shuffles"
          else text "1 shuffled deck") ++
        text " for " ++ digits 10 (strength.byteCount * 8) ++
        text " bits of BIP-39 entropy.\n" ++
        text "This mode does not mix OpenSSL randomness.\n" ++
        (cardEntryInstructions {}).text

/-- The questions of a source and its remarks.  The second deck is asked for
once the first one is complete. -/
def inquire (strength : Strength) (mode : EntropyMode) (input : List Text) :
    Transcript Text UInt8 :=
  match mode with
  | system => { heard := [], rest := input }
  | mixedDice =>
      (diceInquiry strength.mixedRolls).hold strength.mixedRolls input
  | diceOnly =>
      (diceInquiry strength.onlyRolls).hold strength.onlyRolls input
  | mixedCards => (deckInquiry 1).hold cardsPerDeck input
  | cardsOnly =>
      let first := (deckInquiry 1).hold cardsPerDeck input
      if strength = .bits256 ∧ cardsPerDeck ≤ cardsIn first.heard then
        let second := (deckInquiry 2).hold cardsPerDeck first.rest
        { heard := first.heard ++ second.heard
          rest := second.rest
          asked := first.asked ++ (announceSecondShuffle {}).text ++ second.asked
          reported := first.reported ++ second.reported }
      else first

/-- All that a run says before the pages. -/
def transcript (strength : Strength) (mode : EntropyMode) (input : List Text) :
    Transcript Text UInt8 :=
  (mode.inquire strength input).after (mode.opening strength) mode.announcement

theorem announce_mk (mode : EntropyMode) (err : Text) :
    mode.announce { text := err } = { text := err ++ mode.announcement } := by
  cases mode with
  | system =>
      simp only [announce, OStream.put_mk, List.append_assoc]
      rfl
  | mixedDice => exact OStream.put_mk err _
  | diceOnly => exact OStream.put_mk err _
  | mixedCards => exact OStream.put_mk err _
  | cardsOnly => exact OStream.put_mk err _

end EntropyMode

theorem cardEntryInstructions_mk (out : Text) :
    cardEntryInstructions { text := out } =
      { text := out ++ (cardEntryInstructions {}).text } := by
  simp only [cardEntryInstructions, OStream.put_mk, List.append_assoc,
    List.nil_append]

theorem announceSecondShuffle_mk (out : Text) :
    announceSecondShuffle { text := out } =
      { text := out ++ (announceSecondShuffle {}).text } := by
  simp only [announceSecondShuffle, OStream.put_mk, List.append_assoc,
    List.nil_append]

/-- The program does not touch the streams. -/
abbrev Silent {α : Type} (program : Program α) : Prop :=
  Keeps (fun before after => after = before) program

namespace Silent

variable {α β : Type}

theorem pure (value : α) : Silent (Pure.pure value) :=
  fun _ => rfl

theorem lift (result : Except Failure α) : Silent (Program.lift result) :=
  fun _ => rfl

theorem bind {first : Program α} {next : α → Program β} (step : Silent first)
    (rest : ∀ value, Silent (next value)) : Silent (first >>= next) :=
  Keeps.bind (fun _ _ _ start more => more.trans start) step rest

/-- What comes after a program and is silent leaves the streams as they are. -/
theorem tail {first : Program α} {next : α → Program β}
    (rest : ∀ value, Silent (next value)) (console : Console) :
    ((first >>= next) console).2 = (first console).2 := by
  cases run : first console with
  | mk result after =>
      cases result with
      | error failure => rw [Program.bind_run_error run]
      | ok value =>
          rw [Program.bind_run_ok run]
          exact rest value after

end Silent

theorem readRolls_spoken (keep : UInt8 → UInt8) (rollCount count : Nat)
    (input : List Text) (out err : Text) :
    (readRolls keep rollCount count
      { input, cout := { text := out }, cerr := { text := err } }).2 =
        told out err ((diceInquiry rollCount).hold count input) := by
  have gradual : Gradual (diceInquiry rollCount).size := facesIn_gradual
  rw [← Inquiry.goOn_eq_hold gradual]
  exact (readRolls_asks keep rollCount count input out err).console

/-- A deck is read, or the input has ended before it is complete. -/
theorem readCardDeck_spoken (shuffleNumber : Nat) (input : List Text)
    (out err : Text) :
    let transcript := (deckInquiry shuffleNumber).hold cardsPerDeck input
    let run := readCardDeck shuffleNumber
      { input, cout := { text := out }, cerr := { text := err } }
    run.2 = told out err transcript ∧
      Outcome (fun _ => cardsPerDeck ≤ cardsIn transcript.heard)
        (fun _ => cardsIn transcript.heard < cardsPerDeck) run.1 := by
  have gradual : Gradual (deckInquiry shuffleNumber).size := cardsIn_gradual
  have asks := readCardDeckFrom_asks shuffleNumber input [] out err
  rw [← Inquiry.goOn_eq_hold gradual]
  exact ⟨asks.console, asks.outcome⟩

section Sources

variable (openSsl : OpenSsl) (strength : Strength) (input : List Text)
  (out err : Text)

/-- What a source writes. -/
abbrev Speaks (mode : EntropyMode) : Prop :=
  (mode.generate openSsl strength.byteCount
    { input, cout := { text := out }, cerr := { text := err } }).2 =
      told (out ++ mode.opening strength) err (mode.inquire strength input)

theorem generateMixedDiceEntropy_spoken :
    Speaks openSsl strength input out err .mixedDice := by
  have spoken := readRolls_spoken (fun face => face - chr '1') strength.mixedRolls
    strength.mixedRolls input (out ++ EntropyMode.mixedDice.opening strength) err
  simp only [Speaks, EntropyMode.generate, generateMixedDiceEntropy,
    strength.mixedDiceRollCount_eq, readMixedDiceRolls_eq, Program.lift_bind_run,
    Program.cout_bind_run, OStream.put_mk, OStream.putNat_mk]
  refine (Silent.tail ?_ _).trans ?_
  · intro rolls
    exact .bind (.lift _) fun random => .lift _
  · simpa only [EntropyMode.opening, EntropyMode.inquire,
      List.append_assoc] using spoken

theorem generateDiceOnlyEntropy_spoken :
    Speaks openSsl strength input out err .diceOnly := by
  have spoken := readRolls_spoken id strength.onlyRolls
    strength.onlyRolls input (out ++ EntropyMode.diceOnly.opening strength) err
  simp only [Speaks, EntropyMode.generate, generateDiceOnlyEntropy,
    strength.diceOnlyRollCount_eq, readAsciiDiceRolls_eq, Program.lift_bind_run,
    Program.cout_bind_run, OStream.put_mk, OStream.putNat_mk]
  refine (Silent.tail ?_ _).trans ?_
  · intro rolls
    exact .lift _
  · simpa only [EntropyMode.opening, EntropyMode.inquire,
      List.append_assoc] using spoken

theorem generateMixedCardEntropy_spoken :
    Speaks openSsl strength input out err .mixedCards := by
  have spoken := (readCardDeck_spoken 1 input
    (out ++ EntropyMode.mixedCards.opening strength) err).1
  simp only [Speaks, EntropyMode.generate, generateMixedCardEntropy,
    printCardEntryInstructions, Program.cout_bind_run, OStream.put_mk,
    OStream.putNat_mk]
  rw [cardEntryInstructions_mk]
  refine (Silent.tail ?_ _).trans ?_
  · intro deck
    exact .bind (.lift _) fun random => .lift _
  · simpa only [EntropyMode.opening, EntropyMode.inquire,
      List.append_assoc] using spoken

theorem cardsOnlyIntroduction_mk :
    cardsOnlyIntroduction strength.byteCount { text := out } =
      { text := out ++ EntropyMode.cardsOnly.opening strength } := by
  have decks : ∀ count : Nat,
      announceCardsOnly count (strength.byteCount * 8) { text := out } = {
        text := out ++ text "Cards-only mode requires " ++ digits 10 count ++
          (if count = 1 then text " shuffled deck"
            else text " independent shuffles") ++
          text " for " ++ digits 10 (strength.byteCount * 8) ++
          text " bits of BIP-39 entropy.\n" ++
          text "This mode does not mix OpenSSL randomness.\n" } := by
    intro count
    simp only [announceCardsOnly, OStream.put_mk, OStream.putNat_mk]
  unfold cardsOnlyIntroduction
  rw [decks, cardEntryInstructions_mk]
  have two : digits 10 2 ++ text " independent shuffles" =
      text "2 independent shuffles" := by decide +kernel
  have one : digits 10 1 ++ text " shuffled deck" = text "1 shuffled deck" := by
    decide +kernel
  cases strength <;>
    simp [EntropyMode.opening, Strength.byteCount, ← two, ← one]

theorem generateCardsOnlyEntropy_spoken :
    Speaks openSsl strength input out err .cardsOnly := by
  obtain ⟨first, complete⟩ := readCardDeck_spoken 1 input
    (out ++ EntropyMode.cardsOnly.opening strength) err
  have supported : strength.byteCount = 32 ↔ strength = .bits256 := by
    cases strength <;> simp [Strength.byteCount]
  unfold Speaks
  rw [EntropyMode.generate, generateCardsOnlyEntropy_eq strength.byteCount_mem]
  dsimp only
  rw [cardsOnlyIntroduction_mk, EntropyMode.inquire]
  generalize (deckInquiry 1).hold cardsPerDeck input = heard at first complete ⊢
  generalize read : readCardDeck 1 _ = run at first complete ⊢
  obtain ⟨result, between⟩ := run
  dsimp only at first
  subst first
  cases result with
  | error failure =>
      have short : ¬cardsPerDeck ≤ cardsIn heard.heard :=
        Nat.not_le_of_lt complete
      rw [Program.bind_run_error read]
      simp [short]
  | ok deck =>
      rw [Program.bind_run_ok read]
      by_cases two : strength = .bits256
      · have whole : strength.byteCount = 32 := supported.mpr two
        have enough : cardsPerDeck ≤ cardsIn heard.heard := complete
        have second := (readCardDeck_spoken 2 heard.rest
          (out ++ EntropyMode.cardsOnly.opening strength ++ heard.asked ++
            (announceSecondShuffle {}).text) (err ++ heard.reported)).1
        rw [if_pos whole, if_pos ⟨two, enough⟩, Program.cout_bind_run]
        dsimp only [told]
        rw [announceSecondShuffle_mk]
        refine (Silent.tail (fun secondDeck => .lift _) _).trans ?_
        simpa only [told, List.append_assoc] using second
      · have other : ¬strength.byteCount = 32 := fun same =>
          two (supported.mp same)
        simp only [other, if_false, two, false_and]
        rfl

theorem generate_spoken (mode : EntropyMode) :
    Speaks openSsl strength input out err mode := by
  cases mode with
  | system =>
      change _ = told (out ++ []) err { heard := [], rest := input }
      simp [told, EntropyMode.generate, Program.lift]
  | mixedDice => exact generateMixedDiceEntropy_spoken ..
  | diceOnly => exact generateDiceOnlyEntropy_spoken ..
  | mixedCards => exact generateMixedCardEntropy_spoken ..
  | cardsOnly => exact generateCardsOnlyEntropy_spoken ..

end Sources

/-- Only the dispatch writes before the pages. -/
theorem generateMnemonic_spoken {options : CommandLineOptions}
    {mode : EntropyMode} {strength : Strength}
    (accepted : Accepted options mode strength) (openSsl : OpenSsl)
    (words input : List Text) (out err : Text) :
    (generateMnemonic options.toProgramOptions openSsl words
      { input, cout := { text := out }, cerr := { text := err } }).2 =
        told out err (mode.transcript strength input) := by
  have spoken := generate_spoken openSsl strength input out
    (err ++ mode.announcement) mode
  unfold generateMnemonic
  rw [accepted.counted, strength.entropyBytes, Program.lift_bind_run]
  refine (Silent.tail ?_ _).trans ?_
  · intro entropy
    refine .bind (.lift _) fun digest => .bind (.lift _) fun indices => ?_
    exact .bind (.lift _) fun mnemonic => .pure _
  · rw [dispatchEntropy_mode accepted.selected, EntropyMode.transcript,
      told_after]
    change (mode.generate openSsl strength.byteCount {
      input
      cout := { text := out }
      cerr := mode.announce { text := err } }).2 = _
    rw [mode.announce_mk]
    exact spoken

/-- What is heard is the front of the input. -/
theorem transcript_split (strength : Strength) (mode : EntropyMode)
    (input : List Text) :
    (mode.transcript strength input).heard ++
      (mode.transcript strength input).rest = input := by
  have rolls : ∀ total count, ((diceInquiry total).hold count input).heard ++
      ((diceInquiry total).hold count input).rest = input := by
    intro total count
    exact Inquiry.hold_split facesIn_gradual input
  have cards : ∀ shuffle lines,
      ((deckInquiry shuffle).hold cardsPerDeck lines).heard ++
        ((deckInquiry shuffle).hold cardsPerDeck lines).rest = lines := by
    intro shuffle lines
    exact Inquiry.hold_split cardsIn_gradual lines
  change (mode.inquire strength input).heard ++
    (mode.inquire strength input).rest = input
  cases mode with
  | system => rfl
  | mixedDice => exact rolls _ _
  | diceOnly => exact rolls _ _
  | mixedCards => exact cards 1 input
  | cardsOnly =>
      unfold EntropyMode.inquire
      dsimp only
      split
      · rw [List.append_assoc, cards, cards]
      · exact cards 1 input

end Bip39
