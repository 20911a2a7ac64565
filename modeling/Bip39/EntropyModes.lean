import Bip39.Secrets
import Bip39.Source.CommandLine

/-!
# The five sources of entropy

The options that `parse_command_line` accepts select exactly one source and one
strength, so the order of the `if` chain in `main` plays no part.
-/

namespace Bip39

open Bip39.Source Bip39.Support

inductive EntropyMode where
  | system
  | mixedDice
  | diceOnly
  | mixedCards
  | cardsOnly
  deriving DecidableEq, Repr

def modeFlags (options : ProgramOptions) : List Bool :=
  [options.useDice, options.useDiceOnly, options.useCards, options.useCardsOnly]

namespace EntropyMode

def flags : EntropyMode → List Bool
  | system => [false, false, false, false]
  | mixedDice => [true, false, false, false]
  | diceOnly => [false, true, false, false]
  | mixedCards => [false, false, true, false]
  | cardsOnly => [false, false, false, true]

/-- The sources that use nothing but what the user enters. -/
def Physical : EntropyMode → Prop
  | diceOnly => True
  | cardsOnly => True
  | _ => False

/-- The report on `std::cerr`. -/
def announce : EntropyMode → OStream → OStream
  | system => fun stream =>
      stream.put (text "Entropy path: OpenSSL RAND_priv_bytes()")
        |>.put (text " <- OpenSSL private CSPRNG")
        |>.put (text " <- operating-system random generator\n")
  | mixedDice => fun stream => stream.put (text
      "Entropy path: SHA-256(dice rolls || RAND_priv_bytes())\n")
  | diceOnly => fun stream => stream.put (text
      "Entropy path: SHA-256(ASCII dice rolls), no system randomness\n")
  | mixedCards => fun stream => stream.put (text
      "Entropy path: SHA-256(card ordering || RAND_priv_bytes())\n")
  | cardsOnly => fun stream => stream.put (text
      ("Entropy path: SHA-256(canonical card ordering), no system " ++
        "randomness\n"))

def generate (openSsl : OpenSsl) (byteCount : Nat) :
    EntropyMode → Program Bytes
  | system => .lift (generateSystemEntropy openSsl byteCount)
  | mixedDice => generateMixedDiceEntropy openSsl byteCount
  | diceOnly => generateDiceOnlyEntropy openSsl byteCount
  | mixedCards => generateMixedCardEntropy openSsl byteCount
  | cardsOnly => generateCardsOnlyEntropy openSsl byteCount

end EntropyMode

/-- What `parse_command_line` accepts, apart from a request for help. -/
structure Accepted (options : CommandLineOptions) (mode : EntropyMode)
    (strength : Strength) : Prop where
  noHelp : options.showHelp = false
  selected : modeFlags options.toProgramOptions = mode.flags
  counted : options.wordCount = strength.wordCount

theorem exists_mode_iff (options : ProgramOptions) :
    (∃ mode : EntropyMode, modeFlags options = mode.flags) ↔
      ¬(modeFlags options).count true > 1 := by
  have table : ∀ dice diceOnly cards cardsOnly : Bool,
      (∃ mode ∈ [EntropyMode.system, .mixedDice, .diceOnly, .mixedCards,
        .cardsOnly], [dice, diceOnly, cards, cardsOnly] = mode.flags) ↔
      ¬[dice, diceOnly, cards, cardsOnly].count true > 1 := by
    decide
  have row := table options.useDice options.useDiceOnly options.useCards
    options.useCardsOnly
  refine Iff.trans ?_ row
  constructor
  · intro selected
    obtain ⟨mode, same⟩ := selected
    exact ⟨mode, by cases mode <;> simp, same⟩
  · intro selected
    obtain ⟨mode, -, same⟩ := selected
    exact ⟨mode, same⟩

/-- The dispatch announces the selected source and uses it. -/
theorem dispatchEntropy_mode {options : ProgramOptions} {mode : EntropyMode}
    (selected : modeFlags options = mode.flags) (openSsl : OpenSsl)
    (byteCount : Nat) :
    dispatchEntropy options openSsl byteCount =
      Program.cerr mode.announce >>= fun _ => mode.generate openSsl byteCount := by
  obtain ⟨wordCount, dice, diceOnly, cards, cardsOnly⟩ := options
  cases mode <;>
    (simp only [modeFlags, EntropyMode.flags, List.cons.injEq, and_true]
      at selected
     obtain ⟨rfl, rfl, rfl, rfl⟩ := selected
     rfl)

theorem entropyBytesForWordCount_of_not_mem {wordCount : Nat}
    (unsupported : wordCount ∉ [12, 15, 18, 21, 24]) :
    entropyBytesForWordCount wordCount = .error (.invalidArgument
      (text "word count must be 12, 15, 18, 21, or 24")) := by
  cases count : entropyBytesForWordCount wordCount with
  | error failure => rw [entropyBytesForWordCount_error count]
  | ok byteCount =>
      rw [entropyBytesForWordCount_eq_ok_iff] at count
      simp only [List.mem_cons, List.not_mem_nil, or_false] at unsupported
      omega

theorem parseCommandLine_cases (stored : Except Text CommandLineOptions) :
    (∃ message, stored = .error message ∧
      parseCommandLine stored = .error (.logicError message)) ∨
    ∃ options, stored = .ok options ∧
      ((options.showHelp = true ∧ parseCommandLine stored = .ok options) ∨
      (options.showHelp = false ∧
        (modeFlags options.toProgramOptions).count true > 1 ∧
        parseCommandLine stored = .error (.invalidArgument (text
          ("--dice, --dice-only, --cards, and --cards-only are mutually " ++
            "exclusive")))) ∨
      (options.showHelp = false ∧
        options.wordCount ∉ [12, 15, 18, 21, 24] ∧
        parseCommandLine stored = .error (.invalidArgument
          (text "word count must be 12, 15, 18, 21, or 24"))) ∨
      ∃ mode strength, Accepted options mode strength ∧
        parseCommandLine stored = .ok options) := by
  cases stored with
  | error message => exact .inl ⟨message, rfl, rfl⟩
  | ok options =>
      refine .inr ⟨options, rfl, ?_⟩
      unfold parseCommandLine
      cases help : options.showHelp with
      | true =>
          left
          simp [help, Except.mapError, bind, Except.bind, pure, Except.pure]
      | false =>
          right
          by_cases several :
              (modeFlags options.toProgramOptions).count true > 1
          · left
            refine ⟨rfl, several, ?_⟩
            unfold modeFlags at several
            simp only [Except.mapError, bind, Except.bind, help,
              Bool.false_eq_true, not_false_eq_true, if_true, several]
            rfl
          · right
            obtain ⟨mode, selected⟩ :=
              (exists_mode_iff options.toProgramOptions).mpr several
            unfold modeFlags at several
            by_cases supported : options.wordCount ∈ [12, 15, 18, 21, 24]
            · right
              obtain ⟨strength, counted⟩ := Strength.exists_wordCount supported
              refine ⟨mode, strength, ⟨help, selected, counted.symm⟩, ?_⟩
              have bytes := strength.entropyBytes
              rw [counted] at bytes
              simp only [Except.mapError, bind, Except.bind, help,
                Bool.false_eq_true, not_false_eq_true, if_true, several,
                if_false, bytes]
              rfl
            · left
              refine ⟨rfl, supported, ?_⟩
              simp only [Except.mapError, bind, Except.bind, help,
                Bool.false_eq_true, not_false_eq_true, if_true, several,
                if_false, entropyBytesForWordCount_of_not_mem supported]

theorem Accepted.parsed {options : CommandLineOptions} {mode : EntropyMode}
    {strength : Strength} (accepted : Accepted options mode strength) :
    parseCommandLine (.ok options) = .ok options := by
  rcases parseCommandLine_cases (.ok options) with
    ⟨message, impossible, -⟩ | ⟨other, same, cases⟩
  · cases impossible
  cases same
  rcases cases with ⟨-, parsed⟩ | ⟨-, several, -⟩ | ⟨-, unsupported, -⟩ |
    ⟨-, -, -, parsed⟩
  · exact parsed
  · have one := (exists_mode_iff options.toProgramOptions).mp
      ⟨mode, accepted.selected⟩
    exact (one several).elim
  · apply absurd _ unsupported
    rw [accepted.counted]
    cases strength <;> decide
  · exact parsed

end Bip39
