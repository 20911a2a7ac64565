import Bip39.Source.Entropy
import Bip39.Source.Stream

/-!
# Interactive entropy in `seeds.cpp`

The two prompting loops recurse on the lines of standard input: each of their
iterations takes one line with `std::getline`.
-/

namespace Bip39.Source

open Bip39.Support

def generateSystemEntropy (openSsl : OpenSsl) (byteCount : Nat) :
    Except Failure Bytes :=
  match openSsl.randPrivBytes byteCount with
  | none => .error (.runtimeError
      (text "RAND_priv_bytes failed: " ++ opensslErrorMessage openSsl))
  | some entropy => .ok entropy.toList

def promptRoll (rollNumber rollCount : Nat) (stream : OStream) : OStream :=
  stream.put (text "Roll ") |>.putNat rollNumber |>.put [chr '/']
    |>.putNat rollCount |>.put (text ": ")

/-- The test `read_die_face` makes on a line, with the character it returns
when the test succeeds. -/
def dieFace (input : Text) : Option UInt8 :=
  let (stream, roll) := (IStringStream.ofText input).getInt 0
  if stream.failbit then none
  else
    let (stream, _) := stream.getChar 0
    if stream.failbit ∧ 1 ≤ roll ∧ roll ≤ 6 then
      some (chr '0' + UInt8.ofNat roll.toNat)
    else none

def diceEnded : Failure :=
  .runtimeError (text "input ended before all dice rolls were entered")

def readDieFaceFrom (rollNumber rollCount : Nat) (cout cerr : OStream) :
    List Text → Except Failure UInt8 × Console
  | [] => (.error diceEnded,
      { input := [], cout := promptRoll rollNumber rollCount cout, cerr })
  | input :: lines =>
      let cout := promptRoll rollNumber rollCount cout
      match dieFace input with
      | some face => (.ok face, { input := lines, cout, cerr })
      | none => readDieFaceFrom rollNumber rollCount cout
          (cerr.put (text "Please enter one die result from 1 through 6.\n"))
          lines

def readDieFace (rollNumber rollCount : Nat) : Program UInt8 :=
  fun console =>
    readDieFaceFrom rollNumber rollCount console.cout console.cerr
      console.input

/-- The roll number of an iteration is one more than its index. -/
def readMixedDiceRolls (rollCount : Nat) : Program Bytes :=
  forCount rollCount
    (fun index rolls => do
      let face ← readDieFace (index + 1) rollCount
      return rolls ++ [face - chr '1'])
    []

def readAsciiDiceRolls (rollCount : Nat) : Program Text :=
  forCount rollCount
    (fun index rolls => do
      let face ← readDieFace (index + 1) rollCount
      return rolls ++ [face])
    []

def generateMixedDiceEntropy (openSsl : OpenSsl) (byteCount : Nat) :
    Program Bytes := do
  let entropyBitCount := byteCount * 8
  let rollCount ← .lift (mixedDiceRollCount byteCount)
  .cout fun stream =>
    stream.put (text "Dice mode requires ") |>.putNat rollCount
      |>.put (text " rolls for ") |>.putNat entropyBitCount
      |>.put (text " bits of BIP-39 entropy.\n")
      |>.put (text "Enter each die result as a number from 1 through 6.\n\n")
  let rolls ← readMixedDiceRolls rollCount
  let systemRandom ← .lift (generateSystemEntropy openSsl sha256Size)
  .lift (mixDiceEntropy openSsl rolls systemRandom byteCount)

def generateDiceOnlyEntropy (openSsl : OpenSsl) (byteCount : Nat) :
    Program Bytes := do
  let entropyBitCount := byteCount * 8
  let rollCount ← .lift (diceOnlyRollCount byteCount)
  .cout fun stream =>
    stream.put (text "Dice-only compatibility mode requires ")
      |>.putNat rollCount |>.put (text " rolls for ")
      |>.putNat entropyBitCount |>.put (text " bits of BIP-39 entropy.\n")
      |>.put (text "This mode does not mix OpenSSL randomness.\n")
      |>.put (text "Enter each die result as a number from 1 through 6.\n\n")
  let rolls ← readAsciiDiceRolls rollCount
  .lift (diceOnlyEntropy openSsl rolls byteCount)

def cardEntryInstructions (stream : OStream) : OStream :=
  stream.put (text
      "Enter one card at a time from the top of the deck to the bottom.\n")
    |>.put (text "Ranks: a, 2 through 10, j, q, k. Suits: c, d, h, s.\n")
    |>.put (text "Examples: as, 10d, qh. The letter t may be used for ten.\n")
    |>.put (text "Card names are case-insensitive.\n\n")

def printCardEntryInstructions : Program Unit := .cout cardEntryInstructions

/-- The local variables of `read_card_deck`. -/
structure DeckReader where
  deck : Text := []
  seen : List Text := []
  position : Nat := 1
  deriving DecidableEq, Repr

def promptCard (shuffleNumber position : Nat) (stream : OStream) : OStream :=
  stream.put (text "Shuffle ") |>.putNat shuffleNumber
    |>.put (text ", card ") |>.putNat position |>.put [chr '/']
    |>.putNat cardsPerDeck |>.put (text ": ")

/-- The `try` block of `read_card_deck` with its handler: only
`invalid_argument` is caught. -/
def acceptCard (reader : DeckReader) (cerr : OStream) (input : Text) :
    Except Failure (DeckReader × OStream) :=
  match normalizeCard input with
  | .ok card =>
      if reader.seen.contains card then
        .ok (reader, cerr.put (text "Duplicate card: ") |>.put card
          |>.put (text ". Enter a different card.\n"))
      else
        .ok ({ deck := reader.deck ++ card, seen := reader.seen ++ [card],
               position := reader.position + 1 }, cerr)
  | .error (.invalidArgument what) =>
      .ok (reader, cerr.put what |>.put [chr '\n'])
  | .error failure => .error failure

def cardsEnded : Failure :=
  .runtimeError (text "input ended before all cards were entered")

def readCardDeckFrom (shuffleNumber : Nat) (reader : DeckReader)
    (cout cerr : OStream) (lines : List Text) :
    Except Failure Text × Console :=
  if reader.position ≤ cardsPerDeck then
    let cout := promptCard shuffleNumber reader.position cout
    match lines with
    | [] => (.error cardsEnded, { input := [], cout, cerr })
    | input :: lines =>
        match acceptCard reader cerr input with
        | .ok (reader, cerr) =>
            readCardDeckFrom shuffleNumber reader cout cerr lines
        | .error failure => (.error failure, { input := lines, cout, cerr })
  else (.ok reader.deck, { input := lines, cout, cerr })

def readCardDeck (shuffleNumber : Nat) : Program Text :=
  fun console =>
    readCardDeckFrom shuffleNumber {} console.cout console.cerr console.input

def generateMixedCardEntropy (openSsl : OpenSsl) (byteCount : Nat) :
    Program Bytes := do
  let entropyBitCount := byteCount * 8
  .cout fun stream =>
    stream.put (text "Cards mode requires one shuffled 52-card deck for ")
      |>.putNat entropyBitCount |>.put (text " bits of BIP-39 entropy.\n")
      |>.put (text ("This mode mixes the deck ordering with 32 bytes of " ++
        "OpenSSL randomness.\n"))
  printCardEntryInstructions
  let deck ← readCardDeck 1
  let systemRandom ← .lift (generateSystemEntropy openSsl sha256Size)
  .lift (mixCardEntropy openSsl deck systemRandom byteCount)

def announceCardsOnly (deckCount entropyBitCount : Nat) (stream : OStream) :
    OStream :=
  stream.put (text "Cards-only mode requires ") |>.putNat deckCount
    |>.put (if deckCount = 1 then text " shuffled deck"
      else text " independent shuffles")
    |>.put (text " for ") |>.putNat entropyBitCount
    |>.put (text " bits of BIP-39 entropy.\n")
    |>.put (text "This mode does not mix OpenSSL randomness.\n")

def announceSecondShuffle (stream : OStream) : OStream :=
  stream.put (text ("\nA single shuffled deck cannot supply 256 bits of " ++
      "card-only entropy.\n"))
    |>.put (text ("Restore the deck to canonical order, perform a fresh " ++
      "shuffle,\n"))
    |>.put (text "then enter the second ordering from top to bottom.\n\n")

def generateCardsOnlyEntropy (openSsl : OpenSsl) (byteCount : Nat) :
    Program Bytes := do
  let entropyBitCount := byteCount * 8
  let deckCount ← .lift (cardsOnlyDeckCount byteCount)
  .cout (announceCardsOnly deckCount entropyBitCount)
  printCardEntryInstructions
  let firstDeck ← readCardDeck 1
  if deckCount = 1 then
    .lift (cardsOnlyEntropy openSsl firstDeck [] byteCount)
  else
    .cout announceSecondShuffle
    let secondDeck ← readCardDeck 2
    .lift (cardsOnlyEntropy openSsl firstDeck secondDeck byteCount)

end Bip39.Source
