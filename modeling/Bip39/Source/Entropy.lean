import Bip39.Source.Mnemonic
import Mathlib.Data.List.DropRight

/-!
# `entropy.cpp`

Each conditioner first checks its arguments and builds the bytes to hash, then
hashes and truncates them; the two parts are separate definitions here.
-/

namespace Bip39.Source

open Bip39.Support

def cardsPerDeck : Nat := 52

def canonicalCardSize : Nat := 2

def canonicalDeckSize : Nat := cardsPerDeck * canonicalCardSize

def mixedDiceDomain : Text := text "bip39-dice-v1"

def mixedCardsDomain : Text := text "bip39-cards-v1"

def cardsOnlyDomain : Text := text "bip39-cards-only-v1"

def cardRanks : Text := text "a23456789tjqk"

def cardSuits : Text := text "cdhs"

def unsupportedEntropyLength : Failure :=
  .invalidArgument (text "unsupported BIP-39 entropy length")

def requireSupportedEntropySize (byteCount : Nat) : Except Failure Unit :=
  match byteCount with
  | 16 | 20 | 24 | 28 | 32 => .ok ()
  | _ => .error unsupportedEntropyLength

/-- The conversions to `unsigned char` keep the low byte. -/
def appendUint16Be (bytes : Bytes) (value : UInt16) : Bytes :=
  bytes ++ [(value >>> 8).toUInt8] ++ [(value &&& 0xff).toUInt8]

def appendText (bytes : Bytes) (characters : Text) : Bytes :=
  bytes ++ characters

/-- `std::copy_n` reads `byteCount` bytes of the digest. -/
def truncateDigest (digest : Digest) (byteCount : Nat) : Except Failure Bytes :=
  if byteCount ≤ digest.bytes.length then .ok (digest.bytes.take byteCount)
  else .error .outOfBounds

def lowercaseAscii (character : UInt8) : UInt8 := tolower character

/-- The first loop removes from the front, the second from the back. -/
def trimAsciiSpace (characters : Text) : Text :=
  (characters.dropWhile isspace).rdropWhile isspace

def cardIndex (rank suit : UInt8) : Except Failure Nat :=
  match cardRanks.idxOf? rank, cardSuits.idxOf? suit with
  | some rankPosition, some suitPosition =>
      .ok (suitPosition * cardRanks.length + rankPosition)
  | _, _ => .error (.invalidArgument (text "invalid canonical card name"))

/-- One iteration of the loop in `validate_canonical_deck`. -/
def markCard (deck : Text) (offset : Nat) (seen : List Bool) :
    Except Failure (List Bool) := do
  let rank ← subscript deck offset
  let suit ← subscript deck (offset + 1)
  let index ← cardIndex rank suit
  let repeated ← subscript seen index
  if repeated then
    throw (.invalidArgument (text "canonical deck contains a duplicate card"))
  return seen.set index true

def validateCanonicalDeck (deck : Text) : Except Failure Unit := do
  if deck.length ≠ canonicalDeckSize then
    throw (.invalidArgument (text "a canonical deck must contain 52 cards"))
  let _ ← forStride canonicalCardSize deck.length (markCard deck)
    (List.replicate cardsPerDeck false)
  return ()

def mixedDiceRollCount (byteCount : Nat) : Except Failure Nat :=
  match byteCount with
  | 16 => .ok 75
  | 20 => .ok 87
  | 24 => .ok 100
  | 28 => .ok 112
  | 32 => .ok 124
  | _ => .error unsupportedEntropyLength

def diceOnlyRollCount (byteCount : Nat) : Except Failure Nat :=
  match byteCount with
  | 16 => .ok 50
  | 20 => .ok 62
  | 24 => .ok 75
  | 28 => .ok 87
  | 32 => .ok 99
  | _ => .error unsupportedEntropyLength

def cardsOnlyDeckCount (byteCount : Nat) : Except Failure Nat := do
  requireSupportedEntropySize byteCount
  return if byteCount = 32 then 2 else 1

def mixDiceInput (rolls systemRandom : Bytes) (byteCount : Nat) :
    Except Failure Bytes := do
  requireSupportedEntropySize byteCount
  let rollCount ← mixedDiceRollCount byteCount
  if rolls.length ≠ rollCount then
    throw (.invalidArgument (text "incorrect number of mixed dice rolls"))
  if ¬rolls.all (fun roll => roll ≤ 5) then
    throw (.invalidArgument
      (text "mixed dice rolls must be values 0 through 5"))
  if systemRandom.length ≠ sha256Size then
    throw (.invalidArgument
      (text "mixed dice mode requires 32 bytes of system randomness"))
  let entropyBitCount := byteCount * 8
  let conditionerInput := appendText [] mixedDiceDomain
  let conditionerInput :=
    appendUint16Be conditionerInput (UInt16.ofNat entropyBitCount)
  let conditionerInput :=
    appendUint16Be conditionerInput (UInt16.ofNat rolls.length)
  return conditionerInput ++ rolls ++ systemRandom

def mixDiceEntropy (openSsl : OpenSsl) (rolls systemRandom : Bytes)
    (byteCount : Nat) : Except Failure Bytes := do
  let conditionerInput ← mixDiceInput rolls systemRandom byteCount
  let digest ← sha256 openSsl conditionerInput
  truncateDigest digest byteCount

def diceOnlyInput (rolls : Text) (byteCount : Nat) : Except Failure Bytes := do
  requireSupportedEntropySize byteCount
  let rollCount ← diceOnlyRollCount byteCount
  if rolls.length ≠ rollCount then
    throw (.invalidArgument (text "incorrect number of dice-only rolls"))
  if ¬rolls.all (fun roll => chr '1' ≤ roll && roll ≤ chr '6') then
    throw (.invalidArgument
      (text "dice-only rolls must be ASCII digits 1 through 6"))
  return rolls

def diceOnlyEntropy (openSsl : OpenSsl) (rolls : Text) (byteCount : Nat) :
    Except Failure Bytes := do
  let input ← diceOnlyInput rolls byteCount
  let digest ← sha256 openSsl input
  truncateDigest digest byteCount

def normalizeCard (card : Text) : Except Failure Text := do
  match trimAsciiSpace card with
  | [first, second] =>
      let rank := lowercaseAscii first
      let suit := lowercaseAscii second
      let _ ← cardIndex rank suit
      return [rank, suit]
  | [first, second, third] =>
      if first = chr '1' ∧ second = chr '0' then
        let rank := chr 't'
        let suit := lowercaseAscii third
        let _ ← cardIndex rank suit
        return [rank, suit]
      else
        throw (.invalidArgument (text
          "card must be a rank followed by a suit, such as as, 10d, or qh"))
  | _ =>
      throw (.invalidArgument (text
        "card must be a rank followed by a suit, such as as, 10d, or qh"))

def mixCardInput (canonicalDeck : Text) (systemRandom : Bytes)
    (byteCount : Nat) : Except Failure Bytes := do
  requireSupportedEntropySize byteCount
  validateCanonicalDeck canonicalDeck
  if systemRandom.length ≠ sha256Size then
    throw (.invalidArgument
      (text "mixed cards mode requires 32 bytes of system randomness"))
  let conditionerInput := appendText [] mixedCardsDomain
  let conditionerInput := appendText conditionerInput canonicalDeck
  return conditionerInput ++ systemRandom

def mixCardEntropy (openSsl : OpenSsl) (canonicalDeck : Text)
    (systemRandom : Bytes) (byteCount : Nat) : Except Failure Bytes := do
  let conditionerInput ← mixCardInput canonicalDeck systemRandom byteCount
  let digest ← sha256 openSsl conditionerInput
  truncateDigest digest byteCount

/-- The role of the second deck depends on the size. -/
def checkSecondDeck (requiredDecks : Nat) (first second : Text) :
    Except Failure Unit :=
  if requiredDecks = 1 then
    if second ≠ [] then
      .error (.invalidArgument (text
        "a second deck is used only for 256-bit card-only entropy"))
    else .ok ()
  else do
    validateCanonicalDeck second
    if first = second then
      throw (.invalidArgument (text
        "the second card-only shuffle must differ from the first"))

def cardsOnlyInput (firstCanonicalDeck secondCanonicalDeck : Text)
    (byteCount : Nat) : Except Failure Bytes := do
  let requiredDecks ← cardsOnlyDeckCount byteCount
  validateCanonicalDeck firstCanonicalDeck
  checkSecondDeck requiredDecks firstCanonicalDeck secondCanonicalDeck
  let conditionerInput := appendText [] cardsOnlyDomain
  let conditionerInput := appendText conditionerInput firstCanonicalDeck
  return appendText conditionerInput secondCanonicalDeck

def cardsOnlyEntropy (openSsl : OpenSsl)
    (firstCanonicalDeck secondCanonicalDeck : Text) (byteCount : Nat) :
    Except Failure Bytes := do
  let conditionerInput ←
    cardsOnlyInput firstCanonicalDeck secondCanonicalDeck byteCount
  let digest ← sha256 openSsl conditionerInput
  truncateDigest digest byteCount

end Bip39.Source
