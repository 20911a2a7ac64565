import Bip39.Source.EnglishWords
import Bip39.Source.Readers
import Bip39.Source.Wordlist

/-!
# The entropy dispatch of `main`
-/

namespace Bip39.Source

/-- The options the dispatch reads.  `parse_command_line` lets at most one of
the four flags through. -/
structure ProgramOptions where
  wordCount : Nat := 12
  useDice : Bool := false
  useDiceOnly : Bool := false
  useCards : Bool := false
  useCardsOnly : Bool := false
  deriving DecidableEq, Repr

/-- The `if` chain that selects the source of the entropy. -/
def dispatchEntropy (options : ProgramOptions) (openSsl : OpenSsl)
    (entropyByteCount : Nat) : Program Bytes :=
  if options.useCardsOnly then do
    .cerr fun stream => stream.put (text
      ("Entropy path: SHA-256(canonical card ordering), no system " ++
        "randomness\n"))
    generateCardsOnlyEntropy openSsl entropyByteCount
  else if options.useCards then do
    .cerr fun stream => stream.put (text
      "Entropy path: SHA-256(card ordering || RAND_priv_bytes())\n")
    generateMixedCardEntropy openSsl entropyByteCount
  else if options.useDiceOnly then do
    .cerr fun stream => stream.put (text
      "Entropy path: SHA-256(ASCII dice rolls), no system randomness\n")
    generateDiceOnlyEntropy openSsl entropyByteCount
  else if options.useDice then do
    .cerr fun stream => stream.put (text
      "Entropy path: SHA-256(dice rolls || RAND_priv_bytes())\n")
    generateMixedDiceEntropy openSsl entropyByteCount
  else do
    .cerr fun stream => stream.put (text "Entropy path: OpenSSL RAND_priv_bytes()")
      |>.put (text " <- OpenSSL private CSPRNG")
      |>.put (text " <- operating-system random generator\n")
    .lift (generateSystemEntropy openSsl entropyByteCount)

/-- What `main` holds once it has the mnemonic. -/
structure Generated where
  entropy : Bytes
  digest : Digest
  indices : List UInt16
  mnemonic : Text

/-- The part of `main` from the size of the entropy to the mnemonic. -/
def generateMnemonic (options : ProgramOptions) (openSsl : OpenSsl)
    (words : List Text) : Program Generated := do
  let entropyByteCount ← .lift (entropyBytesForWordCount options.wordCount)
  let entropy ← dispatchEntropy options openSsl entropyByteCount
  let digest ← .lift (sha256 openSsl entropy)
  let indices ← .lift (makeIndices entropy digest options.wordCount)
  let mnemonic ← .lift (makeMnemonic words indices)
  return { entropy, digest, indices, mnemonic }

end Bip39.Source
