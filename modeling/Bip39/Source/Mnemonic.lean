import Bip39.Source.Text

/-!
# `bip39.cpp`

OpenSSL is a parameter: `OpenSsl` records what its calls report.  A digest
carries its size, as `std::array` does.
-/

namespace Bip39.Source

open Bip39.Support

def wordlistSize : Nat := 2048

def bitsPerWord : Nat := 11

def sha256Size : Nat := 32

structure Digest where
  bytes : Bytes
  size_eq : bytes.length = sha256Size

structure OpenSsl where
  /-- `EVP_Digest` with `EVP_sha256`: the bytes written, or `none` when the
  return value is not 1. -/
  evpDigest : Bytes → Option Bytes
  /-- `RAND_priv_bytes`: the bytes written, or `none` when the return value is
  not 1. -/
  randPrivBytes : (count : Nat) → Option (Vector UInt8 count)
  /-- The queued error as text, or `none` when `ERR_get_error` returns 0. -/
  errGetError : Option Text

/-- An OpenSSL whose calls all report success. -/
def OpenSsl.reliable (hash : Bytes → Digest)
    (random : (count : Nat) → Vector UInt8 count) : OpenSsl :=
  { evpDigest := fun data => some (hash data).bytes
    randPrivBytes := fun count => some (random count)
    errGetError := none }

def opensslErrorMessage (openSsl : OpenSsl) : Text :=
  match openSsl.errGetError with
  | none => text "OpenSSL did not provide additional error information"
  | some message => message

def readBit (bytes : Bytes) (bitPosition : Nat) : Except Failure Bool := do
  let bytePosition := bitPosition / 8
  let bitWithinByte := bitPosition % 8
  let shift := 7 - bitWithinByte
  let byte ← subscript bytes bytePosition
  return (byte.toNat >>> shift) &&& 1 ≠ 0

def entropyBytesForWordCount (wordCount : Nat) : Except Failure Nat :=
  match wordCount with
  | 12 => .ok 16
  | 15 => .ok 20
  | 18 => .ok 24
  | 21 => .ok 28
  | 24 => .ok 32
  | _ => .error
      (.invalidArgument (text "word count must be 12, 15, 18, 21, or 24"))

def sha256 (openSsl : OpenSsl) (data : Bytes) : Except Failure Digest :=
  match openSsl.evpDigest data with
  | none => .error
      (.runtimeError (text "SHA-256 failed: " ++ opensslErrorMessage openSsl))
  | some written =>
      if fits : written.length = sha256Size then .ok ⟨written, fits⟩
      else .error
        (.runtimeError (text "SHA-256 returned an unexpected length"))

/-- One iteration of the inner loop of `make_indices`: shift the next bit of
the combined sequence into the index. -/
def packBit (entropy : Bytes) (digest : Digest) (entropyBitCount wordNumber : Nat)
    (bit : Nat) (index : UInt16) : Except Failure UInt16 := do
  let combinedPosition := wordNumber * bitsPerWord + bit
  let value ←
    if combinedPosition < entropyBitCount then
      readBit entropy combinedPosition
    else
      let checksumPosition := combinedPosition - entropyBitCount
      readBit digest.bytes checksumPosition
  return (index <<< 1) ||| value.toUInt16

/-- One iteration of the outer loop of `make_indices`. -/
def packWord (entropy : Bytes) (digest : Digest) (entropyBitCount : Nat)
    (wordNumber : Nat) (indices : List UInt16) :
    Except Failure (List UInt16) := do
  let index ←
    forCount bitsPerWord (packBit entropy digest entropyBitCount wordNumber) 0
  if index.toNat ≥ wordlistSize then
    throw (.logicError (text "generated index is outside the BIP-39 wordlist"))
  return indices ++ [index]

def makeIndices (entropy : Bytes) (digest : Digest) (wordCount : Nat) :
    Except Failure (List UInt16) := do
  let expectedEntropyByteCount ← entropyBytesForWordCount wordCount
  if entropy.length ≠ expectedEntropyByteCount then
    throw (.invalidArgument (text "entropy size does not match word count"))
  let entropyBitCount := entropy.length * 8
  let checksumBitCount := entropyBitCount / 32
  let combinedBitCount := entropyBitCount + checksumBitCount
  if combinedBitCount ≠ wordCount * bitsPerWord then
    throw (.logicError
      (text "internal BIP-39 entropy-length calculation failed"))
  forCount wordCount (packWord entropy digest entropyBitCount) []

theorem sha256_reliable (hash : Bytes → Digest)
    (random : (count : Nat) → Vector UInt8 count) (data : Bytes) :
    sha256 (.reliable hash random) data = .ok (hash data) := by
  simp [sha256, OpenSsl.reliable, (hash data).size_eq]

end Bip39.Source
