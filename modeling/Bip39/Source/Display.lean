import Bip39.Source.Mnemonic
import Bip39.Source.Stream

/-!
# Displayed forms in `seeds.cpp`

The printing functions act on one output stream, whose base and fill character
outlive the insertion that sets them.
-/

namespace Bip39.Source

open Bip39.Support

namespace Seeds

/-- The private copy of `read_bit` in `seeds.cpp`. -/
def readBit (bytes : Bytes) (bitPosition : Nat) : Except Failure Bool := do
  let bytePosition := bitPosition / 8
  let bitWithinByte := bitPosition % 8
  let shift := 7 - bitWithinByte
  let byte ← subscript bytes bytePosition
  return (byte.toNat >>> shift) &&& 1 ≠ 0

end Seeds

/-- `std::hex << std::setw(2) << std::setfill('0')` and one byte. -/
def putHexByte (stream : OStream) (byte : UInt8) : OStream :=
  stream.hex |>.setw 2 |>.setfill (chr '0') |>.putNat byte.toNat

def printEntropyAndChecksum (entropy : Bytes) (digest : Digest)
    (stream : OStream) : Except Failure OStream := do
  let stream := stream.put (text "\n    BIP-39 Internals\n\n")
  let stream := stream.put (text "Entropy:      ")
  let stream := entropy.foldl putHexByte stream
  let stream := stream.dec |>.setfill (chr ' ') |>.put [chr '\n']
  let entropyBitCount := entropy.length * 8
  let checksumBitCount := entropyBitCount / 32
  let stream := stream.put (text "Checksum:     ")
  let stream ← forCount checksumBitCount
    (fun bit stream => do
      let value ← Seeds.readBit digest.bytes bit
      return stream.put [if value then chr '1' else chr '0'])
    stream
  return stream.put [chr '\n']
    |>.put (text "Entropy bits: ") |>.putNat entropyBitCount
    |>.put [chr '\n']
    |>.put (text "Checksum bits: ") |>.putNat checksumBitCount
    |>.put [chr '\n']

def printMnemonic (words : List Text) (indices : List UInt16)
    (stream : OStream) : Except Failure OStream :=
  forCount indices.length
    (fun position stream => do
      let stream := stream.setw 6 |>.putNat (position + 1) |>.put (text ") ")
      let index ← subscript indices position
      let word ← subscript words index.toNat
      return stream.put word |>.put [chr '\n'])
    (stream.put (text "\n    Seed Words\n\n"))

/-- `std::bitset<width>`: its bits with the lowest first. -/
def bitset (width : Nat) (value : Nat) : List Bool :=
  (List.range width).map value.testBit

/-- The inner loop of `print_tiny_seed`. -/
def printTinySeedRow (index : UInt16) (stream : OStream) :
    Except Failure OStream :=
  let binary := bitset bitsPerWord index.toNat
  forDown bitsPerWord
    (fun bit stream => do
      let value ← subscript binary bit
      return stream.put (if value then text "█ " else text "_ "))
    stream

def printTinySeed (indices : List UInt16) (stream : OStream) :
    Except Failure OStream :=
  forCount indices.length
    (fun position stream => do
      let stream := stream.setw 6 |>.putNat (position + 1) |>.put (text ") ")
      let index ← subscript indices position
      let stream ← printTinySeedRow index stream
      return stream.put [chr '\n'])
    (stream.put (text "\n    Tiny Seed\n\n"))

end Bip39.Source
