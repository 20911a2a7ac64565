import Bip39.Source.Mnemonic
import Mathlib.Data.List.Dedup

/-!
# Wordlists and mnemonic sentences in `seeds.cpp`
-/

namespace Bip39.Source

open Bip39.Support

/-- The strings successive `std::getline` calls return for a file content.  An
unterminated last segment counts as a line only when it is not empty. -/
def getlines : Bytes → List Text
  | [] => []
  | byte :: rest =>
      if byte = chr '\n' then [] :: getlines rest
      else
        match getlines rest with
        | [] => [[byte]]
        | line :: lines => (byte :: line) :: lines

def stripCarriageReturn (word : Text) : Text :=
  if word.getLast? = some (chr '\r') then word.dropLast else word

def readWords (words : List Text) : List Text → Except Failure (List Text)
  | [] => .ok words
  | line :: lines =>
      let word := stripCarriageReturn line
      if word = [] then
        .error (.runtimeError (text "wordlist contains an empty line"))
      else readWords (words ++ [word]) lines

/-- The size and uniqueness checks of `load_wordlist`.  The set of unique
words is as large as the list without its repetitions. -/
def checkWords (words : List Text) : Except Failure (List Text) :=
  if words.length ≠ wordlistSize then
    .error (.runtimeError
      (text "wordlist must contain exactly 2048 words; found " ++
        digits 10 words.length))
  else if words.dedup.length ≠ words.length then
    .error (.runtimeError (text "wordlist contains duplicate words"))
  else .ok words

/-- `content` is what the named file holds, or `none` when it cannot be
opened. -/
def loadWordlist (filename : Text) (content : Option Bytes) :
    Except Failure (List Text) :=
  match content with
  | none => .error
      (.runtimeError (text "could not open wordlist file: " ++ filename))
  | some bytes => do
      let words ← readWords [] (getlines bytes)
      checkWords words

/-- One iteration of the loop in `make_mnemonic`. -/
def appendWord (words : List Text) (indices : List UInt16) (position : Nat)
    (mnemonic : Text) : Except Failure Text := do
  let separated := if position ≠ 0 then mnemonic ++ [chr ' '] else mnemonic
  let index ← subscript indices position
  let word ← subscript words index.toNat
  return separated ++ word

def makeMnemonic (words : List Text) (indices : List UInt16) :
    Except Failure Text :=
  forCount indices.length (appendWord words indices) []

end Bip39.Source
