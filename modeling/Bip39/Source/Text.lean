import Bip39.Support.CountedLoop

/-!
# Bytes, text and failures

`std::string`, `std::string_view` and `std::vector<unsigned char>` are all
byte lists here.  The sign of a plain `char` plays no part: the program
compares characters only with ASCII characters or after a conversion to
`unsigned char`.  Sizes are natural numbers.  A C++ exception is a value of
`Failure`; an access outside an object, which C++ leaves undefined, is a
failure of its own, so that a proof of success is also a proof of memory
safety.
-/

namespace Bip39.Source

abbrev Bytes := List UInt8

abbrev Text := List UInt8

/-- The bytes of a string literal. -/
def text (literal : String) : Text :=
  literal.toByteArray.data.toList

/-- The byte of an ASCII character literal. -/
def chr (character : Char) : UInt8 :=
  UInt8.ofNat character.toNat

/-- An unsigned integer in the digits of a base, letters in lower case. -/
def digits (base value : Nat) : Text :=
  (Nat.toDigits base value).map chr

inductive Failure where
  | invalidArgument (what : Text)
  | lengthError (what : Text)
  | logicError (what : Text)
  | runtimeError (what : Text)
  | systemError (error : Nat) (what : Text)
  /-- An access outside the bounds of an object. -/
  | outOfBounds
  deriving DecidableEq, Repr

/-- `object[index]`, without any check in C++. -/
def subscript {α : Type} (object : List α) (index : Nat) : Except Failure α :=
  match object[index]? with
  | some element => .ok element
  | none => .error .outOfBounds

theorem subscript_of_lt {α : Type} {object : List α} {index : Nat}
    (inside : index < object.length) :
    subscript object index = .ok object[index] := by
  simp [subscript, inside]

/-- `std::isspace` of the C locale. -/
def isspace (character : UInt8) : Bool :=
  character = chr ' ' || (9 ≤ character && character ≤ 13)

/-- `std::tolower` of the C locale. -/
def tolower (character : UInt8) : UInt8 :=
  if chr 'A' ≤ character ∧ character ≤ chr 'Z' then character + 32
  else character

end Bip39.Source
