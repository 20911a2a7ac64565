import Bip39.Source.Mnemonic
import Bip39.Source.Stream

/-!
# Seed derivation in `bip39.cpp`

`PKCS5_PBKDF2_HMAC` with `EVP_sha512` is a parameter.  The arguments
`derive_seed` passes to it are built by a definition of their own; lengths have
type `int` there.
-/

namespace Bip39.Source

def pbkdf2Iterations : Nat := 2048

def seedSize : Nat := 64

structure Seed where
  bytes : Bytes
  size_eq : bytes.length = seedSize

/-- The arguments of a call of `PKCS5_PBKDF2_HMAC`.  It reads as many bytes of
the password and of the salt as the lengths say. -/
structure Pbkdf2Call where
  password : Bytes
  passwordLength : Int32
  salt : Bytes
  saltLength : Int32
  iterations : Int32
  keyLength : Int32
  deriving DecidableEq

def checkedInt (size : Nat) : Except Failure Int32 :=
  if size > intMax then
    .error (.lengthError (text "BIP-39 input is too large"))
  else .ok (Int32.ofNat size)

def requireAscii (input description : Text) : Except Failure Unit :=
  if ¬input.all (fun character => character ≤ 0x7f) then
    .error (.invalidArgument
      (description ++ text " must contain ASCII characters only"))
  else .ok ()

def pbkdf2Call (mnemonic passphrase : Text) : Except Failure Pbkdf2Call := do
  requireAscii mnemonic (text "mnemonic")
  requireAscii passphrase (text "passphrase")
  let salt := text "mnemonic" ++ passphrase
  let password := if mnemonic = [] then text "" else mnemonic
  let passwordLength ← checkedInt mnemonic.length
  let saltLength ← checkedInt salt.length
  let keyLength ← checkedInt seedSize
  return { password, passwordLength, salt, saltLength
           iterations := Int32.ofNat pbkdf2Iterations, keyLength }

/-- `none` stands for a return value of `PKCS5_PBKDF2_HMAC` other than 1. -/
def deriveSeed (openSsl : OpenSsl) (pkcs5Pbkdf2Hmac : Pbkdf2Call → Option Seed)
    (mnemonic passphrase : Text) : Except Failure Seed := do
  let call ← pbkdf2Call mnemonic passphrase
  match pkcs5Pbkdf2Hmac call with
  | none => .error (.runtimeError
      (text "PBKDF2-HMAC-SHA512 failed: " ++ opensslErrorMessage openSsl))
  | some seed => .ok seed

end Bip39.Source
