import Bip39.Source.Text
import Bip39.Support.Positional

/-!
# Standard streams

Output streams carry their formatting state: the number base and the fill
character stay until they are changed, the field width is used up by the next
insertion.  Input streams on a string carry their error bits.  Standard input
is the list of lines `std::getline` has still to return.
-/

namespace Bip39.Source

open Bip39.Support

structure OStream where
  text : Text := []
  base : Nat := 10
  width : Nat := 0
  fill : UInt8 := chr ' '
  deriving DecidableEq, Repr

namespace OStream

/-- Insertion of a character or a string: padded on the left to the field
width, which is then reset. -/
def put (stream : OStream) (item : Text) : OStream :=
  { stream with
    text := stream.text ++
      List.replicate (stream.width - item.length) stream.fill ++ item
    width := 0 }

/-- Insertion of an unsigned integer. -/
def putNat (stream : OStream) (value : Nat) : OStream :=
  stream.put (digits stream.base value)

def hex (stream : OStream) : OStream :=
  { stream with base := 16 }

def dec (stream : OStream) : OStream :=
  { stream with base := 10 }

def setw (stream : OStream) (width : Nat) : OStream :=
  { stream with width }

def setfill (stream : OStream) (fill : UInt8) : OStream :=
  { stream with fill }

theorem put_mk (written item : Text) :
    put { text := written } item = { text := written ++ item } := by
  simp [put]

theorem putNat_mk (written : Text) (value : Nat) :
    putNat { text := written } value =
      { text := written ++ digits 10 value } := by
  simp [putNat, put_mk]

end OStream

/-- `std::istringstream`. -/
structure IStringStream where
  rest : Text
  eofbit : Bool := false
  failbit : Bool := false
  deriving DecidableEq, Repr

/-- An ASCII decimal digit. -/
def isdigit (character : UInt8) : Bool :=
  chr '0' ≤ character && character ≤ chr '9'

/-- Value of an ASCII decimal digit. -/
def digitValue (character : UInt8) : Nat :=
  character.toNat - (chr '0').toNat

/-- `std::numeric_limits<int>::max()` for a 32-bit `int`. -/
def intMax : Nat := 2 ^ 31 - 1

namespace IStringStream

def ofText (input : Text) : IStringStream :=
  { rest := input }

/-- Preparation of a formatted extraction: it fails on a stream that is not
good, and skips leading whitespace otherwise. -/
def sentry (stream : IStringStream) : IStringStream × Bool :=
  if stream.eofbit || stream.failbit then
    ({ stream with failbit := true }, false)
  else
    match stream.rest.dropWhile isspace with
    | [] => ({ rest := [], eofbit := true, failbit := true }, false)
    | rest => ({ stream with rest }, true)

/-- An optional sign; the flag says whether it was a minus. -/
def scanSign : Text → Bool × Text
  | [] => (false, [])
  | character :: rest =>
      if character = chr '-' then (true, rest)
      else if character = chr '+' then (false, rest)
      else (false, character :: rest)

/-- `stream >> value` for an `int`: an optional sign and decimal digits.  A
missing digit stores zero, a value out of range stores the nearest `int`; both
set `failbit`. -/
def getInt (stream : IStringStream) (value : Int) : IStringStream × Int :=
  match stream.sentry with
  | (stream, false) => (stream, value)
  | (stream, true) =>
      let (negative, unsigned) := scanSign stream.rest
      let field := unsigned.takeWhile isdigit
      let rest := unsigned.dropWhile isdigit
      let magnitude := bigEndian 10 (field.map digitValue)
      let limit := if negative then intMax + 1 else intMax
      let signed (bound : Nat) : Int := if negative then -bound else bound
      if field = [] then
        ({ rest, eofbit := rest.isEmpty, failbit := true }, 0)
      else if limit < magnitude then
        ({ rest, eofbit := rest.isEmpty, failbit := true }, signed limit)
      else
        ({ rest, eofbit := rest.isEmpty }, signed magnitude)

/-- `stream >> value` for a `char`. -/
def getChar (stream : IStringStream) (value : UInt8) : IStringStream × UInt8 :=
  match stream.sentry with
  | (stream, false) => (stream, value)
  | (stream, true) =>
      match stream.rest with
      | [] => ({ stream with eofbit := true, failbit := true }, value)
      | character :: rest => ({ stream with rest }, character)

end IStringStream

/-- The standard streams of the process. -/
structure Console where
  input : List Text
  cout : OStream := {}
  cerr : OStream := {}
  deriving DecidableEq, Repr

/-- A computation on the standard streams that may throw; what it read and
wrote before an exception stays read and written. -/
def Program (α : Type) : Type :=
  Console → Except Failure α × Console

namespace Program

instance : Monad Program where
  pure value := fun console => (.ok value, console)
  bind first next := fun console =>
    match first console with
    | (.ok value, after) => next value after
    | (.error failure, after) => (.error failure, after)

/-- A computation that does not touch the streams. -/
def lift {α : Type} (result : Except Failure α) : Program α :=
  fun console => (result, console)

/-- An insertion chain on `std::cout`. -/
def cout (write : OStream → OStream) : Program Unit :=
  fun console => (.ok (), { console with cout := write console.cout })

/-- An insertion chain on `std::cerr`. -/
def cerr (write : OStream → OStream) : Program Unit :=
  fun console => (.ok (), { console with cerr := write console.cerr })

variable {α β : Type}

theorem pure_run (value : α) (console : Console) :
    (pure value : Program α) console = (.ok value, console) := rfl

@[simp] theorem lift_bind_run (value : α) (next : α → Program β)
    (console : Console) :
    (lift (.ok value) >>= next) console = next value console := rfl

@[simp] theorem cout_bind_run (write : OStream → OStream)
    (next : Unit → Program β) (console : Console) :
    (cout write >>= next) console =
      next () { console with cout := write console.cout } := rfl

theorem bind_run_ok {first : Program α} {next : α → Program β}
    {console after : Console} {value : α}
    (run : first console = (.ok value, after)) :
    (first >>= next) console = next value after := by
  change (match first console with
    | (.ok value, after) => next value after
    | (.error failure, after) => (.error failure, after)) = _
  rw [run]

theorem bind_run_error {first : Program α} {next : α → Program β}
    {console after : Console} {failure : Failure}
    (run : first console = (.error failure, after)) :
    (first >>= next) console = (.error failure, after) := by
  change (match first console with
    | (.ok value, after) => next value after
    | (.error failure, after) => (.error failure, after)) = _
  rw [run]

end Program

end Bip39.Source
