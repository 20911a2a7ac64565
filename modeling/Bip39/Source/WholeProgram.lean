import Bip39.Source.CommandLine
import Bip39.Source.Display
import Bip39.Source.HiddenLine
import Bip39.Source.Seed

/-!
# `main`

The function-try-block of `main` turns every exception into an exit status of
1.  What the run gets from outside, apart from standard input, is collected in
an environment.
-/

namespace Bip39.Source

def printSeedDerivation (mnemonic : Text) (hasPassphrase : Bool) (seed : Seed)
    (stream : OStream) : OStream :=
  let stream := stream.put (text "\n    BIP-39 Derivation\n\n")
    |>.put (text "Mnemonic:   ") |>.put mnemonic |>.put [chr '\n']
    |>.put (text "Passphrase: ")
    |>.put (if hasPassphrase then text "set (not displayed)" else text "empty")
    |>.put [chr '\n']
    |>.put (text "Seed:       ")
  let stream := seed.bytes.foldl putHexByte stream
  stream.dec |>.setfill (chr ' ') |>.put [chr '\n']
    |>.put (text "Warning: the mnemonic and seed are secret wallet material.\n")
    |>.put (text
      "Terminal scrollback, logs, and screenshots may retain them.\n")

/-- `what()` of an exception.  An access outside an object is none.
`errorMessage` is the text of an `errno` in the generic category. -/
def Failure.what (errorMessage : Nat → Text) : Failure → Option Text
  | .invalidArgument what => some what
  | .lengthError what => some what
  | .logicError what => some what
  | .runtimeError what => some what
  | .systemError error what => some (what ++ text ": " ++ errorMessage error)
  | .outOfBounds => none

/-- What a run gets from outside, apart from standard input. -/
structure Environment where
  programName : Text
  stored : Except Text CommandLineOptions
  optionsDescription : Text
  /-- The content of the named file, or `none` when it cannot be opened. -/
  file : Text → Option Bytes
  openSsl : OpenSsl
  pkcs5Pbkdf2Hmac : Pbkdf2Call → Option Seed
  errorMessage : Nat → Text
  /-- The terminal during the two calls of `read_hidden_line`. -/
  firstScript : Script
  secondScript : Script

def Program.print (write : OStream → Except Failure OStream) : Program Unit :=
  fun console =>
    match write console.cout with
    | .ok cout => (.ok (), { console with cout })
    | .error failure => (.error failure, console)

def selectWordlist (environment : Environment) (options : CommandLineOptions) :
    Except Failure (List Text) :=
  if options.wordlistFilename = [] then .ok makeEnglishWordList
  else loadWordlist options.wordlistFilename
    (environment.file options.wordlistFilename)

/-- The part of `main` from the wordlist to the Tiny Seed. -/
def showMnemonic (environment : Environment) (options : CommandLineOptions) :
    Program Generated := do
  let words ← .lift (selectWordlist environment options)
  let generated ←
    generateMnemonic options.toProgramOptions environment.openSsl words
  if options.showEntropy then
    .print (printEntropyAndChecksum generated.entropy generated.digest)
  .print (printMnemonic words generated.indices)
  .print (printTinySeed generated.indices)
  return generated

/-- A run is `killed` when a signal has ended the process, and still `waiting`
when `read` has not returned.  It is `undefined` after an access outside an
object. -/
inductive Exit where
  | status (code : Nat)
  | killed (signal : Signal)
  | waiting
  | undefined
  deriving DecidableEq, Repr

/-- What a run leaves.  Its output is in the console; that of the process only
serves the calls of `read_hidden_line`.  What a killed run has put in a stream
counts as written, flushed or not. -/
structure Ended where
  exit : Exit
  console : Console
  process : Process

def handleException (environment : Environment) (failure : Failure)
    (console : Console) (process : Process) : Ended :=
  match failure.what environment.errorMessage with
  | some what =>
      { exit := .status 1
        console := { console with
          cerr := console.cerr.put (text "Error: ") |>.put what
            |>.put [chr '\n'] }
        process }
  | none => { exit := .undefined, console, process }

def finishRun (console : Console) (process : Process) : Ended :=
  { exit := .status 0
    console := { console with cout := console.cout.put [chr '\n'] }
    process }

/-- The part of `main` under `--show-seed`, and what follows it. -/
def showSeed (environment : Environment) (mnemonic : Text) (console : Console)
    (process : Process) : Ended :=
  let entry := readPassphrase environment.firstScript environment.secondScript
    [] { process with cout := console.cout }
  let console := { console with cout := entry.process.cout }
  match entry.outcome with
  | .waiting => { exit := .waiting, console, process := entry.process }
  | .killed signal =>
      { exit := .killed signal, console, process := entry.process }
  | .thrown failure =>
      handleException environment failure console entry.process
  | .returned =>
      match deriveSeed environment.openSsl environment.pkcs5Pbkdf2Hmac mnemonic
        entry.target with
      | .error failure =>
          handleException environment failure console entry.process
      | .ok seed =>
          let cout := printSeedDerivation mnemonic (entry.target ≠ []) seed
            console.cout
          finishRun { console with cout } entry.process

def main (environment : Environment) (console : Console) (process : Process) :
    Ended :=
  match parseCommandLine environment.stored with
  | .error failure => handleException environment failure console process
  | .ok options =>
      if options.showHelp then
        { exit := .status 0
          console := { console with
            cout := printHelp environment.programName
              environment.optionsDescription console.cout }
          process }
      else
        match showMnemonic environment options console with
        | (.error failure, console) =>
            handleException environment failure console process
        | (.ok generated, console) =>
            if options.showSeed then
              showSeed environment generated.mnemonic console process
            else finishRun console process

end Bip39.Source
