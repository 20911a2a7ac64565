import Bip39.Source.Stream

/-!
# Hidden passphrase input in `seeds.cpp`

The process state holds what the two guards change and put back.  What the
system calls report, and which signals arrive while the handlers are installed,
is given by a script.  A signal that arrives between an interrupted call and the
look at the flag has the effect of one that arrives just before that call is
interrupted.  While any other result is handled, it has the effect of one that
arrives just before the next call.  A `SensitiveString` is the text it holds;
that its destructor wipes the memory is left out.
-/

namespace Bip39.Source

inductive Signal where
  | sigint
  | sigterm
  | sighup
  | sigquit
  deriving DecidableEq, Repr

/-- The action of a signal: the program's own handler, the default action,
which ends the process, or any other one, after which the process goes on. -/
inductive Handler where
  | rememberSignal
  | defaultAction
  | other (action : Nat)
  deriving DecidableEq, Repr

/-- `others` stands for the settings the program leaves as they are. -/
structure Termios where
  echo : Bool
  echonl : Bool
  others : Nat
  deriving DecidableEq, Repr

/-- A call of `std::raise`, with the handlers and the terminal it meets. -/
structure Raise where
  signal : Signal
  handlers : Signal → Handler
  terminal : Termios

structure Process where
  handlers : Signal → Handler
  terminal : Termios
  /-- `caught_signal`, where zero is `none`. -/
  caughtSignal : Option Signal := none
  cout : OStream := {}
  raised : List Raise := []

def rememberSignal (process : Process) (signalNumber : Signal) : Process :=
  { process with caughtSignal := some signalNumber }

inductive RaiseEnd where
  | killed
  | returned
  deriving DecidableEq, Repr

namespace Process

/-- `std::raise`.  The action of the signal has been taken when the call
returns; under the default action the process ends in the call. -/
def raise (process : Process) (signal : Signal) : RaiseEnd × Process :=
  let call : Raise :=
    { signal, handlers := process.handlers, terminal := process.terminal }
  let process := { process with raised := process.raised ++ [call] }
  match process.handlers signal with
  | .defaultAction => (.killed, process)
  | .rememberSignal => (.returned, rememberSignal process signal)
  | .other _ => (.returned, process)

def write (process : Process) (item : Text) : Process :=
  { process with cout := process.cout.put item }

end Process

def eintr : Nat := 4

/-- The bytes of one successful `read` into the buffer. -/
structure Chunk where
  bytes : Bytes
  nonempty : bytes ≠ []
  fits : bytes.length ≤ 256

/-- A signal that arrives, or what a call of `read` reports. -/
inductive Event where
  | signal (number : Signal)
  | chunk (piece : Chunk)
  | endOfFile
  | failure (error : Nat)

/-- What the calls report, `none` being success and a number the `errno` of a
failure, and the signals that arrive. -/
structure Script where
  sigaction : Signal → Option Nat := fun _ => none
  isatty : Bool := true
  tcgetattr : Option Nat := none
  tcsetattr : Option Nat := none
  /-- Signals that arrive while `TerminalEchoGuard` is constructed. -/
  arrivals : List Signal := []
  reads : List Event

namespace SignalGuard

def signals : List Signal := [.sigint, .sigterm, .sighup, .sigquit]

def setHandler (signal : Signal) (handler : Handler) (process : Process) :
    Process :=
  { process with
    handlers := fun other =>
      if other = signal then handler else process.handlers other }

/-- The installed signals with their original handlers, the last one first. -/
def restore (installed : List (Signal × Handler)) (process : Process) :
    Process :=
  match installed with
  | [] => process
  | (signal, original) :: installed =>
      restore installed (setHandler signal original process)

/-- The loop of the constructor over the signals still to install. -/
def install (script : Script) (installed : List (Signal × Handler)) :
    List Signal → Process → Except Failure (List (Signal × Handler)) × Process
  | [], process => (.ok installed, process)
  | signal :: signals, process =>
      match script.sigaction signal with
      | some error =>
          (.error (.systemError error (text "could not install signal handler")),
            restore installed process)
      | none =>
          install script ((signal, process.handlers signal) :: installed)
            signals (setHandler signal .rememberSignal process)

def construct (script : Script) (process : Process) :
    Except Failure (List (Signal × Handler)) × Process :=
  install script [] signals { process with caughtSignal := none }

end SignalGuard

namespace TerminalEchoGuard

def construct (script : Script) (process : Process) :
    Except Failure Termios × Process :=
  if script.isatty = false then
    (.error (.runtimeError (text
      "passphrase input requires an interactive terminal")), process)
  else
    match script.tcgetattr with
    | some error =>
        (.error (.systemError error (text "could not read terminal settings")),
          process)
    | none =>
        let original := process.terminal
        let hidden := { original with echo := false, echonl := false }
        match script.tcsetattr with
        | some error =>
            (.error (.systemError error (text "could not disable terminal echo")),
              process)
        | none => (.ok original, { process with terminal := hidden })

def restore (original : Termios) (process : Process) : Process :=
  { process with terminal := original }

end TerminalEchoGuard

/-- How the loop of `read_hidden_line` is left.  It is still `waiting` when
the script has no further event. -/
inductive LoopExit where
  | waiting
  | thrown (failure : Failure)
  | broke (input : Text) (signalNumber : Option Signal)
  deriving DecidableEq, Repr

def stripLineEnd (input : Text) : Text :=
  let input := input.dropLast
  if input.getLast? = some (chr '\r') then input.dropLast else input

/-- The loop of `read_hidden_line`.  `caught_signal` is looked at only when a
call was interrupted. -/
def readLoop (input : Text) : List Event → Process → LoopExit × Process
  | [], process => (.waiting, process)
  | .signal number :: events, process =>
      readLoop input events (rememberSignal process number)
  | .chunk piece :: events, process =>
      let input := input ++ piece.bytes
      if input.getLast? = some (chr '\n') then
        (.broke (stripLineEnd input) none, process)
      else readLoop input events process
  | .endOfFile :: _, process =>
      (.thrown (.runtimeError (text "input ended while reading passphrase")),
        process)
  | .failure error :: events, process =>
      if error = eintr then
        match process.caughtSignal with
        | some signalNumber => (.broke input (some signalNumber), process)
        | none => readLoop input events process
      else
        (.thrown (.systemError error (text "could not read passphrase")),
          process)

/-- A call that is `killed` has ended the process. -/
inductive HiddenLineOutcome where
  | waiting
  | killed (signal : Signal)
  | thrown (failure : Failure)
  | returned
  deriving DecidableEq, Repr

/-- What a call of `read_hidden_line` leaves: how it ended, the string it was
to fill, and the process. -/
structure HiddenLine where
  outcome : HiddenLineOutcome
  target : Text
  process : Process

/-- The guards are left in the reverse order of their construction. -/
def readHiddenLine (script : Script) (prompt target : Text)
    (process : Process) : HiddenLine :=
  let process := process.write prompt
  match SignalGuard.construct script process with
  | (.error failure, process) =>
      { outcome := .thrown failure, target, process }
  | (.ok installed, process) =>
      let process := script.arrivals.foldl rememberSignal process
      match TerminalEchoGuard.construct script process with
      | (.error failure, process) =>
          { outcome := .thrown failure, target,
            process := SignalGuard.restore installed process }
      | (.ok original, process) =>
          match readLoop [] script.reads process with
          | (.waiting, process) => { outcome := .waiting, target, process }
          | (.thrown failure, process) =>
              { outcome := .thrown failure, target,
                process := SignalGuard.restore installed
                  (TerminalEchoGuard.restore original process) }
          | (.broke input signalNumber, process) =>
              let process := SignalGuard.restore installed
                (TerminalEchoGuard.restore original process)
              let process := process.write [chr '\n']
              match signalNumber with
              | some signalNumber =>
                  match process.raise signalNumber with
                  | (.killed, process) =>
                      { outcome := .killed signalNumber, target, process }
                  | (.returned, process) =>
                      { outcome := .thrown (.runtimeError
                          (text "passphrase entry interrupted"))
                        target, process }
              | none => { outcome := .returned, target := input, process }

/-- Each call of `read_hidden_line` has a script of its own: the guard discards
input that was not read before.  The second script plays a part only in the
second call. -/
def readPassphrase (first second : Script) (passphrase : Text)
    (process : Process) : HiddenLine :=
  let entered := readHiddenLine first
    (text "BIP-39 passphrase (empty for none): ") passphrase process
  match entered.outcome with
  | .waiting | .killed _ | .thrown _ => entered
  | .returned =>
      if entered.target = [] then entered
      else
        let confirmation := readHiddenLine second
          (text "Confirm passphrase: ") [] entered.process
        match confirmation.outcome with
        | .waiting | .killed _ | .thrown _ =>
            { outcome := confirmation.outcome
              target := entered.target
              process := confirmation.process }
        | .returned =>
            { outcome :=
                if entered.target ≠ confirmation.target then
                  .thrown (.invalidArgument (text "passphrases do not match"))
                else .returned
              target := entered.target
              process := confirmation.process }

end Bip39.Source
