import Bip39.PassphraseEntry
import Bip39.TerminalRestoration

/-!
# Every way to leave the passphrase entry

A call of `read_hidden_line` fails before its loop, in which case it has only
printed the prompt, or its loop decides.  Each failure has a cause outside the
program.
-/

namespace Bip39

open Bip39.Source Bip39.Support

/-- The exceptions of `read_hidden_line`, apart from the one after a signal that
left the process running, with what brings them about. -/
inductive EntryFailure (script : Script) : Failure → Prop where
  | handler {signal : Signal} {error : Nat}
      (refused : script.sigaction signal = some error) :
      EntryFailure script
        (.systemError error (text "could not install signal handler"))
  | notInteractive (pipe : script.isatty = false) :
      EntryFailure script (.runtimeError
        (text "passphrase input requires an interactive terminal"))
  | settings {error : Nat} (refused : script.tcgetattr = some error) :
      EntryFailure script
        (.systemError error (text "could not read terminal settings"))
  | echo {error : Nat} (refused : script.tcsetattr = some error) :
      EntryFailure script
        (.systemError error (text "could not disable terminal echo"))
  | inputEnded (event : .endOfFile ∈ script.reads) :
      EntryFailure script
        (.runtimeError (text "input ended while reading passphrase"))
  | reading {error : Nat} (event : .failure error ∈ script.reads)
      (other : error ≠ eintr) :
      EntryFailure script
        (.systemError error (text "could not read passphrase"))

theorem signalGuard_install_error {script : Script}
    {installed : List (Signal × Handler)} {signals : List Signal}
    {process after : Process} {failure : Failure}
    (run : SignalGuard.install script installed signals process =
      (.error failure, after)) : EntryFailure script failure := by
  induction signals generalizing installed process with
  | nil => cases run
  | cons signal signals induction =>
      rw [SignalGuard.install] at run
      cases refused : script.sigaction signal with
      | some error =>
          rw [refused] at run
          cases run
          exact .handler refused
      | none =>
          rw [refused] at run
          exact induction run

theorem terminalEchoGuard_construct_error {script : Script}
    {process after : Process} {failure : Failure}
    (run : TerminalEchoGuard.construct script process =
      (.error failure, after)) : EntryFailure script failure := by
  unfold TerminalEchoGuard.construct at run
  split at run
  · rename_i pipe
    cases run
    exact .notInteractive pipe
  · split at run
    · rename_i refused
      cases run
      exact .settings refused
    · split at run
      · rename_i refused
        cases run
        exact .echo refused
      · cases run

/-- The loop throws when the input ends or `read` fails for good. -/
theorem readLoop_thrown {input : Text} {events : List Event}
    {process after : Process} {failure : Failure}
    (run : readLoop input events process = (.thrown failure, after)) :
    (failure = .runtimeError (text "input ended while reading passphrase") ∧
      .endOfFile ∈ events) ∨
    ∃ error, failure = .systemError error (text "could not read passphrase") ∧
      .failure error ∈ events ∧ error ≠ eintr := by
  induction events generalizing input process with
  | nil => cases run
  | cons event events induction =>
      have later : ∀ {input process},
          readLoop input events process = (.thrown failure, after) →
            (failure = .runtimeError
                (text "input ended while reading passphrase") ∧
              .endOfFile ∈ event :: events) ∨
            ∃ error, failure =
                .systemError error (text "could not read passphrase") ∧
              .failure error ∈ event :: events ∧ error ≠ eintr := by
        intro input process run
        rcases induction run with ⟨same, member⟩ | ⟨error, same, member, other⟩
        · exact .inl ⟨same, List.mem_cons_of_mem _ member⟩
        · exact .inr ⟨error, same, List.mem_cons_of_mem _ member, other⟩
      cases event with
      | signal number => exact later run
      | chunk piece =>
          simp only [readLoop] at run
          split at run
          · cases run
          · exact later run
      | endOfFile =>
          cases run
          exact .inl ⟨rfl, List.mem_cons_self⟩
      | failure error =>
          simp only [readLoop] at run
          split at run
          · split at run
            · cases run
            · exact later run
          · rename_i other
            cases run
            exact .inr ⟨error, rfl, List.mem_cons_self, other⟩

/-- Nothing to read can end the loop. -/
def Idle (script : Script) : Prop :=
  ∀ event ∈ script.reads, ¬EndsLoop event

/-- The ways to leave the loop, with what has to have happened. -/
def ExitCause (script : Script) : LoopExit → Prop
  | .waiting => Idle script
  | .thrown failure => EntryFailure script failure
  | .broke _ none => True
  | .broke _ (some signal) => Delivered signal (timeline script)

theorem signalGuard_install_ok {script : Script}
    {installed final : List (Signal × Handler)} {signals : List Signal}
    {process after : Process}
    (run : SignalGuard.install script installed signals process =
      (.ok final, after)) :
    ∀ signal ∈ signals, script.sigaction signal = none := by
  induction signals generalizing installed process with
  | nil => simp
  | cons signal signals induction =>
      rw [SignalGuard.install] at run
      cases answer : script.sigaction signal with
      | some error =>
          rw [answer] at run
          cases run
      | none =>
          rw [answer] at run
          exact List.forall_mem_cons.mpr ⟨answer, induction run⟩

theorem terminalEchoGuard_construct_ok {script : Script}
    {process after : Process} {original : Termios}
    (run : TerminalEchoGuard.construct script process =
      (.ok original, after)) : TerminalReady script := by
  unfold TerminalEchoGuard.construct at run
  split at run
  · cases run
  · rename_i terminal
    split at run
    · cases run
    · rename_i read
      split at run
      · cases run
      · rename_i hidden
        exact ⟨by simpa using terminal, read, hidden⟩

/-- Either a guard cannot be constructed, and only the prompt is printed, or
the loop decides. -/
theorem readHiddenLine_runs (script : Script) (prompt target : Text)
    (process : Process) :
    (∃ failure flag, EntryFailure script failure ∧
      readHiddenLine script prompt target process =
        { outcome := .thrown failure
          target
          process := { process.write prompt with caughtSignal := flag } }) ∨
    ∃ exit flag, ExitCause script exit ∧
      readHiddenLine script prompt target process =
        finishLine target process
          (exit, { guarded prompt process with caughtSignal := flag }) := by
  rcases signalGuard_construct_cases script (process.write prompt) with
    ⟨failure, run⟩ | ⟨installed, handlers, run, restored⟩
  · refine .inl ⟨failure, none, signalGuard_install_error run, ?_⟩
    simp only [readHiddenLine, run]
  · have installs : ∀ signal, script.sigaction signal = none := by
      intro signal
      apply signalGuard_install_ok run
      cases signal <;> simp [SignalGuard.signals]
    rcases terminalEchoGuard_construct_cases script { process.write prompt with
      handlers, caughtSignal := script.arrivals.getLast?.or none } with
      ⟨failure, prepared⟩ | ⟨hidden, prepared⟩
    · refine .inl ⟨failure, script.arrivals.getLast?.or none,
        terminalEchoGuard_construct_error prepared, ?_⟩
      simp only [readHiddenLine, run, foldl_rememberSignal, prepared]
      rw [restored]
      rfl
    · right
      have ready := terminalEchoGuard_construct_ok prepared
      rw [readHiddenLine_ready installs ready]
      obtain ⟨flag, frame⟩ := readLoop_frame [] (timeline script)
        (guarded prompt process)
      cases run : readLoop [] (timeline script) (guarded prompt process) with
      | mk exit after =>
          rw [run] at frame
          cases frame
          have inReads : ∀ event ∈ timeline script,
              event ∈ script.reads ∨ ∃ signal, event = .signal signal := by
            intro event member
            rcases List.mem_append.mp member with arrival | read
            · obtain ⟨signal, -, rfl⟩ := List.mem_map.mp arrival
              exact .inr ⟨signal, rfl⟩
            · exact .inl read
          refine ⟨exit, flag, ?_, rfl⟩
          cases exit with
          | waiting =>
              intro event member
              exact readLoop_waiting run event (List.mem_append_right _ member)
          | thrown failure =>
              rcases readLoop_thrown run with
                ⟨rfl, member⟩ | ⟨error, rfl, member, other⟩
              · rcases inReads _ member with read | ⟨signal, impossible⟩
                · exact .inputEnded read
                · cases impossible
              · rcases inReads _ member with read | ⟨signal, impossible⟩
                · exact .reading read other
                · cases impossible
          | broke rest signalNumber =>
              cases signalNumber with
              | none => trivial
              | some signal =>
                  rcases readLoop_delivered run with pending | delivered
                  · cases pending
                  · exact delivered

/-- All that reading from the terminal can do to the process.  Apart from its
output and the flag it leaves it as it was, unless it has not come back.  A
signal that is raised again meets it so. -/
inductive EntryEnds (quiet : Prop) (cause : Failure → Prop)
    (delivered : Signal → Prop) (process : Process) : HiddenLine → Prop where
  | waiting {target : Text} {flag : Option Signal} {cout : OStream}
      (idle : quiet) :
      EntryEnds quiet cause delivered process
        { outcome := .waiting
          target
          process := { process with
            handlers := fun _ => .rememberSignal
            terminal := { process.terminal with echo := false, echonl := false }
            caughtSignal := flag, cout } }
  | thrown {failure : Failure} {target : Text} {flag : Option Signal}
      {cout : OStream} (known : cause failure) :
      EntryEnds quiet cause delivered process
        { outcome := .thrown failure
          target
          process := { process with caughtSignal := flag, cout } }
  | killed {signal : Signal} {target : Text} {flag : Option Signal}
      {cout : OStream} (arrived : delivered signal)
      (action : process.handlers signal = .defaultAction) :
      EntryEnds quiet cause delivered process
        { outcome := .killed signal
          target
          process :=
            (({ process with caughtSignal := flag, cout } : Process).raise
              signal).2 }
  | interrupted {signal : Signal} {target : Text} {flag : Option Signal}
      {cout : OStream} (arrived : delivered signal)
      (action : process.handlers signal ≠ .defaultAction) :
      EntryEnds quiet cause delivered process
        { outcome := .thrown
            (.runtimeError (text "passphrase entry interrupted"))
          target
          process :=
            (({ process with caughtSignal := flag, cout } : Process).raise
              signal).2 }
  | returned {target : Text} {flag : Option Signal} {cout : OStream} :
      EntryEnds quiet cause delivered process
        { outcome := .returned
          target
          process := { process with caughtSignal := flag, cout } }

theorem readHiddenLine_ends (script : Script) (prompt target : Text)
    (process : Process) :
    EntryEnds (Idle script) (EntryFailure script)
      (fun signal => Delivered signal (timeline script)) process
      (readHiddenLine script prompt target process) := by
  rcases readHiddenLine_runs script prompt target process with
    ⟨failure, flag, cause, run⟩ | ⟨exit, flag, cause, run⟩
  · rw [run]
    exact .thrown cause
  · rw [run]
    cases exit with
    | waiting => exact .waiting cause
    | thrown failure => exact .thrown cause
    | broke rest signalNumber =>
        cases signalNumber with
        | none => exact .returned
        | some signal =>
            rw [finishLine, raiseLine_eq, interruptedBy]
            split
            · rename_i action
              exact .killed cause action
            · rename_i action
              exact .interrupted cause action

def mismatch : Failure :=
  .invalidArgument (text "passphrases do not match")

/-- The second call starts from the process the first one leaves. -/
theorem readPassphrase_ends (first second : Script) (passphrase : Text)
    (process : Process) :
    EntryEnds (Idle first ∨ Idle second)
      (fun failure => EntryFailure first failure ∨
        EntryFailure second failure ∨ failure = mismatch)
      (fun signal => Delivered signal (timeline first) ∨
        Delivered signal (timeline second)) process
      (readPassphrase first second passphrase process) := by
  have entered := readHiddenLine_ends first
    (text "BIP-39 passphrase (empty for none): ") passphrase process
  unfold readPassphrase
  dsimp only
  generalize readHiddenLine first
    (text "BIP-39 passphrase (empty for none): ") passphrase process = line
    at entered ⊢
  cases entered with
  | waiting idle => exact .waiting (.inl idle)
  | thrown known => exact .thrown (.inl known)
  | killed arrived action => exact .killed (.inl arrived) action
  | interrupted arrived action => exact .interrupted (.inl arrived) action
  | @returned target flag cout =>
      dsimp only
      split
      · exact .returned
      · have confirmed := readHiddenLine_ends second
          (text "Confirm passphrase: ") []
          { process with caughtSignal := flag, cout }
        generalize readHiddenLine second (text "Confirm passphrase: ") []
          { process with caughtSignal := flag, cout } = line at confirmed ⊢
        cases confirmed with
        | waiting idle => exact .waiting (.inr idle)
        | thrown known => exact .thrown (.inr (.inl known))
        | killed arrived action => exact .killed (.inr arrived) action
        | interrupted arrived action =>
            exact .interrupted (.inr arrived) action
        | returned =>
            dsimp only
            split
            · exact .thrown (.inr (.inr rfl))
            · exact .returned

end Bip39
