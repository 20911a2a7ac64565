import Bip39.SignalDelivery
import Bip39.Source.Wordlist

/-!
# Passphrase entry

A terminal hands a line to `read` in pieces of its own choice.  The loop of
`read_hidden_line` only looks at the end of what it has gathered, so the pieces
make no difference to the line it stores.
-/

namespace Bip39

open Bip39.Source Bip39.Support

/-- The calls of `read` bring the given bytes in some pieces; any number of
calls is interrupted in between. -/
inductive Brings : List Event → Bytes → Prop where
  | nothing : Brings [] []
  | chunk (piece : Chunk) {events : List Event} {bytes : Bytes} :
      Brings events bytes → Brings (.chunk piece :: events) (piece.bytes ++ bytes)
  | interrupted {events : List Event} {bytes : Bytes} :
      Brings events bytes → Brings (.failure eintr :: events) bytes

theorem getLast?_ne_of_not_mem {bytes : Bytes} (oneLine : chr '\n' ∉ bytes) :
    bytes.getLast? ≠ some (chr '\n') := by
  intro last
  exact oneLine (List.mem_of_getLast? last)

theorem readLoop_gathers {events : List Event} {bytes : Bytes}
    (brings : Brings events bytes) (oneLine : chr '\n' ∉ bytes)
    (input : Text) (rest : List Event) {process : Process}
    (quiet : process.caughtSignal = none) :
    readLoop input (events ++ rest) process =
      readLoop (input ++ bytes) rest process := by
  induction brings generalizing input with
  | nothing => simp
  | @chunk piece events bytes _ induction =>
      obtain ⟨here, later⟩ := not_or.mp (mt List.mem_append.mpr oneLine)
      rw [List.cons_append, readLoop]
      simp only [getLast?_append_chunk, getLast?_ne_of_not_mem here, if_false]
      rw [induction later, List.append_assoc]
  | interrupted _ induction =>
      rw [List.cons_append, readLoop, if_pos rfl]
      simp only [quiet]
      exact induction oneLine input

/-- The piece that brings the line feed ends the line, wherever the line was
cut before. -/
theorem readLoop_line {events : List Event} {bytes line : Bytes}
    (brings : Brings events bytes) (ends : bytes = line ++ [chr '\n'])
    (oneLine : chr '\n' ∉ line) (input : Text) (rest : List Event)
    {process : Process} (quiet : process.caughtSignal = none) :
    readLoop input (events ++ rest) process =
      (.broke (stripLineEnd (input ++ line ++ [chr '\n'])) none, process) := by
  induction brings generalizing input line with
  | nothing => simp at ends
  | @chunk piece events bytes brings induction =>
      rw [List.cons_append, readLoop]
      simp only [getLast?_append_chunk]
      rcases List.eq_nil_or_concat bytes with rfl | ⟨front, last, rfl⟩
      · -- The last piece: it ends with the line feed.
        have whole : piece.bytes = line ++ [chr '\n'] := by simpa using ends
        have final : piece.bytes.getLast? = some (chr '\n') := by simp [whole]
        rw [if_pos final, whole, List.append_assoc]
      · have split : piece.bytes ++ front = line ∧ last = chr '\n' := by
          rw [List.concat_eq_append, ← List.append_assoc] at ends
          have parts := List.append_inj' ends rfl
          exact ⟨parts.1, by simpa using parts.2⟩
        obtain ⟨rfl, rfl⟩ := split
        obtain ⟨here, later⟩ := not_or.mp (mt List.mem_append.mpr oneLine)
        rw [if_neg (getLast?_ne_of_not_mem here),
          induction (List.concat_eq_append ..) later, List.append_assoc input]
  | interrupted _ induction =>
      rw [List.cons_append, readLoop, if_pos rfl]
      simp only [quiet]
      exact induction ends oneLine input

theorem stripLineEnd_line (line : Text) :
    stripLineEnd (line ++ [chr '\n']) = stripCarriageReturn line := by
  simp [stripLineEnd, stripCarriageReturn]

/-- A terminal on which the guards can be constructed, while no signal
arrives. -/
structure QuietTerminal (script : Script) : Prop where
  installs : ∀ signal, script.sigaction signal = none
  ready : TerminalReady script
  quiet : script.arrivals = []

theorem readHiddenLine_quiet {script : Script} (terminal : QuietTerminal script)
    (prompt target : Text) (process : Process) :
    readHiddenLine script prompt target process =
      finishLine target process
        (readLoop [] script.reads (guarded prompt process)) := by
  rw [readHiddenLine_ready terminal.installs terminal.ready, timeline,
    terminal.quiet]
  rfl

/-- A line that is entered at a terminal, in pieces that end with the line. -/
structure EnteredLine where
  script : Script
  terminal : QuietTerminal script
  line : Bytes
  oneLine : chr '\n' ∉ line
  brought : ∃ events rest, script.reads = events ++ rest ∧
    Brings events (line ++ [chr '\n'])

def EnteredLine.stored (entered : EnteredLine) : Text :=
  stripCarriageReturn entered.line

theorem readHiddenLine_entered (entered : EnteredLine) (prompt target : Text)
    (process : Process) :
    ∃ after, readHiddenLine entered.script prompt target process =
      { outcome := .returned, target := entered.stored, process := after } := by
  obtain ⟨events, rest, reads, brings⟩ := entered.brought
  have loop := readLoop_line brings rfl entered.oneLine [] rest
    (show (guarded prompt process).caughtSignal = none from rfl)
  rw [readHiddenLine_quiet entered.terminal, reads, loop, List.nil_append,
    stripLineEnd_line]
  exact ⟨_, rfl⟩

theorem readHiddenLine_endOfFile {script : Script}
    (terminal : QuietTerminal script) {events rest : List Event} {bytes : Bytes}
    (reads : script.reads = events ++ .endOfFile :: rest)
    (brings : Brings events bytes) (oneLine : chr '\n' ∉ bytes)
    (prompt target : Text) (process : Process) :
    ∃ after, readHiddenLine script prompt target process =
      { outcome := .thrown (.runtimeError
          (text "input ended while reading passphrase"))
        target
        process := after } := by
  have loop := readLoop_gathers brings oneLine [] (.endOfFile :: rest)
    (show (guarded prompt process).caughtSignal = none from rfl)
  rw [readHiddenLine_quiet terminal, reads, loop]
  exact ⟨_, rfl⟩

theorem readPassphrase_entered (first second : EnteredLine) (passphrase : Text)
    (process : Process) :
    ∃ after,
      readPassphrase first.script second.script passphrase process =
        { outcome :=
            if first.stored = [] ∨ second.stored = first.stored then .returned
            else .thrown (.invalidArgument (text "passphrases do not match"))
          target := first.stored
          process := after } := by
  obtain ⟨between, entered⟩ := readHiddenLine_entered first
    (text "BIP-39 passphrase (empty for none): ") passphrase process
  obtain ⟨after, confirmed⟩ := readHiddenLine_entered second
    (text "Confirm passphrase: ") [] between
  simp only [readPassphrase, entered]
  by_cases empty : first.stored = []
  · exact ⟨between, by simp [empty]⟩
  · refine ⟨after, ?_⟩
    simp only [empty, if_false, confirmed, false_or]
    by_cases same : second.stored = first.stored
    · simp [same]
    · simp [same, Ne.symm same]

/-- A hidden line is stored without its line end however the terminal cuts it,
and is not stored at all when the input ends before the line does.  So a
passphrase is accepted exactly when it is empty or entered a second time. -/
theorem passphraseEntry_correct :
    (∀ (entered : EnteredLine) (prompt target : Text) (process : Process),
      let result := readHiddenLine entered.script prompt target process
      result.outcome = .returned ∧ result.target = entered.stored) ∧
    (∀ script, QuietTerminal script → ∀ events rest bytes,
      script.reads = events ++ .endOfFile :: rest → Brings events bytes →
      chr '\n' ∉ bytes → ∀ (prompt target : Text) (process : Process),
        let result := readHiddenLine script prompt target process
        result.outcome = .thrown (.runtimeError
            (text "input ended while reading passphrase")) ∧
          result.target = target) ∧
    ∀ (first : EnteredLine) (passphrase : Text) (process : Process),
      (first.stored = [] → ∀ script,
        readPassphrase first.script script passphrase process =
          readHiddenLine first.script
            (text "BIP-39 passphrase (empty for none): ") passphrase process) ∧
      ∀ second : EnteredLine,
        let result :=
          readPassphrase first.script second.script passphrase process
        (result.outcome = .returned ∧ result.target = first.stored ↔
          first.stored = [] ∨ second.stored = first.stored) ∧
        (¬(first.stored = [] ∨ second.stored = first.stored) →
          result.outcome = .thrown
            (.invalidArgument (text "passphrases do not match"))) := by
  refine ⟨?_, ?_, ?_⟩
  · intro entered prompt target process
    obtain ⟨after, run⟩ := readHiddenLine_entered entered prompt target process
    rw [run]
    exact ⟨rfl, rfl⟩
  · intro script terminal events rest bytes reads brings oneLine prompt target
      process
    obtain ⟨after, run⟩ := readHiddenLine_endOfFile terminal reads brings
      oneLine prompt target process
    rw [run]
    exact ⟨rfl, rfl⟩
  · intro first passphrase process
    constructor
    · intro empty script
      obtain ⟨after, run⟩ := readHiddenLine_entered first
        (text "BIP-39 passphrase (empty for none): ") passphrase process
      simp only [readPassphrase, run, empty, if_true]
    · intro second
      obtain ⟨after, run⟩ :=
        readPassphrase_entered first second passphrase process
      rw [run]
      by_cases accepted : first.stored = [] ∨ second.stored = first.stored
      · simp [accepted]
      · simp [accepted]

/-- The line "ab" with CRLF, cut before and inside its end, with an interrupted
call in between. -/
def cutLine : EnteredLine where
  script := { reads := [
    .chunk ⟨text "ab", by decide, by decide⟩,
    .failure eintr,
    .chunk ⟨text "\r", by decide, by decide⟩,
    .chunk ⟨text "\n", by decide, by decide⟩] }
  terminal := ⟨fun _ => rfl, ⟨rfl, rfl, rfl⟩, rfl⟩
  line := text "ab\r"
  oneLine := by decide
  brought := ⟨_, [], (List.append_nil _).symm,
    .chunk _ (.interrupted (.chunk _ (.chunk _ .nothing)))⟩

theorem passphraseEntry_cutLine :
    (readHiddenLine cutLine.script (text "Confirm passphrase: ") []
      freshProcess).target = text "ab" :=
  (passphraseEntry_correct.1 cutLine _ _ _).2.trans (by decide)

end Bip39
