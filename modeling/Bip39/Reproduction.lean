import Bip39.HashInputs
import Bip39.SheetRecovery

/-!
# Reproduction

The sources without system randomness make the same secret of the same rolls or
cards again, whatever else differs between two runs.  Two runs that show the
same entropy were given the same entries, or hashed two different inputs to
digests that begin alike.
-/

namespace Bip39

open Bip39.Source Bip39.Support

namespace EntropyMode

/-- The random bytes that are hashed after the entries. -/
def salt (openSsl : OpenSsl) : EntropyMode → Except Failure Bytes
  | system => .ok []
  | mixedDice => (drawn openSsl sha256Size).map Vector.toList
  | diceOnly => .ok []
  | mixedCards => (drawn openSsl sha256Size).map Vector.toList
  | cardsOnly => .ok []

/-- The bytes that the source hashes. -/
def hashed (openSsl : OpenSsl) (strength : Strength) (mode : EntropyMode)
    (lines : List Text) : Except Failure Bytes := do
  let (entered, _) ← mode.entries strength lines
  let random ← mode.salt openSsl
  return mode.domain strength ++ entered ++ random

variable {openSsl : OpenSsl} {strength : Strength} {mode : EntropyMode}

theorem salt_of_physical (physical : mode.Physical) :
    mode.salt openSsl = .ok [] := by
  cases mode with
  | system => cases physical
  | mixedDice => cases physical
  | diceOnly => rfl
  | mixedCards => cases physical
  | cardsOnly => rfl

/-- What is hashed in front of the entries, whatever the strength is. -/
theorem domain_of_physical (physical : mode.Physical)
    (stronger : Strength) :
    mode.domain strength = mode.domain stronger := by
  cases mode with
  | system => cases physical
  | mixedDice => cases physical
  | diceOnly => rfl
  | mixedCards => cases physical
  | cardsOnly => rfl

theorem hashed_eq {lines rest : List Text} {entered random : Bytes}
    (entries : mode.entries strength lines = .ok (entered, rest))
    (salted : mode.salt openSsl = .ok random) :
    mode.hashed openSsl strength lines =
      .ok (mode.domain strength ++ entered ++ random) := by
  rw [hashed, entries]
  change (mode.salt openSsl >>= fun random =>
    pure (mode.domain strength ++ entered ++ random)) = _
  rw [salted]
  rfl

/-- Every source but the system hashes its entries and cuts the digest. -/
theorem condition_eq (hashes : mode ≠ .system) (entered : Bytes) :
    mode.condition openSsl strength entered = (do
      let random ← mode.salt openSsl
      let digest ← sha256 openSsl (mode.domain strength ++ entered ++ random)
      return Entropy.ofDigest strength digest) := by
  have alone : ∀ tag : Bytes,
      (do
        let digest ← sha256 openSsl (tag ++ entered)
        return Entropy.ofDigest strength digest : Except Failure _) =
      (do
        let digest ← sha256 openSsl (tag ++ entered ++ [])
        return Entropy.ofDigest strength digest) := by
    intro tag
    rw [List.append_nil]
  cases mode with
  | system => exact absurd rfl hashes
  | mixedDice =>
      unfold condition salt
      cases drawn openSsl sha256Size <;> rfl
  | diceOnly => exact alone _
  | mixedCards =>
      unfold condition salt
      cases drawn openSsl sha256Size <;> rfl
  | cardsOnly => exact alone _

theorem condition_eq_ok (hashes : mode ≠ .system) {entered : Bytes}
    {entropy : Entropy strength}
    (made : mode.condition openSsl strength entered = .ok entropy) :
    ∃ (random : Bytes) (digest : Digest), mode.salt openSsl = .ok random ∧
      openSsl.evpDigest (mode.domain strength ++ entered ++ random) =
        some digest.bytes ∧
      entropy = .ofDigest strength digest := by
  rw [condition_eq hashes] at made
  obtain ⟨random, salted, made⟩ := bind_eq_ok.mp made
  obtain ⟨digest, hashed, made⟩ := bind_eq_ok.mp made
  cases made
  exact ⟨random, digest, salted, sha256_eq_ok_iff.mp hashed, rfl⟩

end EntropyMode

theorem digest_ext {left right : Digest} (same : left.bytes = right.bytes) :
    left = right := by
  cases left
  cases right
  cases same
  rfl

theorem bitString_append (left right : Bytes) :
    bitString (left ++ right) = bitString left ++ bitString right := by
  rw [bitString, List.map_append, expand_append]
  rfl

/-- The first rows hold bits of the entropy only. -/
theorem Secret.take_rows {strength : Strength} (secret : Secret strength)
    {keep : Nat} (few : keep * bitsPerWord ≤ strength.byteCount * 8) :
    secret.rows.take keep =
      (regroup bitsPerWord keep ((bitString secret.entropy.bytes).take
        (keep * bitsPerWord))).map (bitsOf bitsPerWord) := by
  have bits : strength.byteCount * 8 < strength.wordCount * bitsPerWord := by
    cases strength <;> decide
  have words : keep ≤ strength.wordCount := by
    have less := Nat.lt_of_le_of_lt few bits
    exact (Nat.lt_of_mul_lt_mul_right less).le
  have inside : keep * bitsPerWord ≤
      (bitString secret.entropy.bytes).length := by
    rw [bitString_length, secret.entropy.size_eq]
    exact few
  rw [Secret.rows, Secret.positions, ← List.map_take, take_regroup _ words,
    Secret.bits, combinedBits, List.take_append_of_le_length inside]

/-- The rows before the last one do not depend on the checksum. -/
theorem Strength.fullRows (strength : Strength) :
    (strength.wordCount - 1) * bitsPerWord ≤ strength.byteCount * 8 := by
  cases strength <;> decide

theorem dropLast_rows_ofDigest {strength stronger : Strength}
    (weaker : strength.byteCount ≤ stronger.byteCount)
    (digest checksum otherChecksum : Digest) :
    (Secret.rows ⟨Entropy.ofDigest strength digest, checksum⟩).dropLast =
      (Secret.rows ⟨Entropy.ofDigest stronger digest, otherChecksum⟩).take
        (strength.wordCount - 1) := by
  have full := strength.fullRows
  have prefixes : (Entropy.ofDigest stronger digest).bytes =
      (Entropy.ofDigest strength digest).bytes ++
        (Entropy.ofDigest stronger digest).bytes.drop strength.byteCount := by
    have split := List.take_append_drop strength.byteCount
      (digest.bytes.take stronger.byteCount)
    rw [List.take_take, Nat.min_eq_left weaker] at split
    exact split.symm
  have inside : (strength.wordCount - 1) * bitsPerWord ≤
      (bitString (Entropy.ofDigest strength digest).bytes).length := by
    rw [bitString_length, (Entropy.ofDigest strength digest).size_eq]
    exact full
  rw [List.dropLast_eq_take, Secret.rows_length,
    Secret.take_rows _ full, Secret.take_rows _ (full.trans (by omega))]
  dsimp only
  rw [prefixes, bitString_append, List.take_append_of_le_length inside]

section Calls

variable {strength : Strength} {lines rest : List Text}

/-- Rolls that were taken are what is kept of as many faces. -/
theorem takeRolls_eq_ok {keep : UInt8 → UInt8} {count : Nat} {rolls : Bytes}
    (taken : takeRolls keep count lines = .ok (rolls, rest)) :
    ∃ rolled : Bytes, rolled.length = count ∧
      (∀ face ∈ rolled, face ∈ text "123456") ∧ rolls = rolled.map keep := by
  by_cases enough : count ≤ facesIn lines
  · obtain ⟨used, later, split, reaches⟩ :=
      facesIn_gradual.exists_reaches enough
    rw [split, takeRolls, splitReaching_of_reaches reaches] at taken
    cases taken
    refine ⟨used.filterMap dieFace, reaches.enough, ?_, rfl⟩
    intro face member
    obtain ⟨line, -, accepted⟩ := List.mem_filterMap.mp member
    exact mem_faces_of_dieFace accepted
  · rw [takeRolls, splitReaching_of_short facesIn_gradual
      (Nat.lt_of_not_le enough)] at taken
    cases taken

theorem takeDeck_eq_ok {deck : Text} (taken : takeDeck lines = .ok (deck, rest)) :
    IsDeck deck := by
  have follows := readCardDeck_follows 1 { input := lines }
  dsimp only at follows
  rw [taken] at follows
  obtain ⟨read, after, -, ⟨rfl, ordering⟩, -⟩ := follows
  exact ordering

/-- The call of a conditioner that a source makes with its entries and the
random bytes. -/
inductive MakesCall (strength : Strength) :
    EntropyMode → Bytes → Bytes → EntropyCall → Prop where
  | mixedDice (rolls random : Bytes) :
      MakesCall strength .mixedDice rolls random
        (.mixDice rolls random strength.byteCount)
  | diceOnly (rolls : Bytes) :
      MakesCall strength .diceOnly rolls []
        (.diceOnly rolls strength.byteCount)
  | mixedCards (deck random : Bytes) :
      MakesCall strength .mixedCards deck random
        (.mixCard deck random strength.byteCount)
  | cardsOnly (first second : Bytes) :
      MakesCall strength .cardsOnly (first ++ second) []
        (.cardsOnly first second strength.byteCount)

theorem drawn_eq_ok {openSsl : OpenSsl} {count : Nat}
    {random : Vector UInt8 count} (found : drawn openSsl count = .ok random) :
    openSsl.randPrivBytes count = some random := by
  unfold drawn at found
  cases answer : openSsl.randPrivBytes count with
  | none =>
      rw [answer] at found
      cases found
  | some bytes =>
      rw [answer] at found
      cases found
      rfl

theorem drawn_length {openSsl : OpenSsl} {count : Nat} {random : Bytes}
    (salted : (drawn openSsl count).map Vector.toList = .ok random) :
    random.length = count := by
  cases found : drawn openSsl count with
  | error failure =>
      rw [found] at salted
      cases salted
  | ok bytes =>
      rw [found] at salted
      cases salted
      exact bytes.length_toList

/-- The entries of a source are accepted by its conditioner. -/
theorem exists_call {openSsl : OpenSsl} {mode : EntropyMode}
    (hashes : mode ≠ .system) {entered random : Bytes}
    (entries : mode.entries strength lines = .ok (entered, rest))
    (salted : mode.salt openSsl = .ok random) :
    ∃ call, MakesCall strength mode entered random call ∧
      call.hashInput = .ok (mode.domain strength ++ entered ++ random) := by
  cases mode with
  | system => exact absurd rfl hashes
  | mixedDice =>
      obtain ⟨rolled, counted, faces, kept⟩ := takeRolls_eq_ok entries
      have length : entered.length = strength.mixedRolls := by
        rw [kept, List.length_map, counted]
      have inRange : ∀ roll ∈ entered, roll ≤ 5 := by
        intro roll member
        rw [kept] at member
        obtain ⟨face, listed, same⟩ := List.mem_map.mp member
        rw [← same]
        exact zeroBased_le_five (faces face listed)
      have yields := mixDiceInput_yields entered random strength.byteCount
      obtain ⟨input, built⟩ := yields.ok_iff.mpr
        ⟨strength.byteCount_mem, by rw [length, strength.mixedDiceRollCount_eq],
          inRange, drawn_length salted⟩
      refine ⟨_, .mixedDice entered random, ?_⟩
      have same := (yields.eq_of_ok built).2
      rw [length] at same
      exact built.trans (congrArg Except.ok same)
  | diceOnly =>
      obtain ⟨rolled, counted, faces, kept⟩ := takeRolls_eq_ok entries
      rw [List.map_id] at kept
      subst kept
      cases salted
      have yields := diceOnlyInput_yields entered strength.byteCount
      obtain ⟨input, built⟩ := yields.ok_iff.mpr
        ⟨strength.byteCount_mem,
          by rw [counted, strength.diceOnlyRollCount_eq],
          fun roll member => faces_range (faces roll member)⟩
      refine ⟨_, .diceOnly entered, ?_⟩
      have same := (yields.eq_of_ok built).2
      rw [← List.append_nil entered] at same
      exact built.trans (congrArg Except.ok same)
  | mixedCards =>
      have yields := mixCardInput_yields entered random strength.byteCount
      obtain ⟨input, built⟩ := yields.ok_iff.mpr
        ⟨strength.byteCount_mem, drawn_length salted, takeDeck_eq_ok entries⟩
      refine ⟨_, .mixedCards entered random, ?_⟩
      exact built.trans (congrArg Except.ok (yields.eq_of_ok built).2)
  | cardsOnly =>
      cases salted
      obtain ⟨first, between, taken, later⟩ := plan_bind_eq_ok.mp entries
      have accepted : ∀ second,
          SecondDeckFits strength.byteCount first second →
          (EntropyCall.cardsOnly first second strength.byteCount).hashInput =
            .ok (EntropyMode.cardsOnly.domain strength ++ (first ++ second) ++
              []) := by
        intro second fits
        have yields := cardsOnlyInput_yields first second strength.byteCount
        obtain ⟨input, built⟩ := yields.ok_iff.mpr
          ⟨strength.byteCount_mem, takeDeck_eq_ok taken, fits⟩
        have same := (yields.eq_of_ok built).2
        rw [List.append_assoc, ← List.append_nil (cardsOnlyDomain ++ _)] at same
        exact built.trans (congrArg Except.ok same)
      by_cases two : strength = .bits256
      · subst two
        rw [if_pos rfl] at later
        obtain ⟨second, after, takenAgain, later⟩ := plan_bind_eq_ok.mp later
        by_cases same : first = second
        · rw [if_pos same] at later
          cases later
        · rw [if_neg same] at later
          cases later
          exact ⟨_, .cardsOnly first second, accepted second
            (.inr ⟨rfl, takeDeck_eq_ok takenAgain, fun other =>
              same other.symm⟩)⟩
      · rw [if_neg two] at later
        obtain ⟨rfl, rfl⟩ := plan_pure_eq_ok.mp later
        have small : strength.byteCount < 32 := by
          cases strength <;> first | decide | exact absurd rfl two
        have makes := @MakesCall.cardsOnly strength first []
        rw [List.append_nil] at makes
        have built := accepted [] (.inl ⟨small, rfl⟩)
        rw [List.append_nil first] at built
        exact ⟨_, makes, built⟩

/-- Calls that hash the same bytes are made by the same source with the same
entries. -/
theorem MakesCall.sameEntries {otherStrength : Strength}
    {mode other : EntropyMode}
    {entered random otherEntered otherRandom input : Bytes}
    {call otherCall : EntropyCall}
    (makes : MakesCall strength mode entered random call)
    (otherMakes : MakesCall otherStrength other otherEntered otherRandom
      otherCall)
    (hashed : call.hashInput = .ok input)
    (otherHashed : otherCall.hashInput = .ok input) :
    mode = other ∧ entered = otherEntered := by
  have sameMode : call.mode = otherCall.mode := by
    rw [← EntropyCall.readMode_eq hashed, ← EntropyCall.readMode_eq otherHashed]
  cases makes with
  | mixedDice rolls random =>
      cases otherMakes with
      | mixedDice otherRolls otherRandom =>
          exact ⟨rfl, (mixDice_sameSecret hashed otherHashed).1⟩
      | _ => cases sameMode
  | diceOnly rolls =>
      cases otherMakes with
      | diceOnly otherRolls =>
          exact ⟨rfl, (diceOnly_sameSecret hashed otherHashed).1⟩
      | _ => cases sameMode
  | mixedCards deck random =>
      cases otherMakes with
      | mixedCards otherDeck otherRandom =>
          exact ⟨rfl, (mixCard_sameSecret hashed otherHashed).1⟩
      | _ => cases sameMode
  | cardsOnly first second =>
      cases otherMakes with
      | cardsOnly otherFirst otherSecond =>
          obtain ⟨rfl, rfl, -⟩ := cardsOnly_sameSecret hashed otherHashed
          exact ⟨rfl, rfl⟩
      | _ => cases sameMode

end Calls

/-- A run with accepted options that ends with status 0. -/
structure FinishedRun (mode : EntropyMode) (strength : Strength) where
  environment : Environment
  options : CommandLineOptions
  input : List Text
  out : Text
  err : Text
  process : Process
  stored : environment.stored = .ok options
  accepted : Accepted options mode strength
  finished : (main environment
    { input, cout := { text := out }, cerr := { text := err } }
    process).exit = .status 0

namespace FinishedRun

variable {mode other : EntropyMode} {strength stronger : Strength}

/-- What is on standard output when the run has ended. -/
def printed (run : FinishedRun mode strength) : Text :=
  (main run.environment
    { input := run.input
      cout := { text := run.out }
      cerr := { text := run.err } }
    run.process).console.cout.text

def hash (run : FinishedRun mode strength) : Bytes → Option Bytes :=
  run.environment.openSsl.evpDigest

/-- The entries, apart from how they were spelled and retried. -/
def entered (run : FinishedRun mode strength) : Except Failure Bytes :=
  (mode.entries strength run.input).map Prod.fst

def hashed (run : FinishedRun mode strength) : Except Failure Bytes :=
  mode.hashed run.environment.openSsl strength run.input

/-- How a run by a source that hashes has made its secret. -/
structure Made (run : FinishedRun mode strength) (entered random : Bytes)
    (digest checksum : Digest) : Prop where
  entries : run.entered = .ok entered
  salted : mode.salt run.environment.openSsl = .ok random
  hashed : run.hashed = .ok (mode.domain strength ++ entered ++ random)
  called : ∃ call, MakesCall strength mode entered random call ∧
    call.hashInput = .ok (mode.domain strength ++ entered ++ random)
  answered : run.hash (mode.domain strength ++ entered ++ random) =
    some digest.bytes
  checked : run.hash (Entropy.ofDigest strength digest).bytes =
    some checksum.bytes
  rows : sheetRows run.printed =
    Secret.rows ⟨.ofDigest strength digest, checksum⟩

theorem exists_made (run : FinishedRun mode strength)
    (hashes : mode ≠ .system) :
    ∃ entered random digest checksum, run.Made entered random digest checksum := by
  obtain ⟨wordlist, secret, rest, session, read⟩ := main_rows run.stored
    run.accepted run.input run.out run.err run.process run.finished
  obtain ⟨entered, entries, conditioned, checked⟩ :=
    secret_eq_ok_iff.mp (session_eq_ok_iff.mp session).2
  obtain ⟨random, digest, salted, answered, same⟩ :=
    EntropyMode.condition_eq_ok hashes conditioned
  obtain ⟨entropy, checksum⟩ := secret
  dsimp only at same checked
  subst same
  refine ⟨entered, random, digest, checksum, ?_⟩
  constructor
  · rw [FinishedRun.entered, entries]
    rfl
  · exact salted
  · exact EntropyMode.hashed_eq entries salted
  · exact exists_call hashes entries salted
  · exact answered
  · exact checked
  · exact read

theorem Made.recovered {run : FinishedRun mode strength}
    {entered random : Bytes} {digest checksum : Digest}
    (made : run.Made entered random digest checksum) :
    recoverEntropy run.printed = digest.bytes.take strength.byteCount :=
  recoverEntropy_of_rows _ made.rows

end FinishedRun

theorem deckRun_entries {strength : Strength} (one : strength ≠ .bits256) :
    EntropyMode.cardsOnly.entries strength canonicalNames =
      .ok (canonicalNames.flatten, []) := by
  have taken : takeDeck canonicalNames = .ok (canonicalNames.flatten, []) := by
    decide +kernel
  apply plan_bind_eq_ok.mpr
  refine ⟨_, _, taken, ?_⟩
  rw [if_neg one]
  rfl

/-- A run of the sample environment in which the deck is entered in the order
of the canonical names. -/
theorem deckRun_session {strength : Strength} (one : strength ≠ .bits256) :
    session (sampleEnvironment
        { wordCount := strength.wordCount, useCardsOnly := true })
      { wordCount := strength.wordCount, useCardsOnly := true } .cardsOnly
      strength canonicalNames =
        .ok ((.english, ⟨.ofDigest strength zeroDigest, zeroDigest⟩), []) := by
  apply session_eq_ok_iff.mpr
  refine ⟨rfl, secret_eq_ok_iff.mpr ⟨_, deckRun_entries one, ?_, ?_⟩⟩
  · rfl
  · rfl

theorem deckRun_accepted {strength : Strength} :
    Accepted { wordCount := strength.wordCount, useCardsOnly := true }
      .cardsOnly strength :=
  ⟨rfl, rfl, rfl⟩

theorem deckRun_finished {strength : Strength} (one : strength ≠ .bits256) :
    (main (sampleEnvironment
        { wordCount := strength.wordCount, useCardsOnly := true })
      { input := canonicalNames, cout := { text := [] }, cerr := { text := [] } }
      freshProcess).exit = .status 0 := by
  have run := @main_session (sampleEnvironment
      { wordCount := strength.wordCount, useCardsOnly := true }) _ _ _ rfl
    (@deckRun_accepted strength) canonicalNames [] [] freshProcess
  rw [deckRun_session one] at run
  obtain ⟨prompts, reported, run⟩ := run
  rw [run]
  rfl

def deckRun (strength : Strength) (one : strength ≠ .bits256) :
    FinishedRun .cardsOnly strength where
  environment := sampleEnvironment
    { wordCount := strength.wordCount, useCardsOnly := true }
  options := { wordCount := strength.wordCount, useCardsOnly := true }
  input := canonicalNames
  out := []
  err := []
  process := freshProcess
  stored := rfl
  accepted := deckRun_accepted
  finished := deckRun_finished one

/-- A run without system randomness is determined by its entries: the shorter
of two secrets made of the same entries is the beginning of the longer one, up
to the last word. -/
theorem main_reproducible {mode : EntropyMode} {strength stronger : Strength}
    (physical : mode.Physical) (weaker : strength.byteCount ≤ stronger.byteCount)
    (first : FinishedRun mode strength) (second : FinishedRun mode stronger)
    (sameHash : first.hash = second.hash)
    (sameEntries : first.entered = second.entered) :
    recoverEntropy first.printed =
        (recoverEntropy second.printed).take strength.byteCount ∧
      (sheetRows first.printed).dropLast =
        (sheetRows second.printed).take (strength.wordCount - 1) ∧
      (strength = stronger →
        sheetRows first.printed = sheetRows second.printed) := by
  have hashes : mode ≠ .system := by
    rintro rfl
    exact physical
  obtain ⟨entered, random, digest, checksum, made⟩ := first.exists_made hashes
  obtain ⟨otherEntered, otherRandom, otherDigest, otherChecksum, otherMade⟩ :=
    second.exists_made hashes
  have salted := made.salted
  have otherSalted := otherMade.salted
  rw [mode.salt_of_physical physical] at salted otherSalted
  cases salted
  cases otherSalted
  rw [made.entries, otherMade.entries] at sameEntries
  cases sameEntries
  have sameDigest : digest = otherDigest := by
    have answered := otherMade.answered
    rw [mode.domain_of_physical physical strength, ← sameHash, made.answered]
      at answered
    exact digest_ext (Option.some.inj answered)
  subst sameDigest
  rw [made.recovered, otherMade.recovered, made.rows, otherMade.rows,
    List.take_take, Nat.min_eq_left weaker]
  refine ⟨rfl, dropLast_rows_ofDigest weaker digest checksum otherChecksum, ?_⟩
  rintro rfl
  have checked := otherMade.checked
  rw [← sameHash, made.checked] at checked
  rw [digest_ext (Option.some.inj checked)]

theorem main_reproducible_sample :
    (sheetRows (deckRun .bits128 (by decide)).printed).dropLast =
      (sheetRows (deckRun .bits160 (by decide)).printed).take 11 := by
  have twelve : Strength.bits128 ≠ .bits256 := by decide
  have fifteen : Strength.bits160 ≠ .bits256 := by decide
  have sameEntries :
      (deckRun .bits128 twelve).entered = (deckRun .bits160 fifteen).entered := by
    have first := congrArg (Except.map Prod.fst) (deckRun_entries twelve)
    exact first.trans
      (congrArg (Except.map Prod.fst) (deckRun_entries fifteen)).symm
  exact (@main_reproducible .cardsOnly .bits128 .bits160 trivial (by decide)
    (deckRun .bits128 twelve) (deckRun .bits160 fifteen) rfl sameEntries).2.1

/-- The entropy of a finished run is what `RAND_priv_bytes` has returned, or
the beginning of the digest of the hashed bytes. -/
theorem main_provenance {mode : EntropyMode} {strength : Strength}
    (run : FinishedRun mode strength) :
    (mode = .system →
      ∃ random : Vector UInt8 strength.byteCount,
        run.environment.openSsl.randPrivBytes strength.byteCount =
            some random ∧
          recoverEntropy run.printed = random.toList) ∧
    (mode ≠ .system →
      ∃ input digest, run.hashed = .ok input ∧
        run.hash input = some digest ∧
          recoverEntropy run.printed = digest.take strength.byteCount) := by
  constructor
  · rintro rfl
    obtain ⟨wordlist, secret, rest, session, read⟩ := main_rows run.stored
      run.accepted run.input run.out run.err run.process run.finished
    obtain ⟨entered, entries, conditioned, checked⟩ :=
      secret_eq_ok_iff.mp (session_eq_ok_iff.mp session).2
    obtain ⟨random, found, same⟩ := bind_eq_ok.mp conditioned
    have bytes : random.toList = secret.entropy.bytes :=
      congrArg Entropy.bytes (Except.ok.inj same)
    refine ⟨random, drawn_eq_ok found, ?_⟩
    rw [bytes]
    exact recoverEntropy_of_rows secret read
  · intro hashes
    obtain ⟨entered, random, digest, checksum, made⟩ := run.exists_made hashes
    exact ⟨_, _, made.hashed, made.answered, made.recovered⟩

/-- A run in which `RAND_priv_bytes` returns one byte over and over. -/
def systemRun (byte : UInt8) : FinishedRun .system .bits128 where
  environment := { sampleEnvironment {} with
    openSsl := .reliable (fun _ => zeroDigest) fun count =>
      Vector.replicate count byte }
  options := {}
  input := []
  out := []
  err := []
  process := freshProcess
  stored := rfl
  accepted := ⟨rfl, rfl, rfl⟩
  finished := by
    have shown := @main_session { sampleEnvironment {} with
      openSsl := .reliable (fun _ => zeroDigest) fun count =>
        Vector.replicate count byte } {} .system .bits128 rfl ⟨rfl, rfl, rfl⟩
      [] [] [] freshProcess
    obtain ⟨prompts, reported, run⟩ := shown
    rw [run]
    rfl

theorem main_provenance_sample :
    recoverEntropy (systemRun 255).printed = List.replicate 16 255 ∧
      recoverEntropy (deckRun .bits128 (by decide)).printed =
        zeroDigest.bytes.take 16 := by
  constructor
  · obtain ⟨random, answer, recovered⟩ :=
      (main_provenance (systemRun 255)).1 rfl
    have same : (Vector.replicate 16 255 : Vector UInt8 16) = random :=
      Option.some.inj answer
    rw [recovered, ← same]
    rfl
  · obtain ⟨input, digest, hashed, answer, recovered⟩ :=
      (main_provenance (deckRun .bits128 (by decide))).2 (by decide)
    have same : zeroDigest.bytes = digest := Option.some.inj answer
    rw [recovered, ← same]
    rfl

/-- Two finished runs that show the same entropy were made by the same source
of the same entries, or they have hashed two different inputs to digests that
begin alike. -/
theorem main_binds {mode other : EntropyMode}
    {strength otherStrength : Strength} (hashes : mode ≠ .system)
    (otherHashes : other ≠ .system) (first : FinishedRun mode strength)
    (second : FinishedRun other otherStrength)
    (sameHash : first.hash = second.hash)
    (sameEntropy : recoverEntropy first.printed =
      recoverEntropy second.printed) :
    strength = otherStrength ∧
      ((mode = other ∧ first.entered = second.entered) ∨
        ∃ input otherInput digest otherDigest,
          first.hashed = .ok input ∧ second.hashed = .ok otherInput ∧
          input ≠ otherInput ∧
          first.hash input = some digest ∧
          first.hash otherInput = some otherDigest ∧
          digest.take strength.byteCount =
            otherDigest.take strength.byteCount) := by
  obtain ⟨entered, random, digest, checksum, made⟩ := first.exists_made hashes
  obtain ⟨otherEntered, otherRandom, otherDigest, otherChecksum, otherMade⟩ :=
    second.exists_made otherHashes
  rw [made.recovered, otherMade.recovered] at sameEntropy
  have sameStrength : strength = otherStrength := by
    have sizes := congrArg List.length sameEntropy
    rw [digest_take_length, digest_take_length] at sizes
    exact Strength.byteCount_injective sizes
  subst sameStrength
  refine ⟨rfl, ?_⟩
  by_cases sameInput : mode.domain strength ++ entered ++ random =
      other.domain strength ++ otherEntered ++ otherRandom
  · left
    obtain ⟨call, makes, hashed⟩ := made.called
    obtain ⟨otherCall, otherMakes, otherHashed⟩ := otherMade.called
    rw [← sameInput] at otherHashed
    obtain ⟨sameMode, sameEntered⟩ :=
      makes.sameEntries otherMakes hashed otherHashed
    refine ⟨sameMode, ?_⟩
    rw [made.entries, otherMade.entries, sameEntered]
  · right
    have answered := otherMade.answered
    rw [← sameHash] at answered
    exact ⟨_, _, _, _, made.hashed, otherMade.hashed, sameInput, made.answered,
      answered, sameEntropy⟩

def diceRun : FinishedRun .diceOnly .bits128 where
  environment := diceEnvironment zeroDigest false
  options := diceOptions false
  input := diceLines
  out := []
  err := []
  process := freshProcess
  stored := rfl
  accepted := diceOptions_accepted false
  finished := dice_finished zeroDigest [] []

/-- Where everything has the digest zero, all entropies are equal. -/
theorem FinishedRun.recovered_zero {mode : EntropyMode} {strength : Strength}
    (hashes : mode ≠ .system) (run : FinishedRun mode strength)
    (zero : run.hash = fun _ => some zeroDigest.bytes) :
    recoverEntropy run.printed = zeroDigest.bytes.take strength.byteCount := by
  obtain ⟨entered, random, digest, checksum, made⟩ := run.exists_made hashes
  have answered := made.answered
  rw [zero] at answered
  rw [made.recovered, Option.some.inj answered]

/-- Fifty rolls and a deck with the same entropy exhibit a collision. -/
theorem main_binds_sample :
    ∃ input otherInput digest otherDigest,
      (deckRun .bits128 (by decide)).hashed = .ok input ∧
      diceRun.hashed = .ok otherInput ∧
      input ≠ otherInput ∧
      (deckRun .bits128 (by decide)).hash input = some digest ∧
      (deckRun .bits128 (by decide)).hash otherInput = some otherDigest ∧
      digest.take 16 = otherDigest.take 16 := by
  have deck := (deckRun .bits128 (by decide)).recovered_zero (by decide) rfl
  have dice := diceRun.recovered_zero (by decide) rfl
  rcases (main_binds (by decide) (by decide) (deckRun .bits128 (by decide))
    diceRun rfl (deck.trans dice.symm)).2 with ⟨same, -⟩ | collision
  · cases same
  · exact collision

end Bip39
