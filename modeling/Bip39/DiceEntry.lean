import Bip39.Source.Readers
import Bip39.Support.ShortestPrefix
import Bip39.Support.Trimming

/-!
# Dice entry

A line is accepted by two formatted extractions from a string stream: the
first must deliver an integer from 1 through 6, the second must fail.  The
lines accepted in this way are described by a small grammar, and the two
counting readers take the faces of the first accepted lines.
-/

namespace Bip39

open Bip39.Source Bip39.Support

/-- Optional whitespace, an optional plus sign, zeros, one digit from 1 through
6, optional whitespace. -/
def DieLine (line : Text) (face : UInt8) : Prop :=
  ∃ before sign zeros after : Text,
    line = before ++ (sign ++ (zeros ++ [face] ++ after)) ∧
      (∀ character ∈ before, isspace character) ∧
      (sign = [] ∨ sign = [chr '+']) ∧
      (∀ character ∈ zeros, character = chr '0') ∧
      face ∈ text "123456" ∧
      ∀ character ∈ after, isspace character

/-- The second extraction fails exactly when only whitespace is left. -/
theorem getChar_fails_iff (rest : Text) :
    (IStringStream.getChar { rest, eofbit := rest.isEmpty } 0).1.failbit =
      rest.all isspace := by
  cases rest with
  | nil => rfl
  | cons first rest =>
      simp only [IStringStream.getChar, IStringStream.sentry]
      cases left : (first :: rest).dropWhile isspace with
      | nil =>
          have blank : ∀ character ∈ first :: rest, isspace character :=
            List.dropWhile_eq_nil_iff.mp left
          have allBlank : (first :: rest).all isspace = true :=
            List.all_eq_true.mpr blank
          rw [allBlank]
          simp
      | cons character others =>
          have notBlank : (first :: rest).all isspace = false := by
            apply Bool.eq_false_iff.mpr
            intro allBlank
            have none := List.dropWhile_eq_nil_iff.mpr
              (List.all_eq_true.mp allBlank)
            rw [left] at none
            cases none
          rw [notBlank]
          simp

/-- The whole test in terms of the sign, the digits and what follows them. -/
theorem dieFace_eq (line : Text) :
    dieFace line =
      let scanned := IStringStream.scanSign (line.dropWhile isspace)
      let field := scanned.2.takeWhile isdigit
      let value := bigEndian 10 (field.map digitValue)
      if scanned.1 = false ∧ (1 ≤ value ∧ value ≤ 6) ∧
          (scanned.2.dropWhile isdigit).all isspace then
        some (chr '0' + UInt8.ofNat value)
      else none := by
  cases shape : line.dropWhile isspace with
  | nil =>
      simp [dieFace, IStringStream.getInt, IStringStream.sentry,
        IStringStream.ofText, shape, IStringStream.scanSign]
  | cons first rest =>
      simp only [dieFace, IStringStream.getInt, IStringStream.sentry,
        IStringStream.ofText, shape, Bool.or_self, Bool.false_eq_true,
        if_false]
      generalize IStringStream.scanSign (first :: rest) = scanned
      obtain ⟨negative, unsigned⟩ := scanned
      dsimp only
      generalize unsigned.dropWhile isdigit = after
      generalize magnitude : bigEndian 10
        ((unsigned.takeWhile isdigit).map digitValue) = value
      by_cases none : unsigned.takeWhile isdigit = []
      · have zero : value = 0 := by
          rw [none] at magnitude
          exact magnitude.symm
        simp [none, zero]
      · cases negative with
        | true =>
            have notPositive : ¬(1 : Int) ≤ -(value : Int) := by omega
            by_cases overflow : intMax + 1 < value
            · simp [none, overflow]
            · simp [none, overflow, notPositive]
        | false =>
            by_cases overflow : intMax < value
            · have large : ¬value ≤ 6 := by
                unfold intMax at overflow
                omega
              simp [none, overflow, large]
            · simp [none, overflow, getChar_fails_iff after, and_comm]

theorem isdigit_iff {character : UInt8} :
    isdigit character ↔ 48 ≤ character.toNat ∧ character.toNat ≤ 57 := by
  have low : (chr '0').toNat = 48 := rfl
  have high : (chr '9').toNat = 57 := rfl
  simp only [isdigit, Bool.and_eq_true, decide_eq_true_eq,
    UInt8.le_iff_toNat_le, low, high]

theorem mem_faces_iff {face : UInt8} :
    face ∈ text "123456" ↔ 49 ≤ face.toNat ∧ face.toNat ≤ 54 := by
  have listed : text "123456" = [49, 50, 51, 52, 53, 54] := rfl
  rw [listed]
  simp only [List.mem_cons, List.not_mem_nil, or_false, ← UInt8.toNat_inj,
    UInt8.reduceToNat]
  omega

theorem isspace_iff {character : UInt8} :
    isspace character ↔ character.toNat = 32 ∨
      (9 ≤ character.toNat ∧ character.toNat ≤ 13) := by
  have blank : (chr ' ').toNat = 32 := rfl
  simp only [isspace, Bool.or_eq_true, Bool.and_eq_true, decide_eq_true_eq,
    UInt8.le_iff_toNat_le, ← UInt8.toNat_inj, blank, UInt8.reduceToNat]

/-- A digit string with a value from 1 through 6 is zeros and one digit. -/
theorem small_field {field : Text}
    (digit : ∀ character ∈ field, isdigit character)
    (low : 1 ≤ bigEndian 10 (field.map digitValue))
    (high : bigEndian 10 (field.map digitValue) ≤ 6) :
    ∃ zeros face, field = zeros ++ [face] ∧
      (∀ character ∈ zeros, character = chr '0') ∧
      face ∈ text "123456" ∧
      bigEndian 10 (field.map digitValue) = digitValue face := by
  induction field using List.reverseRecOn with
  | nil => simp at low
  | append_singleton zeros face _ =>
      rw [List.map_append, List.map_singleton, bigEndian_snoc] at low high ⊢
      have front : bigEndian 10 (zeros.map digitValue) = 0 := by omega
      have faceDigit := isdigit_iff.mp (digit face (by simp))
      have faceValue : digitValue face = face.toNat - 48 := rfl
      refine ⟨zeros, face, rfl, ?_, ?_, ?_⟩
      · intro character member
        have zero : digitValue character = 0 :=
          (bigEndian_eq_zero_iff (by decide)).mp front _
            (List.mem_map_of_mem member)
        have zeroDigit := isdigit_iff.mp (digit character (by simp [member]))
        have value : digitValue character = character.toNat - 48 := rfl
        apply UInt8.toNat_inj.mp
        change character.toNat = 48
        omega
      · apply mem_faces_iff.mpr
        omega
      · omega

/-- The value of zeros followed by one digit. -/
theorem small_field_value {zeros : Text} {face : UInt8}
    (zero : ∀ character ∈ zeros, character = chr '0') :
    bigEndian 10 ((zeros ++ [face]).map digitValue) = digitValue face := by
  have front : bigEndian 10 (zeros.map digitValue) = 0 := by
    apply (bigEndian_eq_zero_iff (by decide)).mpr
    intro value member
    obtain ⟨character, inside, rfl⟩ := List.mem_map.mp member
    rw [zero character inside]
    rfl
  rw [List.map_append, List.map_singleton, bigEndian_snoc, front]
  omega

theorem scanSign_plus {rest unsigned : Text}
    (scanned : IStringStream.scanSign rest = (false, unsigned)) :
    ∃ sign, rest = sign ++ unsigned ∧ (sign = [] ∨ sign = [chr '+']) := by
  cases rest with
  | nil =>
      cases scanned
      exact ⟨[], rfl, .inl rfl⟩
  | cons first rest =>
      simp only [IStringStream.scanSign] at scanned
      split at scanned
      · cases scanned
      · split at scanned
        · rename_i plus
          cases scanned
          exact ⟨[first], rfl, .inr (by rw [plus])⟩
        · cases scanned
          exact ⟨[], rfl, .inl rfl⟩

theorem scanSign_append {sign unsigned : Text}
    (optional : sign = [] ∨ sign = [chr '+'])
    (digit : ∀ character ∈ unsigned.head?, isdigit character) :
    IStringStream.scanSign (sign ++ unsigned) = (false, unsigned) := by
  rcases optional with rfl | rfl
  · cases unsigned with
    | nil => rfl
    | cons first rest =>
        have firstDigit := isdigit_iff.mp (digit first (by simp))
        have minus : first ≠ chr '-' := by
          intro same
          rw [same] at firstDigit
          exact absurd firstDigit.1 (by decide)
        have plus : first ≠ chr '+' := by
          intro same
          rw [same] at firstDigit
          exact absurd firstDigit.1 (by decide)
        simp [IStringStream.scanSign, minus, plus]
  · rfl

/-- The character returned for a digit is that digit. -/
theorem chr_zero_add_digitValue {face : UInt8} (digit : isdigit face) :
    chr '0' + UInt8.ofNat (digitValue face) = face := by
  have range := isdigit_iff.mp digit
  have value : digitValue face = face.toNat - 48 := rfl
  apply UInt8.toNat_inj.mp
  rw [value, UInt8.toNat_add, UInt8.toNat_ofNat']
  change (48 + (face.toNat - 48) % 2 ^ 8) % 2 ^ 8 = face.toNat
  omega

theorem isdigit_of_mem_faces {face : UInt8} (member : face ∈ text "123456") :
    isdigit face := by
  have range := mem_faces_iff.mp member
  apply isdigit_iff.mpr
  omega

theorem isspace_false_of_isdigit {character : UInt8}
    (digit : isdigit character) : isspace character = false := by
  have range := isdigit_iff.mp digit
  apply Bool.eq_false_iff.mpr
  intro blank
  have blankRange := isspace_iff.mp blank
  omega

theorem dieLine_of_dieFace {line : Text} {face : UInt8}
    (accepted : dieFace line = some face) : DieLine line face := by
  rw [dieFace_eq] at accepted
  dsimp only at accepted
  generalize scan : IStringStream.scanSign (line.dropWhile isspace) = scanned
    at accepted
  obtain ⟨negative, unsigned⟩ := scanned
  split at accepted
  · rename_i tests
    obtain ⟨rfl, ⟨low, high⟩, blank⟩ := tests
    obtain ⟨sign, signed, optional⟩ := scanSign_plus scan
    have digit : ∀ character ∈ unsigned.takeWhile isdigit,
        isdigit character := by
      intro character member
      exact List.mem_takeWhile_imp member
    obtain ⟨zeros, last, field, zero, listed, value⟩ :=
      small_field digit low high
    have same : last = face := by
      rw [value, chr_zero_add_digitValue (isdigit_of_mem_faces listed)]
        at accepted
      exact Option.some.inj accepted
    refine ⟨line.takeWhile isspace, sign, zeros,
      unsigned.dropWhile isdigit, ?_, ?_, optional, zero, same ▸ listed, ?_⟩
    · rw [← same, ← field, List.takeWhile_append_dropWhile, ← signed,
        List.takeWhile_append_dropWhile]
    · intro character member
      exact List.mem_takeWhile_imp member
    · exact List.all_eq_true.mp blank
  · cases accepted

theorem dieFace_of_dieLine {line : Text} {face : UInt8}
    (shape : DieLine line face) : dieFace line = some face := by
  obtain ⟨before, sign, zeros, after, rfl, beforeBlank, optional, zero, listed,
    afterBlank⟩ := shape
  have faceDigit := isdigit_of_mem_faces listed
  have fieldDigits : ∀ character ∈ zeros ++ [face], isdigit character := by
    intro character member
    rcases List.mem_append.mp member with early | last
    · rw [zero character early]
      rfl
    · exact List.mem_singleton.mp last ▸ faceDigit
  have unsignedDigit : ∀ character ∈ (zeros ++ [face] ++ after).head?,
      isdigit character := by
    intro character member
    apply fieldDigits character
    cases zeros with
    | nil => simpa using member.symm
    | cons first rest => simp_all
  have signedSolid : ∀ character ∈
      (sign ++ (zeros ++ [face] ++ after)).head?,
      isspace character = false := by
    intro character member
    rcases optional with rfl | rfl
    · exact isspace_false_of_isdigit (unsignedDigit character member)
    · cases member
      rfl
  have afterStops : ∀ character ∈ after.head?, isdigit character = false := by
    intro character member
    apply Bool.eq_false_iff.mpr
    intro digit
    have solid := isspace_false_of_isdigit digit
    rw [afterBlank character (List.mem_of_mem_head? member)] at solid
    cases solid
  obtain ⟨-, skipped⟩ := takeWhile_dropWhile_append beforeBlank signedSolid
  obtain ⟨field, rest⟩ := takeWhile_dropWhile_append fieldDigits afterStops
  have range := mem_faces_iff.mp listed
  have value : digitValue face = face.toNat - 48 := rfl
  rw [dieFace_eq, skipped, scanSign_append optional unsignedDigit]
  dsimp only
  rw [field, rest, small_field_value zero, if_pos]
  · rw [chr_zero_add_digitValue faceDigit]
  · exact ⟨rfl, by omega, List.all_eq_true.mpr afterBlank⟩

theorem dieFace_eq_some_iff {line : Text} {face : UInt8} :
    dieFace line = some face ↔ DieLine line face :=
  ⟨dieLine_of_dieFace, dieFace_of_dieLine⟩

/-- Every rejected line costs one more prompt. -/
theorem readDieFaceFrom_rejected {rollNumber rollCount : Nat}
    {skipped : List Text} (rejected : ∀ other ∈ skipped, dieFace other = none)
    (rest : List Text) (cout cerr : OStream) :
    ∃ complaints,
      readDieFaceFrom rollNumber rollCount cout cerr (skipped ++ rest) =
        readDieFaceFrom rollNumber rollCount
          ((promptRoll rollNumber rollCount)^[skipped.length] cout) complaints
          rest := by
  induction skipped generalizing cout cerr with
  | nil => exact ⟨cerr, rfl⟩
  | cons other skipped induction =>
      obtain ⟨complaints, run⟩ := induction
        (fun later member => rejected later (by simp [member]))
        (promptRoll rollNumber rollCount cout)
        (cerr.put (text "Please enter one die result from 1 through 6.\n"))
      refine ⟨complaints, ?_⟩
      rw [List.cons_append, readDieFaceFrom, rejected other (by simp)]
      exact run

theorem readDieFaceFrom_accepts {rollNumber rollCount : Nat}
    {skipped rest : List Text} {line : Text} {face : UInt8}
    (rejected : ∀ other ∈ skipped, dieFace other = none)
    (accepted : dieFace line = some face) (cout cerr : OStream) :
    ∃ complaints,
      readDieFaceFrom rollNumber rollCount cout cerr
          (skipped ++ line :: rest) =
        (.ok face,
          { input := rest
            cout := (promptRoll rollNumber rollCount)^[skipped.length + 1] cout
            cerr := complaints }) := by
  obtain ⟨complaints, run⟩ :=
    readDieFaceFrom_rejected rejected (line :: rest) cout cerr
  refine ⟨complaints, run.trans ?_⟩
  rw [readDieFaceFrom, accepted, Function.iterate_succ_apply']

theorem readDieFaceFrom_ends {rollNumber rollCount : Nat} {lines : List Text}
    (rejected : ∀ line ∈ lines, dieFace line = none) (cout cerr : OStream) :
    ∃ complaints,
      readDieFaceFrom rollNumber rollCount cout cerr lines =
        (.error diceEnded,
          { input := []
            cout := (promptRoll rollNumber rollCount)^[lines.length + 1] cout
            cerr := complaints }) := by
  obtain ⟨complaints, run⟩ := readDieFaceFrom_rejected rejected [] cout cerr
  rw [List.append_nil] at run
  refine ⟨complaints, run.trans ?_⟩
  rw [readDieFaceFrom, Function.iterate_succ_apply']

theorem readDieFace_accepts (rollNumber rollCount : Nat) {console : Console}
    {skipped rest : List Text} {line : Text} {face : UInt8}
    (shape : console.input = skipped ++ line :: rest)
    (rejected : ∀ other ∈ skipped, dieFace other = none)
    (accepted : dieFace line = some face) :
    ∃ complaints,
      readDieFace rollNumber rollCount console =
        (.ok face,
          { input := rest
            cout := (promptRoll rollNumber rollCount)^[skipped.length + 1]
              console.cout
            cerr := complaints }) := by
  unfold readDieFace
  rw [shape]
  exact readDieFaceFrom_accepts rejected accepted console.cout console.cerr

theorem readDieFace_ends (rollNumber rollCount : Nat) {console : Console}
    (rejected : ∀ line ∈ console.input, dieFace line = none) :
    ∃ complaints,
      readDieFace rollNumber rollCount console =
        (.error diceEnded,
          { input := []
            cout := (promptRoll rollNumber rollCount)^[
              console.input.length + 1] console.cout
            cerr := complaints }) :=
  readDieFaceFrom_ends rejected console.cout console.cerr

/-- How many accepted lines there are. -/
def facesIn (lines : List Text) : Nat :=
  (lines.filterMap dieFace).length

theorem facesIn_gradual : Gradual facesIn :=
  gradual_filterMap dieFace

/-- The loop of both readers, which differ in what they keep of a face. -/
def readRolls (keep : UInt8 → UInt8) (total count : Nat) : Program Bytes :=
  forCount count
    (fun index rolls => do
      let face ← readDieFace (index + 1) total
      return rolls ++ [keep face])
    []

theorem readRolls_succ (keep : UInt8 → UInt8) (total count : Nat) :
    readRolls keep total (count + 1) =
      readRolls keep total count >>= fun rolls => do
        let face ← readDieFace (count + 1) total
        return rolls ++ [keep face] := rfl

/-- With enough accepted lines a reader stops right after the last one it
needs. -/
theorem readRolls_enough (keep : UInt8 → UInt8) (total : Nat) {count : Nat}
    {console : Console} (enough : count ≤ facesIn console.input) :
    ∃ used after, console.input = used ++ after.input ∧
      Reaches facesIn count used ∧
      readRolls keep total count console =
        (.ok ((used.filterMap dieFace).map keep), after) := by
  induction count with
  | zero =>
      exact ⟨[], console, rfl, facesIn_gradual.reaches_zero, rfl⟩
  | succ count induction =>
      obtain ⟨used, after, split, reaches, run⟩ :=
        induction (Nat.le_of_succ_le enough)
      have counted : (used.filterMap dieFace).length = count := reaches.enough
      have more : after.input.filterMap dieFace ≠ [] := by
        intro none
        rw [split, facesIn, List.filterMap_append, none, List.append_nil,
          counted] at enough
        exact Nat.not_succ_le_self count enough
      obtain ⟨face, others, selected⟩ := List.exists_cons_of_ne_nil more
      obtain ⟨skipped, line, rest, shape, rejected, accepted, -⟩ :=
        List.filterMap_eq_cons_iff.mp selected
      obtain ⟨complaints, asked⟩ :=
        readDieFace_accepts (count + 1) total shape rejected accepted
      have quiet : skipped.filterMap dieFace = [] :=
        List.filterMap_eq_nil_iff.mpr rejected
      have kept : (used ++ skipped ++ [line]).filterMap dieFace =
          used.filterMap dieFace ++ [face] := by
        simp [quiet, accepted]
      have reached : Reaches facesIn (count + 1) (used ++ skipped ++ [line]) := by
        apply facesIn_gradual.reaches_snoc
        · rw [facesIn, List.filterMap_append, quiet, List.append_nil, counted]
          exact Nat.lt_succ_self count
        · rw [facesIn, kept, List.length_append, counted]
          rfl
      refine ⟨used ++ skipped ++ [line], { after with
        input := rest
        cout := (promptRoll (count + 1) total)^[skipped.length + 1] after.cout
        cerr := complaints }, ?_, reached, ?_⟩
      · rw [split, shape]
        simp
      · rw [readRolls_succ, Program.bind_run_ok run,
          Program.bind_run_ok asked, Program.pure_run, kept, List.map_append]
        rfl

theorem readRolls_short (keep : UInt8 → UInt8) (total : Nat) {count : Nat}
    {console : Console} (short : facesIn console.input < count) :
    ∃ after, readRolls keep total count console = (.error diceEnded, after) := by
  induction count with
  | zero => exact (Nat.not_lt_zero _ short).elim
  | succ count induction =>
      by_cases early : facesIn console.input < count
      · obtain ⟨after, run⟩ := induction early
        refine ⟨after, ?_⟩
        rw [readRolls_succ]
        exact Program.bind_run_error run
      · obtain ⟨used, after, split, reaches, run⟩ :=
          readRolls_enough keep total (Nat.le_of_not_lt early)
        have counted : (used.filterMap dieFace).length = count :=
          reaches.enough
        have none : after.input.filterMap dieFace = [] := by
          apply List.eq_nil_of_length_eq_zero
          rw [split, facesIn, List.filterMap_append, List.length_append,
            counted] at short
          omega
        obtain ⟨complaints, asked⟩ := readDieFace_ends (count + 1) total
          (List.filterMap_eq_nil_iff.mp none)
        rw [readRolls_succ, Program.bind_run_ok run]
        exact ⟨_, Program.bind_run_error asked⟩

/-- What is kept of a face plays no part in the course of the loop. -/
theorem readRolls_map (keep : UInt8 → UInt8) (total count : Nat)
    (console : Console) :
    readRolls keep total count console =
      ((readRolls id total count console).1.map (List.map keep),
        (readRolls id total count console).2) := by
  induction count with
  | zero => rfl
  | succ count induction =>
      rw [readRolls_succ, readRolls_succ]
      cases run : readRolls id total count console with
      | mk outcome after =>
          rw [run] at induction
          cases outcome with
          | error failure =>
              rw [Program.bind_run_error induction, Program.bind_run_error run]
              rfl
          | ok rolls =>
              rw [Program.bind_run_ok induction, Program.bind_run_ok run]
              cases asked : readDieFace (count + 1) total after with
              | mk answer later =>
                  cases answer with
                  | error failure =>
                      rw [Program.bind_run_error asked,
                        Program.bind_run_error asked]
                      rfl
                  | ok face =>
                      rw [Program.bind_run_ok asked, Program.bind_run_ok asked,
                        Program.pure_run, Program.pure_run]
                      simp [Except.map]

theorem readAsciiDiceRolls_eq (rollCount : Nat) :
    readAsciiDiceRolls rollCount = readRolls id rollCount rollCount := rfl

theorem readMixedDiceRolls_eq (rollCount : Nat) :
    readMixedDiceRolls rollCount =
      readRolls (fun face => face - chr '1') rollCount rollCount := rfl

theorem mem_faces_of_dieFace {line : Text} {face : UInt8}
    (accepted : dieFace line = some face) : face ∈ text "123456" := by
  obtain ⟨before, sign, zeros, after, shape, _, _, _, listed, _⟩ :=
    dieLine_of_dieFace accepted
  exact listed

theorem faces_range {face : UInt8} (listed : face ∈ text "123456") :
    chr '1' ≤ face ∧ face ≤ chr '6' := by
  have range := mem_faces_iff.mp listed
  exact ⟨UInt8.le_iff_toNat_le.mpr range.1, UInt8.le_iff_toNat_le.mpr range.2⟩

theorem zeroBased_le_five {face : UInt8} (listed : face ∈ text "123456") :
    face - chr '1' ≤ 5 := by
  have range := mem_faces_iff.mp listed
  have one : (chr '1').toNat = 49 := rfl
  rw [UInt8.le_iff_toNat_le, UInt8.toNat_sub, one]
  change (2 ^ 8 - 49 + face.toNat) % 2 ^ 8 ≤ 5
  omega

/-- A reader delivers as many faces as asked for, or the input ended. -/
theorem readRolls_cases (keep : UInt8 → UInt8) (total count : Nat)
    (console : Console) :
    (∃ (faces : Text) (after : Console),
      readRolls keep total count console = (.ok (faces.map keep), after) ∧
        faces.length = count ∧ ∀ face ∈ faces, face ∈ text "123456") ∨
    ∃ after, readRolls keep total count console = (.error diceEnded, after) := by
  by_cases enough : count ≤ facesIn console.input
  · obtain ⟨used, after, -, reaches, run⟩ := readRolls_enough keep total enough
    refine .inl ⟨used.filterMap dieFace, after, run, reaches.enough, ?_⟩
    intro face member
    obtain ⟨line, -, accepted⟩ := List.mem_filterMap.mp member
    exact mem_faces_of_dieFace accepted
  · exact .inr (readRolls_short keep total (Nat.lt_of_not_le enough))

/-- Which lines are accepted, that other lines are skipped under the same roll
number, and what the two readers make of a whole input. -/
theorem diceEntry_correct :
    (∀ (line : Text) (face : UInt8),
      dieFace line = some face ↔ DieLine line face) ∧
    (∀ (rollNumber rollCount : Nat) (console : Console),
      let prompts := fun asked =>
        (promptRoll rollNumber rollCount)^[asked] console.cout
      (∃ skipped line rest face complaints,
        console.input = skipped ++ line :: rest ∧
        (∀ other ∈ skipped, dieFace other = none) ∧
        dieFace line = some face ∧
        readDieFace rollNumber rollCount console =
          (.ok face, { input := rest
                       cout := prompts (skipped.length + 1)
                       cerr := complaints })) ∨
      (∃ complaints, (∀ line ∈ console.input, dieFace line = none) ∧
        readDieFace rollNumber rollCount console =
          (.error (.runtimeError (text
              "input ended before all dice rolls were entered")),
            { input := []
              cout := prompts (console.input.length + 1)
              cerr := complaints }))) ∧
    ∀ (rollCount : Nat) (console : Console),
      ((∃ used after,
        rollCount ≤ (console.input.filterMap dieFace).length ∧
        console.input = used ++ after.input ∧
        Reaches (fun lines => (lines.filterMap dieFace).length) rollCount
          used ∧
        readAsciiDiceRolls rollCount console =
          (.ok ((console.input.filterMap dieFace).take rollCount), after)) ∨
      (∃ after, (console.input.filterMap dieFace).length < rollCount ∧
        readAsciiDiceRolls rollCount console =
          (.error (.runtimeError (text
            "input ended before all dice rolls were entered")), after))) ∧
      readMixedDiceRolls rollCount console =
        ((readAsciiDiceRolls rollCount console).1.map
          (List.map fun face => face - chr '1'),
          (readAsciiDiceRolls rollCount console).2) ∧
      ∀ rolls after, readMixedDiceRolls rollCount console = (.ok rolls, after) →
        ∀ roll ∈ rolls, roll ≤ 5 := by
  refine ⟨fun line face => dieFace_eq_some_iff, ?_, ?_⟩
  · intro rollNumber rollCount console
    cases selected : console.input.filterMap dieFace with
    | nil =>
        have rejected := List.filterMap_eq_nil_iff.mp selected
        obtain ⟨complaints, run⟩ :=
          readDieFace_ends rollNumber rollCount rejected
        exact .inr ⟨complaints, rejected, run⟩
    | cons face others =>
        obtain ⟨skipped, line, rest, shape, rejected, accepted, -⟩ :=
          List.filterMap_eq_cons_iff.mp selected
        obtain ⟨complaints, run⟩ := readDieFace_accepts rollNumber rollCount
          shape rejected accepted
        exact .inl ⟨skipped, line, rest, face, complaints, shape, rejected,
          accepted, run⟩
  · intro rollCount console
    refine ⟨?_, readRolls_map _ rollCount rollCount console, ?_⟩
    · by_cases enough : rollCount ≤ facesIn console.input
      · obtain ⟨used, after, split, reaches, run⟩ :=
          readRolls_enough id rollCount enough
        have first : (console.input.filterMap dieFace).take rollCount =
            used.filterMap dieFace := by
          have counted : (used.filterMap dieFace).length = rollCount :=
            reaches.enough
          rw [split, List.filterMap_append, ← counted, List.take_left]
        refine .inl ⟨used, after, enough, split, reaches, ?_⟩
        rw [readAsciiDiceRolls_eq, run, first, List.map_id]
      · have short := Nat.lt_of_not_le enough
        obtain ⟨after, run⟩ := readRolls_short id rollCount short
        exact .inr ⟨after, short, run⟩
    · intro rolls after run roll member
      rw [readMixedDiceRolls_eq] at run
      rcases readRolls_cases (fun face => face - chr '1') rollCount rollCount
        console with ⟨faces, reached, kept, -, listed⟩ | ⟨stopped, failed⟩
      · rw [kept] at run
        cases run
        obtain ⟨face, faceMember, rfl⟩ := List.mem_map.mp member
        exact zeroBased_le_five (listed face faceMember)
      · rw [failed] at run
        cases run

end Bip39
