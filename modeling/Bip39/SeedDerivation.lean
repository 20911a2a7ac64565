import Bip39.MnemonicRoundTrip
import Bip39.Source.Seed

/-!
# Seed derivation

The arguments `derive_seed` passes on are exactly its own, with the salt tag in
front of the passphrase, whenever both are ASCII and their lengths fit an
`int`.  A sentence of the compiled list always is and always does, and leads
back to its entropy.
-/

namespace Bip39

open Bip39.Source Bip39.Support

/-- All bytes are ASCII characters. -/
def IsAscii (bytes : Bytes) : Prop := ∀ byte ∈ bytes, byte ≤ 0x7f

/-- The lengths of the mnemonic and of the salt are values of type `int`. -/
def LengthsFit (mnemonic passphrase : Text) : Prop :=
  mnemonic.length ≤ 2 ^ 31 - 1 ∧ passphrase.length ≤ 2 ^ 31 - 9

theorem isAscii_append {left right : Bytes} :
    IsAscii (left ++ right) ↔ IsAscii left ∧ IsAscii right :=
  List.forall_mem_append

theorem requireAscii_of_isAscii {input : Text} (description : Text)
    (ascii : IsAscii input) : requireAscii input description = .ok () := by
  have all : input.all (fun character => character ≤ 0x7f) = true := by
    simpa [IsAscii] using ascii
  simp [requireAscii, all]

theorem requireAscii_of_not_isAscii {input : Text} (description : Text)
    (foreign : ¬IsAscii input) :
    requireAscii input description = .error (.invalidArgument
      (description ++ text " must contain ASCII characters only")) := by
  have notAll : ¬input.all (fun character => character ≤ 0x7f) = true := by
    simpa [IsAscii] using foreign
  exact if_pos notAll

theorem checkedInt_of_le {size : Nat} (fits : size ≤ intMax) :
    checkedInt size = .ok (Int32.ofNat size) :=
  if_neg (Nat.not_lt_of_le fits)

theorem checkedInt_of_lt {size : Nat} (large : intMax < size) :
    checkedInt size = .error (.lengthError (text "BIP-39 input is too large")) :=
  if_pos large

/-- The conversion to `int` keeps a checked length. -/
theorem toInt_ofNat_of_le {size : Nat} (fits : size ≤ intMax) :
    (Int32.ofNat size).toInt = size := by
  apply Int32.toInt_ofNat_of_lt
  unfold intMax at fits
  omega

theorem salt_length (passphrase : Text) :
    (text "mnemonic" ++ passphrase).length = passphrase.length + 8 := by
  have tag : (text "mnemonic").length = 8 := rfl
  rw [List.length_append, tag, Nat.add_comm]

/-- The arguments for ASCII texts of admissible length. -/
def seedCall (mnemonic passphrase : Text) : Pbkdf2Call :=
  { password := mnemonic
    passwordLength := Int32.ofNat mnemonic.length
    salt := text "mnemonic" ++ passphrase
    saltLength := Int32.ofNat (text "mnemonic" ++ passphrase).length
    iterations := Int32.ofNat pbkdf2Iterations
    keyLength := Int32.ofNat seedSize }

theorem pbkdf2Call_of_foreign {mnemonic passphrase : Text}
    (foreign : ¬IsAscii (mnemonic ++ passphrase)) :
    ∃ what, pbkdf2Call mnemonic passphrase = .error (.invalidArgument what) := by
  rw [isAscii_append] at foreign
  by_cases ascii : IsAscii mnemonic
  · have passphraseForeign : ¬IsAscii passphrase := by
      intro passphraseAscii
      exact foreign ⟨ascii, passphraseAscii⟩
    simp only [pbkdf2Call, requireAscii_of_isAscii _ ascii,
      requireAscii_of_not_isAscii _ passphraseForeign, bind, Except.bind]
    exact ⟨_, rfl⟩
  · simp only [pbkdf2Call, requireAscii_of_not_isAscii _ ascii, bind,
      Except.bind]
    exact ⟨_, rfl⟩

theorem lengthsFit_iff {mnemonic passphrase : Text} :
    LengthsFit mnemonic passphrase ↔ mnemonic.length ≤ intMax ∧
      (text "mnemonic" ++ passphrase).length ≤ intMax := by
  rw [salt_length, LengthsFit, intMax]
  omega

theorem pbkdf2Call_of_long {mnemonic passphrase : Text}
    (ascii : IsAscii (mnemonic ++ passphrase))
    (long : ¬LengthsFit mnemonic passphrase) :
    ∃ what, pbkdf2Call mnemonic passphrase = .error (.lengthError what) := by
  rw [isAscii_append] at ascii
  rw [lengthsFit_iff] at long
  by_cases fits : mnemonic.length ≤ intMax
  · have saltLong : intMax < (text "mnemonic" ++ passphrase).length := by
      apply Nat.lt_of_not_le
      intro saltFits
      exact long ⟨fits, saltFits⟩
    simp only [pbkdf2Call, requireAscii_of_isAscii _ ascii.1,
      requireAscii_of_isAscii _ ascii.2, checkedInt_of_le fits,
      checkedInt_of_lt saltLong, bind, Except.bind]
    exact ⟨_, rfl⟩
  · simp only [pbkdf2Call, requireAscii_of_isAscii _ ascii.1,
      requireAscii_of_isAscii _ ascii.2,
      checkedInt_of_lt (Nat.lt_of_not_le fits), bind, Except.bind]
    exact ⟨_, rfl⟩

theorem pbkdf2Call_of_fits {mnemonic passphrase : Text}
    (ascii : IsAscii (mnemonic ++ passphrase))
    (fits : LengthsFit mnemonic passphrase) :
    pbkdf2Call mnemonic passphrase = .ok (seedCall mnemonic passphrase) := by
  rw [isAscii_append] at ascii
  rw [lengthsFit_iff] at fits
  have keyFits : seedSize ≤ intMax := by decide
  have password : (if mnemonic = [] then text "" else mnemonic) = mnemonic := by
    split
    · rename_i empty
      rw [empty]
      rfl
    · rfl
  simp only [pbkdf2Call, requireAscii_of_isAscii _ ascii.1,
    requireAscii_of_isAscii _ ascii.2, checkedInt_of_le fits.1,
    checkedInt_of_le fits.2, checkedInt_of_le keyFits, password, bind,
    Except.bind]
  rfl

/-- No length of a call that is made has been truncated, so none is
negative. -/
theorem seedCall_lengths {mnemonic passphrase : Text}
    (fits : LengthsFit mnemonic passphrase) :
    (seedCall mnemonic passphrase).passwordLength.toInt = mnemonic.length ∧
      (seedCall mnemonic passphrase).saltLength.toInt =
        (text "mnemonic" ++ passphrase).length := by
  rw [lengthsFit_iff] at fits
  exact ⟨toInt_ofNat_of_le fits.1, toInt_ofNat_of_le fits.2⟩

theorem englishWords_ascii : ∀ word ∈ makeEnglishWordList, IsAscii word := by
  intro word member byte inside
  have letter := ((englishWords_letters member).2 byte inside).2
  exact UInt8.le_trans letter (by decide)

theorem isAscii_sentence {words : List Text}
    (ascii : ∀ word ∈ words, IsAscii word) : IsAscii (sentence words) := by
  induction words with
  | nil => simp [sentence, IsAscii]
  | cons word words induction =>
      have here : IsAscii word := ascii word (by simp)
      have later : IsAscii (sentence words) :=
        induction fun other member => ascii other (by simp [member])
      by_cases more : words = []
      · simpa [more, sentence] using here
      · rw [sentence_cons more, isAscii_append]
        refine ⟨here, ?_⟩
        intro byte member
        rcases List.mem_cons.mp member with rfl | inside
        · decide
        · exact later byte inside

theorem sentence_length_le {words : List Text} {bound : Nat}
    (short : ∀ word ∈ words, word.length ≤ bound) :
    (sentence words).length ≤ words.length * (bound + 1) := by
  induction words with
  | nil => simp [sentence]
  | cons word words induction =>
      have here : word.length ≤ bound := short word (by simp)
      have later := induction fun other member => short other (by simp [member])
      by_cases more : words = []
      · simp only [more, sentence, List.intercalate_singleton,
          List.length_singleton]
        omega
      · rw [sentence_cons more, List.length_append, List.length_cons,
          List.length_cons, Nat.succ_mul]
        omega

/-- Every generated sentence is ASCII, and far shorter than the limit. -/
theorem generateSentence_admissible {hash : Bytes → Digest} {entropy : Bytes}
    {wordCount : Nat} {mnemonic : Text}
    (generated : generateSentence hash entropy wordCount = .ok mnemonic) :
    IsAscii mnemonic ∧ mnemonic.length ≤ 216 := by
  obtain ⟨supported, count, listed, -⟩ := generateSentence_spec generated
  have joined : sentence (mnemonic.splitOn (chr ' ')) = mnemonic :=
    List.intercalate_splitOn (chr ' ')
  have ratio := entropyBytesForWordCount_ratio supported
  constructor
  · rw [← joined]
    exact isAscii_sentence fun word member =>
      englishWords_ascii word (listed word member)
  · have bound := sentence_length_le fun word member =>
      (englishWords_letters (listed word member)).1.2
    rw [joined, count] at bound
    omega

theorem pbkdf2Call_of_generated {hash : Bytes → Digest} {entropy : Bytes}
    {wordCount : Nat} {mnemonic passphrase : Text}
    (generated : generateSentence hash entropy wordCount = .ok mnemonic)
    (ascii : IsAscii passphrase) (fits : passphrase.length ≤ 2 ^ 31 - 9) :
    pbkdf2Call mnemonic passphrase = .ok (seedCall mnemonic passphrase) := by
  have admissible := generateSentence_admissible generated
  apply pbkdf2Call_of_fits
  · exact isAscii_append.mpr ⟨admissible.1, ascii⟩
  · exact ⟨by omega, fits⟩

/-- Foreign bytes are found first, then lengths that do not fit. -/
theorem pbkdf2Call_cases (mnemonic passphrase : Text) :
    (¬IsAscii (mnemonic ++ passphrase) ∧
      ∃ what, pbkdf2Call mnemonic passphrase = .error (.invalidArgument what)) ∨
    (IsAscii (mnemonic ++ passphrase) ∧ ¬LengthsFit mnemonic passphrase ∧
      ∃ what, pbkdf2Call mnemonic passphrase = .error (.lengthError what)) ∨
    (IsAscii (mnemonic ++ passphrase) ∧ LengthsFit mnemonic passphrase ∧
      pbkdf2Call mnemonic passphrase = .ok (seedCall mnemonic passphrase)) := by
  by_cases ascii : IsAscii (mnemonic ++ passphrase)
  · by_cases fits : LengthsFit mnemonic passphrase
    · exact .inr (.inr ⟨ascii, fits, pbkdf2Call_of_fits ascii fits⟩)
    · exact .inr (.inl ⟨ascii, fits, pbkdf2Call_of_long ascii fits⟩)
  · exact .inl ⟨ascii, pbkdf2Call_of_foreign ascii⟩

/-- A call that is made has the mnemonic for its password, and the passphrase
after the tag for its salt. -/
theorem eq_seedCall_of_ok {mnemonic passphrase : Text} {call : Pbkdf2Call}
    (made : pbkdf2Call mnemonic passphrase = .ok call) :
    call = seedCall mnemonic passphrase := by
  rcases pbkdf2Call_cases mnemonic passphrase with
    ⟨-, what, failed⟩ | ⟨-, -, what, failed⟩ | ⟨-, -, run⟩
  · rw [failed] at made
    cases made
  · rw [failed] at made
    cases made
  · rw [run] at made
    cases made
    rfl

section Derivation

variable (openSsl : OpenSsl) (derive : Pbkdf2Call → Seed)

/-- With a PBKDF2 that reports success, `derive_seed` fails only where its
arguments are refused. -/
theorem deriveSeed_eq (mnemonic passphrase : Text) :
    deriveSeed openSsl (fun call => some (derive call)) mnemonic passphrase =
      (pbkdf2Call mnemonic passphrase).map derive := by
  unfold deriveSeed
  cases pbkdf2Call mnemonic passphrase with
  | error failure => rfl
  | ok call => rfl

/-- `derive_seed` refuses bytes that are not ASCII, then lengths that are not
values of `int`, and otherwise passes its arguments on unchanged.  For a
generated sentence it never fails on account of the sentence, and the password
and the salt determine the entropy and the passphrase. -/
theorem deriveSeed_correct :
    (∀ mnemonic passphrase : Text,
      let result :=
        deriveSeed openSsl (fun call => some (derive call)) mnemonic passphrase
      let ascii := ∀ byte ∈ mnemonic ++ passphrase, byte ≤ 0x7f
      let fits :=
        mnemonic.length ≤ 2 ^ 31 - 1 ∧ passphrase.length ≤ 2 ^ 31 - 9
      ((∃ what, result = .error (.invalidArgument what)) ↔ ¬ascii) ∧
      ((∃ what, result = .error (.lengthError what)) ↔ ascii ∧ ¬fits) ∧
      (ascii → fits → ∃ call, pbkdf2Call mnemonic passphrase = .ok call ∧
        result = .ok (derive call) ∧
        call.password = mnemonic ∧
        call.passwordLength.toInt = mnemonic.length ∧
        call.salt = text "mnemonic" ++ passphrase ∧
        call.saltLength.toInt = (text "mnemonic" ++ passphrase).length ∧
        call.iterations = 2048 ∧ call.keyLength = 64)) ∧
    ∀ hash : Bytes → Digest,
      (∀ (entropy : Bytes) (wordCount : Nat) (passphrase : Text),
        entropyBytesForWordCount wordCount = .ok entropy.length →
        (∀ byte ∈ passphrase, byte ≤ 0x7f) →
        passphrase.length ≤ 2 ^ 31 - 9 →
        ∃ mnemonic seed,
          generateSentence hash entropy wordCount = .ok mnemonic ∧
          deriveSeed openSsl (fun call => some (derive call)) mnemonic
            passphrase = .ok seed) ∧
      ∀ (left right : Bytes) (leftCount rightCount : Nat)
        (leftMnemonic rightMnemonic leftPassphrase rightPassphrase : Text)
        (leftCall rightCall : Pbkdf2Call),
        generateSentence hash left leftCount = .ok leftMnemonic →
        generateSentence hash right rightCount = .ok rightMnemonic →
        pbkdf2Call leftMnemonic leftPassphrase = .ok leftCall →
        pbkdf2Call rightMnemonic rightPassphrase = .ok rightCall →
        leftCall.password = rightCall.password →
        leftCall.salt = rightCall.salt →
          left = right ∧ leftPassphrase = rightPassphrase := by
  constructor
  · intro mnemonic passphrase
    dsimp only
    rw [deriveSeed_eq]
    rcases pbkdf2Call_cases mnemonic passphrase with
      ⟨foreign, what, failed⟩ | ⟨ascii, long, what, failed⟩ | ⟨ascii, fits, run⟩
    · rw [failed]
      refine ⟨⟨fun _ => foreign, fun _ => ⟨what, rfl⟩⟩, ?_,
        fun ascii => (foreign ascii).elim⟩
      constructor
      · rintro ⟨other, impossible⟩
        cases impossible
      · exact fun both => (foreign both.1).elim
    · rw [failed]
      refine ⟨?_, ⟨fun _ => ⟨ascii, long⟩, fun _ => ⟨what, rfl⟩⟩,
        fun _ fits => (long fits).elim⟩
      constructor
      · rintro ⟨other, impossible⟩
        cases impossible
      · exact fun foreign => (foreign ascii).elim
    · rw [run]
      have lengths := seedCall_lengths fits
      refine ⟨?_, ?_, fun _ _ => ⟨_, rfl, rfl, rfl, lengths.1, rfl,
        lengths.2, rfl, rfl⟩⟩
      · constructor
        · rintro ⟨what, failed⟩
          cases failed
        · exact fun foreign => (foreign ascii).elim
      · constructor
        · rintro ⟨what, failed⟩
          cases failed
        · exact fun both => (both.2 fits).elim
  · intro hash
    constructor
    · intro entropy wordCount passphrase supported ascii fits
      obtain ⟨mnemonic, generated⟩ := generateSentence_of_supported hash supported
      refine ⟨mnemonic, derive (seedCall mnemonic passphrase), generated, ?_⟩
      rw [deriveSeed_eq, pbkdf2Call_of_generated generated ascii fits]
      rfl
    · intro left right leftCount rightCount leftMnemonic rightMnemonic
        leftPassphrase rightPassphrase leftCall rightCall leftGenerated
        rightGenerated leftMade rightMade samePassword sameSalt
      rw [eq_seedCall_of_ok leftMade, eq_seedCall_of_ok rightMade]
        at samePassword sameSalt
      have sameMnemonic : leftMnemonic = rightMnemonic := samePassword
      rw [← sameMnemonic] at rightGenerated
      exact ⟨(generateSentence_injective leftGenerated rightGenerated).1,
        List.append_cancel_left sameSalt⟩

end Derivation

end Bip39
