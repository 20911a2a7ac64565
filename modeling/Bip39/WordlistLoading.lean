import Bip39.Source.Wordlist

/-!
# Loading an external wordlist

The reading loop keeps every stripped line in file order and stops at the
first one that is empty; the checks after the loop then decide.  Which line
ends a file uses makes no difference to the words read from it.
-/

namespace Bip39

open Bip39.Source Bip39.Support

theorem getlines_line {line : Text} (rest : Bytes)
    (oneLine : chr '\n' ∉ line) :
    getlines (line ++ chr '\n' :: rest) = line :: getlines rest := by
  induction line with
  | nil => simp [getlines]
  | cons byte line induction =>
      have different : byte ≠ chr '\n' := by
        intro same
        exact oneLine (by simp [same])
      have tail : chr '\n' ∉ line := by
        intro member
        exact oneLine (by simp [member])
      rw [List.cons_append, getlines, if_neg different, induction tail]

theorem getlines_unterminated {line : Text} (nonempty : line ≠ [])
    (oneLine : chr '\n' ∉ line) : getlines line = [line] := by
  induction line with
  | nil => exact (nonempty rfl).elim
  | cons byte line induction =>
      have different : byte ≠ chr '\n' := by
        intro same
        exact oneLine (by simp [same])
      rw [getlines, if_neg different]
      cases line with
      | nil => rfl
      | cons next line =>
          rw [induction (by simp) fun member => oneLine (by simp [member])]

/-- What is left of the segments between line feeds when a final empty one is
dropped. -/
def dropEmptyLast (segments : List Text) : List Text :=
  if segments.getLast? = some [] then segments.dropLast else segments

theorem dropEmptyLast_cons {segment : Text} {segments : List Text}
    (more : segments ≠ []) :
    dropEmptyLast (segment :: segments) = segment :: dropEmptyLast segments := by
  obtain ⟨next, later, rfl⟩ := List.exists_cons_of_ne_nil more
  unfold dropEmptyLast
  rw [List.getLast?_cons_cons, List.dropLast_cons_of_ne_nil more]
  split <;> rfl

theorem splitOn_lineFeed_cons (byte : UInt8) (rest : Bytes) :
    (byte :: rest).splitOn (chr '\n') =
      if byte = chr '\n' then [] :: rest.splitOn (chr '\n')
      else (rest.splitOn (chr '\n')).modifyHead (List.cons byte) := by
  simp [List.splitOn, List.splitOnP_cons_eq_if_modifyHead]

/-- `std::getline` reads the segments between line feeds. -/
theorem getlines_eq_segments (content : Bytes) :
    getlines content = dropEmptyLast (content.splitOn (chr '\n')) := by
  induction content with
  | nil => rfl
  | cons byte rest induction =>
      have nonempty : rest.splitOn (chr '\n') ≠ [] := by
        simp [List.splitOn]
      rw [getlines, induction, splitOn_lineFeed_cons]
      by_cases ends : byte = chr '\n'
      · rw [if_pos ends, if_pos ends, dropEmptyLast_cons nonempty]
      · rw [if_neg ends, if_neg ends]
        obtain ⟨first, later, split⟩ := List.exists_cons_of_ne_nil nonempty
        rw [split, List.modifyHead_cons]
        cases later with
        | nil =>
            -- No line feed is left: an empty remainder is not a line.
            cases first with
            | nil => rfl
            | cons character first => rfl
        | cons second later =>
            have more := List.cons_ne_nil second later
            rw [dropEmptyLast_cons more, dropEmptyLast_cons more]

/-- The lines of a file as the program counts them. -/
def fileLines (content : Bytes) : List Text :=
  (dropEmptyLast (content.splitOn (chr '\n'))).map stripCarriageReturn

/-- A file that holds the given words, one in a line.  Each line is ended by
LF or CRLF, the last one possibly by neither. -/
inductive Rendering : List Text → Bytes → Prop where
  | empty : Rendering [] []
  | lf {word : Text} {words : List Text} {rest : Bytes} :
      Rendering words rest →
      Rendering (word :: words) (word ++ chr '\n' :: rest)
  | crlf {word : Text} {words : List Text} {rest : Bytes} :
      Rendering words rest →
      Rendering (word :: words) (word ++ chr '\r' :: chr '\n' :: rest)
  | unterminated {word : Text} : Rendering [word] word

/-- A word that keeps its shape in a file: it fills a line and is not taken
for a part of a line end. -/
def FitsLine (word : Text) : Prop :=
  word ≠ [] ∧ chr '\n' ∉ word ∧ word.getLast? ≠ some (chr '\r')

theorem stripCarriageReturn_of_fitsLine {word : Text} (fits : FitsLine word) :
    stripCarriageReturn word = word :=
  if_neg fits.2.2

theorem stripCarriageReturn_snoc (word : Text) :
    stripCarriageReturn (word ++ [chr '\r']) = word := by
  simp [stripCarriageReturn]

/-- Whatever its line ends, a file is read back as the words it renders. -/
theorem getlines_rendering {words : List Text} {content : Bytes}
    (rendering : Rendering words content)
    (fits : ∀ word ∈ words, FitsLine word) :
    (getlines content).map stripCarriageReturn = words := by
  induction rendering with
  | empty => rfl
  | @lf word words rest _ induction =>
      have here := fits word (by simp)
      rw [getlines_line rest here.2.1, List.map_cons,
        stripCarriageReturn_of_fitsLine here,
        induction fun other member => fits other (by simp [member])]
  | @crlf word words rest _ induction =>
      have here := fits word (by simp)
      have oneLine : chr '\n' ∉ word ++ [chr '\r'] := by
        intro member
        rcases List.mem_append.mp member with inside | last
        · exact here.2.1 inside
        · exact absurd (List.mem_singleton.mp last) (by decide)
      have joined : word ++ chr '\r' :: chr '\n' :: rest =
          (word ++ [chr '\r']) ++ chr '\n' :: rest := by simp
      rw [joined, getlines_line rest oneLine, List.map_cons,
        stripCarriageReturn_snoc,
        induction fun other member => fits other (by simp [member])]
  | @unterminated word =>
      have here := fits word (by simp)
      rw [getlines_unterminated here.1 here.2.1, List.map_singleton,
        stripCarriageReturn_of_fitsLine here]

/-- Lines that are each terminated by a line feed. -/
def terminatedLines (lines : List Text) : Bytes :=
  lines.flatMap fun line => line ++ [chr '\n']

theorem terminatedLines_cons (line : Text) (lines : List Text) :
    terminatedLines (line :: lines) =
      line ++ chr '\n' :: terminatedLines lines := by
  simp [terminatedLines]

theorem getlines_terminatedLines {lines : List Text}
    (oneLine : ∀ line ∈ lines, chr '\n' ∉ line) :
    getlines (terminatedLines lines) = lines := by
  induction lines with
  | nil => rfl
  | cons line lines induction =>
      have tail : ∀ other ∈ lines, chr '\n' ∉ other := by
        intro other member
        exact oneLine other (by simp [member])
      rw [terminatedLines_cons, getlines_line _ (oneLine line (by simp)),
        induction tail]

theorem rendering_terminatedLines (words : List Text) :
    Rendering words (terminatedLines words) := by
  induction words with
  | nil => exact .empty
  | cons word words induction =>
      rw [terminatedLines_cons]
      exact .lf induction

theorem readWords_eq_ok_iff {words lines result : List Text} :
    readWords words lines = .ok result ↔
      (∀ line ∈ lines, stripCarriageReturn line ≠ []) ∧
        result = words ++ lines.map stripCarriageReturn := by
  induction lines generalizing words with
  | nil =>
      rw [readWords, Except.ok.injEq, List.map_nil, List.append_nil]
      exact ⟨fun same => ⟨by simp, same.symm⟩, fun both => both.2.symm⟩
  | cons line lines induction =>
      rw [readWords]
      by_cases empty : stripCarriageReturn line = []
      · simp [empty]
      · simp only [empty, if_false]
        rw [induction]
        simp [empty]

theorem dedup_length_eq_iff {words : List Text} :
    words.dedup.length = words.length ↔ words.Nodup := by
  constructor
  · intro same
    exact List.dedup_eq_self.mp ((List.dedup_sublist words).eq_of_length same)
  · intro unique
    rw [List.dedup_eq_self.mpr unique]

theorem checkWords_eq_ok_iff {words result : List Text} :
    checkWords words = .ok result ↔
      words.length = wordlistSize ∧ words.Nodup ∧ result = words := by
  unfold checkWords
  by_cases size : words.length = wordlistSize
  · by_cases unique : words.Nodup
    · simp [size, dedup_length_eq_iff.mpr unique, unique, eq_comm]
    · have shorter := mt dedup_length_eq_iff.mp unique
      rw [if_neg (not_not.mpr size), if_pos shorter]
      simp [unique]
  · simp [size]

/-- A file is accepted exactly when its stripped lines are 2048 distinct
non-empty words, and these are then the list. -/
theorem loadWordlist_eq_ok_iff {filename : Text} {content : Bytes}
    {words : List Text} :
    loadWordlist filename (some content) = .ok words ↔
      words = (getlines content).map stripCarriageReturn ∧
        words.length = wordlistSize ∧ words.Nodup ∧
        ∀ word ∈ words, word ≠ [] := by
  change (readWords [] (getlines content) >>= checkWords) = _ ↔ _
  rw [bind_eq_ok]
  constructor
  · rintro ⟨read, loop, checked⟩
    obtain ⟨nonempty, rfl⟩ := readWords_eq_ok_iff.mp loop
    obtain ⟨size, unique, rfl⟩ := checkWords_eq_ok_iff.mp checked
    refine ⟨rfl, size, unique, ?_⟩
    intro word member
    obtain ⟨line, lineMember, rfl⟩ := List.mem_map.mp member
    exact nonempty line lineMember
  · rintro ⟨rfl, size, unique, nonempty⟩
    refine ⟨_, readWords_eq_ok_iff.mpr ⟨?_, List.nil_append _⟩,
      checkWords_eq_ok_iff.mpr ⟨size, unique, rfl⟩⟩
    intro line member
    exact nonempty _ (List.mem_map_of_mem member)

/-- What later stages rely on, whichever file the list came from. -/
theorem loadWordlist_accepted {filename : Text} {content : Option Bytes}
    {words : List Text} (loaded : loadWordlist filename content = .ok words) :
    words.length = wordlistSize ∧ words.Nodup := by
  cases content with
  | none => cases loaded
  | some bytes =>
      obtain ⟨-, size, unique, -⟩ := loadWordlist_eq_ok_iff.mp loaded
      exact ⟨size, unique⟩

/-- A list of suitable words is loaded back from its LF-terminated file. -/
theorem loadWordlist_terminatedLines (filename : Text) {words : List Text}
    (size : words.length = wordlistSize) (unique : words.Nodup)
    (fits : ∀ word ∈ words, FitsLine word) :
    loadWordlist filename (some (terminatedLines words)) = .ok words := by
  rw [loadWordlist_eq_ok_iff,
    getlines_rendering (rendering_terminatedLines words) fits]
  exact ⟨rfl, size, unique, fun word member => (fits word member).1⟩

/-- Lines that fill 2048 non-empty words but repeat one are reported as
duplicates. -/
theorem loadWordlist_duplicate (filename : Text) {content : Bytes}
    (size : ((getlines content).map stripCarriageReturn).length = wordlistSize)
    (nonempty : ∀ word ∈ (getlines content).map stripCarriageReturn, word ≠ [])
    (repeated : ¬((getlines content).map stripCarriageReturn).Nodup) :
    loadWordlist filename (some content) =
      .error (.runtimeError (text "wordlist contains duplicate words")) := by
  have read : readWords [] (getlines content) =
      .ok ((getlines content).map stripCarriageReturn) := by
    apply readWords_eq_ok_iff.mpr
    refine ⟨?_, (List.nil_append _).symm⟩
    intro line member
    exact nonempty _ (List.mem_map_of_mem member)
  change (readWords [] (getlines content) >>= checkWords) = _
  rw [read]
  exact (if_neg (not_not.mpr size)).trans
    (if_pos (mt dedup_length_eq_iff.mp repeated))

/-- A file is accepted exactly when its lines are 2048 distinct non-empty
words.  So the line ends play no part: every rendering of such words is loaded
back as these words, and a word that occurs twice is found to be a duplicate
whichever line ends follow it. -/
theorem loadWordlist_correct (filename : Text) :
    (∀ (content : Bytes) (words : List Text),
      loadWordlist filename (some content) = .ok words ↔
        words = fileLines content ∧ (fileLines content).length = 2048 ∧
          (∀ line ∈ fileLines content, line ≠ []) ∧
          (fileLines content).Nodup) ∧
    ∀ (words : List Text) (content : Bytes), words.length = 2048 →
      (∀ word ∈ words, FitsLine word) → Rendering words content →
      (words.Nodup → loadWordlist filename (some content) = .ok words) ∧
      (¬words.Nodup → loadWordlist filename (some content) =
        .error (.runtimeError (text "wordlist contains duplicate words"))) := by
  constructor
  · intro content words
    rw [loadWordlist_eq_ok_iff, getlines_eq_segments]
    constructor
    · rintro ⟨rfl, size, unique, nonempty⟩
      exact ⟨rfl, size, nonempty, unique⟩
    · rintro ⟨rfl, size, nonempty, unique⟩
      exact ⟨rfl, size, unique, nonempty⟩
  · intro words content size fits rendering
    have read := getlines_rendering rendering fits
    constructor
    · intro unique
      rw [loadWordlist_eq_ok_iff, read]
      exact ⟨rfl, size, unique, fun word member => (fits word member).1⟩
    · intro repeated
      apply loadWordlist_duplicate filename
      · rw [read]
        exact size
      · rw [read]
        exact fun word member => (fits word member).1
      · rw [read]
        exact repeated

end Bip39
