import Bip39.MnemonicRoundTrip
import Bip39.Support.OverlapChain
import Bip39.WordlistLoading

/-!
# Ambiguous external wordlists

`load_wordlist` rejects repeated words but accepts spaces inside a word, so two
index lists can produce one sentence.  Written with a space after it, every
word is a code word and a sentence is a concatenation of code words; the list
is unambiguous exactly when these code words have no closed overlap chain of at
most 24 words.
-/

namespace Bip39

open Bip39.Source Bip39.Support

/-- Different index lists of one supported length make different sentences. -/
def Unambiguous (words : List Text) : Prop :=
  ∀ left right : List UInt16,
    left.length ∈ [12, 15, 18, 21, 24] → right.length = left.length →
    (∀ index ∈ left, index.toNat < 2048) →
    (∀ index ∈ right, index.toNat < 2048) →
    left ≠ right → makeMnemonic words left ≠ makeMnemonic words right

/-- The words of a list, each with a space after it. -/
def spacedWords (words : List Text) : List Text :=
  words.map fun word => word ++ [chr ' ']

theorem spacedWords_ne_nil {words : List Text} :
    ∀ word ∈ spacedWords words, word ≠ [] := by
  intro word member
  obtain ⟨original, -, rfl⟩ := List.mem_map.mp member
  simp

theorem sentence_append_space {words : List Text} (nonempty : words ≠ []) :
    sentence words ++ [chr ' '] = (spacedWords words).flatten := by
  induction words with
  | nil => exact (nonempty rfl).elim
  | cons word words induction =>
      by_cases more : words = []
      · simp [more, sentence, spacedWords]
      · have tail := induction more
        simp only [spacedWords, List.map_cons, List.flatten_cons] at tail ⊢
        rw [sentence_cons more, ← tail]
        simp

theorem sentence_eq_iff {left right : List Text} (leftNonempty : left ≠ [])
    (rightNonempty : right ≠ []) :
    sentence left = sentence right ↔
      (spacedWords left).flatten = (spacedWords right).flatten := by
  rw [← sentence_append_space leftNonempty,
    ← sentence_append_space rightNonempty]
  exact List.append_left_inj _ |>.symm

theorem spacedWords_injective : Function.Injective spacedWords :=
  List.map_injective_iff.mpr fun _ _ same => List.append_cancel_right same

/-- Every sequence of code words is the spaced form of list words. -/
theorem exists_selectedWords {words : List Text}
    (size : words.length = wordlistSize) {coded : List Text}
    (member : ∀ word ∈ coded, word ∈ spacedWords words) :
    ∃ indices : List UInt16, (∀ index ∈ indices, index.toNat < 2048) ∧
      spacedWords (selectedWords words indices) = coded := by
  induction coded with
  | nil => exact ⟨[], by simp, rfl⟩
  | cons word coded induction =>
      obtain ⟨indices, small, spaced⟩ := induction fun other otherMember =>
        member other (by simp [otherMember])
      obtain ⟨original, originalMember, rfl⟩ :=
        List.mem_map.mp (member word (by simp))
      obtain ⟨position, inside, found⟩ :=
        List.mem_iff_getElem.mp originalMember
      have bound : position < 2048 := by
        rw [size] at inside
        exact inside
      have value : (UInt16.ofNat position).toNat = position :=
        UInt16.toNat_ofNat_of_lt' (bound.trans (by decide))
      refine ⟨UInt16.ofNat position :: indices, ?_, ?_⟩
      · intro index indexMember
        rcases List.mem_cons.mp indexMember with head | tail
        · rw [head, value]
          exact bound
        · exact small index tail
      · have head : words.getD (UInt16.ofNat position).toNat [] = original := by
          rw [value, List.getD_eq_getElem _ _ inside, found]
        simp only [selectedWords, spacedWords, List.map_cons] at spaced ⊢
        rw [head, spaced]

theorem selectedWords_injective {words : List Text}
    (size : words.length = wordlistSize) (unique : words.Nodup)
    {left right : List UInt16}
    (leftSmall : ∀ index ∈ left, index.toNat < 2048)
    (rightSmall : ∀ index ∈ right, index.toNat < 2048)
    (same : selectedWords words left = selectedWords words right) :
    left = right := by
  induction left generalizing right with
  | nil =>
      have empty : right.length = 0 := by
        rw [← selectedWords_length words right, ← same, selectedWords_length,
          List.length_nil]
      exact (List.eq_nil_of_length_eq_zero empty).symm
  | cons index left induction =>
      cases right with
      | nil => simp [selectedWords] at same
      | cons other right =>
          simp only [selectedWords, List.map_cons, List.cons.injEq] at same
          have indexInside : index.toNat < words.length := by
            rw [size]
            exact leftSmall index (by simp)
          have otherInside : other.toNat < words.length := by
            rw [size]
            exact rightSmall other (by simp)
          have heads : index = other := by
            have sameWord := same.1
            rw [List.getD_eq_getElem _ _ indexInside,
              List.getD_eq_getElem _ _ otherInside] at sameWord
            exact UInt16.toNat_inj.mp (unique.getElem_inj_iff.mp sameWord)
          have tails : left = right :=
            induction (fun item member => leftSmall item (by simp [member]))
              (fun item member => rightSmall item (by simp [member])) same.2
          rw [heads, tails]

/-- Two index lists collide exactly when their code words do. -/
theorem makeMnemonic_eq_iff {words : List Text}
    (size : words.length = wordlistSize) {left right : List UInt16}
    (leftSmall : ∀ index ∈ left, index.toNat < 2048)
    (rightSmall : ∀ index ∈ right, index.toNat < 2048)
    (leftNonempty : left ≠ []) (rightNonempty : right ≠ []) :
    makeMnemonic words left = makeMnemonic words right ↔
      (spacedWords (selectedWords words left)).flatten =
        (spacedWords (selectedWords words right)).flatten := by
  have selectedNonempty : ∀ indices : List UInt16, indices ≠ [] →
      selectedWords words indices ≠ [] := by
    intro indices nonempty empty
    exact nonempty (List.map_eq_nil_iff.mp empty)
  have leftRange : ∀ index ∈ left, index.toNat < words.length := by
    rw [size]
    exact leftSmall
  have rightRange : ∀ index ∈ right, index.toNat < words.length := by
    rw [size]
    exact rightSmall
  rw [makeMnemonic_eq leftRange, makeMnemonic_eq rightRange, Except.ok.injEq]
  exact sentence_eq_iff (selectedNonempty left leftNonempty)
    (selectedNonempty right rightNonempty)

theorem selectedWords_spaced_mem {words : List Text}
    (size : words.length = wordlistSize) {indices : List UInt16}
    (small : ∀ index ∈ indices, index.toNat < 2048) :
    ∀ word ∈ spacedWords (selectedWords words indices),
      word ∈ spacedWords words := by
  intro word member
  obtain ⟨original, originalMember, rfl⟩ := List.mem_map.mp member
  refine List.mem_map_of_mem (selectedWords_mem ?_ original originalMember)
  rw [size]
  exact small

/-- An accepted wordlist is unambiguous exactly when its spaced words have no
closed overlap chain of at most 24 words. -/
theorem loadWordlist_unambiguous_iff {filename : Text}
    {content : Option Bytes} {words : List Text}
    (loaded : loadWordlist filename content = .ok words) :
    Unambiguous words ↔
      ¬∃ count, count ≤ 24 ∧ Overlap (spacedWords words) count count [] := by
  obtain ⟨size, unique⟩ := loadWordlist_accepted loaded
  rw [← exists_collision_iff spacedWords_ne_nil]
  constructor
  · -- A collision of any length is padded to a collision of 24 words.
    rintro unambiguous ⟨count, bound, collision⟩
    obtain ⟨closed, fits, chain⟩ :=
      collision.closedChain spacedWords_ne_nil
    obtain ⟨left, right, leftLength, rightLength, leftCode, rightCode,
      different, same⟩ := chain.collision (fits.trans bound)
    obtain ⟨leftIndices, leftSmall, rfl⟩ := exists_selectedWords size leftCode
    obtain ⟨rightIndices, rightSmall, rfl⟩ :=
      exists_selectedWords size rightCode
    simp only [spacedWords, List.length_map, selectedWords_length]
      at leftLength rightLength
    have nonempty : ∀ indices : List UInt16, indices.length = 24 →
        indices ≠ [] := by
      rintro indices length rfl
      simp at length
    refine unambiguous leftIndices rightIndices (by simp [leftLength])
      (rightLength.trans leftLength.symm) leftSmall rightSmall ?_ ?_
    · rintro rfl
      exact different rfl
    · exact (makeMnemonic_eq_iff size leftSmall rightSmall
        (nonempty _ leftLength) (nonempty _ rightLength)).mpr same
  · intro free left right counted lengths leftSmall rightSmall different same
    have bound : left.length ≤ 24 ∧ 0 < left.length := by
      simp only [List.mem_cons, List.not_mem_nil, or_false] at counted
      omega
    have leftNonempty : left ≠ [] := List.ne_nil_of_length_pos bound.2
    have rightNonempty : right ≠ [] :=
      List.ne_nil_of_length_pos (by omega)
    refine free ⟨left.length, bound.1,
      spacedWords (selectedWords words left),
      spacedWords (selectedWords words right), by simp [spacedWords],
      by simp [spacedWords, lengths], selectedWords_spaced_mem size leftSmall,
      selectedWords_spaced_mem size rightSmall, ?_, ?_⟩
    · intro spaced
      exact different (selectedWords_injective size unique leftSmall rightSmall
        (spacedWords_injective spaced))
    · exact (makeMnemonic_eq_iff size leftSmall rightSmall leftNonempty
        rightNonempty).mp same

/-- Words without spaces have no overlap chain at all. -/
theorem no_overlap_of_spaceFree {words : List Text}
    (spaceFree : ∀ word ∈ words, chr ' ' ∉ word) {ahead behind : Nat}
    {overhang : Text} :
    ¬Overlap (spacedWords words) ahead behind overhang := by
  intro chain
  induction chain with
  | @start short overhang shortMember longMember different =>
      obtain ⟨shortWord, -, rfl⟩ := List.mem_map.mp shortMember
      obtain ⟨longWord, longWordMember, longEq⟩ := List.mem_map.mp longMember
      rcases List.eq_nil_or_concat overhang with rfl | ⟨init, last, rfl⟩
      · exact different (by simp)
      · have inits : longWord = shortWord ++ [chr ' '] ++ init := by
          have shaped : longWord ++ [chr ' '] =
              (shortWord ++ [chr ' '] ++ init) ++ [last] := by
            simpa using longEq
          exact (List.append_inj' shaped rfl).1
        refine spaceFree longWord longWordMember ?_
        simp [inits]
  | inside _ _ induction => exact induction
  | beyond _ _ induction => exact induction

theorem englishWords_fitLines {word : Text}
    (member : word ∈ makeEnglishWordList) : FitsLine word := by
  refine ⟨(englishWords_tight word member).1,
    not_mem_englishWord member (by decide), ?_⟩
  intro last
  exact not_mem_englishWord member (by decide) (List.mem_of_getLast? last)

/-- The compiled list, written to a file and loaded, is unambiguous. -/
theorem englishFile_unambiguous : Unambiguous makeEnglishWordList := by
  have loaded := loadWordlist_terminatedLines (text "english-seeds.txt")
    englishWords_length englishWords_nodup
    (fun word member => englishWords_fitLines member)
  apply (loadWordlist_unambiguous_iff loaded).mpr
  intro closed
  obtain ⟨count, -, chain⟩ := closed
  exact no_overlap_of_spaceFree
    (fun word member => (englishWords_tight word member).2) chain

/-- The compiled list with its second line replaced by the first word written
twice. -/
def doubledWordlist : List Text :=
  makeEnglishWordList.set 1 (text "abandon abandon")

theorem doubledWordlist_loaded (filename : Text) :
    loadWordlist filename (some (terminatedLines doubledWordlist)) =
      .ok doubledWordlist := by
  apply loadWordlist_terminatedLines
  · rw [doubledWordlist, List.length_set, englishWords_length]
  · apply englishWords_nodup.set
    intro listed
    exact (englishWords_tight _ listed).2 (by decide)
  · intro word member
    rcases List.mem_or_eq_of_mem_set member with listed | rfl
    · exact englishWords_fitLines listed
    · exact ⟨by decide, by decide, by decide⟩

/-- A file with a space inside a word is accepted although two index lists of
twelve entries make the same sentence. -/
theorem loadWordlist_ambiguous :
    ¬∀ (filename : Text) (content : Option Bytes) (words : List Text),
      loadWordlist filename content = .ok words → Unambiguous words := by
  intro always
  have unambiguous := always (text "words.txt") _ _
    (doubledWordlist_loaded (text "words.txt"))
  refine unambiguous (0 :: 1 :: List.replicate 10 0)
    (1 :: 0 :: List.replicate 10 0) (by decide) (by decide)
    (by simp) (by simp) (by decide) ?_
  decide +kernel

end Bip39
