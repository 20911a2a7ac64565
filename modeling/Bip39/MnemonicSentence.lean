import Bip39.Source.Wordlist
import Mathlib.Data.List.GetD

/-!
# Sentences

`make_mnemonic` joins the words at the given indices by single spaces.
-/

namespace Bip39

open Bip39.Source Bip39.Support

/-- Words joined by single spaces. -/
def sentence (words : List Text) : Text :=
  [chr ' '].intercalate words

/-- The words at the given indices. -/
def selectedWords (words : List Text) (indices : List UInt16) : List Text :=
  indices.map fun index => words.getD index.toNat []

@[simp] theorem selectedWords_length (words : List Text)
    (indices : List UInt16) :
    (selectedWords words indices).length = indices.length := by
  simp [selectedWords]

theorem selectedWords_mem {words : List Text} {indices : List UInt16}
    (inRange : ∀ index ∈ indices, index.toNat < words.length) :
    ∀ word ∈ selectedWords words indices, word ∈ words := by
  intro word member
  obtain ⟨index, indexMember, rfl⟩ := List.mem_map.mp member
  have inside := inRange index indexMember
  rw [List.getD_eq_getElem _ _ inside]
  exact List.getElem_mem inside

theorem sentence_cons {word : Text} {words : List Text} (more : words ≠ []) :
    sentence (word :: words) = word ++ chr ' ' :: sentence words := by
  have joined := @List.intercalate_cons_of_ne_nil _ [chr ' '] word words more
  simpa [sentence] using joined

theorem sentence_snoc (words : List Text) (word : Text) :
    sentence (words ++ [word]) =
      sentence words ++ (if words = [] then [] else [chr ' ']) ++ word := by
  induction words with
  | nil => simp [sentence]
  | cons first words induction =>
      rw [List.cons_append, sentence_cons (by simp), induction]
      by_cases empty : words = []
      · simp [empty, sentence]
      · simp [empty, sentence_cons empty]

theorem appendWord_eq {words : List Text} {indices : List UInt16}
    {position : Nat} (mnemonic : Text) (inside : position < indices.length)
    (inRange : ∀ index ∈ indices, index.toNat < words.length) :
    appendWord words indices position mnemonic =
      .ok (mnemonic ++ (if position = 0 then [] else [chr ' ']) ++
        words.getD indices[position].toNat []) := by
  have wordInside := inRange indices[position] (List.getElem_mem inside)
  unfold appendWord
  rw [subscript_of_lt inside]
  simp only [bind, Except.bind]
  rw [subscript_of_lt wordInside, List.getD_eq_getElem _ _ wordInside]
  by_cases first : position = 0
  · simp [first, pure, Except.pure]
  · simp [first, pure, Except.pure]

theorem makeMnemonic_eq {words : List Text} {indices : List UInt16}
    (inRange : ∀ index ∈ indices, index.toNat < words.length) :
    makeMnemonic words indices =
      .ok (sentence (selectedWords words indices)) := by
  obtain ⟨mnemonic, run, held⟩ := forCount_ok indices.length
    (appendWord words indices) []
    (fun done mnemonic =>
      mnemonic = sentence ((selectedWords words indices).take done))
    rfl (by
      intro position below mnemonic held
      refine ⟨_, appendWord_eq mnemonic below inRange, ?_⟩
      have selected : position < (selectedWords words indices).length := by
        simpa using below
      have word : (selectedWords words indices)[position] =
          words.getD indices[position].toNat [] := by
        simp [selectedWords]
      have started : (selectedWords words indices).take position = [] ↔
          position = 0 := by
        rw [List.take_eq_nil_iff]
        constructor
        · rintro (zero | empty)
          · exact zero
          · rw [empty] at selected
            simp at selected
        · exact Or.inl
      rw [List.take_add_one, List.getElem?_eq_getElem selected,
        Option.toList_some, sentence_snoc, held, word]
      simp only [started])
  rw [← selectedWords_length words indices, List.take_length] at held
  rw [makeMnemonic, run, held]

/-- A sentence of space-free words splits back into these words. -/
theorem splitOn_sentence {words : List Text} (nonempty : words ≠ [])
    (spaceFree : ∀ word ∈ words, chr ' ' ∉ word) :
    (sentence words).splitOn (chr ' ') = words :=
  List.splitOn_intercalate (chr ' ') spaceFree nonempty

end Bip39
