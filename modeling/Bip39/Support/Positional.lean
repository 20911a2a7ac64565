import Mathlib.Data.Nat.Digits.Lemmas
import Mathlib.Tactic.Ring

/-!
# Positional numbers and fixed-width bit strings

Digits and bits are listed with the most significant one first.  `expand`
writes every number of a list in the same number of bits, `regroup` cuts a bit
string into groups of one width and reads each group as a number; writing the
groups of a fully covered bit string back gives the string.
-/

namespace Bip39.Support

/-- Value of a digit list, the most significant digit first. -/
def bigEndian (base : Nat) (digits : List Nat) : Nat :=
  Nat.ofDigits base digits.reverse

@[simp] theorem bigEndian_nil (base : Nat) : bigEndian base [] = 0 := by
  simp [bigEndian]

theorem bigEndian_append (base : Nat) (high low : List Nat) :
    bigEndian base (high ++ low) =
      bigEndian base high * base ^ low.length + bigEndian base low := by
  simp only [bigEndian, List.reverse_append, Nat.ofDigits_append,
    List.length_reverse]
  ring

theorem bigEndian_singleton (base digit : Nat) :
    bigEndian base [digit] = digit := by
  simp [bigEndian]

theorem bigEndian_snoc (base : Nat) (digits : List Nat) (digit : Nat) :
    bigEndian base (digits ++ [digit]) =
      bigEndian base digits * base + digit := by
  simp [bigEndian_append, bigEndian_singleton]

theorem bigEndian_cons (base digit : Nat) (digits : List Nat) :
    bigEndian base (digit :: digits) =
      digit * base ^ digits.length + bigEndian base digits := by
  have split := bigEndian_append base [digit] digits
  simpa [bigEndian_singleton] using split

theorem bigEndian_eq_zero_iff {base : Nat} (positive : 0 < base)
    {digits : List Nat} :
    bigEndian base digits = 0 ↔ ∀ digit ∈ digits, digit = 0 := by
  induction digits using List.reverseRecOn with
  | nil => simp
  | append_singleton digits digit induction =>
      rw [bigEndian_snoc, Nat.add_eq_zero_iff,
        Nat.mul_eq_zero, or_iff_left (Nat.ne_of_gt positive), induction]
      constructor
      · intro both value member
        rcases List.mem_append.mp member with early | last
        · exact both.1 value early
        · exact List.mem_singleton.mp last ▸ both.2
      · intro all
        exact ⟨fun value early => all value (by simp [early]),
          all digit (by simp)⟩

/-- Value of a bit string, the most significant bit first. -/
def bitsValue (bits : List Bool) : Nat :=
  bigEndian 2 (bits.map Bool.toNat)

@[simp] theorem bitsValue_nil : bitsValue [] = 0 := by
  simp [bitsValue]

theorem bitsValue_append (high low : List Bool) :
    bitsValue (high ++ low) =
      bitsValue high * 2 ^ low.length + bitsValue low := by
  simp [bitsValue, bigEndian_append]

theorem bitsValue_snoc (bits : List Bool) (bit : Bool) :
    bitsValue (bits ++ [bit]) = bitsValue bits * 2 + bit.toNat := by
  simp [bitsValue, bigEndian_snoc]

theorem bitsValue_lt (bits : List Bool) :
    bitsValue bits < 2 ^ bits.length := by
  induction bits using List.reverseRecOn with
  | nil => simp
  | append_singleton bits bit induction =>
      rw [bitsValue_snoc, List.length_append, List.length_singleton, pow_succ]
      have bitLt := bit.toNat_lt
      omega

/-- The `width` low bits of a number, the most significant bit first. -/
def bitsOf : Nat → Nat → List Bool
  | 0, _ => []
  | width + 1, value => value.testBit width :: bitsOf width value

@[simp] theorem bitsOf_length (width value : Nat) :
    (bitsOf width value).length = width := by
  induction width with
  | zero => rfl
  | succ width induction => simp [bitsOf, induction]

theorem bitsOf_getElem (width value position : Nat)
    (inside : position < (bitsOf width value).length) :
    (bitsOf width value)[position] = value.testBit (width - 1 - position) := by
  induction width generalizing position with
  | zero => simp at inside
  | succ width induction =>
      cases position with
      | zero => simp [bitsOf]
      | succ position =>
          have tailInside : position < (bitsOf width value).length := by
            simpa [bitsOf] using inside
          have sameIndex : width - (position + 1) = width - 1 - position := by
            omega
          simpa [bitsOf, sameIndex] using induction position tailInside

/-- The last bit written is the parity of the number. -/
theorem bitsOf_succ_snoc (width value : Nat) :
    bitsOf (width + 1) value =
      bitsOf width (value / 2) ++ [value.testBit 0] := by
  induction width with
  | zero => rfl
  | succ width induction =>
      rw [bitsOf, induction, bitsOf, List.cons_append, Nat.testBit_succ]

theorem bitsOf_bitsValue (bits : List Bool) :
    bitsOf bits.length (bitsValue bits) = bits := by
  induction bits using List.reverseRecOn with
  | nil => rfl
  | append_singleton bits bit induction =>
      have half : (bitsValue bits * 2 + bit.toNat) / 2 = bitsValue bits := by
        have bitLt := bit.toNat_lt
        omega
      have parity : (bitsValue bits * 2 + bit.toNat).testBit 0 = bit := by
        cases bit <;> simp [Nat.testBit_zero]
      rw [bitsValue_snoc, List.length_append, List.length_singleton,
        bitsOf_succ_snoc, half, parity, induction]

theorem bitsValue_bitsOf {width value : Nat} (small : value < 2 ^ width) :
    bitsValue (bitsOf width value) = value := by
  induction width generalizing value with
  | zero =>
      have zero : value = 0 := by simpa using small
      simp [bitsOf, zero]
  | succ width induction =>
      have halfSmall : value / 2 < 2 ^ width := by
        rw [pow_succ] at small
        omega
      have parity : (value.testBit 0).toNat = value % 2 := by
        rw [Nat.testBit_zero]
        rcases Nat.mod_two_eq_zero_or_one value with even | odd
        · simp [even]
        · simp [odd]
      rw [bitsOf_succ_snoc, bitsValue_snoc, induction halfSmall, parity]
      omega

/-- Every number written in `width` bits, one after the other. -/
def expand (width : Nat) (values : List Nat) : List Bool :=
  values.flatMap (bitsOf width)

@[simp] theorem expand_nil (width : Nat) : expand width [] = [] := rfl

@[simp] theorem expand_cons (width value : Nat) (values : List Nat) :
    expand width (value :: values) =
      bitsOf width value ++ expand width values := rfl

@[simp] theorem expand_append (width : Nat) (left right : List Nat) :
    expand width (left ++ right) = expand width left ++ expand width right := by
  simp [expand]

@[simp] theorem expand_length (width : Nat) (values : List Nat) :
    (expand width values).length = values.length * width := by
  induction values with
  | nil => simp
  | cons value values induction =>
      simp [induction]
      ring

theorem expand_getElem (width : Nat) (values : List Nat) (position : Nat)
    (inside : position < (expand width values).length)
    (group : position / width < values.length) :
    (expand width values)[position] =
      values[position / width].testBit (width - 1 - position % width) := by
  induction values generalizing position with
  | nil => simp at inside
  | cons value values induction =>
      by_cases inHead : position < width
      · have quotient : position / width = 0 := Nat.div_eq_of_lt inHead
        simp [List.getElem_append_left, inHead, bitsOf_getElem, quotient,
          Nat.mod_eq_of_lt inHead]
      · have positive : 0 < width := by
          rcases Nat.eq_zero_or_pos width with zero | positive
          · simp [zero] at inside
          · exact positive
        have reach : width ≤ position := Nat.le_of_not_lt inHead
        have quotient : position / width = (position - width) / width + 1 :=
          Nat.div_eq_sub_div positive reach
        have remainder : (position - width) % width = position % width :=
          (Nat.mod_eq_sub_mod reach).symm
        have tailInside :
            position - width < (expand width values).length := by
          simp only [expand_cons, List.length_append, bitsOf_length] at inside
          omega
        have tailGroup : (position - width) / width < values.length := by
          simp only [List.length_cons] at group
          omega
        simp only [expand_cons, quotient, List.getElem_cons_succ]
        rw [List.getElem_append_right (by simpa using reach)]
        simpa [remainder] using
          induction (position - width) tailInside tailGroup

theorem bitsValue_expand (width : Nat) (values : List Nat)
    (small : ∀ value ∈ values, value < 2 ^ width) :
    bitsValue (expand width values) = bigEndian (2 ^ width) values := by
  induction values with
  | nil => simp
  | cons value values induction =>
      have valueSmall : value < 2 ^ width := small value (by simp)
      have tailSmall : ∀ other ∈ values, other < 2 ^ width := by
        intro other member
        exact small other (by simp [member])
      rw [expand_cons, bitsValue_append, bitsValue_bitsOf valueSmall,
        induction tailSmall, bigEndian_cons, expand_length, ← pow_mul,
        Nat.mul_comm width]

/-- A list of small numbers can be read back from its bits. -/
theorem expand_injective {width : Nat} (positive : 0 < width)
    {left right : List Nat}
    (leftSmall : ∀ value ∈ left, value < 2 ^ width)
    (rightSmall : ∀ value ∈ right, value < 2 ^ width)
    (sameBits : expand width left = expand width right) : left = right := by
  induction left generalizing right with
  | nil =>
      have lengths := congrArg List.length sameBits
      have empty : right.length = 0 := by
        simpa [positive.ne', eq_comm] using lengths
      exact (List.eq_nil_of_length_eq_zero empty).symm
  | cons value left induction =>
      cases right with
      | nil =>
          have lengths := congrArg List.length sameBits
          simp [positive.ne'] at lengths
      | cons other right =>
          obtain ⟨sameHead, sameTail⟩ :=
            List.append_inj sameBits (by simp)
          have valueEq : value = other := by
            rw [← bitsValue_bitsOf (leftSmall value (by simp)),
              ← bitsValue_bitsOf (rightSmall other (by simp)), sameHead]
          have tailEq : left = right :=
            induction (fun item member => leftSmall item (by simp [member]))
              (fun item member => rightSmall item (by simp [member])) sameTail
          rw [valueEq, tailEq]

/-- One group of `width` bits of a bit string. -/
def group (width : Nat) (bits : List Bool) (index : Nat) : List Bool :=
  (bits.drop (index * width)).take width

/-- The first `count` groups of `width` bits, each read as a number. -/
def regroup (width count : Nat) (bits : List Bool) : List Nat :=
  (List.range count).map fun index => bitsValue (group width bits index)

@[simp] theorem regroup_length (width count : Nat) (bits : List Bool) :
    (regroup width count bits).length = count := by
  simp [regroup]

theorem group_length {width index : Nat} {bits : List Bool}
    (fits : (index + 1) * width ≤ bits.length) :
    (group width bits index).length = width := by
  rw [Nat.succ_mul] at fits
  simp only [group, List.length_take, List.length_drop]
  omega

theorem regroup_lt (width count : Nat) (bits : List Bool) :
    ∀ value ∈ regroup width count bits, value < 2 ^ width := by
  intro value member
  obtain ⟨index, -, rfl⟩ := List.mem_map.mp member
  refine (bitsValue_lt _).trans_le ?_
  exact Nat.pow_le_pow_right (by omega) (List.length_take_le ..)

/-- The first groups depend on the first bits only. -/
theorem take_regroup (width : Nat) {keep count : Nat} (few : keep ≤ count)
    (bits : List Bool) :
    (regroup width count bits).take keep =
      regroup width keep (bits.take (keep * width)) := by
  unfold regroup
  rw [← List.map_take, List.take_range, Nat.min_eq_left few]
  apply List.map_congr_left
  intro index inside
  have below : (index + 1) * width ≤ keep * width :=
    Nat.mul_le_mul_right width (List.mem_range.mp inside)
  rw [Nat.succ_mul] at below
  unfold group
  rw [List.drop_take, List.take_take, Nat.min_eq_left (by omega)]

/-- Writing the groups of a bit string back in bits gives the string. -/
theorem expand_regroup (width count : Nat) (bits : List Bool)
    (covered : bits.length = count * width) :
    expand width (regroup width count bits) = bits := by
  induction count generalizing bits with
  | zero =>
      have empty : bits = [] := by
        apply List.eq_nil_of_length_eq_zero
        simpa using covered
      simp [regroup, empty]
  | succ count induction =>
      have dropLength : (bits.drop width).length = count * width := by
        rw [List.length_drop, covered, Nat.succ_mul]
        omega
      have headLength : (bits.take width).length = width := by
        rw [List.length_take, covered, Nat.succ_mul]
        omega
      have tailGroups :
          (List.range count).map
              (fun index => bitsValue (group width bits (index + 1))) =
            regroup width count (bits.drop width) := by
        refine List.map_congr_left fun index _ => ?_
        have position : (index + 1) * width = width + index * width := by
          rw [Nat.succ_mul, Nat.add_comm]
        rw [group, group, List.drop_drop, position]
      have headBits :
          bitsOf width (bitsValue (group width bits 0)) = bits.take width := by
        have whole := bitsOf_bitsValue (bits.take width)
        rw [headLength] at whole
        simpa [group] using whole
      calc
        expand width (regroup width (count + 1) bits) =
            bitsOf width (bitsValue (group width bits 0)) ++
              expand width ((List.range count).map
                fun index => bitsValue (group width bits (index + 1))) := by
          simp [regroup, List.range_succ_eq_map, Function.comp_def]
        _ = bits.take width ++ bits.drop width := by
          rw [headBits, tailGroups, induction (bits.drop width) dropLength]
        _ = bits := List.take_append_drop width bits

end Bip39.Support
