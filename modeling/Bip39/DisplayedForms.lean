import Bip39.IndexPacking
import Bip39.MnemonicRoundTrip
import Bip39.Source.Display
import Bip39.WordlistLoading

/-!
# Displayed forms

The pages the program prints are first described as texts, then read back: the
cells of a Tiny Seed, the hexadecimal entropy and the checksum digits are what
a person sees on the page, and all of them spell the combined sequence.
-/

namespace Bip39

open Bip39.Source Bip39.Support

/-- A loop whose iterations each append a piece prints the pieces in order. -/
theorem forCount_appends {pieces : List Text}
    {body : Nat → OStream → Except Failure OStream}
    (each : ∀ position (inside : position < pieces.length) (written : Text),
      body position { text := written } =
        .ok { text := written ++ pieces[position] })
    (written : Text) :
    forCount pieces.length body { text := written } =
      .ok { text := written ++ pieces.flatten } := by
  obtain ⟨final, run, held⟩ := forCount_ok pieces.length body
    { text := written }
    (fun done stream =>
      stream = { text := written ++ (pieces.take done).flatten })
    (by simp) (by
      intro position below stream held
      have more : (pieces.take (position + 1)).flatten =
          (pieces.take position).flatten ++ pieces[position] := by
        rw [List.take_add_one, List.getElem?_eq_getElem below,
          Option.toList_some, List.flatten_append, List.flatten_singleton]
      refine ⟨_, held ▸ each position below _, ?_⟩
      rw [more, List.append_assoc])
  rw [run, held, List.take_length]

/-- The right-aligned row number at the left of a row. -/
def rowLabel (position : Nat) : Text :=
  List.replicate (6 - (digits 10 (position + 1)).length) (chr ' ') ++
    digits 10 (position + 1) ++ text ") "

/-- Numbered rows, each ended by a line feed. -/
def numberedRows (rows : List Text) : Text :=
  terminatedLines (rows.mapIdx fun position row => rowLabel position ++ row)

theorem rowLabel_printed (written : Text) (position : Nat) :
    ((({ text := written } : OStream).setw 6).putNat (position + 1)).put
        (text ") ") =
      { text := written ++ rowLabel position } := by
  simp only [OStream.setw, OStream.putNat, OStream.put, rowLabel,
    Nat.zero_sub, List.replicate_zero, List.append_nil, List.append_assoc]

/-- A loop that prints a numbered row in each iteration. -/
theorem forCount_numberedRows {rows : List Text}
    {body : Nat → OStream → Except Failure OStream}
    (each : ∀ position (inside : position < rows.length) (written : Text),
      body position { text := written } =
        .ok { text := written ++ rowLabel position ++ rows[position] ++
                [chr '\n'] })
    (written : Text) :
    forCount rows.length body { text := written } =
      .ok { text := written ++ numberedRows rows } := by
  have loop := @forCount_appends
    ((rows.mapIdx fun position row => rowLabel position ++ row).map
      fun line => line ++ [chr '\n']) body (by
        intro position inside written
        have rowInside : position < rows.length := by simpa using inside
        rw [each position rowInside]
        simp) written
  rw [List.length_map, List.length_mapIdx] at loop
  rw [loop, numberedRows, terminatedLines, List.flatMap_def]

/-- How a Tiny Seed shows a bit. -/
def cell (bit : Bool) : Text :=
  if bit then text "█ " else text "_ "

def tinySeedHeader : Text := text "\n    Tiny Seed\n\n"

def tinySeedPage (rows : List (List Bool)) : Text :=
  tinySeedHeader ++ numberedRows (rows.map fun row => row.flatMap cell)

def mnemonicPage (words : List Text) : Text :=
  text "\n    Seed Words\n\n" ++ numberedRows words

theorem bitset_getElem {width value bit : Nat} (inside : bit < width) :
    subscript (bitset width value) bit = .ok (value.testBit bit) := by
  have bound : bit < (bitset width value).length := by
    simpa [bitset] using inside
  rw [subscript_of_lt bound]
  simp [bitset]

/-- The downward loop over the bitset prints the bits from the highest on. -/
theorem printTinySeedRow_eq (index : UInt16) (written : Text) :
    printTinySeedRow index { text := written } =
      .ok { text := written ++
              (bitsOf bitsPerWord index.toNat).flatMap cell } := by
  have loop := @forCount_appends
    ((bitsOf bitsPerWord index.toNat).map cell)
    (fun position stream => do
      let value ← subscript (bitset bitsPerWord index.toNat)
        (bitsPerWord - 1 - position)
      return stream.put (if value then text "█ " else text "_ "))
    (by
      intro position inside written
      have below : position < (bitsOf bitsPerWord index.toNat).length := by
        simpa using inside
      have fromTop : bitsPerWord - 1 - position < bitsPerWord := by
        unfold bitsPerWord
        omega
      rw [bitset_getElem fromTop, List.getElem_map,
        bitsOf_getElem _ _ _ below]
      simp only [bind, Except.bind, OStream.put_mk]
      rfl) written
  rw [List.length_map, bitsOf_length] at loop
  rw [List.flatMap_def]
  exact loop

theorem printTinySeed_eq (indices : List UInt16) (written : Text) :
    printTinySeed indices { text := written } =
      .ok { text := written ++ tinySeedPage
              (indices.map fun index => bitsOf bitsPerWord index.toNat) } := by
  unfold printTinySeed
  rw [OStream.put_mk]
  have loop := @forCount_numberedRows
    (indices.map fun index =>
      (bitsOf bitsPerWord index.toNat).flatMap cell)
    (fun position stream => do
      let stream := stream.setw 6 |>.putNat (position + 1) |>.put (text ") ")
      let index ← subscript indices position
      let stream ← printTinySeedRow index stream
      return stream.put [chr '\n'])
    (by
      intro position inside written
      have below : position < indices.length := by simpa using inside
      simp only [rowLabel_printed, subscript_of_lt below, bind, Except.bind,
        printTinySeedRow_eq, List.getElem_map]
      simp [OStream.put_mk, pure, Except.pure])
    (written ++ tinySeedHeader)
  rw [List.length_map] at loop
  refine loop.trans ?_
  simp [tinySeedPage, Function.comp_def]

theorem printMnemonic_eq {words : List Text} {indices : List UInt16}
    (inRange : ∀ index ∈ indices, index.toNat < words.length)
    (written : Text) :
    printMnemonic words indices { text := written } =
      .ok { text := written ++ mnemonicPage (selectedWords words indices) } := by
  unfold printMnemonic
  rw [OStream.put_mk]
  have loop := @forCount_numberedRows (selectedWords words indices)
    (fun position stream => do
      let stream := stream.setw 6 |>.putNat (position + 1) |>.put (text ") ")
      let index ← subscript indices position
      let word ← subscript words index.toNat
      return stream.put word |>.put [chr '\n'])
    (by
      intro position inside written
      have below : position < indices.length := by simpa using inside
      have wordInside := inRange indices[position] (List.getElem_mem below)
      simp only [rowLabel_printed, subscript_of_lt below, bind, Except.bind,
        subscript_of_lt wordInside]
      simp [OStream.put_mk, pure, Except.pure, selectedWords,
        List.getElem?_eq_getElem wordInside])
    (written ++ text "\n    Seed Words\n\n")
  rw [selectedWords_length] at loop
  refine loop.trans ?_
  simp [mnemonicPage]

def hexAlphabet : Text := text "0123456789abcdef"

/-- A byte as two hexadecimal digits. -/
def hexPair (byte : UInt8) : Text :=
  [hexAlphabet.getD (byte.toNat / 16) 0, hexAlphabet.getD (byte.toNat % 16) 0]

theorem hexPair_printed (byte : UInt8) :
    List.replicate (2 - (digits 16 byte.toNat).length) (chr '0') ++
      digits 16 byte.toNat = hexPair byte := by
  have table : ∀ value < 256,
      List.replicate (2 - (digits 16 value).length) (chr '0') ++
          digits 16 value =
        [hexAlphabet.getD (value / 16) 0, hexAlphabet.getD (value % 16) 0] := by
    decide +kernel
  exact table byte.toNat byte.toNat_lt

theorem putHexByte_eq (stream : OStream) (byte : UInt8) :
    putHexByte stream byte =
      { text := stream.text ++ hexPair byte, base := 16, width := 0,
        fill := chr '0' } := by
  rw [← hexPair_printed, ← List.append_assoc]
  rfl

/-- The base and the fill character are put back after the bytes. -/
theorem putHexBytes_eq (bytes : Bytes) {stream : OStream}
    (unpadded : stream.width = 0) :
    ((bytes.foldl putHexByte stream).dec.setfill (chr ' ')) =
      { text := stream.text ++ bytes.flatMap hexPair } := by
  induction bytes generalizing stream with
  | nil => simp [OStream.dec, OStream.setfill, unpadded]
  | cons byte bytes induction =>
      rw [List.foldl_cons, putHexByte_eq, induction rfl]
      simp

def checksumDigit (bit : Bool) : UInt8 :=
  if bit then chr '1' else chr '0'

def internalsHeader : Text :=
  text "\n    BIP-39 Internals\n\n" ++ text "Entropy:      "

def checksumHeader : Text :=
  [chr '\n'] ++ text "Checksum:     "

def internalsPage (entropyDigits checksumDigits : Text)
    (entropyBitCount checksumBitCount : Nat) : Text :=
  internalsHeader ++ (entropyDigits ++ (checksumHeader ++ (checksumDigits ++
    ([chr '\n'] ++ text "Entropy bits: " ++ digits 10 entropyBitCount ++
      [chr '\n'] ++ text "Checksum bits: " ++ digits 10 checksumBitCount ++
      [chr '\n']))))

theorem seeds_readBit_eq : Seeds.readBit = readBit := rfl

theorem checksum_printed {digest : Digest} {count : Nat}
    (fits : count ≤ (bitString digest.bytes).length) (written : Text) :
    forCount count
        (fun bit stream => do
          let value ← Seeds.readBit digest.bytes bit
          return stream.put [if value then chr '1' else chr '0'])
        ({ text := written } : OStream) =
      .ok { text := written ++
              ((bitString digest.bytes).take count).map checksumDigit } := by
  have loop := @forCount_appends
    (((bitString digest.bytes).take count).map fun bit => [checksumDigit bit])
    (fun bit stream => do
      let value ← Seeds.readBit digest.bytes bit
      return stream.put [if value then chr '1' else chr '0'])
    (by
      intro position inside written
      have below : position < (bitString digest.bytes).length := by
        rw [List.length_map, List.length_take] at inside
        omega
      rw [seeds_readBit_eq, readBit_eq below]
      simp [bind, Except.bind, pure, Except.pure, OStream.put_mk,
        checksumDigit]) written
  rw [List.length_map, List.length_take, Nat.min_eq_left fits] at loop
  rw [loop, ← List.flatMap_def, ← List.map_eq_flatMap]

theorem printEntropyAndChecksum_eq {entropy : Bytes} {digest : Digest}
    (fits : checksumBits entropy.length ≤ (bitString digest.bytes).length)
    (written : Text) :
    printEntropyAndChecksum entropy digest { text := written } =
      .ok { text := written ++ internalsPage (entropy.flatMap hexPair)
              (((bitString digest.bytes).take
                (checksumBits entropy.length)).map checksumDigit)
              (entropy.length * 8) (checksumBits entropy.length) } := by
  have count : entropy.length * 8 / 32 = checksumBits entropy.length := by
    rw [checksumBits, Nat.mul_comm]
  unfold printEntropyAndChecksum
  simp only [OStream.put_mk, putHexBytes_eq, count]
  rw [checksum_printed fits]
  simp only [bind, Except.bind, pure, Except.pure, OStream.put_mk,
    OStream.putNat_mk]
  simp [internalsPage, internalsHeader, checksumHeader]

/-- The cells in a text: a full block is read as 1, an underscore as 0. -/
def readCells : Text → List Bool
  | [] => []
  | byte :: rest =>
      if byte = chr '_' then false :: readCells rest
      else if (byte :: rest).take 3 = text "█" then true :: readCells rest
      else readCells rest

/-- The rows of cells below the header of a Tiny Seed. -/
def readTinySeed (page : Text) : List (List Bool) :=
  (getlines (page.drop tinySeedHeader.length)).map readCells

theorem block_bytes : text "█" = [0xE2, 0x96, 0x88] := rfl

theorem readCells_skip {first : Text}
    (plain : ∀ byte ∈ first, byte.toNat < 95) (rest : Text) :
    readCells (first ++ rest) = readCells rest := by
  induction first with
  | nil => rfl
  | cons byte first induction =>
      have small := plain byte (by simp)
      have notUnderscore : byte ≠ chr '_' := by
        intro same
        rw [same] at small
        exact absurd small (by decide)
      have notBlock : (byte :: (first ++ rest)).take 3 ≠ text "█" := by
        intro same
        rw [block_bytes, List.take_succ_cons, List.cons.injEq] at same
        rw [same.1] at small
        exact absurd small (by decide)
      rw [List.cons_append, readCells, if_neg notUnderscore, if_neg notBlock]
      exact induction fun later member => plain later (by simp [member])

theorem readCells_cell (bit : Bool) (rest : Text) :
    readCells (cell bit ++ rest) = bit :: readCells rest := by
  cases bit with
  | false =>
      have bytes : cell false = [chr '_', chr ' '] := rfl
      have blank : ∀ byte ∈ [chr ' '], byte.toNat < 95 :=
        List.forall_mem_singleton.mpr (by decide)
      rw [bytes, List.cons_append, readCells, if_pos rfl]
      exact congrArg _ (readCells_skip blank rest)
  | true =>
      have bytes : cell true = [0xE2, 0x96, 0x88, 0x20] := rfl
      rw [bytes]
      simp [readCells, block_bytes, chr]

theorem readCells_cells (row : List Bool) :
    readCells (row.flatMap cell) = row := by
  induction row with
  | nil => rfl
  | cons bit row induction =>
      rw [List.flatMap_cons, readCells_cell, induction]

theorem mem_digits {value : Nat} {byte : UInt8}
    (member : byte ∈ digits 10 value) :
    48 ≤ byte.toNat ∧ byte.toNat ≤ 57 := by
  obtain ⟨character, inside, rfl⟩ := List.mem_map.mp member
  have digit := Nat.isDigit_of_mem_toDigits (by decide) (by decide) inside
  simp only [Char.isDigit, Bool.and_eq_true, decide_eq_true_eq] at digit
  have low : 48 ≤ character.toNat := digit.1
  have high : character.toNat ≤ 57 := digit.2
  rw [chr, UInt8.toNat_ofNat']
  omega

theorem mem_rowLabel {position : Nat} {byte : UInt8}
    (member : byte ∈ rowLabel position) :
    32 ≤ byte.toNat ∧ byte.toNat ≤ 57 := by
  have bytes : text ") " = [41, 32] := rfl
  rw [rowLabel, bytes] at member
  rcases List.mem_append.mp member with front | back
  · rcases List.mem_append.mp front with padding | number
    · rw [(List.mem_replicate.mp padding).2]
      decide
    · have range := mem_digits number
      omega
  · simp only [List.mem_cons, List.not_mem_nil, or_false] at back
    rcases back with rfl | rfl <;> decide

theorem lineFeed_not_mem_tinySeedRow (position : Nat) (row : List Bool) :
    chr '\n' ∉ rowLabel position ++ row.flatMap cell := by
  intro member
  rcases List.mem_append.mp member with label | cells
  · exact absurd (mem_rowLabel label).1 (by decide)
  · obtain ⟨bit, -, inside⟩ := List.mem_flatMap.mp cells
    have none : ∀ bit, chr '\n' ∉ cell bit := by decide
    exact none bit inside

/-- A Tiny Seed is read back as the rows it was printed from. -/
theorem readTinySeed_page (rows : List (List Bool)) :
    readTinySeed (tinySeedPage rows) = rows := by
  have oneLine : ∀ line ∈
      ((rows.map fun row => row.flatMap cell).mapIdx
        fun position row => rowLabel position ++ row),
      chr '\n' ∉ line := by
    intro line member
    obtain ⟨position, inside, rfl⟩ := List.mem_mapIdx.mp member
    rw [List.getElem_map]
    exact lineFeed_not_mem_tinySeedRow position _
  unfold readTinySeed tinySeedPage numberedRows
  rw [List.drop_left, getlines_terminatedLines oneLine]
  apply List.ext_getElem
  · simp
  · intro position left right
    have label : ∀ byte ∈ rowLabel position, byte.toNat < 95 := by
      intro byte member
      have range := mem_rowLabel member
      omega
    simp only [List.getElem_map, List.getElem_mapIdx]
    rw [readCells_skip label, readCells_cells]

def upToLineFeed (page : Text) : Text :=
  page.takeWhile fun byte => byte ≠ chr '\n'

def readEntropyDigits (page : Text) : Text :=
  upToLineFeed (page.drop internalsHeader.length)

def readChecksumDigits (page : Text) : Text :=
  upToLineFeed (page.drop (internalsHeader.length +
    ((readEntropyDigits page).length + checksumHeader.length)))

/-- The bits of hexadecimal digits, four for each. -/
def hexBits (digits : Text) : List Bool :=
  expand 4 (digits.map fun digit => hexAlphabet.idxOf digit)

theorem upToLineFeed_append {line : Text} (oneLine : chr '\n' ∉ line)
    (rest : Text) : upToLineFeed (line ++ chr '\n' :: rest) = line := by
  have inside : ∀ byte ∈ line, decide (byte ≠ chr '\n') = true := by
    intro byte member
    apply decide_eq_true
    intro same
    exact oneLine (same ▸ member)
  rw [upToLineFeed, List.takeWhile_append_of_pos inside]
  simp

theorem readEntropyDigits_page {entropyDigits : Text}
    (oneLine : chr '\n' ∉ entropyDigits) (checksumDigits : Text)
    (entropyBitCount checksumBitCount : Nat) :
    readEntropyDigits (internalsPage entropyDigits checksumDigits
      entropyBitCount checksumBitCount) = entropyDigits := by
  unfold readEntropyDigits internalsPage
  rw [List.drop_left]
  exact upToLineFeed_append oneLine _

theorem readChecksumDigits_page {entropyDigits checksumDigits : Text}
    (oneLine : chr '\n' ∉ entropyDigits)
    (checksumLine : chr '\n' ∉ checksumDigits)
    (entropyBitCount checksumBitCount : Nat) :
    readChecksumDigits (internalsPage entropyDigits checksumDigits
      entropyBitCount checksumBitCount) = checksumDigits := by
  unfold readChecksumDigits
  rw [readEntropyDigits_page oneLine]
  unfold internalsPage
  rw [← List.drop_drop, List.drop_left, ← List.drop_drop, List.drop_left,
    List.drop_left]
  exact upToLineFeed_append checksumLine _

theorem mem_hexPair {byte digit : UInt8} (member : digit ∈ hexPair byte) :
    digit ∈ hexAlphabet := by
  have listed : ∀ value < 16, hexAlphabet.getD value 0 ∈ hexAlphabet := by
    decide
  have bound := byte.toNat_lt
  simp only [hexPair, List.mem_cons, List.not_mem_nil, or_false] at member
  rcases member with rfl | rfl
  · exact listed _ (by omega)
  · exact listed _ (by omega)

theorem hexBits_flatMap_hexPair (bytes : Bytes) :
    hexBits (bytes.flatMap hexPair) = bitString bytes := by
  have table : ∀ value < 256,
      hexBits [hexAlphabet.getD (value / 16) 0,
        hexAlphabet.getD (value % 16) 0] = bitsOf 8 value := by
    decide +kernel
  induction bytes with
  | nil => rfl
  | cons byte bytes induction =>
      unfold hexBits bitString at induction ⊢
      rw [List.flatMap_cons, List.map_append, expand_append, induction,
        List.map_cons, expand_cons]
      exact congrArg (· ++ _) (table byte.toNat byte.toNat_lt)

theorem read_checksumDigit (bits : List Bool) :
    (bits.map checksumDigit).map (fun digit => decide (digit = chr '1')) =
      bits := by
  have each : ∀ bit, decide (checksumDigit bit = chr '1') = bit := by decide
  rw [List.map_map]
  exact (List.map_congr_left fun bit _ => each bit).trans (List.map_id bits)

theorem lineFeed_not_mem_hexDigits (entropy : Bytes) :
    chr '\n' ∉ entropy.flatMap hexPair := by
  intro member
  obtain ⟨byte, -, inside⟩ := List.mem_flatMap.mp member
  have absent : chr '\n' ∉ hexAlphabet := by decide
  exact absent (mem_hexPair inside)

theorem lineFeed_not_mem_checksumDigits (bits : List Bool) :
    chr '\n' ∉ bits.map checksumDigit := by
  intro member
  obtain ⟨bit, -, same⟩ := List.mem_map.mp member
  have different : ∀ bit, checksumDigit bit ≠ chr '\n' := by decide
  exact different bit same

theorem hexDigits_length (entropy : Bytes) :
    (entropy.flatMap hexPair).length = 2 * entropy.length := by
  induction entropy with
  | nil => rfl
  | cons byte entropy induction =>
      rw [List.flatMap_cons, List.length_append, induction, List.length_cons]
      change 2 + 2 * entropy.length = _
      omega

/-- The Tiny Seed, the hexadecimal entropy with its checksum digits, the list
of seed words and the mnemonic all show the same bits. -/
theorem displayedForms_agree {wordCount : Nat} {entropy : Bytes}
    (supported : entropyBytesForWordCount wordCount = .ok entropy.length)
    (digest : Digest) {words : List Text} (size : words.length = 2048) :
    ∃ indices internals seedWords tinySeed,
      makeIndices entropy digest wordCount = .ok indices ∧
      (∀ written, printEntropyAndChecksum entropy digest { text := written } =
        .ok { text := written ++ internals }) ∧
      (∀ written, printMnemonic words indices { text := written } =
        .ok { text := written ++ seedWords }) ∧
      (∀ written, printTinySeed indices { text := written } =
        .ok { text := written ++ tinySeed }) ∧
      let rows := readTinySeed tinySeed
      let listed := rows.map fun row => words.getD (bitsValue row) []
      (rows.flatten = hexBits (readEntropyDigits internals) ++
          (readChecksumDigits internals).map
            (fun digit => decide (digit = chr '1')) ∧
        (readEntropyDigits internals).length = 2 * entropy.length ∧
        (∀ digit ∈ readEntropyDigits internals,
          digit ∈ text "0123456789abcdef") ∧
        ∀ digit ∈ readChecksumDigits internals, digit ∈ text "01") ∧
      rows.length = wordCount ∧
      (∀ row ∈ rows, row.length = 11 ∧ bitsValue row < words.length) ∧
      seedWords = text "\n    Seed Words\n\n" ++ numberedRows listed ∧
      makeMnemonic words indices = .ok ([chr ' '].intercalate listed) := by
  obtain ⟨indices, packed, -⟩ := makeIndices_of_supported digest supported
  obtain ⟨-, count, inRange, bits⟩ := makeIndices_spec packed
  have listed : ∀ index ∈ indices, index.toNat < words.length := by
    intro index member
    exact size.symm ▸ inRange index member
  have ratio := entropyBytesForWordCount_ratio supported
  have fits : checksumBits entropy.length ≤
      (bitString digest.bytes).length := by
    rw [bitString_length, digest.size_eq, checksumBits, sha256Size]
    omega
  have read := readTinySeed_page
    (indices.map fun index => bitsOf bitsPerWord index.toNat)
  have value : ∀ index ∈ indices,
      bitsValue (bitsOf bitsPerWord index.toNat) = index.toNat := by
    intro index member
    exact bitsValue_bitsOf (inRange index member)
  have selected : (indices.map fun index =>
      bitsOf bitsPerWord index.toNat).map
        (fun row => words.getD (bitsValue row) []) =
          selectedWords words indices := by
    rw [List.map_map]
    apply List.map_congr_left
    intro index member
    simp only [Function.comp_apply, value index member]
  refine ⟨indices, _, _, _, packed,
    printEntropyAndChecksum_eq fits, printMnemonic_eq listed,
    printTinySeed_eq indices, ?_⟩
  dsimp only
  rw [read, selected, readEntropyDigits_page (lineFeed_not_mem_hexDigits _),
    readChecksumDigits_page (lineFeed_not_mem_hexDigits _)
      (lineFeed_not_mem_checksumDigits _),
    hexBits_flatMap_hexPair, read_checksumDigit]
  refine ⟨⟨?_, hexDigits_length entropy, ?_, ?_⟩, ?_, ?_, rfl,
    makeMnemonic_eq listed⟩
  · refine Eq.trans ?_ bits
    rw [indexBits, expand, List.flatMap_map, List.flatMap_def]
  · intro digit member
    obtain ⟨byte, -, inside⟩ := List.mem_flatMap.mp member
    exact mem_hexPair inside
  · intro digit member
    obtain ⟨bit, -, rfl⟩ := List.mem_map.mp member
    have digits : ∀ bit, checksumDigit bit ∈ text "01" := by decide
    exact digits bit
  · rw [List.length_map, count]
  · intro row member
    obtain ⟨index, indexMember, rfl⟩ := List.mem_map.mp member
    rw [bitsOf_length, value index indexMember]
    exact ⟨rfl, listed index indexMember⟩

def countedInternals : Text :=
  text ("\n    BIP-39 Internals\n\n" ++
    "Entropy:      a0a1a2a3a4a5a6a7a8a9aaabacadaeaf\n" ++
    "Checksum:     1010\n" ++
    "Entropy bits: 128\n" ++
    "Checksum bits: 4\n")

theorem countedInternals_printed :
    printEntropyAndChecksum (countedDigest.bytes.take 16) countedDigest
      { text := [] } = .ok { text := countedInternals } := by
  decide +kernel

/-- The displays of a 12-word secret. -/
theorem displayedForms_counted :
    ∃ indices tinySeed,
      makeIndices (countedDigest.bytes.take 16) countedDigest 12 =
        .ok indices ∧
      printTinySeed indices { text := [] } = .ok { text := tinySeed } ∧
      (readTinySeed tinySeed).flatten =
        hexBits (text "a0a1a2a3a4a5a6a7a8a9aaabacadaeaf") ++
          [true, false, true, false] := by
  obtain ⟨indices, internals, seedWords, tinySeed, packed, shown, -, printed,
    ⟨bits, -⟩, -⟩ := @displayedForms_agree 12 (countedDigest.bytes.take 16) rfl
      countedDigest makeEnglishWordList englishWords_length
  have page : internals = countedInternals := by
    have same := (shown []).symm.trans countedInternals_printed
    exact congrArg OStream.text (Except.ok.inj same)
  have entropy : readEntropyDigits countedInternals =
      text "a0a1a2a3a4a5a6a7a8a9aaabacadaeaf" := by
    decide +kernel
  have checksum : readChecksumDigits countedInternals = text "1010" := by
    decide +kernel
  refine ⟨indices, tinySeed, packed, printed [], ?_⟩
  rw [bits, page, entropy, checksum]
  rfl

end Bip39
