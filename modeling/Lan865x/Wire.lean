import Lan865x.BitField
import Lan865x.Memory
import Lan865x.Framing

/-!
The data chunks of oa_tc6.c: field masks, sizes and error codes, the odd-parity
snippet, the transmit data header and the two directions of a chunk. A chunk is
also read here by the field descriptions of oa-tc6-framework.rst alone
(`TxChunk.piece`, `RxChunk.piece`), independently of what the driver does.
-/

namespace Lan865x.OaTc6
open BitField Memory Framing

def eagain : Int := 11
def enomem : Int := 12
def enodev : Int := 19

def status0HeaderError : Field := bit 5
def status0LossOfFrameError : Field := bit 4
def status0RxBufferOverflowError : Field := bit 3
def status0TxProtocolError : Field := bit 0

def bufferStatusTxCreditsAvailable : Field := ⟨15, 8⟩
def bufferStatusRxChunksAvailable : Field := ⟨7, 0⟩

def dataHeaderDataNotCtrl : Field := bit 31
def dataHeaderDataValid : Field := bit 21
def dataHeaderStartValid : Field := bit 20
def dataHeaderStartWordOffset : Field := ⟨19, 16⟩
def dataHeaderEndValid : Field := bit 14
def dataHeaderEndByteOffset : Field := ⟨13, 8⟩
def dataHeaderTimeStampCapture : Field := ⟨7, 6⟩
def dataHeaderParity : Field := bit 0

def dataFooterExtendedSts : Field := bit 31
def dataFooterRxdHeaderBad : Field := bit 30
def dataFooterConfigSync : Field := bit 29
def dataFooterRxChunks : Field := ⟨28, 24⟩
def dataFooterDataValid : Field := bit 21
def dataFooterStartValid : Field := bit 20
def dataFooterStartWordOffset : Field := ⟨19, 16⟩
def dataFooterEndValid : Field := bit 14
def dataFooterEndByteOffset : Field := ⟨13, 8⟩
def dataFooterTxCredits : Field := ⟨5, 1⟩

def chunkPayloadSize : Nat := 64
def dataHeaderSize : Nat := 4
def chunkSize : Nat := dataHeaderSize + chunkPayloadSize
def maxTxChunks : Nat := 48
def spiDataBufSize : Nat := maxTxChunks * chunkSize

theorem chunk_size : chunkSize = 68 := rfl

theorem chunk_payload_size : chunkPayloadSize = 64 := rfl

/-- Narrowing to `u8` and `u16`; the value may be negative. -/
def toU8 (value : Int) : Nat := (value % 256).toNat
def toU16 (value : Int) : Nat := (value % 65536).toNat

/-- `FIELD_GET` assigned to a `bool`. -/
def flag (field : Field) (word : BitVec 32) : Bool := fieldGet field word != 0#32

/-- `FIELD_GET` used as a number. -/
def number (field : Field) (word : BitVec 32) : Nat := (fieldGet field word).toNat

theorem flag_bit (n : Nat) (word : BitVec 32) : flag (bit n) word = word.getLsbD n := by
  have width : (bit n).width = 1 := by simp [bit, Field.width]
  have low : (fieldGet (bit n) word).getLsbD 0 = word.getLsbD n := by
    rw [field_get_bit, width]
    rfl
  have high : ∀ i, i ≠ 0 → (fieldGet (bit n) word).getLsbD i = false := by
    intro i positive
    rw [field_get_bit, width]
    simp [positive]
  cases set : word.getLsbD n with
  | false =>
      have zero : fieldGet (bit n) word = 0#32 := by
        apply BitVec.eq_of_getLsbD_eq
        intro i _
        by_cases first : i = 0
        · subst first
          simpa [set] using low
        · simpa using high i first
      simp [flag, zero]
  | true =>
      have nonzero : fieldGet (bit n) word ≠ 0#32 := by
        intro zero
        rw [zero, set] at low
        simp at low
      simp [flag, nonzero]

theorem number_lt (field : Field) (word : BitVec 32) : number field word < 2 ^ field.width := by
  apply Nat.lt_pow_two_of_testBit
  intro i past
  have clear := field_get_bit field word i
  have outside : ¬ i < field.width := Nat.not_lt.mpr past
  simpa [outside, number, BitVec.getLsbD] using clear

def getParity (p : BitVec 32) : BitVec 32 :=
  let p := p ^^^ (p >>> 1)
  let p := p ^^^ (p >>> 2)
  -- Bit 4k is now the parity of nibble k; the product adds these bits up in bit 28.
  let p := (p &&& 0x11111111#32) * 0x11111111#32
  if (p >>> 28) &&& 1#32 = 0#32 then 1#32 else 0#32

/-- Every fourth bit of a word. -/
def nibbleBits (b0 b1 b2 b3 b4 b5 b6 b7 : Bool) : BitVec 32 :=
  BitVec.ofNat 32 (b0.toNat + 16 * (b1.toNat + 16 * (b2.toNat + 16 * (b3.toNat +
    16 * (b4.toNat + 16 * (b5.toNat + 16 * (b6.toNat + 16 * b7.toNat)))))))

-- The multiplication adds the eight bits up in the top nibble.
theorem nibble_sum (b0 b1 b2 b3 b4 b5 b6 b7 : Bool) :
    (((nibbleBits b0 b1 b2 b3 b4 b5 b6 b7 * 0x11111111#32) >>> 28) &&& 1#32 = 0#32) =
      ((b0 ^^ b1 ^^ b2 ^^ b3 ^^ b4 ^^ b5 ^^ b6 ^^ b7) = false) := by
  revert b0 b1 b2 b3 b4 b5 b6 b7
  decide +kernel

/-- The number with these bits in every fourth place. -/
def spread : List Bool → Nat
  | [] => 0
  | b :: rest => b.toNat + 16 * spread rest

theorem spread_bit (bits : List Bool) (i : Nat) :
    (spread bits).testBit i = (decide (i % 4 = 0) && bits.getD (i / 4) false) := by
  induction bits generalizing i with
  | nil => simp [spread]
  | cons b rest ih =>
      have low : b.toNat < 2 ^ 4 := by cases b <;> decide
      rw [spread, Nat.add_comm, Nat.testBit_two_pow_mul_add _ low]
      by_cases first : i < 4
      · have place : i / 4 = 0 := by omega
        have column : i % 4 = i := by omega
        rw [if_pos first, place, column, List.getD_cons_zero, Nat.testBit_bool_toNat]
      · have place : i / 4 = (i - 4) / 4 + 1 := by omega
        have column : (i - 4) % 4 = i % 4 := by omega
        rw [if_neg first, ih, column, place, List.getD_cons_succ]

theorem nibble_bits (b0 b1 b2 b3 b4 b5 b6 b7 : Bool) (i : Nat) (inside : i < 32) :
    (nibbleBits b0 b1 b2 b3 b4 b5 b6 b7).getLsbD i =
      (decide (i % 4 = 0) && [b0, b1, b2, b3, b4, b5, b6, b7].getD (i / 4) false) := by
  have number : nibbleBits b0 b1 b2 b3 b4 b5 b6 b7 =
      BitVec.ofNat 32 (spread [b0, b1, b2, b3, b4, b5, b6, b7]) := rfl
  rw [number, BitVec.getLsbD_ofNat, spread_bit, decide_eq_true inside, Bool.true_and]

theorem fold_mask_bit (i : Nat) (inside : i < 32) :
    (0x11111111#32).getLsbD i = decide (i % 4 = 0) := by
  revert i
  decide +kernel

/-- Folding twice leaves the parity of each nibble in its lowest bit. -/
theorem fold_bits (p : BitVec 32) (i : Nat) :
    ((p ^^^ (p >>> 1)) ^^^ ((p ^^^ (p >>> 1)) >>> 2)).getLsbD i =
      (p.getLsbD i ^^ p.getLsbD (i + 1) ^^ p.getLsbD (i + 2) ^^ p.getLsbD (i + 3)) := by
  have second : 1 + i = i + 1 := by omega
  have third : 2 + i = i + 2 := by omega
  have fourth : 1 + (i + 2) = i + 3 := by omega
  simp only [BitVec.getLsbD_xor, BitVec.getLsbD_ushiftRight, Bool.xor_assoc, second, third, fourth]

def nibbleParity (p : BitVec 32) (i : Nat) : Bool :=
  p.getLsbD i ^^ p.getLsbD (i + 1) ^^ p.getLsbD (i + 2) ^^ p.getLsbD (i + 3)

theorem folded_mask (p : BitVec 32) :
    ((p ^^^ (p >>> 1)) ^^^ ((p ^^^ (p >>> 1)) >>> 2)) &&& 0x11111111#32 =
      nibbleBits (nibbleParity p 0) (nibbleParity p 4) (nibbleParity p 8) (nibbleParity p 12)
        (nibbleParity p 16) (nibbleParity p 20) (nibbleParity p 24) (nibbleParity p 28) := by
  apply BitVec.eq_of_getLsbD_eq
  intro i inside
  rw [BitVec.getLsbD_and, fold_bits, fold_mask_bit i inside, nibble_bits _ _ _ _ _ _ _ _ i inside]
  by_cases fourth : i % 4 = 0
  · have cases : i = 0 ∨ i = 4 ∨ i = 8 ∨ i = 12 ∨ i = 16 ∨ i = 20 ∨ i = 24 ∨ i = 28 := by omega
    rcases cases with rfl | rfl | rfl | rfl | rfl | rfl | rfl | rfl <;> simp [nibbleParity]
  · simp [fourth]

theorem parity_nibbles (p : BitVec 32) :
    parity p = (nibbleParity p 0 ^^ nibbleParity p 4 ^^ nibbleParity p 8 ^^ nibbleParity p 12 ^^
      nibbleParity p 16 ^^ nibbleParity p 20 ^^ nibbleParity p 24 ^^ nibbleParity p 28) := by
  have indices : List.range 32 = [0, 1, 2, 3, 4, 5, 6, 7, 8, 9, 10, 11, 12, 13, 14, 15, 16, 17, 18,
      19, 20, 21, 22, 23, 24, 25, 26, 27, 28, 29, 30, 31] := rfl
  simp only [parity, indices, List.foldr_cons, List.foldr_nil, nibbleParity, Bool.xor_assoc,
    Bool.xor_false]

/-- `oa_tc6_get_parity` is the bit that makes the number of set bits odd. -/
theorem get_parity_eq (p : BitVec 32) : getParity p = if parity p then 0#32 else 1#32 := by
  simp only [getParity, folded_mask, nibble_sum, ← parity_nibbles]
  cases parity p <;> simp

/-- A word whose lowest bit is clear, completed by its parity bit. -/
theorem parity_completed (word : BitVec 32) (clear : word.getLsbD 0 = false) :
    parity (word ||| fieldPrep dataHeaderParity (getParity word)) = true := by
  have prepared : ∀ i, (fieldPrep dataHeaderParity (getParity word)).getLsbD i =
      (decide (i = 0) && !parity word) := by
    intro i
    rw [field_prep_bit, get_parity_eq]
    by_cases first : i = 0
    · subst first
      cases parity word <;> decide
    · have past : ¬ i < 1 := by omega
      simp [dataHeaderParity, bit, Field.width, first]
  have completes : parity (fieldPrep dataHeaderParity (getParity word)) = !parity word := by
    rw [parity_single _ 0 (by decide) (fun i other => by simp [prepared i, other]), prepared]
    simp
  rw [parity_or, completes]
  · cases parity word <;> rfl
  · intro i
    by_cases first : i = 0
    · subst first
      rw [clear, Bool.false_and]
    · simp [prepared, first]

/-- The word whose big-endian bytes `oa_tc6_prepare_data_header` returns, in the
`FRAME_TIMESTAMP_ENABLE` build. -/
def prepareDataHeader (dataValid startValid endValid : Bool)
    (endByteOffset tsCaptureMode : Nat) : BitVec 32 :=
  let header := fieldPrep dataHeaderDataNotCtrl 1#32 |||
    fieldPrep dataHeaderDataValid (BitVec.ofNat 32 dataValid.toNat) |||
    fieldPrep dataHeaderStartValid (BitVec.ofNat 32 startValid.toNat) |||
    fieldPrep dataHeaderEndValid (BitVec.ofNat 32 endValid.toNat) |||
    fieldPrep dataHeaderEndByteOffset (BitVec.ofNat 32 endByteOffset)
  let header := header ||| fieldPrep dataHeaderTimeStampCapture (BitVec.ofNat 32 tsCaptureMode)
  header ||| fieldPrep dataHeaderParity (getParity header)

section DataHeader
variable (dataValid startValid endValid : Bool) (endByteOffset tsCaptureMode : Nat)

theorem header_data_not_ctrl :
    flag dataHeaderDataNotCtrl
      (prepareDataHeader dataValid startValid endValid endByteOffset tsCaptureMode) = true := by
  simp (disch := decide) only [flag, prepareDataHeader, field_get_or, field_get_other,
    field_get_prep]
  decide

theorem header_data_valid :
    flag dataHeaderDataValid
      (prepareDataHeader dataValid startValid endValid endByteOffset tsCaptureMode) =
        dataValid := by
  simp (disch := decide) only [flag, prepareDataHeader, field_get_or, field_get_other,
    field_get_prep]
  cases dataValid <;> decide

theorem header_start_valid :
    flag dataHeaderStartValid
      (prepareDataHeader dataValid startValid endValid endByteOffset tsCaptureMode) =
        startValid := by
  simp (disch := decide) only [flag, prepareDataHeader, field_get_or, field_get_other,
    field_get_prep]
  cases startValid <;> decide

theorem header_start_word_offset :
    number dataHeaderStartWordOffset
      (prepareDataHeader dataValid startValid endValid endByteOffset tsCaptureMode) = 0 := by
  simp (disch := decide) only [number, prepareDataHeader, field_get_or, field_get_other]
  decide

theorem header_end_valid :
    flag dataHeaderEndValid
      (prepareDataHeader dataValid startValid endValid endByteOffset tsCaptureMode) = endValid := by
  simp (disch := decide) only [flag, prepareDataHeader, field_get_or, field_get_other,
    field_get_prep]
  cases endValid <;> decide

theorem header_end_byte_offset :
    number dataHeaderEndByteOffset
      (prepareDataHeader dataValid startValid endValid endByteOffset tsCaptureMode) =
        endByteOffset % 64 := by
  simp (disch := decide) only [number, prepareDataHeader, field_get_or, field_get_other,
    field_get_prep]
  simp [dataHeaderEndByteOffset, Field.width]
  omega

theorem header_time_stamp_capture :
    number dataHeaderTimeStampCapture
      (prepareDataHeader dataValid startValid endValid endByteOffset tsCaptureMode) =
        tsCaptureMode % 4 := by
  simp (disch := decide) only [number, prepareDataHeader, field_get_or, field_get_other,
    field_get_prep]
  simp [dataHeaderTimeStampCapture, Field.width]
  omega

theorem header_parity :
    parity (prepareDataHeader dataValid startValid endValid endByteOffset tsCaptureMode) =
      true := by
  apply parity_completed
  simp only [BitVec.getLsbD_or, field_prep_bit]
  simp [dataHeaderDataNotCtrl, dataHeaderDataValid, dataHeaderStartValid,
    dataHeaderEndValid, dataHeaderEndByteOffset, dataHeaderTimeStampCapture, bit]
end DataHeader

/-- A chunk in `spi_data_tx_buf`: the header word and 64 payload bytes. -/
structure TxChunk where
  header : BitVec 32
  payload : Nat → UInt8

/-- What one transmit chunk adds to a frame. -/
structure TxPiece where
  tsc : Nat
  bytes : List UInt8

/-- The documented reading of a transmit chunk. The text does not say which of
two frames TSC belongs to; it is taken to be the one that starts. -/
def TxChunk.piece (chunk : TxChunk) : Option (Piece TxPiece) :=
  let tsc := number dataHeaderTimeStampCapture chunk.header
  let swo := number dataHeaderStartWordOffset chunk.header * 4
  let ebo := number dataHeaderEndByteOffset chunk.header
  if !flag dataHeaderDataNotCtrl chunk.header then none
  else if !flag dataHeaderDataValid chunk.header then some .idle
  else match flag dataHeaderStartValid chunk.header, flag dataHeaderEndValid chunk.header with
    | false, false => some (.middle ⟨tsc, cellsAt chunk.payload 0 chunkPayloadSize⟩)
    | true, false => some (.start ⟨tsc, cellsAt chunk.payload swo (chunkPayloadSize - swo)⟩)
    | false, true => some (.finish ⟨tsc, cellsAt chunk.payload 0 (ebo + 1)⟩)
    | true, true =>
        if swo ≤ ebo then some (.whole ⟨tsc, cellsAt chunk.payload swo (ebo + 1 - swo)⟩)
        else some (.turn ⟨0, cellsAt chunk.payload 0 (ebo + 1)⟩
          ⟨tsc, cellsAt chunk.payload swo (chunkPayloadSize - swo)⟩)

/-- A received chunk: 64 payload bytes and the footer word that follows them. -/
structure RxChunk where
  payload : List UInt8
  footer : BitVec 32
  sized : payload.length = chunkPayloadSize

def RxChunk.bytes (chunk : RxChunk) : List UInt8 := chunk.payload ++ cpuToBe32 chunk.footer

theorem rx_chunk_length (chunk : RxChunk) : chunk.bytes.length = chunkSize := by
  simp [RxChunk.bytes, chunk.sized, be32_length, chunkSize, dataHeaderSize, chunkPayloadSize]

/-- The documented reading of a received chunk. A chunk in which the frame that
starts would begin at the last byte of the one that ends has no reading. -/
def RxChunk.piece (chunk : RxChunk) : Option (Piece (List UInt8)) :=
  let swo := number dataFooterStartWordOffset chunk.footer * 4
  let ebo := number dataFooterEndByteOffset chunk.footer
  if !flag dataFooterDataValid chunk.footer then some .idle
  else match flag dataFooterStartValid chunk.footer, flag dataFooterEndValid chunk.footer with
    | false, false => some (.middle chunk.payload)
    | true, false => some (.start (chunk.payload.drop swo))
    | false, true => some (.finish (chunk.payload.take (ebo + 1)))
    | true, true =>
        if swo < ebo then some (.whole ((chunk.payload.drop swo).take (ebo + 1 - swo)))
        else if ebo < swo then
          some (.turn (chunk.payload.take (ebo + 1)) (chunk.payload.drop swo))
        else none

end Lan865x.OaTc6
