import Mathlib.Logic.Function.Basic
import Lan865x.Wire

/-!
The transmit path of oa_tc6.c: what the SPI thread does with `ongoing_tx_skb`,
`waiting_tx_skb` and `spi_data_tx_buf`. The buffer is seen chunk by chunk; an
offset into it is a multiple of the chunk size. Lengths and counts are cut to the
width of their C types where they are written; the statistics, `unsigned long` in C,
are not, here and on the receive side.
-/

namespace Lan865x.OaTc6
open BitField Memory

/-- A socket buffer handed to `ndo_start_xmit`. -/
structure Skb where
  id : Nat
  data : List UInt8
  nonempty : 0 < data.length
  bounded : data.length ≤ 65535

structure TxState where
  ongoingTxSkb : Option Skb
  waitingTxSkb : Option Skb
  txSkbOffset : Nat
  ongoingTxTsCaptureMode : Nat
  waitingTxTsCaptureMode : Nat
  spiDataTxBuf : Nat → TxChunk
  spiDataTxBufOffset : Nat
  txDropped : Nat
  txPackets : Nat
  txBytes : Nat

def initTx (buffer : Nat → TxChunk) : TxState where
  ongoingTxSkb := none
  waitingTxSkb := none
  txSkbOffset := 0
  ongoingTxTsCaptureMode := 0
  waitingTxTsCaptureMode := 0
  spiDataTxBuf := buffer
  spiDataTxBufOffset := 0
  txDropped := 0
  txPackets := 0
  txBytes := 0

/-- The chunk at `spi_data_tx_buf_offset` is written and the offset moves on. -/
def putChunk (tx : TxState) (header : BitVec 32) (payload : Nat → UInt8) : TxState :=
  { tx with
    spiDataTxBuf := Function.update tx.spiDataTxBuf (tx.spiDataTxBufOffset / chunkSize)
      ⟨header, payload⟩
    spiDataTxBufOffset := toU16 (tx.spiDataTxBufOffset + chunkSize) }

/-- The bytes of the chunk that is there now. -/
def stalePayload (tx : TxState) : Nat → UInt8 :=
  (tx.spiDataTxBuf (tx.spiDataTxBufOffset / chunkSize)).payload

def addTxSkbToSpiBuf (tx : TxState) (skb : Skb) : TxState :=
  let remainingLen := toU16 ((skb.data.length : Int) - tx.txSkbOffset)
  let startValid := decide (tx.txSkbOffset = 0)
  let lengthToCopy := min remainingLen chunkPayloadSize
  let payload := fun i => if i < lengthToCopy then skb.data.getD (tx.txSkbOffset + i) 0
    else stalePayload tx i
  let txSkbOffset := toU16 (tx.txSkbOffset + lengthToCopy)
  -- The request for a timestamp goes with the last chunk of the frame.
  if skb.data.length = txSkbOffset then
    let header := prepareDataHeader true startValid true (toU8 ((lengthToCopy : Int) - 1))
      tx.ongoingTxTsCaptureMode
    putChunk { tx with
      ongoingTxSkb := none
      txSkbOffset := 0
      ongoingTxTsCaptureMode := 0
      txPackets := tx.txPackets + 1
      txBytes := tx.txBytes + skb.data.length } header payload
  else
    putChunk { tx with txSkbOffset := txSkbOffset }
      (prepareDataHeader true startValid false 0 0) payload

/-- The hand-over of `waiting_tx_skb`, under `tx_skb_lock`. -/
def dequeueTxSkb (tx : TxState) : TxState :=
  match tx.ongoingTxSkb with
  | some _ => tx
  | none =>
      { tx with
        ongoingTxSkb := tx.waitingTxSkb
        waitingTxSkb := none
        ongoingTxTsCaptureMode := tx.waitingTxTsCaptureMode
        waitingTxTsCaptureMode := 0 }

def addEmptyChunksToSpiBuf (tx : TxState) : Nat → TxState
  | 0 => tx
  | needed + 1 =>
      addEmptyChunksToSpiBuf
        (putChunk tx (prepareDataHeader false false false 0 0) (stalePayload tx)) needed

def prepareSpiTxBufForRxChunks (tx : TxState) (rxChunksAvailable len : Nat) : Nat × TxState :=
  let txChunks := len / chunkSize
  if rxChunksAvailable ≤ txChunks then (len, tx)
  else
    let neededEmptyChunks := rxChunksAvailable - txChunks
    (toU16 (neededEmptyChunks * chunkSize + len), addEmptyChunksToSpiBuf tx neededEmptyChunks)

def cleanupOngoingTxSkb (tx : TxState) : TxState :=
  match tx.ongoingTxSkb with
  | none => tx
  | some _ => { tx with txDropped := tx.txDropped + 1, ongoingTxSkb := none }

/-! The cases of the functions that hand an skb over or give it up. -/

theorem dequeue_held (tx : TxState) (skb : Skb) (held : tx.ongoingTxSkb = some skb) :
    dequeueTxSkb tx = tx := by
  simp only [dequeueTxSkb, held]

theorem dequeue_idle (tx : TxState) (idle : tx.ongoingTxSkb = none) :
    dequeueTxSkb tx = { tx with
      ongoingTxSkb := tx.waitingTxSkb
      waitingTxSkb := none
      ongoingTxTsCaptureMode := tx.waitingTxTsCaptureMode
      waitingTxTsCaptureMode := 0 } := by
  simp only [dequeueTxSkb, idle]

theorem cleanup_tx_some (tx : TxState) (skb : Skb) (held : tx.ongoingTxSkb = some skb) :
    cleanupOngoingTxSkb tx = { tx with
      txDropped := tx.txDropped + 1
      ongoingTxSkb := none } := by
  simp only [cleanupOngoingTxSkb, held]

theorem cleanup_tx_none (tx : TxState) (empty : tx.ongoingTxSkb = none) :
    cleanupOngoingTxSkb tx = tx := by
  simp only [cleanupOngoingTxSkb, empty]

/-! What the functions do to a buffer that is filled up to a chunk boundary. -/

/-- The chunks of `spi_data_tx_buf` up to `len` bytes. -/
def spiChunks (tx : TxState) (len : Nat) : List TxChunk :=
  (List.range (len / chunkSize)).map tx.spiDataTxBuf

theorem spi_chunks_put (tx : TxState) (count : Nat) (header : BitVec 32) (payload : Nat → UInt8)
    (filled : tx.spiDataTxBufOffset = count * chunkSize) :
    spiChunks (putChunk tx header payload) ((count + 1) * chunkSize) =
      spiChunks tx (count * chunkSize) ++ [⟨header, payload⟩] := by
  have here : tx.spiDataTxBufOffset / chunkSize = count := by
    rw [filled, Nat.mul_div_cancel _ (by decide)]
  simp only [spiChunks, putChunk, here, Nat.mul_div_cancel _ (by decide : 0 < chunkSize),
    List.range_succ, List.map_append, List.map_cons, List.map_nil, Function.update_self]
  congr 1
  apply List.map_congr_left
  intro slot member
  have below : slot ≠ count := Nat.ne_of_lt (List.mem_range.mp member)
  rw [Function.update_of_ne below]

theorem put_written (tx : TxState) (header : BitVec 32) (payload : Nat → UInt8) :
    (putChunk tx header payload).spiDataTxBuf (tx.spiDataTxBufOffset / chunkSize) =
      ⟨header, payload⟩ :=
  Function.update_self _ _ _

theorem put_offset (tx : TxState) (count : Nat) (header : BitVec 32) (payload : Nat → UInt8)
    (filled : tx.spiDataTxBufOffset = count * chunkSize) (small : count < 900) :
    (putChunk tx header payload).spiDataTxBufOffset = (count + 1) * chunkSize := by
  simp only [putChunk, filled, toU16, chunk_size]
  omega

/-- How many bytes of the skb go into the next chunk. -/
def copyLength (tx : TxState) (skb : Skb) : Nat :=
  min (skb.data.length - tx.txSkbOffset) chunkPayloadSize

def copyPayload (tx : TxState) (skb : Skb) : Nat → UInt8 :=
  fun i => if i < copyLength tx skb then skb.data.getD (tx.txSkbOffset + i) 0 else stalePayload tx i

def endHeader (tx : TxState) (skb : Skb) : BitVec 32 :=
  prepareDataHeader true (decide (tx.txSkbOffset = 0)) true (copyLength tx skb - 1)
    tx.ongoingTxTsCaptureMode

def moreHeader (tx : TxState) : BitVec 32 :=
  prepareDataHeader true (decide (tx.txSkbOffset = 0)) false 0 0

theorem copy_length_pos (tx : TxState) (skb : Skb) (inside : tx.txSkbOffset < skb.data.length) :
    0 < copyLength tx skb ∧ copyLength tx skb ≤ 64 ∧
      tx.txSkbOffset + copyLength tx skb ≤ skb.data.length := by
  unfold copyLength chunkPayloadSize
  omega

/-- The chunk that ends the frame. -/
theorem add_tx_skb_end (tx : TxState) (skb : Skb) (inside : tx.txSkbOffset < skb.data.length)
    (ends : tx.txSkbOffset + copyLength tx skb = skb.data.length) :
    addTxSkbToSpiBuf tx skb = putChunk { tx with
      ongoingTxSkb := none
      txSkbOffset := 0
      ongoingTxTsCaptureMode := 0
      txPackets := tx.txPackets + 1
      txBytes := tx.txBytes + skb.data.length } (endHeader tx skb) (copyPayload tx skb) := by
  have bounded := skb.bounded
  obtain ⟨some_, short, _⟩ := copy_length_pos tx skb inside
  -- For a frame of at most 65535 bytes none of the narrowings changes a value.
  have remaining : toU16 ((skb.data.length : Int) - tx.txSkbOffset) =
      skb.data.length - tx.txSkbOffset := by
    unfold toU16
    omega
  have moved : toU16 (tx.txSkbOffset + copyLength tx skb : Nat) = skb.data.length := by
    unfold toU16
    omega
  have last : toU8 ((copyLength tx skb : Int) - 1) = copyLength tx skb - 1 := by
    unfold toU8
    omega
  simp only [addTxSkbToSpiBuf, remaining]
  rw [show min (skb.data.length - tx.txSkbOffset) chunkPayloadSize = copyLength tx skb from rfl,
    if_pos (by push_cast at moved; exact moved.symm), last]
  rfl

/-- A chunk that does not. -/
theorem add_tx_skb_more (tx : TxState) (skb : Skb) (inside : tx.txSkbOffset < skb.data.length)
    (more : tx.txSkbOffset + copyLength tx skb ≠ skb.data.length) :
    addTxSkbToSpiBuf tx skb = putChunk { tx with txSkbOffset := tx.txSkbOffset + 64 }
        (moreHeader tx) (copyPayload tx skb) ∧
      copyLength tx skb = 64 ∧ tx.txSkbOffset + 64 < skb.data.length := by
  have bounded := skb.bounded
  obtain ⟨some_, short, reach⟩ := copy_length_pos tx skb inside
  have full : copyLength tx skb = 64 := by
    unfold copyLength chunkPayloadSize at *
    omega
  have remaining : toU16 ((skb.data.length : Int) - tx.txSkbOffset) =
      skb.data.length - tx.txSkbOffset := by
    unfold toU16
    omega
  have moved : toU16 (tx.txSkbOffset + copyLength tx skb : Nat) = tx.txSkbOffset + 64 := by
    unfold toU16
    omega
  push_cast at moved
  refine ⟨?_, full, by omega⟩
  simp only [addTxSkbToSpiBuf, remaining]
  rw [show min (skb.data.length - tx.txSkbOffset) chunkPayloadSize = copyLength tx skb from rfl,
    moved, if_neg (by omega)]
  rfl

theorem copied_cells (tx : TxState) (skb : Skb) (inside : tx.txSkbOffset < skb.data.length) :
    cellsAt (copyPayload tx skb) 0 (copyLength tx skb) =
      (skb.data.drop tx.txSkbOffset).take (copyLength tx skb) := by
  obtain ⟨_, _, reach⟩ := copy_length_pos tx skb inside
  apply List.ext_getElem
  · simp [cellsAt]
    omega
  · intro i left right
    have small : i < copyLength tx skb := by simpa [cellsAt] using left
    have within : tx.txSkbOffset + i < skb.data.length := by omega
    simp [cellsAt, copyPayload, small, within]

/-- The buffer apart, nothing changes. -/
structure TxKept (before after : TxState) : Prop where
  ongoing : after.ongoingTxSkb = before.ongoingTxSkb
  waiting : after.waitingTxSkb = before.waitingTxSkb
  cursor : after.txSkbOffset = before.txSkbOffset
  ongoingMode : after.ongoingTxTsCaptureMode = before.ongoingTxTsCaptureMode
  waitingMode : after.waitingTxTsCaptureMode = before.waitingTxTsCaptureMode

theorem TxKept.refl (tx : TxState) : TxKept tx tx := ⟨rfl, rfl, rfl, rfl, rfl⟩

theorem put_kept (tx : TxState) (header : BitVec 32) (payload : Nat → UInt8) :
    TxKept tx (putChunk tx header payload) := ⟨rfl, rfl, rfl, rfl, rfl⟩

theorem TxKept.trans {first second third : TxState} (left : TxKept first second)
    (right : TxKept second third) : TxKept first third :=
  ⟨right.ongoing.trans left.ongoing, right.waiting.trans left.waiting,
    right.cursor.trans left.cursor, right.ongoingMode.trans left.ongoingMode,
    right.waitingMode.trans left.waitingMode⟩

theorem empty_chunks_kept (tx : TxState) (needed : Nat) :
    TxKept tx (addEmptyChunksToSpiBuf tx needed) := by
  induction needed generalizing tx with
  | zero => exact TxKept.refl tx
  | succ needed ih => exact (put_kept tx _ _).trans (ih _)

theorem rx_chunks_kept (tx : TxState) (available len : Nat) :
    TxKept tx (prepareSpiTxBufForRxChunks tx available len).2 := by
  simp only [prepareSpiTxBufForRxChunks]
  split
  · exact TxKept.refl tx
  · exact empty_chunks_kept tx _

def idleHeader : BitVec 32 := prepareDataHeader false false false 0 0

/-- The buffer grows by idle chunks from `count` to `total` chunks. -/
structure Padded (before after : TxState) (count total : Nat) (idle : List TxChunk) : Prop where
  kept : TxKept before after
  filled : after.spiDataTxBufOffset = total * chunkSize
  headers : ∀ chunk ∈ idle, chunk.header = idleHeader
  grown : spiChunks after (total * chunkSize) = spiChunks before (count * chunkSize) ++ idle

theorem add_empty_chunks (tx : TxState) (count needed : Nat)
    (filled : tx.spiDataTxBufOffset = count * chunkSize) (small : count + needed < 900) :
    ∃ idle, Padded tx (addEmptyChunksToSpiBuf tx needed) count (count + needed) idle := by
  induction needed generalizing tx count with
  | zero => exact ⟨[], TxKept.refl tx, filled, by simp, by simp [addEmptyChunksToSpiBuf]⟩
  | succ needed ih =>
      have offset := put_offset tx count idleHeader (stalePayload tx) filled (by omega)
      have chunks := spi_chunks_put tx count idleHeader (stalePayload tx) filled
      obtain ⟨idle, _, done, headers, grown⟩ := ih _ (count + 1) offset (by omega)
      have total : count + 1 + needed = count + (needed + 1) := by omega
      rw [total] at done grown
      refine ⟨⟨idleHeader, stalePayload tx⟩ :: idle, empty_chunks_kept tx _, done, ?_, ?_⟩
      · exact List.forall_mem_cons.mpr ⟨rfl, headers⟩
      · rw [chunks, List.append_assoc] at grown
        exact grown

theorem prepare_for_rx_chunks (tx : TxState) (available count : Nat)
    (filled : tx.spiDataTxBufOffset = count * chunkSize) (small : count + available < 900) :
    (prepareSpiTxBufForRxChunks tx available (count * chunkSize)).1 =
        max count available * chunkSize ∧
      ∃ idle, Padded tx (prepareSpiTxBufForRxChunks tx available (count * chunkSize)).2 count
        (max count available) idle := by
  have chunks : count * chunkSize / chunkSize = count := Nat.mul_div_cancel _ (by decide)
  simp only [prepareSpiTxBufForRxChunks, chunks]
  by_cases enough : available ≤ count
  · rw [if_pos enough, Nat.max_eq_left enough]
    exact ⟨rfl, [], TxKept.refl tx, filled, by simp, by simp⟩
  · rw [if_neg enough, Nat.max_eq_right (by omega)]
    obtain ⟨idle, padded⟩ := add_empty_chunks tx count (available - count) filled (by omega)
    have total : count + (available - count) = available := by omega
    rw [total] at padded
    refine ⟨?_, idle, padded⟩
    simp only [toU16, chunk_size]
    omega

end Lan865x.OaTc6
