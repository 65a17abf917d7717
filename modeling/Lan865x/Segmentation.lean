import Mathlib.Data.List.Forall2
import Lan865x.TransmitBuild

/-!
Transmit segmentation. The chunks sent, read by the documented header fields
alone, are the accepted frames in the order of acceptance, up to what the two
skb slots still hold.
-/

namespace Lan865x.OaTc6
open BitField Memory Framing Transition

/-- The documented reading of the chunks sent. -/
def decodeTx (chunks : List TxChunk) : Option (Assembly TxPiece) :=
  (chunks.mapM TxChunk.piece).bind Assembly.empty.feedAll

def frameBytes (frame : List TxPiece) : List UInt8 := frame.flatMap TxPiece.bytes

/-- The pieces of a frame are the accepted skb; its last chunk carries the
request for a timestamp. -/
structure Carries (frame : List TxPiece) (sent : Skb × Nat) : Prop where
  bytes : frameBytes frame = sent.1.data
  capture : ∃ first last, frame = first ++ [last] ∧ (∀ piece ∈ first, piece.tsc = 0) ∧
    last.tsc = sent.2 % 4

/-- The documented restrictions on a header. -/
def TxChunk.Proper (chunk : TxChunk) : Prop :=
  parity chunk.header = true ∧
    (flag dataHeaderEndValid chunk.header = false →
      number dataHeaderEndByteOffset chunk.header = 0)

def TxState.ongoing (tx : TxState) : List (Skb × Nat) :=
  tx.ongoingTxSkb.toList.map fun skb => (skb, tx.ongoingTxTsCaptureMode)

def TxState.waiting (tx : TxState) : List (Skb × Nat) :=
  tx.waitingTxSkb.toList.map fun skb => (skb, tx.waitingTxTsCaptureMode)

/-- The pieces of the unfinished frame are the bytes of `ongoing_tx_skb` before
`tx_skb_offset`. -/
structure UnderWay (tx : TxState) (current : Option (List TxPiece)) : Prop where
  begun : current = none ↔ tx.txSkbOffset = 0
  held : tx.ongoingTxSkb = none → tx.txSkbOffset = 0
  taken : ∀ skb, tx.ongoingTxSkb = some skb → tx.txSkbOffset < skb.data.length ∧
    frameBytes (current.getD []) = skb.data.take tx.txSkbOffset
  quiet : ∀ piece ∈ current.getD [], piece.tsc = 0

/-- Everything accepted has been put into chunks, or is still in the slots. -/
structure Laid (tx : TxState) (accepted : List (Skb × Nat)) (assembly : Assembly TxPiece) :
    Prop where
  carried : ∃ sent, List.Forall₂ Carries assembly.done sent ∧
    accepted = sent ++ tx.ongoing ++ tx.waiting
  underWay : UnderWay tx assembly.current

theorem decode_snoc (chunks : List TxChunk) (chunk : TxChunk) (piece : Piece TxPiece)
    (assembly next : Assembly TxPiece) (decoded : decodeTx chunks = some assembly)
    (reads : chunk.piece = some piece) (fed : assembly.feed piece = some next) :
    decodeTx (chunks ++ [chunk]) = some next := by
  obtain ⟨pieces, read, all⟩ := Option.bind_eq_some_iff.mp decoded
  simp [decodeTx, List.mapM_append, read, reads, feed_all_snoc _ _ _ _ all, fed]

theorem decode_idle (chunks idle : List TxChunk) (assembly : Assembly TxPiece)
    (decoded : decodeTx chunks = some assembly)
    (silent : ∀ chunk ∈ idle, chunk.piece = some .idle) :
    decodeTx (chunks ++ idle) = some assembly := by
  induction idle generalizing chunks with
  | nil => simpa using decoded
  | cons chunk rest ih =>
      obtain ⟨here, later⟩ := List.forall_mem_cons.mp silent
      have one := decode_snoc chunks chunk .idle assembly assembly decoded here rfl
      simpa using ih (chunks ++ [chunk]) one later

/-! The three kinds of chunk the driver writes. -/

theorem idle_piece (chunk : TxChunk) (idle : chunk.header = idleHeader) :
    chunk.piece = some .idle := by
  simp only [TxChunk.piece, idle, idleHeader, header_data_not_ctrl, header_data_valid,
    Bool.not_true, Bool.not_false, Bool.false_eq_true, if_false, if_true]

theorem idle_proper (chunk : TxChunk) (idle : chunk.header = idleHeader) : chunk.Proper := by
  refine ⟨?_, fun _ => ?_⟩ <;> rw [idle, idleHeader]
  · exact header_parity _ _ _ _ _
  · exact header_end_byte_offset _ _ _ _ _

theorem end_proper (tx : TxState) (skb : Skb) :
    (⟨endHeader tx skb, copyPayload tx skb⟩ : TxChunk).Proper := by
  refine ⟨header_parity _ _ _ _ _, fun open_ => ?_⟩
  rw [endHeader, header_end_valid] at open_
  exact absurd open_ (by simp)

theorem more_proper (tx : TxState) (payload : Nat → UInt8) :
    (⟨moreHeader tx, payload⟩ : TxChunk).Proper :=
  ⟨header_parity _ _ _ _ _, fun _ => header_end_byte_offset _ _ _ _ _⟩

theorem end_piece (tx : TxState) (skb : Skb) (inside : tx.txSkbOffset < skb.data.length)
    (ends : tx.txSkbOffset + copyLength tx skb = skb.data.length) :
    (⟨endHeader tx skb, copyPayload tx skb⟩ : TxChunk).piece =
      some (if tx.txSkbOffset = 0 then
          .whole ⟨tx.ongoingTxTsCaptureMode % 4, skb.data.drop tx.txSkbOffset⟩
        else .finish ⟨tx.ongoingTxTsCaptureMode % 4, skb.data.drop tx.txSkbOffset⟩) := by
  obtain ⟨some_, short, _⟩ := copy_length_pos tx skb inside
  have last : (copyLength tx skb - 1) % 64 + 1 = copyLength tx skb := by omega
  have bytes : cellsAt (copyPayload tx skb) 0 (copyLength tx skb) =
      skb.data.drop tx.txSkbOffset := by
    rw [copied_cells tx skb inside, List.take_of_length_le (by rw [List.length_drop]; omega)]
  simp only [TxChunk.piece, endHeader, header_data_not_ctrl, header_data_valid,
    header_start_valid, header_end_valid, header_start_word_offset, header_end_byte_offset,
    header_time_stamp_capture, Bool.not_true, Bool.false_eq_true, if_false, last]
  by_cases first : tx.txSkbOffset = 0
  · rw [first, List.drop_zero] at bytes
    simp [first, bytes]
  · simp [first, bytes]

theorem more_piece (tx : TxState) (skb : Skb) (inside : tx.txSkbOffset < skb.data.length)
    (full : copyLength tx skb = 64) :
    (⟨moreHeader tx, copyPayload tx skb⟩ : TxChunk).piece =
      some (if tx.txSkbOffset = 0 then .start ⟨0, (skb.data.drop tx.txSkbOffset).take 64⟩
        else .middle ⟨0, (skb.data.drop tx.txSkbOffset).take 64⟩) := by
  have bytes := copied_cells tx skb inside
  rw [full] at bytes
  simp only [TxChunk.piece, moreHeader, header_data_not_ctrl, header_data_valid,
    header_start_valid, header_end_valid, header_start_word_offset, header_end_byte_offset,
    header_time_stamp_capture, Bool.not_true, Bool.false_eq_true, if_false]
  by_cases first : tx.txSkbOffset = 0
  · rw [first, List.drop_zero] at bytes
    simp [first, chunk_payload_size, bytes]
  · simp [first, chunk_payload_size, bytes]

/-! What the functions that fill the buffer do to the frames. -/

theorem laid_kept (before after : TxState) (accepted : List (Skb × Nat))
    (assembly : Assembly TxPiece) (kept : TxKept before after)
    (laid : Laid before accepted assembly) : Laid after accepted assembly := by
  obtain ⟨⟨sent, carried, split⟩, begun, held, taken, quiet⟩ := laid
  refine ⟨⟨sent, carried, ?_⟩, ?_, ?_, ?_, quiet⟩
  · rw [split, TxState.ongoing, TxState.waiting, TxState.ongoing, TxState.waiting, kept.ongoing,
      kept.waiting, kept.ongoingMode, kept.waitingMode]
  · rw [kept.cursor]
    exact begun
  · rw [kept.cursor, kept.ongoing]
    exact held
  · rw [kept.cursor, kept.ongoing]
    exact taken

theorem laid_dequeue (tx : TxState) (accepted : List (Skb × Nat)) (assembly : Assembly TxPiece)
    (laid : Laid tx accepted assembly) : Laid (dequeueTxSkb tx) accepted assembly := by
  cases ongoing : tx.ongoingTxSkb with
  | some skb => rwa [dequeue_held tx skb ongoing]
  | none =>
      obtain ⟨⟨sent, carried, split⟩, begun, held, taken, quiet⟩ := laid
      have first : tx.txSkbOffset = 0 := held ongoing
      have none_ : assembly.current = none := begun.mpr first
      rw [dequeue_idle tx ongoing]
      refine ⟨⟨sent, carried, ?_⟩, begun, fun _ => first, fun skb _ => ⟨?_, ?_⟩, quiet⟩
      · rw [split]
        simp [TxState.ongoing, TxState.waiting, ongoing]
      · exact first.symm ▸ skb.nonempty
      · simp [none_, first, frameBytes]

section Feeding
variable (tx : TxState) (assembly : Assembly TxPiece) (piece : TxPiece)
  (begun : assembly.current = none ↔ tx.txSkbOffset = 0)
include begun

theorem feed_end :
    assembly.feed (if tx.txSkbOffset = 0 then .whole piece else .finish piece) =
      some ⟨assembly.done ++ [assembly.current.getD [] ++ [piece]], none⟩ := by
  by_cases first : tx.txSkbOffset = 0
  · simp [first, Assembly.feed, begun.mpr first]
  · obtain ⟨frame, current⟩ := Option.ne_none_iff_exists'.mp fun none_ => first (begun.mp none_)
    simp [first, Assembly.feed, current]

theorem feed_more :
    assembly.feed (if tx.txSkbOffset = 0 then .start piece else .middle piece) =
      some ⟨assembly.done, some (assembly.current.getD [] ++ [piece])⟩ := by
  by_cases first : tx.txSkbOffset = 0
  · simp [first, Assembly.feed, begun.mpr first]
  · obtain ⟨frame, current⟩ := Option.ne_none_iff_exists'.mp fun none_ => first (begun.mp none_)
    simp [first, Assembly.feed, current]
end Feeding

/-- What one chunk of `ongoing_tx_skb` in the buffer is for the receiver. -/
structure Adds (tx : TxState) (skb : Skb) (accepted : List (Skb × Nat)) (count : Nat)
    (assembly next : Assembly TxPiece) (chunk : TxChunk) : Prop where
  written : spiChunks (addTxSkbToSpiBuf tx skb) ((count + 1) * chunkSize) =
    spiChunks tx (count * chunkSize) ++ [chunk]
  proper : chunk.Proper
  reads : ∃ piece, chunk.piece = some piece ∧ assembly.feed piece = some next
  laid : Laid (addTxSkbToSpiBuf tx skb) accepted next

section Adding
variable (tx : TxState) (accepted : List (Skb × Nat)) (assembly : Assembly TxPiece) (skb : Skb)
  (count : Nat) (held : tx.ongoingTxSkb = some skb)
  (filled : tx.spiDataTxBufOffset = count * chunkSize) (laid : Laid tx accepted assembly)
include held filled laid

theorem laid_add_end (ends : tx.txSkbOffset + copyLength tx skb = skb.data.length) :
    ∃ chunk next, Adds tx skb accepted count assembly next chunk := by
  obtain ⟨⟨sent, carried, split⟩, begun, _, taken, quiet⟩ := laid
  obtain ⟨inside, bytes⟩ := taken skb held
  have added := add_tx_skb_end tx skb inside ends
  have fed := feed_end tx assembly
    ⟨tx.ongoingTxTsCaptureMode % 4, skb.data.drop tx.txSkbOffset⟩ begun
  refine ⟨_, _, ?_, end_proper tx skb, ⟨_, end_piece tx skb inside ends, fed⟩, ?_⟩
  · rw [added]
    exact spi_chunks_put _ count _ _ filled
  · rw [added]
    -- The frame leaves its slot and joins those sent.
    refine ⟨⟨sent ++ [(skb, tx.ongoingTxTsCaptureMode)], ?_, ?_⟩, ?_⟩
    · refine List.rel_append carried (.cons ⟨?_, _, _, rfl, quiet, rfl⟩ .nil)
      rw [frameBytes, List.flatMap_append, ← frameBytes, bytes]
      simp
    · rw [split]
      simp [TxState.ongoing, TxState.waiting, held, putChunk]
    · exact ⟨by simp [putChunk], fun _ => rfl, by simp [putChunk], by simp⟩

theorem laid_add_more (more : tx.txSkbOffset + copyLength tx skb ≠ skb.data.length) :
    ∃ chunk next, Adds tx skb accepted count assembly next chunk := by
  obtain ⟨⟨sent, carried, split⟩, begun, _, taken, quiet⟩ := laid
  obtain ⟨inside, bytes⟩ := taken skb held
  obtain ⟨added, full, longer⟩ := add_tx_skb_more tx skb inside more
  have fed := feed_more tx assembly ⟨0, (skb.data.drop tx.txSkbOffset).take 64⟩ begun
  refine ⟨_, _, ?_, more_proper tx _, ⟨_, more_piece tx skb inside full, fed⟩, ?_⟩
  · rw [added]
    exact spi_chunks_put _ count _ _ filled
  · rw [added]
    -- The frame stays in its slot; its pieces grow by what the offset moves on.
    refine ⟨⟨sent, carried, split⟩, by simp [putChunk], ?_, ?_, ?_⟩
    · intro empty
      exact absurd (held.symm.trans empty) (by simp)
    · intro other holds
      obtain rfl : skb = other := by simpa [putChunk, held] using holds
      refine ⟨longer, ?_⟩
      rw [Option.getD_some, frameBytes, List.flatMap_append, ← frameBytes, bytes]
      simp [putChunk, List.take_add]
    · simpa [or_imp, forall_and] using quiet

theorem laid_add : ∃ chunk next, Adds tx skb accepted count assembly next chunk := by
  by_cases ends : tx.txSkbOffset + copyLength tx skb = skb.data.length
  · exact laid_add_end tx accepted assembly skb count held filled laid ends
  · exact laid_add_more tx accepted assembly skb count held filled laid ends
end Adding

/-! The driver as a whole. -/

/-- The chunks sent, and those of the transfer being prepared. -/
def Driver.emitted (d : Driver) : List TxChunk := d.wire ++ d.buffered

def Driver.Running (d : Driver) : Prop := ∀ ret, d.spi ≠ .ended ret

structure Segmented (d : Driver) : Prop where
  room : ∀ skb tsCaptureMode, d.xmit = .linearize skb tsCaptureMode ∨
    d.xmit = .store skb tsCaptureMode → d.tc6.tx.waitingTxSkb = none
  proper : ∀ chunk ∈ d.emitted, chunk.Proper
  laid : d.Running → ∃ assembly, decodeTx d.emitted = some assembly ∧
    Laid d.tc6.tx d.accepted assembly

theorem segmented_init (bound : Nat) (d : Driver) (starts : (driverMachine bound).start d) :
    Segmented d := by
  obtain ⟨bufferStatus, mtu, rxFilter, rxBuffer, txBuffer, _, _, rfl⟩ := starts
  refine ⟨by simp [initDriver], by simp [initDriver, Driver.emitted, Driver.buffered, SpiPc.built],
    fun _ => ⟨Assembly.empty, rfl, ⟨[], .nil, rfl⟩, ?_⟩⟩
  exact ⟨by simp [Assembly.empty, initDriver, initTx], fun _ => rfl,
    by simp [initDriver, initTx], by simp [Assembly.empty]⟩

/-- A step of the SPI thread that touches no skb: at most idle chunks are added. -/
theorem segmented_idle (d after : Driver) (segmented : Segmented d) (idle : List TxChunk)
    (emitted : after.emitted = d.emitted ++ idle)
    (headers : ∀ chunk ∈ idle, chunk.header = idleHeader) (kept : TxKept d.tc6.tx after.tc6.tx)
    (accepted : after.accepted = d.accepted) (xmit : after.xmit = d.xmit) (running : d.Running) :
    Segmented after := by
  refine ⟨?_, ?_, fun _ => ?_⟩
  · rw [xmit, kept.waiting]
    exact segmented.room
  · rw [emitted]
    exact List.forall_mem_append.mpr
      ⟨segmented.proper, fun chunk member => idle_proper chunk (headers chunk member)⟩
  · obtain ⟨assembly, decoded, laid⟩ := segmented.laid running
    refine ⟨assembly, ?_, accepted ▸ laid_kept _ _ _ _ kept laid⟩
    rw [emitted]
    exact decode_idle _ _ _ decoded fun chunk member => idle_piece chunk (headers chunk member)

/-- A step of the SPI thread that only moves on. -/
theorem segmented_same (d after : Driver) (segmented : Segmented d)
    (emitted : after.emitted = d.emitted) (tx : after.tc6.tx = d.tc6.tx)
    (accepted : after.accepted = d.accepted) (xmit : after.xmit = d.xmit) (running : d.Running) :
    Segmented after :=
  segmented_idle d after segmented [] (by rw [emitted, List.append_nil]) (by simp)
    (tx ▸ TxKept.refl _) accepted xmit running

/-- The thread ends; what it was preparing is not sent. -/
theorem segmented_ends (d after : Driver) (segmented : Segmented d) (ret : Int)
    (spi : after.spi = .ended ret) (wire : after.wire = d.wire) (xmit : after.xmit = d.xmit)
    (waiting : after.tc6.tx.waitingTxSkb = d.tc6.tx.waitingTxSkb) : Segmented after := by
  refine ⟨?_, ?_, fun running => absurd spi (running ret)⟩
  · rw [xmit, waiting]
    exact segmented.room
  · intro chunk member
    apply segmented.proper
    simp only [Driver.emitted, Driver.buffered, spi, SpiPc.built, List.append_nil, wire] at member
    exact List.mem_append_left _ member

/-- A step of `oa_tc6_start_xmit` or of the interrupt handler, the store apart. -/
theorem segmented_other (d after : Driver) (segmented : Segmented d) (spi : after.spi = d.spi)
    (emitted : after.emitted = d.emitted) (kept : TxKept d.tc6.tx after.tc6.tx)
    (accepted : after.accepted = d.accepted)
    (room : ∀ skb tsCaptureMode, after.xmit = .linearize skb tsCaptureMode ∨
      after.xmit = .store skb tsCaptureMode → d.tc6.tx.waitingTxSkb = none) :
    Segmented after := by
  refine ⟨?_, ?_, fun running => ?_⟩
  · rw [kept.waiting]
    exact room
  · rw [emitted]
    exact segmented.proper
  · obtain ⟨assembly, decoded, laid⟩ :=
      segmented.laid (by rw [Driver.Running, ← spi]; exact running)
    exact ⟨assembly, emitted ▸ decoded, accepted ▸ laid_kept _ _ _ _ kept laid⟩

theorem emitted_built (d : Driver) (len : Nat) (built : d.spi.built = some len) :
    d.emitted = d.wire ++ spiChunks d.tc6.tx len := by
  rw [Driver.emitted, Driver.buffered, built]

theorem emitted_none (d : Driver) (built : d.spi.built = none) : d.emitted = d.wire := by
  rw [Driver.emitted, Driver.buffered, built, List.append_nil]

theorem running_at (d : Driver) (pc : SpiPc) (here : d.spi = pc) (open_ : ∀ ret, pc ≠ .ended ret) :
    d.Running := fun ret => here ▸ open_ ret

theorem dequeue_waiting (tx : TxState) (empty : tx.waitingTxSkb = none) :
    (dequeueTxSkb tx).waitingTxSkb = none := by
  cases ongoing : tx.ongoingTxSkb with
  | some skb => rwa [dequeue_held tx skb ongoing]
  | none => rw [dequeue_idle tx ongoing]

theorem add_tx_skb_waiting (tx : TxState) (skb : Skb) :
    (addTxSkbToSpiBuf tx skb).waitingTxSkb = tx.waitingTxSkb := by
  simp only [addTxSkbToSpiBuf]
  split <;> rfl

theorem segmented_fill (d : Driver) (segmented : Segmented d) (used : Nat)
    (pc : d.spi = .fillTx used) (filled : d.tc6.tx.spiDataTxBufOffset = used * chunkSize)
    (skb : Skb) (held : (dequeueTxSkb d.tc6.tx).ongoingTxSkb = some skb) :
    Segmented (d.setTx (addTxSkbToSpiBuf (dequeueTxSkb d.tc6.tx) skb) (.fillTx (used + 1))) := by
  obtain ⟨offset, buffer⟩ := dequeue_offset d.tc6.tx
  obtain ⟨assembly, decoded, laid⟩ := segmented.laid (running_at d _ pc (by simp))
  obtain ⟨chunk, next, adds⟩ := laid_add _ d.accepted assembly skb used held
    (offset.trans filled) (laid_dequeue _ _ _ laid)
  have emitted :
      (d.setTx (addTxSkbToSpiBuf (dequeueTxSkb d.tc6.tx) skb) (.fillTx (used + 1))).emitted =
        d.emitted ++ [chunk] := by
    have before : spiChunks (dequeueTxSkb d.tc6.tx) (used * chunkSize) =
        spiChunks d.tc6.tx (used * chunkSize) := by rw [spiChunks, buffer, spiChunks]
    rw [emitted_built d _ (by rw [pc]; rfl), emitted_built _ ((used + 1) * chunkSize) rfl,
      List.append_assoc, ← before, ← adds.written]
    rfl
  refine ⟨fun _ _ storing => ?_, ?_, fun _ => ⟨next, ?_, adds.laid⟩⟩
  · exact (add_tx_skb_waiting _ skb).trans (dequeue_waiting _ (segmented.room _ _ storing))
  · rw [emitted]
    exact List.forall_mem_append.mpr ⟨segmented.proper, List.forall_mem_singleton.mpr adds.proper⟩
  · obtain ⟨piece, reads, fed⟩ := adds.reads
    rw [emitted]
    exact decode_snoc _ _ _ _ _ decoded reads fed

/-- Nothing is left to send, or the slot is taken over and found empty. -/
theorem segmented_drained (d : Driver) (segmented : Segmented d) (used : Nat)
    (pc : d.spi = .fillTx used) (narrow : toU16 (used * chunkSize) = used * chunkSize) :
    Segmented (d.setTx (dequeueTxSkb d.tc6.tx) (.fillRx (toU16 (used * chunkSize)))) := by
  obtain ⟨assembly, decoded, laid⟩ := segmented.laid (running_at d _ pc (by simp))
  have emitted : (d.setTx (dequeueTxSkb d.tc6.tx) (.fillRx (toU16 (used * chunkSize)))).emitted =
      d.emitted := by
    have built : (d.setTx (dequeueTxSkb d.tc6.tx) (.fillRx (toU16 (used * chunkSize)))).spi.built =
        some (used * chunkSize) := congrArg some narrow
    rw [emitted_built d _ (by rw [pc]; rfl), emitted_built _ _ built, spiChunks, spiChunks]
    exact congrArg (fun buffer => _ ++ List.map buffer _) (dequeue_offset d.tc6.tx).2
  refine ⟨fun _ _ storing => dequeue_waiting _ (segmented.room _ _ storing), ?_,
    fun _ => ⟨assembly, emitted ▸ decoded, laid_dequeue _ _ _ laid⟩⟩
  rw [emitted]
  exact segmented.proper

/-- The skb becomes the waiting one. -/
theorem segmented_store (d : Driver) (segmented : Segmented d) (skb : Skb) (tsCaptureMode : Nat)
    (pc : d.xmit = .store skb tsCaptureMode) :
    Segmented { d with
      tc6 := { d.tc6 with tx := { d.tc6.tx with
        waitingTxSkb := some skb
        waitingTxTsCaptureMode := tsCaptureMode } }
      xmit := .wake
      accepted := d.accepted ++ [(skb, tsCaptureMode)] } := by
  have empty := segmented.room skb tsCaptureMode (.inr pc)
  refine ⟨by simp, segmented.proper, fun running => ?_⟩
  obtain ⟨assembly, decoded, ⟨sent, carried, split⟩, under⟩ := segmented.laid running
  refine ⟨assembly, decoded, ⟨sent, carried, ?_⟩, under.begun, under.held, under.taken, under.quiet⟩
  rw [split]
  simp [TxState.ongoing, TxState.waiting, empty]

/-- Outside the preparation of a transfer. -/
theorem segmented_walk (d after : Driver) (segmented : Segmented d) (pc : SpiPc)
    (here : d.spi = pc) (open_ : ∀ ret, pc ≠ .ended ret) (before : pc.built = none)
    (built : after.spi.built = none) (wire : after.wire = d.wire) (tx : after.tc6.tx = d.tc6.tx)
    (accepted : after.accepted = d.accepted) (xmit : after.xmit = d.xmit) : Segmented after := by
  refine segmented_same d after segmented ?_ tx accepted xmit (running_at d pc here open_)
  rw [emitted_none after built, emitted_none d (here ▸ before), wire]

/-- A transfer is begun. -/
theorem segmented_begin (d : Driver) (segmented : Segmented d) (pc : d.spi = .loopTop)
    (next : SpiPc) (built : next.built = some 0) :
    Segmented (d.setTx { d.tc6.tx with spiDataTxBufOffset := 0 } next) := by
  refine segmented_idle d _ segmented [] ?_ (by simp) ⟨rfl, rfl, rfl, rfl, rfl⟩ rfl rfl
    (running_at d _ pc (by simp))
  rw [emitted_built _ 0 built, emitted_none d (by rw [pc]; rfl)]
  rfl

/-- The length of the transfer stands. -/
theorem segmented_hold (d after : Driver) (segmented : Segmented d) (len : Nat)
    (before : d.spi.built = some len) (built : after.spi.built = some len)
    (wire : after.wire = d.wire) (tx : after.tc6.tx = d.tc6.tx)
    (accepted : after.accepted = d.accepted) (xmit : after.xmit = d.xmit) : Segmented after := by
  have running : d.Running := fun ret ended => by simp [ended, SpiPc.built] at before
  refine segmented_same d after segmented ?_ tx accepted xmit running
  rw [emitted_built after len built, emitted_built d len before, wire, tx]

theorem segmented_spi (bound : Nat) (small : bound ≤ 255) (d after : Driver) (sized : Sized bound d)
    (segmented : Segmented d) (moved : d.Moves .spi after) : Segmented after := by
  have available := sized.available
  cases moved with
  | prepare pc =>
      exact segmented_walk d _ segmented _ pc (by simp) rfl rfl rfl rfl rfl rfl
  | intSet pc int =>
      exact segmented_walk d _ segmented _ pc (by simp) rfl rfl rfl rfl rfl rfl
  | intClear pc int =>
      exact segmented_walk d _ segmented _ pc (by simp) rfl rfl rfl rfl rfl rfl
  | waitingSome pc skb held =>
      exact segmented_walk d _ segmented _ pc (by simp) rfl rfl rfl rfl rfl rfl
  | waitingNone pc empty =>
      exact segmented_walk d _ segmented _ pc (by simp) rfl rfl rfl rfl rfl rfl
  | creditsSome pc credits =>
      exact segmented_walk d _ segmented _ pc (by simp) rfl rfl rfl rfl rfl rfl
  | creditsNone pc credits =>
      exact segmented_walk d _ segmented _ pc (by simp) rfl rfl rfl rfl rfl rfl
  | wakeUp pc woken =>
      exact segmented_walk d _ segmented _ pc (by simp) rfl rfl rfl rfl rfl rfl
  | loopBusy pc busy => exact segmented_begin d segmented pc _ rfl
  | loopIdle pc noOngoing noWaiting => exact segmented_begin d segmented pc _ rfl
  | fillMore used pc credit skb held =>
      obtain ⟨few, offset⟩ := sized_filling bound d sized used pc
      exact segmented_fill d segmented used pc offset skb held
  | fillEmpty used pc credit empty =>
      obtain ⟨few, offset⟩ := sized_filling bound d sized used pc
      exact segmented_drained d segmented used pc (to_u16_chunks used (by omega))
  | fillFull used pc credit =>
      obtain ⟨few, offset⟩ := sized_filling bound d sized used pc
      exact segmented_hold d _ segmented (used * chunkSize) (by rw [pc]; rfl)
        (congrArg some (to_u16_chunks used (by omega))) rfl rfl rfl rfl
  | fillRx len pc =>
      obtain ⟨count, few, rfl, offset⟩ := sized.filled len (by rw [pc]; rfl)
      obtain ⟨length, idle, padded⟩ :=
        prepare_for_rx_chunks d.tc6.tx d.tc6.rx.rxChunksAvailable count offset (by omega)
      refine segmented_idle d _ segmented idle ?_ padded.headers padded.kept rfl rfl
        (running_at d _ pc (by simp))
      refine (emitted_built _ (max count d.tc6.rx.rxChunksAvailable * chunkSize)
        (by exact congrArg some length)).trans ?_
      rw [emitted_built d _ (by rw [pc]; rfl), List.append_assoc, ← padded.grown]
      rfl
  | testSet len pc int =>
      exact segmented_hold d _ segmented len (by rw [pc]; rfl) rfl rfl rfl rfl rfl
  | testDone pc int =>
      refine segmented_same d _ segmented ?_ rfl rfl rfl (running_at d _ pc (by simp))
      rw [emitted_none _ rfl, emitted_built d 0 (by rw [pc]; rfl)]
      exact (List.append_nil _).symm
  | testClear len pc int some_ =>
      exact segmented_hold d _ segmented len (by rw [pc]; rfl) rfl rfl rfl rfl rfl
  | clearEmpty pc =>
      obtain ⟨count, _, length, offset⟩ := sized.filled 0 (by rw [pc]; rfl)
      obtain rfl : 0 = count := by
        rw [chunk_size] at length
        omega
      obtain ⟨idle, padded⟩ := add_empty_chunks d.tc6.tx 0 1 offset (by omega)
      have grown := padded.grown
      refine segmented_idle d _ segmented idle ?_ padded.headers padded.kept rfl rfl
        (running_at d _ pc (by simp))
      rw [emitted_built d 0 (by rw [pc]; rfl), emitted_built _ chunkSize rfl, List.append_assoc]
      exact congrArg _ grown
  | clear len pc some_ =>
      exact segmented_hold d _ segmented len (by rw [pc]; rfl) rfl rfl rfl rfl rfl
  | wakeTestSome pc skb held =>
      exact segmented_walk d _ segmented _ pc (by simp) rfl rfl rfl rfl rfl rfl
  | wakeTestNone pc empty =>
      exact segmented_walk d _ segmented _ pc (by simp) rfl rfl rfl rfl rfl rfl
  | wakeStopped pc stopped =>
      exact segmented_walk d _ segmented _ pc (by simp) rfl rfl rfl rfl rfl rfl
  | wakeRunning pc running =>
      exact segmented_walk d _ segmented _ pc (by simp) rfl rfl rfl rfl rfl rfl
  | wakeQueue pc =>
      exact segmented_walk d _ segmented _ pc (by simp) rfl rfl rfl rfl rfl rfl

theorem cleanup_tx_waiting (tx : TxState) :
    (cleanupOngoingTxSkb tx).waitingTxSkb = tx.waitingTxSkb := by
  cases ongoing : tx.ongoingTxSkb with
  | some skb => rw [cleanup_tx_some tx skb ongoing]
  | none => rw [cleanup_tx_none tx ongoing]

theorem segmented_xmit (d after : Driver) (linearized : Bool) (segmented : Segmented d)
    (moved : d.Moves (.xmit linearized) after) : Segmented after := by
  cases moved with
  | testBusy skb tsCaptureMode linearized pc other held =>
      exact segmented_other d _ segmented rfl rfl (TxKept.refl _) rfl (by simp)
  | testFree skb tsCaptureMode linearized pc empty =>
      exact segmented_other d _ segmented rfl rfl (TxKept.refl _) rfl fun _ _ _ => empty
  | stop linearized pc =>
      exact segmented_other d _ segmented rfl rfl (TxKept.refl _) rfl (by simp)
  | linearized skb tsCaptureMode pc =>
      exact segmented_other d _ segmented rfl rfl (TxKept.refl _) rfl fun _ _ _ =>
        segmented.room skb tsCaptureMode (.inl pc)
  | linearizeFails skb tsCaptureMode pc =>
      exact segmented_other d _ segmented rfl rfl ⟨rfl, rfl, rfl, rfl, rfl⟩ rfl (by simp)
  | store skb tsCaptureMode linearized pc => exact segmented_store d segmented skb tsCaptureMode pc
  | wake linearized pc =>
      exact segmented_other d _ segmented rfl rfl (TxKept.refl _) rfl (by simp)

theorem segmented_moves (bound : Nat) (small : bound ≤ 255) (d after : Driver) (act : DriverAct)
    (sized : Sized bound d) (segmented : Segmented d) (moved : d.Moves act after) :
    Segmented after := by
  cases act with
  | spi => exact segmented_spi bound small d after sized segmented moved
  | exchange received =>
      cases moved with
      | exchange len pc received whole =>
          -- The chunks go from the buffer to the wire, and are counted once in either place.
          have emitted := emitted_built d len (by rw [pc]; rfl)
          refine ⟨segmented.room, ?_, fun _ => ?_⟩
          · rw [emitted_none _ rfl, ← emitted]
            exact segmented.proper
          · rw [emitted_none _ rfl, ← emitted]
            exact segmented.laid (running_at d _ pc (by simp))
  | exchangeFails ret =>
      cases moved with
      | exchangeFails len pc ret failed => exact segmented_ends d _ segmented ret rfl rfl rfl rfl
  | process io =>
      cases moved with
      | processFine len pc io rx out =>
          exact segmented_walk d _ segmented _ pc (by simp) rfl rfl rfl rfl rfl rfl
      | processAgain len pc io rx out =>
          exact segmented_walk d _ segmented _ pc (by simp) rfl rfl rfl rfl rfl rfl
      | processFails len pc io rx ret fails out =>
          exact segmented_ends d _ segmented ret rfl rfl rfl (cleanup_tx_waiting _)
  | offer skb tsCaptureMode =>
      cases moved with
      | offer skb tsCaptureMode pc =>
          exact segmented_other d _ segmented rfl rfl (TxKept.refl _) rfl (by simp)
  | xmit linearized => exact segmented_xmit d after linearized segmented moved
  | interrupt =>
      cases moved with
      | interrupt pc =>
          exact segmented_other d _ segmented rfl rfl (TxKept.refl _) rfl segmented.room
  | interruptWake =>
      cases moved with
      | interruptWake pc =>
          exact segmented_other d _ segmented rfl rfl (TxKept.refl _) rfl segmented.room

theorem segmented_reached (bound : Nat) (wide : 31 ≤ bound) (small : bound ≤ 255)
    {ok : Driver → DriverAct → Prop} {d : Driver} (reached : Reaches (driverMachine bound) ok d) :
    Segmented d :=
  reached.strengthen (Sized bound) Segmented
    (fun _ earlier => sized_reached bound wide small earlier)
    (segmented_init bound) fun before act after sized segmented _ moved =>
      segmented_moves bound small before after act sized segmented
        (driver_moves before after act moved)

/-- Whatever has become of the thread, the frames sent are the first accepted. -/
def FirstSent (d : Driver) : Prop :=
  ∃ assembly sent rest, decodeTx d.wire = some assembly ∧ List.Forall₂ Carries assembly.done sent ∧
    d.accepted = sent ++ rest

theorem first_sent_same (d after : Driver) (firstSent : FirstSent d) (wire : after.wire = d.wire)
    (more : List (Skb × Nat)) (accepted : after.accepted = d.accepted ++ more) :
    FirstSent after := by
  obtain ⟨assembly, sent, rest, decoded, carried, split⟩ := firstSent
  exact ⟨assembly, sent, rest ++ more, wire ▸ decoded, carried, by rw [accepted, split]; simp⟩

theorem first_sent_laid (d : Driver) (segmented : Segmented d) (running : d.Running)
    (built : d.spi.built = none) : FirstSent d := by
  obtain ⟨assembly, decoded, ⟨sent, carried, split⟩, _⟩ := segmented.laid running
  rw [emitted_none d built] at decoded
  exact ⟨assembly, sent, d.tc6.tx.ongoing ++ d.tc6.tx.waiting, decoded, carried, by
    rw [split, List.append_assoc]⟩

/-- What is known of a driver in any run. -/
structure Tracked (bound : Nat) (d : Driver) : Prop where
  sized : Sized bound d
  segmented : Segmented d
  firstSent : FirstSent d

theorem tracked_init (bound : Nat) (d : Driver) (starts : (driverMachine bound).start d) :
    Tracked bound d := by
  refine ⟨sized_init bound d starts, segmented_init bound d starts, ?_⟩
  obtain ⟨bufferStatus, mtu, rxFilter, rxBuffer, txBuffer, _, _, rfl⟩ := starts
  exact ⟨Assembly.empty, [], [], rfl, .nil, rfl⟩

/-- The wire changes only with a transfer, and only a store accepts an skb. -/
theorem wire_moves (d after : Driver) (act : DriverAct) (moved : d.Moves act after)
    (notExchange : ∀ received, act ≠ .exchange received) :
    after.wire = d.wire ∧ ∃ more, after.accepted = d.accepted ++ more := by
  cases moved with
  | exchange => exact absurd rfl (notExchange _)
  | store skb tsCaptureMode linearized pc => exact ⟨rfl, [(skb, tsCaptureMode)], rfl⟩
  | _ => exact ⟨rfl, [], (List.append_nil _).symm⟩

theorem tracked_moves (bound : Nat) (wide : 31 ≤ bound) (small : bound ≤ 255) (d after : Driver)
    (act : DriverAct) (tracked : Tracked bound d) (moved : d.Moves act after) :
    Tracked bound after := by
  have sized := sized_moves bound wide small d after act tracked.sized moved
  have segmented := segmented_moves bound small d after act tracked.sized tracked.segmented moved
  refine ⟨sized, segmented, ?_⟩
  cases act with
  | exchange received =>
      cases moved with
      | exchange len pc received whole =>
          exact first_sent_laid _ segmented (running_at _ _ rfl (by simp)) rfl
  | _ =>
      obtain ⟨wire, more, accepted⟩ := wire_moves d after _ moved (by simp)
      exact first_sent_same d after tracked.firstSent wire more accepted

/-- At every loop head of `oa_tc6_try_spi_transfer` the chunks of all transfers
made so far are the accepted frames, in order, up to what the slots hold. -/
theorem transmit_segments_exactly (d : Driver)
    (reached : Reaches (driverMachine maxTxChunks) anyStep d) (head : d.spi = .loopTop) :
    (∃ assembly, decodeTx d.wire = some assembly ∧ Laid d.tc6.tx d.accepted assembly) ∧
      ∀ chunk ∈ d.wire, chunk.Proper := by
  have segmented := segmented_reached maxTxChunks (by decide) (by decide) reached
  have emitted := emitted_none d (by rw [head]; rfl)
  obtain ⟨assembly, decoded, laid⟩ := segmented.laid (running_at d _ head (by simp))
  exact ⟨⟨assembly, emitted ▸ decoded, laid⟩, emitted ▸ segmented.proper⟩

section Samples

/-- A frame of two chunks is accepted and sent, with two credits. -/
def twoChunksSent : Driver :=
  (driverMachine maxTxChunks).after (sampleStart 0x200#32)
    ([.offer (sampleSkb 1 70 (by decide) (by decide)) 1, .xmit true, .xmit true, .xmit true,
        .xmit true] ++ List.replicate 10 .spi ++
      [.exchange [answer 0x20000004#32, answer 0x20000004#32], .process fun _ => default,
        .spi, .spi])

theorem transmit_segments_sample :
    (∃ assembly, decodeTx twoChunksSent.wire = some assembly ∧
        Laid twoChunksSent.tc6.tx twoChunksSent.accepted assembly) ∧
      ∀ chunk ∈ twoChunksSent.wire, chunk.Proper :=
  transmit_segments_exactly twoChunksSent
    (reaches_after (sample_start _ _ (by decide) (by decide)) _ (allowed_any _ _ _))
    (by decide +kernel)

example : twoChunksSent.wire.length = 2 ∧ twoChunksSent.accepted.length = 1 := by decide +kernel

end Samples

end Lan865x.OaTc6
