import Lan865x.ChunkResult

/-!
Whole SPI transfers on the receive side: chunks laid out in `spi_data_rx_buf`,
the loop of `oa_tc6_process_spi_data_rx_buf` over them, and what
`oa_tc6_try_spi_transfer` does with its result. The loop is restated over the
list of received chunks, which is what later inductions run along.
-/

namespace Lan865x.OaTc6
open BitField Memory Framing

/-- A chunk as the SPI transfer brings it, with the answers of the world while
it is processed. -/
structure Received where
  chunk : RxChunk
  io : ChunkIo

structure Transfer where
  received : List Received
  fits : received.length ≤ maxTxChunks

def Transfer.bytes (transfer : Transfer) : List UInt8 :=
  transfer.received.flatMap fun r => r.chunk.bytes

def Transfer.io (transfer : Transfer) (i : Nat) : ChunkIo :=
  (transfer.received.map Received.io).getD i default

/-- A transfer fills the head of the buffer and is then processed. -/
def receiveTransfer (rx : RxState) (transfer : Transfer) : Int × RxState :=
  processSpiDataRxBuf { rx with spiDataRxBuf := load rx.spiDataRxBuf transfer.bytes }
    (transfer.received.length * chunkSize) transfer.io

/-- The receive side of `oa_tc6_try_spi_transfer`: -EAGAIN goes on with the next
transfer, any other error cleans up and ends the thread. -/
def receive (rx : RxState) : List Transfer → RxState
  | [] => rx
  | transfer :: rest =>
      let (ret, rx) := receiveTransfer rx transfer
      -- `continue` in the source: the rest of this transfer is not looked at again.
      if ret = 0 ∨ ret = -eagain then receive rx rest else cleanupOngoingRxSkb rx

/-- The loop over the chunks themselves. -/
def processReceived (rx : RxState) (i : Nat) : List Received → Int × RxState
  | [] => (0, rx)
  | r :: rest =>
      let (ret, rx) := processRxChunk rx i r.io
      if ret ≠ 0 then (ret, rx) else processReceived rx (i + 1) rest

/-- Slot `i` of the buffer holds the chunk. -/
def Holds (buffer : Nat → UInt8) (i : Nat) (chunk : RxChunk) : Prop :=
  cellsAt buffer (i * chunkSize) chunkSize = chunk.bytes

def Loaded (buffer : Nat → UInt8) (i : Nat) : List Received → Prop
  | [] => True
  | r :: rest => Holds buffer i r.chunk ∧ Loaded buffer (i + 1) rest

theorem holds_payload (buffer : Nat → UInt8) (i : Nat) (chunk : RxChunk)
    (holds : Holds buffer i chunk) (first len : Nat) (inside : first + len ≤ chunkPayloadSize) :
    cellsAt buffer (i * chunkSize + first) len = (chunk.payload.drop first).take len := by
  have sized := chunk.sized
  rw [chunk_payload_size] at sized inside
  rw [cellsAt_window buffer _ chunkSize first len (by rw [chunk_size]; omega), holds,
    RxChunk.bytes, List.drop_append_of_le_length (by omega),
    List.take_append_of_le_length (by rw [List.length_drop]; omega)]

theorem holds_front (buffer : Nat → UInt8) (i : Nat) (chunk : RxChunk)
    (holds : Holds buffer i chunk) (len : Nat) (inside : len ≤ chunkPayloadSize) :
    cellsAt buffer (i * chunkSize) len = chunk.payload.take len := by
  have window := holds_payload buffer i chunk holds 0 len (by omega)
  rwa [Nat.add_zero, List.drop_zero] at window

theorem holds_whole (buffer : Nat → UInt8) (i : Nat) (chunk : RxChunk)
    (holds : Holds buffer i chunk) :
    cellsAt buffer (i * chunkSize) chunkPayloadSize = chunk.payload := by
  rw [holds_front buffer i chunk holds chunkPayloadSize (Nat.le_refl _), ← chunk.sized,
    List.take_length]

theorem holds_footer (rx : RxState) (i : Nat) (chunk : RxChunk)
    (holds : Holds rx.spiDataRxBuf i chunk) :
    getRxChunkFooter rx (i * chunkSize + chunkPayloadSize) = chunk.footer := by
  have sized := chunk.sized
  have word : cellsAt rx.spiDataRxBuf (i * chunkSize + chunkPayloadSize) 4 =
      cpuToBe32 chunk.footer := by
    rw [cellsAt_window rx.spiDataRxBuf _ chunkSize chunkPayloadSize 4 (by decide), holds,
      RxChunk.bytes, ← sized, List.drop_left, List.take_of_length_le (by simp [be32_length])]
  have cells : cellsAt rx.spiDataRxBuf (i * chunkSize + chunkPayloadSize) 4 =
      [rx.spiDataRxBuf (i * chunkSize + chunkPayloadSize),
        rx.spiDataRxBuf (i * chunkSize + chunkPayloadSize + 1),
        rx.spiDataRxBuf (i * chunkSize + chunkPayloadSize + 2),
        rx.spiDataRxBuf (i * chunkSize + chunkPayloadSize + 3)] := rfl
  rw [cells] at word
  simp only [cpuToBe32, List.cons.injEq, and_true] at word
  obtain ⟨b0, b1, b2, b3⟩ := word
  rw [getRxChunkFooter, b0, b1, b2, b3]
  exact be32_round_trip chunk.footer

/-- The first of the chunks from `i` on is the one at `i`. -/
theorem received_head {received : List Received} {i : Nat} {r : Received} {rest : List Received}
    (tail : received.drop i = r :: rest) :
    ∃ inside : i < received.length, received[i] = r ∧ received.drop (i + 1) = rest := by
  have inside : i < received.length := by
    by_contra past
    rw [List.drop_of_length_le (Nat.not_lt.mp past)] at tail
    exact absurd tail (by simp)
  rw [List.drop_eq_getElem_cons inside] at tail
  exact ⟨inside, List.cons.inj tail⟩

theorem chunks_eq_received (transfer : Transfer) (rx : RxState) (i : Nat) (rest : List Received)
    (tail : transfer.received.drop i = rest) :
    processRxChunks rx transfer.io i rest.length = processReceived rx i rest := by
  induction rest generalizing rx i with
  | nil => rfl
  | cons r rest ih =>
      obtain ⟨inside, head, next⟩ := received_head tail
      have here : transfer.io i = r.io := by
        simp [Transfer.io, inside, head]
      simp only [List.length_cons, processRxChunks, processReceived, here]
      split
      · rfl
      · exact ih _ _ next

theorem transfer_loaded (transfer : Transfer) (buffer : Nat → UInt8) (i : Nat)
    (rest : List Received) (tail : transfer.received.drop i = rest) :
    Loaded (load buffer transfer.bytes) i rest := by
  induction rest generalizing i with
  | nil => trivial
  | cons r rest ih =>
      obtain ⟨inside, head, next⟩ := received_head tail
      refine ⟨?_, ih (i + 1) next⟩
      have total : transfer.bytes.length = transfer.received.length * chunkSize :=
        records_length (fun r : Received => r.chunk.bytes) chunkSize
          (fun r => rx_chunk_length r.chunk) _
      have reach : i * chunkSize + chunkSize ≤ transfer.received.length * chunkSize := by
        rw [← Nat.succ_mul]
        exact Nat.mul_le_mul_right _ inside
      rw [Holds, cellsAt_load _ _ _ _ (by omega), Transfer.bytes,
        record_at (fun r : Received => r.chunk.bytes) chunkSize
          (fun r => rx_chunk_length r.chunk) _ i inside, head]

/-- A transfer is processed chunk by chunk. -/
theorem receive_transfer_eq (rx : RxState) (transfer : Transfer) :
    receiveTransfer rx transfer =
      processReceived { rx with spiDataRxBuf := load rx.spiDataRxBuf transfer.bytes } 0
        transfer.received := by
  have count : transfer.received.length * chunkSize / chunkSize = transfer.received.length :=
    Nat.mul_div_cancel _ (by decide)
  rw [receiveTransfer, processSpiDataRxBuf, count]
  exact chunks_eq_received transfer _ 0 transfer.received rfl

/-- The documented reading of a chunk and the branch the driver takes for it. -/
theorem piece_branch (chunk : RxChunk) (piece : Piece (List UInt8))
    (reads : chunk.piece = some piece) :
    match piece with
    | .idle => flag dataFooterDataValid chunk.footer = false
    | .start first => flag dataFooterDataValid chunk.footer = true ∧
        rxBranch chunk.footer = .start ∧ first = chunk.payload.drop (startOffset chunk.footer)
    | .middle next => flag dataFooterDataValid chunk.footer = true ∧
        rxBranch chunk.footer = .ongoing ∧ next = chunk.payload
    | .finish last => flag dataFooterDataValid chunk.footer = true ∧
        rxBranch chunk.footer = .finish ∧ last = chunk.payload.take (endOffset chunk.footer + 1)
    | .whole only => flag dataFooterDataValid chunk.footer = true ∧
        rxBranch chunk.footer = .complete ∧
        only = (chunk.payload.drop (startOffset chunk.footer)).take
          (endOffset chunk.footer + 1 - startOffset chunk.footer)
    | .turn last first => flag dataFooterDataValid chunk.footer = true ∧
        rxBranch chunk.footer = .turn ∧
        last = chunk.payload.take (endOffset chunk.footer + 1) ∧
        first = chunk.payload.drop (startOffset chunk.footer) := by
  have starts : number dataFooterStartWordOffset chunk.footer * 4 = startOffset chunk.footer := rfl
  have ends : number dataFooterEndByteOffset chunk.footer = endOffset chunk.footer := rfl
  simp only [RxChunk.piece, starts, ends] at reads
  cases valid : flag dataFooterDataValid chunk.footer with
  | false =>
      simp only [valid, Bool.not_false, if_true, Option.some.injEq] at reads
      subst piece
      rfl
  | true =>
      simp only [valid, Bool.not_true, Bool.false_eq_true, if_false] at reads
      cases sv : flag dataFooterStartValid chunk.footer <;>
        cases ev : flag dataFooterEndValid chunk.footer <;>
        simp only [sv, ev, Option.some.injEq] at reads
      · subst piece
        simp [rxBranch, sv, ev]
      · subst piece
        simp [rxBranch, sv, ev]
      · subst piece
        simp [rxBranch, sv, ev]
      · by_cases inside : startOffset chunk.footer < endOffset chunk.footer
        · simp only [inside, if_true, Option.some.injEq] at reads
          subst piece
          simp [rxBranch, sv, ev, inside]
        · by_cases crossed : endOffset chunk.footer < startOffset chunk.footer
          · simp only [inside, crossed, if_false, if_true, Option.some.injEq] at reads
            subst piece
            simp [rxBranch, sv, ev, inside, crossed]
          · simp [inside, crossed] at reads

/-- SYNC=1, no extended status and no header error. -/
structure CleanFooter (footer : BitVec 32) : Prop where
  noStatus : flag dataFooterExtendedSts footer = false
  headerGood : flag dataFooterRxdHeaderBad footer = false
  synced : flag dataFooterConfigSync footer = true

theorem clean_chunk (rx : RxState) (i : Nat) (r : Received)
    (holds : Holds rx.spiDataRxBuf i r.chunk) (clean : CleanFooter r.chunk.footer) :
    processRxChunk rx i r.io =
      if flag dataFooterDataValid r.chunk.footer then
        prcsRxChunkPayload (footerCredits rx r.chunk.footer) (i * chunkSize) r.chunk.footer r.io
      else (0, footerCredits rx r.chunk.footer) := by
  simp only [processRxChunk, holds_footer rx i r.chunk holds, processRxChunkFooter,
    clean.noStatus, clean.headerGood, clean.synced]
  simp [footerCredits]

/-- The overflow bit in the STATUS0 that is read. -/
def overflowRead (io : ChunkIo) : Bool :=
  match io.readStatus0 with
  | .ok value => flag status0RxBufferOverflowError value
  | .error _ => false

/-- EXST in the footer and the overflow bit in the STATUS0 that is read for it. -/
def overflowReported (footer : BitVec 32) (io : ChunkIo) : Bool :=
  flag dataFooterExtendedSts footer && overflowRead io

/-- The SPI controller does not answer a register access with the code that the
driver reserves for an overflow. -/
structure RegistersAnswer (io : ChunkIo) : Prop where
  read : io.readStatus0 ≠ .error (-eagain)
  write : io.writeStatus0 ≠ -eagain

/-- The state after an overflow report. -/
def overflowed (rx : RxState) : RxState :=
  cleanupOngoingRxSkb { rx with rxBufOverflow := true }

/-- The thread goes on, goes on with the next transfer, or ends. -/
def Fails (ret : Int) : Prop := ret ≠ 0 ∧ ret ≠ -eagain

instance (ret : Int) : Decidable (Fails ret) := inferInstanceAs (Decidable (_ ∧ _))

theorem enodev_fails : Fails (-enodev) := ⟨by decide, by decide⟩

theorem enomem_fails : Fails (-enomem) := ⟨by decide, by decide⟩

theorem zero_not_eagain : (0 : Int) ≠ -eagain := by decide

theorem extended_status_cases (rx : RxState) (io : ChunkIo) (answers : RegistersAnswer io) :
    (processExtendedStatus rx io = (0, rx) ∧ overflowRead io = false) ∨
    (processExtendedStatus rx io = (-eagain, overflowed rx) ∧ overflowRead io = true) ∨
    ∃ ret, processExtendedStatus rx io = (ret, rx) ∧ Fails ret := by
  unfold processExtendedStatus overflowRead
  cases read : io.readStatus0 with
  | error ret =>
      by_cases zero : ret = 0
      -- An error code 0 is no error for the source.
      · exact Or.inl ⟨by simp [zero], rfl⟩
      · refine Or.inr (Or.inr ⟨ret, rfl, zero, fun again => answers.read ?_⟩)
        rw [read, again]
  | ok value =>
      by_cases unwritten : io.writeStatus0 = 0
      · cases overflow : flag status0RxBufferOverflowError value with
        | true => exact Or.inr (Or.inl ⟨by simp [unwritten, overflow, overflowed], overflow⟩)
        | false =>
            simp only [unwritten, overflow, ne_eq, not_true_eq_false, if_false, Bool.false_eq_true]
            repeat' split
            · exact Or.inr (Or.inr ⟨-enodev, rfl, enodev_fails⟩)
            · exact Or.inr (Or.inr ⟨-enodev, rfl, enodev_fails⟩)
            · exact Or.inr (Or.inr ⟨-enodev, rfl, enodev_fails⟩)
            · exact Or.inl ⟨rfl, trivial⟩
      · exact Or.inr (Or.inr ⟨io.writeStatus0, by simp [unwritten], unwritten, answers.write⟩)

/-- What a footer can do: let the chunk through, report an overflow, or fail. -/
theorem footer_cases (rx : RxState) (footer : BitVec 32) (io : ChunkIo)
    (answers : RegistersAnswer io) :
    (processRxChunkFooter rx footer io = (0, footerCredits rx footer) ∧
      overflowReported footer io = false) ∨
    (processRxChunkFooter rx footer io = (-eagain, overflowed (footerCredits rx footer)) ∧
      overflowReported footer io = true) ∨
    ∃ ret, processRxChunkFooter rx footer io = (ret, footerCredits rx footer) ∧ Fails ret := by
  have status : (if flag dataFooterExtendedSts footer = true then
        processExtendedStatus (footerCredits rx footer) io else (0, footerCredits rx footer)) =
        (0, footerCredits rx footer) ∧ overflowReported footer io = false ∨
      (if flag dataFooterExtendedSts footer = true then
        processExtendedStatus (footerCredits rx footer) io else (0, footerCredits rx footer)) =
        (-eagain, overflowed (footerCredits rx footer)) ∧ overflowReported footer io = true ∨
      ∃ ret, (if flag dataFooterExtendedSts footer = true then
        processExtendedStatus (footerCredits rx footer) io else (0, footerCredits rx footer)) =
        (ret, footerCredits rx footer) ∧ Fails ret := by
    cases extended : flag dataFooterExtendedSts footer with
    | false => exact Or.inl ⟨rfl, by simp [overflowReported, extended]⟩
    | true =>
        simpa [overflowReported, extended] using extended_status_cases (footerCredits rx footer) io
          answers
  have credits : { rx with
      txCredits := number dataFooterTxCredits footer
      rxChunksAvailable := number dataFooterRxChunks footer } = footerCredits rx footer := rfl
  simp only [processRxChunkFooter, credits]
  rcases status with ⟨passed, quiet⟩ | ⟨again, reported⟩ | ⟨ret, failed, fails⟩
  · simp only [passed, ne_eq, not_true_eq_false, if_false]
    repeat' split
    · exact Or.inr (Or.inr ⟨-enodev, rfl, enodev_fails⟩)
    · exact Or.inr (Or.inr ⟨-enodev, rfl, enodev_fails⟩)
    · exact Or.inl ⟨rfl, quiet⟩
  · simp only [again]
    exact Or.inr (Or.inl ⟨rfl, reported⟩)
  · simp only [failed, ne_eq, fails.1, not_false_eq_true, if_true]
    exact Or.inr (Or.inr ⟨ret, rfl, fails⟩)

/-- The footer makes `oa_tc6_process_spi_data_rx_buf` return -EAGAIN. -/
def asksRetry (footer : BitVec 32) (io : ChunkIo) : Bool :=
  flag dataFooterExtendedSts footer && match io.readStatus0 with
    | .error ret => ret = -eagain
    | .ok value => io.writeStatus0 = -eagain ||
        (io.writeStatus0 = 0 && flag status0RxBufferOverflowError value)

/-- The loop comes to chunk `i`, and the footer makes it give up there. -/
def retriesAt (rx : RxState) (io : Nat → ChunkIo) (i : Nat) : Bool :=
  (processRxChunks rx io 0 i).1 = 0 &&
    asksRetry (getRxChunkFooter rx (i * chunkSize + chunkPayloadSize)) (io i)

theorem status_again (io : ChunkIo) (again : statusRet io = -eagain) :
    (match io.readStatus0 with
      | .error ret => decide (ret = -eagain)
      | .ok value => io.writeStatus0 = -eagain ||
          (io.writeStatus0 = 0 && flag status0RxBufferOverflowError value)) = true := by
  cases read : io.readStatus0 with
  | error ret => simpa only [statusRet, read, decide_eq_true_eq] using again
  | ok value =>
      simp only [statusRet, read] at again
      by_cases written : io.writeStatus0 = 0
      · simp only [written, ne_eq, not_true_eq_false, if_false] at again
        split at again
        · rename_i overflow
          simp [written, overflow]
        · split at again
          · exact absurd again enodev_fails.2
          · exact absurd again zero_not_eagain
      · simp only [written, ne_eq, not_false_eq_true, if_true] at again
        simp [again]

theorem footer_again (footer : BitVec 32) (io : ChunkIo)
    (again : footerRet footer io = -eagain) : asksRetry footer io = true := by
  simp only [footerRet, Bool.and_eq_true, decide_eq_true_eq] at again
  split at again
  · rename_i extended
    rw [asksRetry, extended.1, Bool.true_and]
    exact status_again io again
  · split at again
    · exact absurd again enodev_fails.2
    · exact absurd again zero_not_eagain

theorem chunk_again (rx : RxState) (i : Nat) (io : ChunkIo)
    (again : (processRxChunk rx i io).1 = -eagain) : asksRetry (footerAt rx i) io = true := by
  rw [chunk_error, chunkRet] at again
  split at again
  · exact footer_again _ io again
  · split at again
    · exact absurd again enomem_fails.2
    · exact absurd again zero_not_eagain

/-- The footers are read from the transfer, which no chunk changes. -/
theorem chunk_footer (rx : RxState) (i : Nat) (io : ChunkIo) (offset : Nat) :
    getRxChunkFooter (processRxChunk rx i io).2 offset = getRxChunkFooter rx offset := by
  simp only [getRxChunkFooter, (chunk_kept rx i io).buffer]

/-- The credits left by the loop are those of one footer: the last one, unless
the loop was left there. -/
theorem chunks_credits (rx : RxState) (io : Nat → ChunkIo) (i left : Nat) (some_ : 0 < left) :
    ∃ k, k < left ∧
      (processRxChunks rx io i left).2.txCredits = number dataFooterTxCredits
        (getRxChunkFooter rx ((i + k) * chunkSize + chunkPayloadSize)) ∧
      (processRxChunks rx io i left).2.rxChunksAvailable = number dataFooterRxChunks
        (getRxChunkFooter rx ((i + k) * chunkSize + chunkPayloadSize)) ∧
      (k + 1 = left ∧ (processRxChunks rx io i left).1 = 0 ∨
        Fails (processRxChunks rx io i left).1 ∨
        (processRxChunks rx io i left).1 = -eagain ∧ (processRxChunks rx io i k).1 = 0 ∧
          asksRetry (getRxChunkFooter rx ((i + k) * chunkSize + chunkPayloadSize))
            (io (i + k)) = true) := by
  -- Along the loop: its head either ends it, and is the footer sought, or the rest has that footer.
  induction left generalizing rx i with
  | zero => exact absurd some_ (Nat.lt_irrefl 0)
  | succ left ih =>
      have credited := chunk_credits rx i (io i)
      simp only [processRxChunks]
      by_cases fine : (processRxChunk rx i (io i)).1 = 0
      · simp only [fine, ne_eq, not_true_eq_false, if_false]
        rcases Nat.eq_zero_or_pos left with rfl | more
        · exact ⟨0, by omega, credited.credits, credited.available, Or.inl ⟨rfl, rfl⟩⟩
        · obtain ⟨k, inside, credits, available, exit⟩ :=
            ih (processRxChunk rx i (io i)).2 (i + 1) more
          have position : i + 1 + k = i + (k + 1) := by omega
          rw [position] at credits available exit
          rw [chunk_footer] at credits available exit
          refine ⟨k + 1, by omega, credits, available, ?_⟩
          rcases exit with ⟨last, ended⟩ | failed | ⟨again, before, asks⟩
          · exact Or.inl ⟨by omega, ended⟩
          · exact Or.inr (Or.inl failed)
          · refine Or.inr (Or.inr ⟨again, ?_, asks⟩)
            simpa only [processRxChunks, fine, ne_eq, not_true_eq_false, if_false] using before
      · simp only [fine, ne_eq, not_false_eq_true, if_true]
        refine ⟨0, by omega, credited.credits, credited.available, Or.inr ?_⟩
        by_cases again : (processRxChunk rx i (io i)).1 = -eagain
        · exact Or.inr ⟨again, rfl, chunk_again rx i (io i) again⟩
        · exact Or.inl ⟨fine, again⟩

/-- The first of the chunks with an error has one that the driver does not retry. -/
def DeviceError (rx : RxState) (io : Nat → ChunkIo) (count : Nat) : Prop :=
  ∃ i < count, Fails (chunkRet (footerAt rx i) (io i)) ∧
    ∀ j < i, chunkRet (footerAt rx j) (io j) = 0

instance (rx : RxState) (io : Nat → ChunkIo) (count : Nat) : Decidable (DeviceError rx io count) :=
  inferInstanceAs (Decidable (∃ i < count, Fails (chunkRet (footerAt rx i) (io i)) ∧
    ∀ j < i, chunkRet (footerAt rx j) (io j) = 0))

theorem chunks_fail_iff (rx : RxState) (io : Nat → ChunkIo) (i left : Nat) :
    Fails (processRxChunks rx io i left).1 ↔
      ∃ k < left, Fails (chunkRet (footerAt rx (i + k)) (io (i + k))) ∧
        ∀ j < k, chunkRet (footerAt rx (i + j)) (io (i + j)) = 0 := by
  -- Along the loop: the chunk at its head ends it, or the first error is further on.
  induction left generalizing rx i with
  | zero => simp [processRxChunks, Fails]
  | succ left ih =>
      have ret := chunk_error rx i (io i)
      simp only [processRxChunks, ret, Nat.exists_lt_succ_left, Nat.forall_lt_succ_left,
        Nat.add_zero]
      by_cases passed : chunkRet (footerAt rx i) (io i) = 0
      · have same : ∀ slot, footerAt (processRxChunk rx i (io i)).2 slot = footerAt rx slot :=
          fun slot => chunk_footer rx i (io i) _
        have tail := ih (processRxChunk rx i (io i)).2 (i + 1)
        simp only [same, Nat.add_right_comm i 1] at tail
        simp only [passed, ne_eq, not_true_eq_false, if_false, tail]
        simp [Fails, Nat.add_assoc]
      · simp [passed]

theorem transfer_fails_iff (rx : RxState) (len : Nat) (io : Nat → ChunkIo) :
    Fails (processSpiDataRxBuf rx len io).1 ↔ DeviceError rx io (len / chunkSize) := by
  have whole := chunks_fail_iff rx io 0 (len / chunkSize)
  simp only [Nat.zero_add] at whole
  exact whole

end Lan865x.OaTc6
