import Lan865x.SpiThread

/-!
How far the transmit buffer is built at each point of `oa_tc6_try_spi_transfer`:
`spi_len` and `spi_data_tx_buf_offset` agree, whole chunks lie below them, and
no counter leaves the range of its type.
-/

namespace Lan865x.OaTc6
open BitField Transition

/-- The bytes of the transfer that is being prepared. -/
def SpiPc.built : SpiPc → Option Nat
  | .fillTx used => some (used * chunkSize)
  | .fillRx len => some len
  | .testInt len => some len
  | .clearInt len => some len
  | .transfer len => some len
  | _ => none

/-- Its chunks. -/
def Driver.buffered (d : Driver) : List TxChunk :=
  match d.spi.built with
  | some len => spiChunks d.tc6.tx len
  | none => []

/-- The chunks with DV=1. -/
def dataChunks (chunks : List TxChunk) : Nat :=
  chunks.countP fun chunk => flag dataHeaderDataValid chunk.header

theorem data_chunks_idle (chunks idle : List TxChunk)
    (headers : ∀ chunk ∈ idle, chunk.header = idleHeader) :
    dataChunks (chunks ++ idle) = dataChunks chunks := by
  have silent : dataChunks idle = 0 := by
    refine List.countP_eq_zero.mpr fun chunk member => ?_
    rw [headers chunk member, idleHeader, header_data_valid]
    simp
  rw [dataChunks, List.countP_append, ← dataChunks, ← dataChunks, silent, Nat.add_zero]

theorem data_chunks_le (tx : TxState) (count : Nat) :
    dataChunks (spiChunks tx (count * chunkSize)) ≤ count := by
  apply (List.countP_le_length).trans
  simp [spiChunks, Nat.mul_div_cancel _ (by decide : 0 < chunkSize)]

theorem to_u16_chunks (count : Nat) (small : count < 900) :
    toU16 (count * chunkSize) = count * chunkSize := by
  simp only [toU16, chunk_size]
  omega

/-- No credit count exceeds `bound`, nor do the chunks of a transfer; those with
data do not exceed the credits. -/
structure Sized (bound : Nat) (d : Driver) : Prop where
  credits : d.tc6.rx.txCredits ≤ bound
  available : d.tc6.rx.rxChunksAvailable ≤ bound
  filled : ∀ len, d.spi.built = some len → ∃ count, count ≤ bound ∧ len = count * chunkSize ∧
    d.tc6.tx.spiDataTxBufOffset = count * chunkSize
  used : ∀ used, d.spi = .fillTx used → used ≤ d.tc6.rx.txCredits
  drawn : ∀ len, d.spi.built = some len → dataChunks (spiChunks d.tc6.tx len) ≤ d.tc6.rx.txCredits
  moving : ∀ len, d.spi = .transfer len ∨ d.spi = .process len → 0 < len / chunkSize

/-- The chunks of frames so far fill the buffer up to its offset. -/
theorem sized_filling (bound : Nat) (d : Driver) (sized : Sized bound d) (used : Nat)
    (pc : d.spi = .fillTx used) :
    used ≤ bound ∧ d.tc6.tx.spiDataTxBufOffset = used * chunkSize := by
  obtain ⟨count, few, length, offset⟩ := sized.filled (used * chunkSize) (by rw [pc]; rfl)
  obtain rfl : used = count := Nat.eq_of_mul_eq_mul_right (by decide) length
  exact ⟨few, offset⟩

theorem sized_init (bound : Nat) (d : Driver) (starts : (driverMachine bound).start d) :
    Sized bound d := by
  obtain ⟨bufferStatus, mtu, rxFilter, rxBuffer, txBuffer, credits, available, rfl⟩ := starts
  exact ⟨credits, available, by simp [initDriver, SpiPc.built], by simp [initDriver],
    by simp [initDriver, SpiPc.built], by simp [initDriver]⟩

/-- What the footers leave in the credits. -/
theorem process_credits_le (rx : RxState) (len : Nat) (io : Nat → ChunkIo)
    (some_ : 0 < len / chunkSize) :
    (processSpiDataRxBuf rx len io).2.txCredits ≤ 31 ∧
      (processSpiDataRxBuf rx len io).2.rxChunksAvailable ≤ 31 := by
  obtain ⟨k, _, credits, available, _⟩ := chunks_credits rx io 0 (len / chunkSize) some_
  rw [processSpiDataRxBuf, credits, available]
  have fewer : ∀ word, number dataFooterTxCredits word < 2 ^ 5 := number_lt _
  have fewerChunks : ∀ word, number dataFooterRxChunks word < 2 ^ 5 := number_lt _
  exact ⟨Nat.le_of_lt_succ (fewer _), Nat.le_of_lt_succ (fewerChunks _)⟩

theorem cleanup_rx_credits (rx : RxState) :
    (cleanupOngoingRxSkb rx).txCredits = rx.txCredits ∧
      (cleanupOngoingRxSkb rx).rxChunksAvailable = rx.rxChunksAvailable := by
  have kept := cleanup_kept rx
  exact ⟨kept.credits, kept.available⟩

theorem dequeue_offset (tx : TxState) :
    (dequeueTxSkb tx).spiDataTxBufOffset = tx.spiDataTxBufOffset ∧
      (dequeueTxSkb tx).spiDataTxBuf = tx.spiDataTxBuf := by
  cases ongoing : tx.ongoingTxSkb with
  | some skb => exact ⟨by rw [dequeue_held tx skb ongoing], by rw [dequeue_held tx skb ongoing]⟩
  | none => exact ⟨by rw [dequeue_idle tx ongoing], by rw [dequeue_idle tx ongoing]⟩

theorem add_tx_skb_offset (tx : TxState) (skb : Skb) (count : Nat)
    (filled : tx.spiDataTxBufOffset = count * chunkSize) (small : count < 900) :
    (addTxSkbToSpiBuf tx skb).spiDataTxBufOffset = (count + 1) * chunkSize := by
  simp only [addTxSkbToSpiBuf]
  split
  · exact put_offset _ count _ _ filled small
  · exact put_offset _ count _ _ filled small

section Steps
variable (bound : Nat)

/-- A step that leaves the credits alone and builds nothing. -/
theorem sized_idle (d after : Driver) (sized : Sized bound d) (credits : after.tc6.rx = d.tc6.rx)
    (built : after.spi.built = none) (still : ∀ len, after.spi ≠ .process len) :
    Sized bound after := by
  refine ⟨by rw [credits]; exact sized.credits, by rw [credits]; exact sized.available,
    by simp [built], ?_, by simp [built], ?_⟩
  · intro used pc
    rw [pc] at built
    exact absurd built (by simp [SpiPc.built])
  · rintro len (pc | pc)
    · rw [pc] at built
      exact absurd built (by simp [SpiPc.built])
    · exact absurd pc (still len)

/-- A step that leaves the credits alone and has built `count` chunks. -/
theorem sized_built (d after : Driver) (sized : Sized bound d) (credits : after.tc6.rx = d.tc6.rx)
    (count : Nat) (few : count ≤ bound) (built : after.spi.built = some (count * chunkSize))
    (offset : after.tc6.tx.spiDataTxBufOffset = count * chunkSize)
    (used : ∀ used, after.spi = .fillTx used → used ≤ d.tc6.rx.txCredits)
    (drawn : dataChunks (spiChunks after.tc6.tx (count * chunkSize)) ≤ d.tc6.rx.txCredits)
    (moving : ∀ len, after.spi = .transfer len → 0 < count) : Sized bound after := by
  refine ⟨by rw [credits]; exact sized.credits, by rw [credits]; exact sized.available, ?_,
    by rw [credits]; exact used, ?_, ?_⟩
  · intro len some_
    rw [built, Option.some.injEq] at some_
    exact ⟨count, few, some_.symm, offset⟩
  · intro len some_
    rw [built, Option.some.injEq] at some_
    rw [credits, ← some_]
    exact drawn
  · rintro len (pc | pc)
    · have len_ : count * chunkSize = len := by
        rw [pc] at built
        simpa [SpiPc.built] using built.symm
      rw [← len_, Nat.mul_div_cancel _ (by decide)]
      exact moving len pc
    · rw [pc] at built
      exact absurd built (by simp [SpiPc.built])

/-- A step of another party. -/
theorem sized_other (d after : Driver) (sized : Sized bound d) (rx : after.tc6.rx = d.tc6.rx)
    (spi : after.spi = d.spi) (buffer : after.tc6.tx.spiDataTxBuf = d.tc6.tx.spiDataTxBuf)
    (offset : after.tc6.tx.spiDataTxBufOffset = d.tc6.tx.spiDataTxBufOffset) : Sized bound after :=
  ⟨by rw [rx]; exact sized.credits, by rw [rx]; exact sized.available,
    by rw [spi, offset]; exact sized.filled, by rw [spi, rx]; exact sized.used,
    by simp only [spi, rx, spiChunks, buffer]; exact sized.drawn, by rw [spi]; exact sized.moving⟩

theorem sized_spi (small : bound ≤ 255) (positive : 1 ≤ bound) (d after : Driver)
    (sized : Sized bound d) (moved : d.Moves .spi after) : Sized bound after := by
  have credits := sized.credits
  have available := sized.available
  cases moved with
  | prepare pc => exact sized_idle bound d _ sized rfl rfl (by simp)
  | intSet pc int => exact sized_idle bound d _ sized rfl rfl (by simp)
  | intClear pc int => exact sized_idle bound d _ sized rfl rfl (by simp)
  | waitingSome pc skb held => exact sized_idle bound d _ sized rfl rfl (by simp)
  | waitingNone pc empty => exact sized_idle bound d _ sized rfl rfl (by simp)
  | creditsSome pc credits => exact sized_idle bound d _ sized rfl rfl (by simp)
  | creditsNone pc credits => exact sized_idle bound d _ sized rfl rfl (by simp)
  | wakeUp pc woken => exact sized_idle bound d _ sized rfl rfl (by simp)
  | loopBusy pc busy =>
      exact sized_built bound d _ sized rfl 0 (Nat.zero_le _) rfl (Nat.zero_mul _).symm
        (by simp [Driver.setTx]) (Nat.zero_le _) (by simp [Driver.setTx])
  | loopIdle pc noOngoing noWaiting =>
      exact sized_built bound d _ sized rfl 0 (Nat.zero_le _) rfl (Nat.zero_mul _).symm
        (by simp [Driver.setTx]) (Nat.zero_le _) (by simp [Driver.setTx])
  | fillMore used pc credit skb held =>
      -- The loop tested for a credit just before, so one more chunk is covered.
      obtain ⟨few, offset⟩ := sized_filling bound d sized used pc
      have grown := add_tx_skb_offset (dequeueTxSkb d.tc6.tx) skb used
        ((dequeue_offset d.tc6.tx).1.trans offset) (by omega)
      exact sized_built bound d _ sized rfl (used + 1) (by omega) rfl grown
        (by simp [Driver.setTx]; omega) ((data_chunks_le _ _).trans credit) (by simp [Driver.setTx])
  | fillEmpty used pc credit empty =>
      obtain ⟨few, offset⟩ := sized_filling bound d sized used pc
      have narrow := to_u16_chunks used (by omega)
      exact sized_built bound d _ sized rfl used few (congrArg some narrow)
        ((dequeue_offset d.tc6.tx).1.trans offset) (by simp [Driver.setTx])
        ((data_chunks_le _ _).trans (Nat.le_of_lt credit)) (by simp [Driver.setTx])
  | fillFull used pc credit =>
      obtain ⟨few, offset⟩ := sized_filling bound d sized used pc
      have narrow := to_u16_chunks used (by omega)
      exact sized_built bound d _ sized rfl used few (congrArg some narrow) offset (by simp)
        (sized.drawn _ (by rw [pc]; rfl)) (by simp)
  | fillRx len pc =>
      obtain ⟨count, few, rfl, offset⟩ := sized.filled len (by rw [pc]; rfl)
      obtain ⟨length, idle, padded⟩ :=
        prepare_for_rx_chunks d.tc6.tx d.tc6.rx.rxChunksAvailable count offset (by omega)
      refine sized_built bound d _ sized rfl (max count d.tc6.rx.rxChunksAvailable) (by omega)
        (congrArg some length) padded.filled (by simp [Driver.setTx]) ?_ (by simp [Driver.setTx])
      -- Empty chunks draw nothing.
      apply (congrArg dataChunks padded.grown).trans_le
      rw [data_chunks_idle _ _ padded.headers]
      exact sized.drawn _ (by rw [pc]; rfl)
  | testSet len pc int =>
      obtain ⟨count, few, rfl, offset⟩ := sized.filled len (by rw [pc]; rfl)
      exact sized_built bound d _ sized rfl count few rfl offset (by simp)
        (sized.drawn _ (by rw [pc]; rfl)) (by simp)
  | testDone pc int => exact sized_idle bound d _ sized rfl rfl (by simp)
  | testClear len pc int some_ =>
      obtain ⟨count, few, rfl, offset⟩ := sized.filled len (by rw [pc]; rfl)
      exact sized_built bound d _ sized rfl count few rfl offset (by simp)
        (sized.drawn _ (by rw [pc]; rfl))
        (fun _ _ => Nat.pos_of_mul_pos_right (Nat.pos_of_ne_zero some_))
  | clearEmpty pc =>
      obtain ⟨count, _, length, offset⟩ := sized.filled 0 (by rw [pc]; rfl)
      obtain rfl : 0 = count := by
        rw [chunk_size] at length
        omega
      obtain ⟨idle, padded⟩ := add_empty_chunks d.tc6.tx 0 1 offset (by omega)
      refine sized_built bound d _ sized rfl 1 positive rfl padded.filled (by simp [Driver.setTx])
        ?_ (fun _ _ => Nat.one_pos)
      apply (congrArg dataChunks padded.grown).trans_le
      rw [data_chunks_idle _ _ padded.headers]
      exact Nat.zero_le _
  | clear len pc some_ =>
      obtain ⟨count, few, rfl, offset⟩ := sized.filled len (by rw [pc]; rfl)
      exact sized_built bound d _ sized rfl count few rfl offset (by simp)
        (sized.drawn _ (by rw [pc]; rfl))
        (fun _ _ => Nat.pos_of_mul_pos_right (Nat.pos_of_ne_zero some_))
  | wakeTestSome pc skb held => exact sized_idle bound d _ sized rfl rfl (by simp)
  | wakeTestNone pc empty => exact sized_idle bound d _ sized rfl rfl (by simp)
  | wakeStopped pc stopped => exact sized_idle bound d _ sized rfl rfl (by simp)
  | wakeRunning pc running => exact sized_idle bound d _ sized rfl rfl (by simp)
  | wakeQueue pc => exact sized_idle bound d _ sized rfl rfl (by simp)

/-- Whatever the footers say, the new credits stay within the field. -/
theorem sized_processed (wide : 31 ≤ bound) (d after : Driver) (sized : Sized bound d) (len : Nat)
    (pc : d.spi = .process len) (io : Nat → ChunkIo)
    (credits : after.tc6.rx.txCredits = (processSpiDataRxBuf d.tc6.rx len io).2.txCredits)
    (available : after.tc6.rx.rxChunksAvailable =
      (processSpiDataRxBuf d.tc6.rx len io).2.rxChunksAvailable)
    (built : after.spi.built = none) (still : ∀ len, after.spi ≠ .process len) :
    Sized bound after := by
  obtain ⟨fewer, fewerChunks⟩ := process_credits_le d.tc6.rx len io (sized.moving len (.inr pc))
  refine ⟨by omega, by omega, by simp [built], ?_, by simp [built], ?_⟩
  · intro used pc
    rw [pc] at built
    exact absurd built (by simp [SpiPc.built])
  · rintro len (pc | pc)
    · rw [pc] at built
      exact absurd built (by simp [SpiPc.built])
    · exact absurd pc (still len)

theorem sized_moves (wide : 31 ≤ bound) (small : bound ≤ 255) (d after : Driver) (act : DriverAct)
    (sized : Sized bound d) (moved : d.Moves act after) : Sized bound after := by
  cases act with
  | spi => exact sized_spi bound small (by omega) d after sized moved
  | exchange received =>
      cases moved with
      | exchange len pc received whole =>
          refine ⟨sized.credits, sized.available, by simp [SpiPc.built], by simp,
            by simp [SpiPc.built], ?_⟩
          rintro other (moving | moving)
          · exact absurd moving (by simp)
          · obtain rfl : len = other := by simpa using moving
            exact sized.moving len (.inl pc)
  | exchangeFails ret =>
      cases moved with
      | exchangeFails len pc ret failed => exact sized_idle bound d _ sized rfl rfl (by simp)
  | process io =>
      cases moved with
      | processFine len pc io rx out =>
          exact sized_processed bound wide d _ sized len pc io (by rw [out]) (by rw [out]) rfl
            (by simp)
      | processAgain len pc io rx out =>
          exact sized_processed bound wide d _ sized len pc io (by rw [out]) (by rw [out]) rfl
            (by simp)
      | processFails len pc io rx ret fails out =>
          obtain ⟨credits, available⟩ := cleanup_rx_credits rx
          exact sized_processed bound wide d _ sized len pc io (by rw [out]; exact credits)
            (by rw [out]; exact available) rfl (by simp)
  | offer skb tsCaptureMode =>
      cases moved with
      | offer skb tsCaptureMode pc => exact sized_other bound d _ sized rfl rfl rfl rfl
  | xmit linearized =>
      cases moved <;> exact sized_other bound d _ sized rfl rfl rfl rfl
  | interrupt =>
      cases moved with
      | interrupt pc => exact sized_other bound d _ sized rfl rfl rfl rfl
  | interruptWake =>
      cases moved with
      | interruptWake pc => exact sized_other bound d _ sized rfl rfl rfl rfl

theorem sized_reached (wide : 31 ≤ bound) (small : bound ≤ 255)
    {ok : Driver → DriverAct → Prop} {d : Driver} (reached : Reaches (driverMachine bound) ok d) :
    Sized bound d :=
  reached.invariant (Sized bound) (sized_init bound) fun before act after sized _ moved =>
    sized_moves bound wide small before after act sized (driver_moves before after act moved)
end Steps

/-- No transfer is longer than the buffers. -/
theorem transfer_fits {ok : Driver → DriverAct → Prop} {d : Driver} (len : Nat)
    (reached : Reaches (driverMachine maxTxChunks) ok d) (built : d.spi.built = some len) :
    len ≤ spiDataBufSize := by
  obtain ⟨count, few, rfl, _⟩ :=
    (sized_reached maxTxChunks (by decide) (by decide) reached).filled len built
  exact Nat.mul_le_mul_right chunkSize few

end Lan865x.OaTc6
