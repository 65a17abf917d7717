import Mathlib.Order.MinMax
import Lan865x.TransmitBuild

/-!
The netdev queue. `oa_tc6_start_xmit` stops it when `waiting_tx_skb` is taken,
and the SPI thread wakes it behind a transfer that ended well. The invariant
says of a stopped queue that something will still bring the SPI thread to its
wake test.
-/

namespace Lan865x.OaTc6
open BitField Transition

/-- The queue is stopped, there is nothing to send, and the SPI thread blocks
with its condition false. -/
structure Stalled (d : Driver) : Prop where
  stopped : d.tc6.queueStopped = true
  noWaiting : d.tc6.tx.waitingTxSkb = none
  noOngoing : d.tc6.tx.ongoingTxSkb = none
  noInt : d.tc6.intFlag = false
  blocked : d.spi = .sleep ∧ d.woken = false

/-- The thread comes to its wake test, or to an error, before it waits again. A
thread that has ended is not waited for. -/
def SpiPc.wakeAhead (rxChunksAvailable : Nat) : SpiPc → Prop
  | .loopTop => 0 < rxChunksAvailable
  | .fillTx used => 0 < used ∨ 0 < rxChunksAvailable
  | .fillRx len => 0 < len ∨ 0 < rxChunksAvailable
  | .testInt len => 0 < len
  | .clearInt _ | .transfer _ | .process _ | .wakeTest | .wakeStopped | .wakeQueue => True
  | .prepare | .evalInt | .evalWaiting | .evalCredits | .sleep => False
  | .ended _ => True

instance (rxChunksAvailable : Nat) : (pc : SpiPc) → Decidable (pc.wakeAhead rxChunksAvailable)
  | .loopTop => inferInstanceAs (Decidable (0 < rxChunksAvailable))
  | .fillTx used => inferInstanceAs (Decidable (0 < used ∨ 0 < rxChunksAvailable))
  | .fillRx len => inferInstanceAs (Decidable (0 < len ∨ 0 < rxChunksAvailable))
  | .testInt len => inferInstanceAs (Decidable (0 < len))
  | .clearInt _ | .transfer _ | .process _ | .wakeTest | .wakeStopped | .wakeQueue => isTrue trivial
  | .prepare | .evalInt | .evalWaiting | .evalCredits | .sleep => isFalse id
  | .ended _ => isTrue trivial

/-- There is a frame to send or an interrupt to serve. -/
def Busy (tc6 : Tc6) : Prop :=
  tc6.tx.waitingTxSkb.isSome = true ∨ tc6.tx.ongoingTxSkb.isSome = true ∨ tc6.intFlag = true

instance (tc6 : Tc6) : Decidable (Busy tc6) :=
  inferInstanceAs (Decidable (_ ∨ _ ∨ _))

def Attended (d : Driver) : Prop :=
  Busy d.tc6 ∨ d.spi.wakeAhead d.tc6.rx.rxChunksAvailable

instance (d : Driver) : Decidable (Attended d) :=
  inferInstanceAs (Decidable (_ ∨ _))

def XmitPc.stopping : XmitPc → Bool
  | .stop => true
  | _ => false

def DriverAct.byXmit : DriverAct → Bool
  | .xmit _ => true
  | _ => false

/-- The queue is stopped only while the stop will be noticed, and the loop gives
up for a retry only if that leads to another transfer. -/
def Watchful (d : Driver) (act : DriverAct) : Prop :=
  (act.byXmit = true → d.xmit.stopping = true → Attended d) ∧
    ∀ io ∈ act.answers, ∀ len ∈ d.spi.processing, ∀ i < len / chunkSize,
      retriesAt d.tc6.rx io i = true → d.tc6.queueStopped = false ∨ Busy d.tc6 ∨
        0 < number dataFooterRxChunks
          (getRxChunkFooter d.tc6.rx (i * chunkSize + chunkPayloadSize))

instance (d : Driver) (act : DriverAct) : Decidable (Watchful d act) :=
  inferInstanceAs (Decidable (_ ∧ ∀ io ∈ act.answers, ∀ len ∈ d.spi.processing,
    ∀ i < len / chunkSize, retriesAt d.tc6.rx io i = true → _ ∨ _ ∨ _))

/-- A stop does not go unnoticed. -/
def Noticed (d : Driver) : Prop := d.tc6.queueStopped = true → Attended d

theorem noticed_not_stalled (d : Driver) (noticed : Noticed d) : ¬ Stalled d := by
  intro stalled
  rcases noticed stalled.stopped with busy | ahead
  · simp [Busy, stalled.noWaiting, stalled.noOngoing, stalled.noInt] at busy
  · simp [stalled.blocked.1, SpiPc.wakeAhead] at ahead

/-- What keeps the SPI thread busy is still there. -/
theorem noticed_busy (d after : Driver) (noticed : Noticed d)
    (stopped : after.tc6.queueStopped = d.tc6.queueStopped)
    (busy : Busy d.tc6 → Busy after.tc6)
    (ahead : d.spi.wakeAhead d.tc6.rx.rxChunksAvailable → Attended after) :
    Noticed after := by
  intro stop
  rcases noticed (stopped ▸ stop) with here | there
  · exact Or.inl (busy here)
  · exact ahead there

/-- The thread is bound for its wake test. -/
theorem noticed_ahead (after : Driver)
    (ahead : after.spi.wakeAhead after.tc6.rx.rxChunksAvailable) : Noticed after :=
  fun _ => Or.inr ahead

theorem dequeue_busy (tc6 : Tc6) (busy : Busy tc6) :
    Busy { tc6 with tx := dequeueTxSkb tc6.tx } := by
  cases ongoing : tc6.tx.ongoingTxSkb with
  | some skb => rwa [dequeue_held tc6.tx skb ongoing]
  | none =>
      rw [dequeue_idle tc6.tx ongoing]
      rcases busy with waiting | held | int
      · exact Or.inr (Or.inl waiting)
      · rw [ongoing] at held
        exact absurd held (by simp)
      · exact Or.inr (Or.inr int)

theorem padded_busy (tc6 : Tc6) (tx : TxState) (count total : Nat) (idle : List TxChunk)
    (padded : Padded tc6.tx tx count total idle) (busy : Busy tc6) :
    Busy { tc6 with tx := tx } := by
  simpa only [Busy, padded.kept.waiting, padded.kept.ongoing] using busy

theorem noticed_spi (d after : Driver) (sized : Sized 255 d) (noticed : Noticed d)
    (moved : d.Moves .spi after) : Noticed after := by
  have available := sized.available
  -- While the thread waits only a busy state can notice a stop; inside the loop it is the
  -- wake test, as soon as there is something to transfer.
  cases moved with
  | prepare pc => exact noticed_busy d _ noticed rfl id (by simp [pc, SpiPc.wakeAhead])
  | intSet pc int => exact fun _ => Or.inl (Or.inr (Or.inr int))
  | intClear pc int => exact noticed_busy d _ noticed rfl id (by simp [pc, SpiPc.wakeAhead])
  | waitingSome pc skb held => exact noticed_busy d _ noticed rfl id (by simp [pc, SpiPc.wakeAhead])
  | waitingNone pc empty => exact noticed_busy d _ noticed rfl id (by simp [pc, SpiPc.wakeAhead])
  | creditsSome pc credits => exact noticed_busy d _ noticed rfl id (by simp [pc, SpiPc.wakeAhead])
  | creditsNone pc credits => exact noticed_busy d _ noticed rfl id (by simp [pc, SpiPc.wakeAhead])
  | wakeUp pc woken => exact noticed_busy d _ noticed rfl id (by simp [pc, SpiPc.wakeAhead])
  | loopBusy pc busy =>
      exact noticed_busy d _ noticed rfl id fun ahead => Or.inr (by
        simpa [pc, SpiPc.wakeAhead, Driver.setTx] using ahead)
  | loopIdle pc noOngoing noWaiting =>
      exact noticed_busy d _ noticed rfl id fun ahead => Or.inr (by
        simpa [pc, SpiPc.wakeAhead, Driver.setTx] using ahead)
  | fillMore used pc credit skb held =>
      exact noticed_ahead _ (by simp [Driver.setTx, SpiPc.wakeAhead])
  | fillEmpty used pc credit empty =>
      obtain ⟨few, _⟩ := sized_filling 255 d sized used pc
      refine noticed_busy d _ noticed rfl (dequeue_busy d.tc6) fun ahead => Or.inr ?_
      simp only [Driver.setTx, to_u16_chunks used (by omega), SpiPc.wakeAhead]
      simpa [pc, SpiPc.wakeAhead, chunk_size] using ahead
  | fillFull used pc credit =>
      obtain ⟨few, _⟩ := sized_filling 255 d sized used pc
      refine noticed_busy d _ noticed rfl id fun ahead => Or.inr ?_
      simp only [to_u16_chunks used (by omega), SpiPc.wakeAhead]
      simpa [pc, SpiPc.wakeAhead, chunk_size] using ahead
  | fillRx len pc =>
      obtain ⟨count, few, rfl, offset⟩ := sized.filled len (by rw [pc]; rfl)
      obtain ⟨length, idle, padded⟩ :=
        prepare_for_rx_chunks d.tc6.tx d.tc6.rx.rxChunksAvailable count offset (by omega)
      refine noticed_busy d _ noticed rfl (padded_busy d.tc6 _ _ _ idle padded)
        fun ahead => Or.inr ?_
      simp only [Driver.setTx, length, SpiPc.wakeAhead]
      simpa [pc, SpiPc.wakeAhead, chunk_size, lt_max_iff] using ahead
  | testSet len pc int => exact noticed_ahead _ trivial
  | testDone pc int => exact noticed_busy d _ noticed rfl id (by simp [pc, SpiPc.wakeAhead])
  | testClear len pc int some_ => exact noticed_ahead _ trivial
  | clearEmpty pc => exact noticed_ahead _ trivial
  | clear len pc some_ => exact noticed_ahead _ trivial
  | wakeTestSome pc skb held => exact fun _ => Or.inl (Or.inl (by simp [held]))
  | wakeTestNone pc empty => exact noticed_ahead _ trivial
  | wakeStopped pc stopped => exact noticed_ahead _ trivial
  | wakeRunning pc running => exact fun stop => absurd (running.symm.trans stop) (by simp)
  | wakeQueue pc => exact fun stop => absurd stop (by simp)

/-- After a retry the loop goes on without a wake test. -/
theorem noticed_process (d after : Driver) (sized : Sized 255 d) (io : Nat → ChunkIo)
    (watchful : Watchful d (.process io)) (moved : d.Moves (.process io) after) :
    Noticed after := by
  cases moved with
  | processFine len pc io rx out => exact noticed_ahead _ trivial
  | processAgain len pc io rx out =>
      -- No wake test on this way out: the footer that was read last has to bring another transfer.
      intro stop
      obtain ⟨k, inside, _, available, exit⟩ :=
        chunks_credits d.tc6.rx io 0 (len / chunkSize) (sized.moving len (.inr pc))
      rw [processSpiDataRxBuf] at out
      rw [out, Nat.zero_add] at available exit
      obtain ⟨before, asks⟩ : (processRxChunks d.tc6.rx io 0 k).1 = 0 ∧
          asksRetry (getRxChunkFooter d.tc6.rx (k * chunkSize + chunkPayloadSize)) (io k) =
            true := by
        rcases exit with ⟨_, zero⟩ | failed | ⟨_, before, asks⟩
        · exact absurd zero.symm zero_not_eagain
        · exact absurd rfl failed.2
        · exact ⟨before, asks⟩
      rcases watchful.2 io rfl len (by rw [pc]; rfl) k inside (by simp [retriesAt, before, asks])
        with running | busy | more
      · exact absurd (running.symm.trans stop) (by simp)
      · exact Or.inl busy
      · exact Or.inr (available.symm ▸ more)
  | processFails len pc io rx ret fails out => exact noticed_ahead _ trivial

theorem noticed_xmit (d after : Driver) (noticed : Noticed d) (linearized : Bool)
    (watchful : Watchful d (.xmit linearized)) (moved : d.Moves (.xmit linearized) after) :
    Noticed after := by
  cases moved with
  | testBusy skb tsCaptureMode linearized pc other held => exact noticed
  | testFree skb tsCaptureMode linearized pc empty => exact noticed
  | stop linearized pc => exact fun _ => watchful.1 rfl (by rw [pc]; rfl)
  | linearized skb tsCaptureMode pc => exact noticed
  | linearizeFails skb tsCaptureMode pc => exact noticed
  | store skb tsCaptureMode linearized pc => exact fun _ => Or.inl (Or.inl rfl)
  | wake linearized pc => exact noticed

theorem noticed_moves (d after : Driver) (sized : Sized 255 d) (noticed : Noticed d)
    (act : DriverAct) (watchful : Watchful d act) (moved : d.Moves act after) :
    Noticed after := by
  cases act with
  | spi => exact noticed_spi d after sized noticed moved
  | exchange received => cases moved with | exchange => exact noticed_ahead _ trivial
  | exchangeFails ret => cases moved with | exchangeFails => exact noticed_ahead _ trivial
  | process io => exact noticed_process d after sized io watchful moved
  | offer skb tsCaptureMode => cases moved with | offer => exact noticed
  | xmit linearized => exact noticed_xmit d after noticed linearized watchful moved
  | interrupt => cases moved with | interrupt => exact fun _ => Or.inl (Or.inr (Or.inr rfl))
  | interruptWake => cases moved with | interruptWake => exact noticed

/-- In a run in which the queue is stopped and left only as above, it never stalls. -/
theorem transmit_queue_never_stalls {d : Driver}
    (reached : Reaches (driverMachine 255) Watchful d) : ¬ Stalled d := by
  refine noticed_not_stalled d (reached.strengthen (Sized 255) Noticed
    (fun _ earlier => sized_reached 255 (by decide) (by decide) earlier) ?_ ?_)
  · rintro d ⟨bufferStatus, mtu, rxFilter, rxBuffer, txBuffer, _, _, rfl⟩ stop
    exact absurd stop (by simp [initDriver])
  · intro before act after sized noticed watchful moved
    exact noticed_moves before after sized noticed act watchful
      (driver_moves before after act moved)

section Samples

/-- A frame is accepted while there is one credit; the next one finds the slot
taken. -/
def secondFrameRefused : List DriverAct :=
  .offer (sampleSkb 1 10 (by decide) (by decide)) 0 :: List.replicate 4 (.xmit true) ++
    [.offer (sampleSkb 2 10 (by decide) (by decide)) 0, .xmit true]

/-- The SPI thread sends the first frame and goes to sleep before the queue is
stopped. -/
def stoppedTooLate : Driver :=
  (driverMachine 255).after (sampleStart 0x100#32)
    (secondFrameRefused ++ List.replicate 9 .spi ++
      [.exchange [answer 0x20000002#32], .process fun _ => default] ++ List.replicate 8 .spi ++
      [.xmit true])

theorem transmit_queue_stalls :
    ¬ ∀ d, Reaches (driverMachine 255) anyStep d → ¬ Stalled d := by
  intro claimed
  refine claimed stoppedTooLate
    (reaches_after (sample_start _ _ (by decide) (by decide)) _ (allowed_any _ _ _)) ?_
  exact ⟨by decide +kernel, Option.isNone_iff_eq_none.mp (by decide +kernel),
    Option.isNone_iff_eq_none.mp (by decide +kernel), by decide +kernel, by decide +kernel⟩

/-- The queue is stopped first. -/
def stoppedInTime : Driver :=
  (driverMachine 255).after (sampleStart 0x100#32)
    (secondFrameRefused ++ [.xmit true] ++ List.replicate 9 .spi ++
      [.exchange [answer 0x20000002#32], .process fun _ => default] ++ List.replicate 9 .spi)

theorem transmit_queue_sample : ¬ Stalled stoppedInTime :=
  transmit_queue_never_stalls
    (reaches_after (sample_start _ _ (by decide) (by decide)) _ (by decide +kernel))

example : stoppedInTime.tc6.queueStopped = false ∧ stoppedInTime.spi = .sleep := by decide +kernel

end Samples

end Lan865x.OaTc6
