import Lan865x.TransmitBuild

/-!
The cursor into `ongoing_tx_skb`. The pointer, `tx_skb_offset` and
`ongoing_tx_ts_capture_mode` belong together: the next frame is sent from its first byte
because the last one left the other two at 0. `oa_tc6_add_tx_skb_to_spi_buf` sees to that
at the end of a frame; `oa_tc6_cleanup_ongoing_tx_skb` takes only the pointer away.
-/

namespace Lan865x.OaTc6
open BitField Memory Transition

/-- The chunk that the SPI thread writes when it takes the skb over. -/
def firstChunk (tx : TxState) (skb : Skb) : TxChunk :=
  (addTxSkbToSpiBuf (dequeueTxSkb tx) skb).spiDataTxBuf (tx.spiDataTxBufOffset / chunkSize)

/-- The chunk starts the frame, with its first bytes. -/
structure FromFirstByte (skb : Skb) (chunk : TxChunk) : Prop where
  dataValid : flag dataHeaderDataValid chunk.header = true
  startValid : flag dataHeaderStartValid chunk.header = true
  bytes : cellsAt chunk.payload 0 (min skb.data.length chunkPayloadSize) =
    skb.data.take chunkPayloadSize

structure CursorSound (tx : TxState) : Prop where
  idle : tx.ongoingTxSkb = none → tx.txSkbOffset = 0 ∧ tx.ongoingTxTsCaptureMode = 0
  inside : ∀ skb, tx.ongoingTxSkb = some skb →
    chunkPayloadSize ∣ tx.txSkbOffset ∧ tx.txSkbOffset < skb.data.length
  fresh : tx.ongoingTxSkb = none → ∀ skb, tx.waitingTxSkb = some skb →
    FromFirstByte skb (firstChunk tx skb)

/-- The cursor is sound in every state of a run. -/
def SoundThroughout (bound : Nat) (d : Driver) (acts : List DriverAct) : Prop :=
  ∀ state ∈ (driverMachine bound).visited d acts, CursorSound state.tc6.tx

/-- The step processes the footers of a transfer and finds a device error in them. -/
def DeviceFails (d : Driver) (act : DriverAct) : Prop :=
  ∃ io ∈ act.answers, ∃ len ∈ d.spi.processing, DeviceError d.tc6.rx io (len / chunkSize)

instance (d : Driver) (act : DriverAct) : Decidable (DeviceFails d act) :=
  inferInstanceAs (Decidable (∃ io ∈ act.answers, ∃ len ∈ d.spi.processing,
    DeviceError d.tc6.rx io (len / chunkSize)))

/-- No device error is found while a frame is sent in part. -/
def SparesFrame (d : Driver) (act : DriverAct) : Prop :=
  DeviceFails d act → d.tc6.tx.ongoingTxSkb = none

instance (d : Driver) (act : DriverAct) : Decidable (SparesFrame d act) :=
  inferInstanceAs (Decidable (_ → _))

/-- What a step can do to the transmit side, a device error apart. -/
inductive TxMoves (tx : TxState) : TxState → Prop where
  | kept (after : TxState) (same : TxKept tx after) : TxMoves tx after
  | filled (skb : Skb) (held : (dequeueTxSkb tx).ongoingTxSkb = some skb) :
      TxMoves tx (addTxSkbToSpiBuf (dequeueTxSkb tx) skb)
  | drained (empty : (dequeueTxSkb tx).ongoingTxSkb = none) : TxMoves tx (dequeueTxSkb tx)
  | stored (skb : Skb) (tsCaptureMode : Nat) : TxMoves tx { tx with
      waitingTxSkb := some skb
      waitingTxTsCaptureMode := tsCaptureMode }

/-- A mode waits only with its skb, and with the pointer to an skb goes its first chunk. -/
structure SlotsPaired (tx : TxState) : Prop where
  waiting : tx.waitingTxSkb = none → tx.waitingTxTsCaptureMode = 0
  begun : ∀ skb, tx.ongoingTxSkb = some skb → tx.txSkbOffset ≠ 0

theorem silent_fine (d : Driver) (act : DriverAct) (silent : act.answers = none) :
    ¬ DeviceFails d act := by
  rintro ⟨io, answers, _⟩
  rw [silent] at answers
  exact absurd answers (by simp)

theorem process_fails_iff (d : Driver) (len : Nat) (pc : d.spi = .process len)
    (io : Nat → ChunkIo) (ret : Int) (rx : RxState)
    (out : processSpiDataRxBuf d.tc6.rx len io = (ret, rx)) :
    DeviceFails d (.process io) ↔ Fails ret := by
  have fails := transfer_fails_iff d.tc6.rx len io
  rw [out] at fails
  simp [DeviceFails, DriverAct.answers, SpiPc.processing, pc, fails]

/-- Either a device error is found and the frame is dropped, or the step is one of the
above. -/
theorem tx_moves (d after : Driver) (act : DriverAct) (moved : d.Moves act after) :
    (¬ DeviceFails d act ∧ TxMoves d.tc6.tx after.tc6.tx) ∨
      (DeviceFails d act ∧ after.tc6.tx = cleanupOngoingTxSkb d.tc6.tx) := by
  cases moved with
  | processFine len pc io rx out =>
      refine Or.inl ⟨fun fails => ?_, .kept _ (TxKept.refl _)⟩
      exact ((process_fails_iff d len pc io 0 rx out).mp fails).1 rfl
  | processAgain len pc io rx out =>
      refine Or.inl ⟨fun fails => ?_, .kept _ (TxKept.refl _)⟩
      exact ((process_fails_iff d len pc io _ rx out).mp fails).2 rfl
  | processFails len pc io rx ret fails out =>
      exact Or.inr ⟨(process_fails_iff d len pc io ret rx out).mpr fails, rfl⟩
  | fillMore used pc credit skb held => exact Or.inl ⟨silent_fine d _ rfl, .filled skb held⟩
  | fillEmpty used pc credit empty => exact Or.inl ⟨silent_fine d _ rfl, .drained empty⟩
  | fillRx len pc => exact Or.inl ⟨silent_fine d _ rfl, .kept _ (rx_chunks_kept _ _ _)⟩
  | clearEmpty pc => exact Or.inl ⟨silent_fine d _ rfl, .kept _ (empty_chunks_kept _ _)⟩
  | store skb tsCaptureMode linearized pc =>
      exact Or.inl ⟨silent_fine d _ rfl, .stored skb tsCaptureMode⟩
  | _ => exact Or.inl ⟨silent_fine d _ rfl, .kept _ ⟨rfl, rfl, rfl, rfl, rfl⟩⟩

/-! What the operations do to the cursor. -/

/-- Whatever `oa_tc6_add_tx_skb_to_spi_buf` writes, SV says whether the chunk is the first. -/
theorem added_chunk (tx : TxState) (skb : Skb) (inside : tx.txSkbOffset < skb.data.length) :
    ∃ header, (addTxSkbToSpiBuf tx skb).spiDataTxBuf (tx.spiDataTxBufOffset / chunkSize) =
        ⟨header, copyPayload tx skb⟩ ∧
      flag dataHeaderDataValid header = true ∧
      flag dataHeaderStartValid header = decide (tx.txSkbOffset = 0) := by
  by_cases ends : tx.txSkbOffset + copyLength tx skb = skb.data.length
  · refine ⟨endHeader tx skb, ?_, header_data_valid _ _ _ _ _, header_start_valid _ _ _ _ _⟩
    rw [add_tx_skb_end tx skb inside ends]
    exact put_written _ _ _
  · refine ⟨moreHeader tx, ?_, header_data_valid _ _ _ _ _, header_start_valid _ _ _ _ _⟩
    rw [(add_tx_skb_more tx skb inside ends).1]
    exact put_written _ _ _

/-- With the cursor at 0 the next frame is sent from its first byte. -/
theorem first_chunk_fresh (tx : TxState) (skb : Skb) (idle : tx.ongoingTxSkb = none)
    (first : tx.txSkbOffset = 0) : FromFirstByte skb (firstChunk tx skb) := by
  have cursor : (dequeueTxSkb tx).txSkbOffset = 0 := by rw [dequeue_idle tx idle, first]
  have inside : (dequeueTxSkb tx).txSkbOffset < skb.data.length := by
    rw [cursor]
    exact skb.nonempty
  obtain ⟨header, written, dataValid, startValid⟩ := added_chunk (dequeueTxSkb tx) skb inside
  rw [(dequeue_offset tx).1] at written
  rw [firstChunk, written]
  refine ⟨dataValid, by rw [startValid, cursor]; rfl, ?_⟩
  have copied := copied_cells (dequeueTxSkb tx) skb inside
  rw [copyLength, cursor, Nat.sub_zero, List.drop_zero] at copied
  rw [copied, List.take_eq_take_iff]
  omega

/-- The third part follows from the first. -/
theorem cursor_sound (tx : TxState)
    (idle : tx.ongoingTxSkb = none → tx.txSkbOffset = 0 ∧ tx.ongoingTxTsCaptureMode = 0)
    (inside : ∀ skb, tx.ongoingTxSkb = some skb →
      chunkPayloadSize ∣ tx.txSkbOffset ∧ tx.txSkbOffset < skb.data.length) : CursorSound tx :=
  ⟨idle, inside, fun free skb _ => first_chunk_fresh tx skb free (idle free).1⟩

theorem sound_kept (tx after : TxState) (same : TxKept tx after) (sound : CursorSound tx) :
    CursorSound after := by
  apply cursor_sound
  · rw [same.ongoing, same.cursor, same.ongoingMode]
    exact sound.idle
  · rw [same.ongoing, same.cursor]
    exact sound.inside

theorem sound_dequeue (tx : TxState) (paired : SlotsPaired tx) (sound : CursorSound tx) :
    CursorSound (dequeueTxSkb tx) := by
  cases held : tx.ongoingTxSkb with
  | some skb => rwa [dequeue_held tx skb held]
  | none =>
      obtain ⟨first, _⟩ := sound.idle held
      rw [dequeue_idle tx held]
      apply cursor_sound
      · exact fun empty => ⟨first, paired.waiting empty⟩
      · intro skb _
        simp only [first]
        exact ⟨Nat.dvd_zero _, skb.nonempty⟩

theorem sound_add (tx : TxState) (skb : Skb) (held : tx.ongoingTxSkb = some skb)
    (sound : CursorSound tx) : CursorSound (addTxSkbToSpiBuf tx skb) := by
  obtain ⟨aligned, inside⟩ := sound.inside skb held
  by_cases ends : tx.txSkbOffset + copyLength tx skb = skb.data.length
  · rw [add_tx_skb_end tx skb inside ends]
    exact sound_kept _ _ (put_kept _ _ _) (cursor_sound _ (fun _ => ⟨rfl, rfl⟩) (by simp))
  · obtain ⟨added, _, within⟩ := add_tx_skb_more tx skb inside ends
    rw [added]
    apply sound_kept _ _ (put_kept _ _ _)
    apply cursor_sound
    · simp [held]
    · simp only [held, Option.some.injEq]
      rintro _ rfl
      exact ⟨Nat.dvd_add aligned (Nat.dvd_refl 64), within⟩

theorem sound_stored (tx : TxState) (skb : Skb) (tsCaptureMode : Nat) (sound : CursorSound tx) :
    CursorSound { tx with
      waitingTxSkb := some skb
      waitingTxTsCaptureMode := tsCaptureMode } :=
  cursor_sound _ sound.idle sound.inside

theorem sound_moves (tx after : TxState) (paired : SlotsPaired tx) (sound : CursorSound tx)
    (moved : TxMoves tx after) : CursorSound after := by
  cases moved with
  | kept _ same => exact sound_kept tx after same sound
  | filled skb held => exact sound_add _ skb held (sound_dequeue tx paired sound)
  | drained empty => exact sound_dequeue tx paired sound
  | stored skb tsCaptureMode => exact sound_stored tx skb tsCaptureMode sound

/-- The clean-up leaves the cursor where it was, so it must have no frame to drop. -/
theorem sound_cleanup_iff (tx : TxState) (paired : SlotsPaired tx) (sound : CursorSound tx) :
    CursorSound (cleanupOngoingTxSkb tx) ↔ tx.ongoingTxSkb = none := by
  cases held : tx.ongoingTxSkb with
  | none => simp [cleanup_tx_none tx held, sound]
  | some skb =>
      rw [cleanup_tx_some tx skb held]
      refine iff_of_false (fun still => ?_) (by simp)
      exact paired.begun skb held (still.idle rfl).1

theorem paired_dequeue (tx : TxState) (paired : SlotsPaired tx) :
    (dequeueTxSkb tx).waitingTxSkb = none → (dequeueTxSkb tx).waitingTxTsCaptureMode = 0 := by
  cases held : tx.ongoingTxSkb with
  | some skb =>
      rw [dequeue_held tx skb held]
      exact paired.waiting
  | none =>
      rw [dequeue_idle tx held]
      exact fun _ => rfl

theorem paired_add (tx : TxState) (skb : Skb) (held : tx.ongoingTxSkb = some skb)
    (sound : CursorSound tx)
    (waiting : tx.waitingTxSkb = none → tx.waitingTxTsCaptureMode = 0) :
    SlotsPaired (addTxSkbToSpiBuf tx skb) := by
  obtain ⟨_, inside⟩ := sound.inside skb held
  by_cases ends : tx.txSkbOffset + copyLength tx skb = skb.data.length
  · rw [add_tx_skb_end tx skb inside ends]
    exact ⟨waiting, by simp [putChunk]⟩
  · rw [(add_tx_skb_more tx skb inside ends).1]
    exact ⟨waiting, by simp [putChunk]⟩

theorem paired_moves (tx after : TxState) (paired : SlotsPaired tx) (sound : CursorSound tx)
    (moved : TxMoves tx after) : SlotsPaired after := by
  cases moved with
  | kept _ same =>
      refine ⟨?_, ?_⟩
      · rw [same.waiting, same.waitingMode]
        exact paired.waiting
      · rw [same.ongoing, same.cursor]
        exact paired.begun
  | filled skb held =>
      exact paired_add _ skb held (sound_dequeue tx paired sound) (paired_dequeue tx paired)
  | drained empty => exact ⟨paired_dequeue tx paired, by simp [empty]⟩
  | stored skb tsCaptureMode => exact ⟨by simp, paired.begun⟩

theorem paired_cleanup (tx : TxState) (paired : SlotsPaired tx) :
    SlotsPaired (cleanupOngoingTxSkb tx) := by
  cases held : tx.ongoingTxSkb with
  | none => rwa [cleanup_tx_none tx held]
  | some skb =>
      rw [cleanup_tx_some tx skb held]
      exact ⟨paired.waiting, by simp⟩

section Steps
variable (d after : Driver) (act : DriverAct) (paired : SlotsPaired d.tc6.tx)
  (sound : CursorSound d.tc6.tx) (moved : d.Moves act after)
include paired sound moved

theorem paired_step : SlotsPaired after.tc6.tx := by
  rcases tx_moves d after act moved with ⟨_, moves⟩ | ⟨_, dropped⟩
  · exact paired_moves d.tc6.tx after.tc6.tx paired sound moves
  · rw [dropped]
    exact paired_cleanup d.tc6.tx paired

/-- A step loses the cursor exactly when it drops a frame. -/
theorem cursor_step : CursorSound after.tc6.tx ↔ SparesFrame d act := by
  rcases tx_moves d after act moved with ⟨fine, moves⟩ | ⟨fails, dropped⟩
  · have kept := sound_moves d.tc6.tx after.tc6.tx paired sound moves
    exact iff_of_true kept fun fails => absurd fails fine
  · rw [dropped, sound_cleanup_iff d.tc6.tx paired sound]
    exact ⟨fun empty _ => empty, fun spares => spares fails⟩

end Steps

theorem cursor_init (bound : Nat) (d : Driver) (starts : (driverMachine bound).start d) :
    SlotsPaired d.tc6.tx ∧ CursorSound d.tc6.tx := by
  obtain ⟨bufferStatus, mtu, rxFilter, rxBuffer, txBuffer, _, _, rfl⟩ := starts
  refine ⟨⟨fun _ => rfl, by simp [initDriver, initTx]⟩, ?_⟩
  exact cursor_sound _ (fun _ => ⟨rfl, rfl⟩) (by simp [initDriver, initTx])

/-- A step that is not possible finds no device error either. -/
theorem refused_spares (d : Driver) (act : DriverAct) (refused : d.next act = none) :
    SparesFrame d act := by
  rintro ⟨io, answers, len, processing, _⟩
  cases act with
  | process io =>
      cases pc : d.spi with
      | process len =>
          simp only [Driver.next, Driver.processNext, pc] at refused
          split at refused
          · exact absurd refused (by simp)
          · split at refused <;> exact absurd refused (by simp)
      | _ =>
          rw [pc] at processing
          exact absurd processing (by simp [SpiPc.processing])
  | _ => exact absurd answers (by simp [DriverAct.answers])

/-- The cursor is sound in every state of a run if and only if no device error of the run
is found while a frame is sent in part. -/
theorem tx_cursor_sound_iff (bound : Nat) (d : Driver) (starts : (driverMachine bound).start d)
    (acts : List DriverAct) :
    SoundThroughout bound d acts ↔ (driverMachine bound).Allowed SparesFrame d acts := by
  obtain ⟨paired, sound⟩ := cursor_init bound d starts
  refine visited_iff_allowed (fun d => SlotsPaired d.tc6.tx) (fun d => CursorSound d.tc6.tx)
    ?_ ?_ ?_ d paired sound acts
  · intro before act after paired sound moved
    exact paired_step before after act paired sound (driver_moves before after act moved)
  · intro before act after paired sound moved
    exact cursor_step before after act paired sound (driver_moves before after act moved)
  · exact refused_spares

section Samples

/-- A frame of 100 bytes is accepted, and its first chunk sent with the only credit. -/
def firstChunkSent : List DriverAct :=
  .offer (sampleSkb 1 100 (by decide) (by decide)) 1 :: List.replicate 4 (.xmit true) ++
    List.replicate 9 .spi

/-- The rest of it is sent with the credit of the first footer; the second one has SYNC=0. -/
def errorBehindFrame : List DriverAct :=
  firstChunkSent ++ [.exchange [answer 0x20000002#32], .process fun _ => default] ++
    List.replicate 7 .spi ++ [.exchange [answer 0#32], .process fun _ => default]

theorem tx_cursor_sound_sample :
    SoundThroughout 255 (sampleStart 0x100#32) errorBehindFrame :=
  (tx_cursor_sound_iff 255 _ (sample_start _ _ (by decide) (by decide)) errorBehindFrame).mpr
    (by decide +kernel)

/-- The first footer has SYNC=0. -/
def frameDropped : Driver :=
  (driverMachine 255).after (sampleStart 0x100#32)
    (firstChunkSent ++ [.exchange [answer 0#32], .process fun _ => default])

theorem tx_cursor_left_behind :
    ¬ ∀ d, Reaches (driverMachine 255) anyStep d → CursorSound d.tc6.tx := by
  intro claimed
  have sound := claimed frameDropped
    (reaches_after (sample_start _ _ (by decide) (by decide)) _ (allowed_any _ _ _))
  have dropped : frameDropped.tc6.tx.ongoingTxSkb.isNone = true := by decide +kernel
  have first := (sound.idle (Option.isNone_iff_eq_none.mp dropped)).1
  have behind : frameDropped.tc6.tx.txSkbOffset = 64 := by decide +kernel
  omega

end Samples

end Lan865x.OaTc6
