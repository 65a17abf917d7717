import Lan865x.TransmitBuild

/-!
The length of an SPI data transfer: how `spi_len`, `spi_data_tx_buf_offset` and
the chunks with data go together when `oa_tc6_spi_transfer` is called, and which
values of BUFFER_STATUS keep all transfers inside the two buffers.
-/

namespace Lan865x.OaTc6
open BitField Transition

/-- The driver as it comes up with this value of BUFFER_STATUS. -/
def bootMachine (bufferStatus : BitVec 32) : Machine Driver DriverAct where
  start d := ∃ mtu rxFilter rxBuffer txBuffer,
    d = initDriver bufferStatus mtu rxFilter rxBuffer txBuffer
  next := Driver.next

theorem boot_reaches (bufferStatus : BitVec 32) (limit : Nat)
    (credits : number bufferStatusTxCreditsAvailable bufferStatus ≤ limit)
    (available : number bufferStatusRxChunksAvailable bufferStatus ≤ limit)
    {ok : Driver → DriverAct → Prop} {d : Driver}
    (reached : Reaches (bootMachine bufferStatus) ok d) :
    Reaches (driverMachine limit) ok d := by
  apply reached.widen
  · rintro state ⟨mtu, rxFilter, rxBuffer, txBuffer, rfl⟩
    exact ⟨bufferStatus, mtu, rxFilter, rxBuffer, txBuffer, credits, available, rfl⟩
  · rfl

/-- `oa_tc6_spi_transfer` is called with `len` in the step from `d` to `after`:
every chunk has been written in this iteration, and the length is the exact one. -/
structure TransferBuilt (d after : Driver) (len : Nat) : Prop where
  written : after.tc6.tx.spiDataTxBufOffset = len
  length : len = chunkSize *
      max (dataChunks (spiChunks after.tc6.tx len)) after.tc6.rx.rxChunksAvailable ∨
    dataChunks (spiChunks after.tc6.tx len) = 0 ∧ after.tc6.rx.rxChunksAvailable = 0 ∧
      d.tc6.intFlag = true ∧ len = chunkSize

/-- What is built lies inside `spi_data_tx_buf`, as does what is received inside
`spi_data_rx_buf`, which has the same size. -/
structure WellBuilt (d : Driver) : Prop where
  inside : ∀ len, d.spi.built = some len → len ≤ spiDataBufSize
  started : ∀ after len, d.spiNext = some after → after.spi = .transfer len →
    TransferBuilt d after len

/-- The chunks with data so far are all there are until the transfer is padded. -/
structure Counted (d : Driver) : Prop where
  filling : ∀ used, d.spi = .fillTx used → dataChunks (spiChunks d.tc6.tx (used * chunkSize)) = used
  filled : ∀ len, d.spi = .fillRx len → dataChunks (spiChunks d.tc6.tx len) = len / chunkSize
  padded : ∀ len, d.spi = .testInt len ∨ d.spi = .clearInt len →
    len = chunkSize * max (dataChunks (spiChunks d.tc6.tx len)) d.tc6.rx.rxChunksAvailable
  flagged : ∀ len, d.spi = .clearInt len → d.tc6.intFlag = true

theorem data_chunks_snoc (chunks : List TxChunk) (chunk : TxChunk)
    (valid : flag dataHeaderDataValid chunk.header = true) :
    dataChunks (chunks ++ [chunk]) = dataChunks chunks + 1 := by
  simp [dataChunks, valid]

theorem put_data (tx : TxState) (count : Nat) (header : BitVec 32) (payload : Nat → UInt8)
    (filled : tx.spiDataTxBufOffset = count * chunkSize)
    (valid : flag dataHeaderDataValid header = true) :
    dataChunks (spiChunks (putChunk tx header payload) ((count + 1) * chunkSize)) =
      dataChunks (spiChunks tx (count * chunkSize)) + 1 := by
  rw [spi_chunks_put tx count header payload filled, data_chunks_snoc _ ⟨header, payload⟩ valid]

theorem spi_chunks_buffer (tx other : TxState) (same : other.spiDataTxBuf = tx.spiDataTxBuf)
    (len : Nat) : spiChunks other len = spiChunks tx len := by
  rw [spiChunks, same, spiChunks]

/-- A chunk of an skb has DV=1, wherever in the frame it lies. -/
theorem add_tx_skb_data (tx : TxState) (skb : Skb) (count : Nat)
    (filled : tx.spiDataTxBufOffset = count * chunkSize) :
    dataChunks (spiChunks (addTxSkbToSpiBuf tx skb) ((count + 1) * chunkSize)) =
      dataChunks (spiChunks tx (count * chunkSize)) + 1 := by
  simp only [addTxSkbToSpiBuf]
  split
  · rw [put_data _ count _ _ (by exact filled) (header_data_valid _ _ _ _ _)]
    exact congrArg (dataChunks · + 1) (spi_chunks_buffer tx _ rfl _)
  · rw [put_data _ count _ _ (by exact filled) (header_data_valid _ _ _ _ _)]
    exact congrArg (dataChunks · + 1) (spi_chunks_buffer tx _ rfl _)

theorem counted_init (bound : Nat) (d : Driver) (starts : (driverMachine bound).start d) :
    Counted d := by
  obtain ⟨bufferStatus, mtu, rxFilter, rxBuffer, txBuffer, _, _, rfl⟩ := starts
  constructor <;> simp [initDriver]

/-- A step that leads out of the preparation of a transfer. -/
theorem counted_idle (after : Driver) (built : after.spi.built = none) : Counted after := by
  constructor
  · intro used pc
    simp [pc, SpiPc.built] at built
  · intro len pc
    simp [pc, SpiPc.built] at built
  · rintro len (pc | pc) <;> simp [pc, SpiPc.built] at built
  · intro len pc
    simp [pc, SpiPc.built] at built

/-- A step of another party: at most `int_flag` is set. -/
theorem counted_other (d after : Driver) (counted : Counted d) (spi : after.spi = d.spi)
    (buffer : after.tc6.tx.spiDataTxBuf = d.tc6.tx.spiDataTxBuf) (rx : after.tc6.rx = d.tc6.rx)
    (flag : d.tc6.intFlag = true → after.tc6.intFlag = true) : Counted after := by
  constructor
  · simp only [spi, spiChunks, buffer]
    exact counted.filling
  · simp only [spi, spiChunks, buffer]
    exact counted.filled
  · simp only [spi, spiChunks, buffer, rx]
    exact counted.padded
  · intro len pc
    exact flag (counted.flagged len (spi ▸ pc))

theorem counted_spi (bound : Nat) (small : bound ≤ 255) (d after : Driver) (sized : Sized bound d)
    (counted : Counted d) (moved : d.Moves .spi after) : Counted after := by
  have available := sized.available
  have buffer := (dequeue_offset d.tc6.tx).2
  cases moved with
  | loopBusy pc busy =>
      constructor
      · intro used next
        obtain rfl : 0 = used := by simpa [Driver.setTx] using next
        rfl
      all_goals simp [Driver.setTx]
  | loopIdle pc noOngoing noWaiting =>
      constructor
      · simp [Driver.setTx]
      · intro len next
        obtain rfl : 0 = len := by simpa [Driver.setTx] using next
        rfl
      all_goals simp [Driver.setTx]
  | fillMore used pc credit skb held =>
      obtain ⟨few, offset⟩ := sized_filling bound d sized used pc
      have grown := add_tx_skb_data (dequeueTxSkb d.tc6.tx) skb used
        ((dequeue_offset d.tc6.tx).1.trans offset)
      rw [spi_chunks_buffer d.tc6.tx _ buffer, counted.filling used pc] at grown
      constructor
      · intro next here
        obtain rfl : used + 1 = next := by simpa [Driver.setTx] using here
        exact grown
      all_goals simp [Driver.setTx]
  | fillEmpty used pc credit empty =>
      obtain ⟨few, offset⟩ := sized_filling bound d sized used pc
      have narrow := to_u16_chunks used (by omega)
      constructor
      · simp [Driver.setTx]
      · intro len here
        obtain rfl : toU16 (used * chunkSize) = len := by simpa [Driver.setTx] using here
        rw [narrow, Nat.mul_div_cancel _ (by decide)]
        exact (congrArg dataChunks (spi_chunks_buffer d.tc6.tx _ buffer _)).trans
          (counted.filling used pc)
      all_goals simp [Driver.setTx]
  | fillFull used pc credit =>
      obtain ⟨few, offset⟩ := sized_filling bound d sized used pc
      have narrow := to_u16_chunks used (by omega)
      constructor
      · simp
      · intro len here
        obtain rfl : toU16 (used * chunkSize) = len := by simpa using here
        rw [narrow, Nat.mul_div_cancel _ (by decide)]
        exact counted.filling used pc
      all_goals simp
  | fillRx len pc =>
      obtain ⟨count, few, rfl, offset⟩ := sized.filled len (by rw [pc]; rfl)
      have all := counted.filled _ pc
      rw [Nat.mul_div_cancel _ (by decide)] at all
      obtain ⟨length, idle, padded⟩ :=
        prepare_for_rx_chunks d.tc6.tx d.tc6.rx.rxChunksAvailable count offset (by omega)
      -- The empty chunks bring the transfer up to the chunks available.
      have data : dataChunks (spiChunks
          (prepareSpiTxBufForRxChunks d.tc6.tx d.tc6.rx.rxChunksAvailable (count * chunkSize)).2
          (max count d.tc6.rx.rxChunksAvailable * chunkSize)) = count := by
        rw [padded.grown, data_chunks_idle _ _ padded.headers, all]
      constructor
      · simp [Driver.setTx]
      · simp [Driver.setTx]
      · rintro other (here | here)
        · obtain rfl : (prepareSpiTxBufForRxChunks d.tc6.tx d.tc6.rx.rxChunksAvailable
              (count * chunkSize)).1 = other := by simpa [Driver.setTx] using here
          rw [length]
          simp only [Driver.setTx]
          rw [data, Nat.mul_comm]
        · simp [Driver.setTx] at here
      · simp [Driver.setTx]
  | testSet len pc int =>
      constructor
      · simp
      · simp
      · rintro other (here | here)
        · simp at here
        · obtain rfl : len = other := by simpa using here
          exact counted.padded len (.inl pc)
      · intro other here
        exact int
  | clearEmpty pc => constructor <;> simp [Driver.setTx]
  | testClear len pc int some_ => constructor <;> simp
  | clear len pc some_ => constructor <;> simp
  | _ => exact counted_idle _ rfl

theorem counted_moves (bound : Nat) (small : bound ≤ 255) (d after : Driver) (act : DriverAct)
    (sized : Sized bound d) (counted : Counted d) (moved : d.Moves act after) : Counted after := by
  cases act with
  | spi => exact counted_spi bound small d after sized counted moved
  | exchange received => cases moved; exact counted_idle _ rfl
  | exchangeFails ret => cases moved; exact counted_idle _ rfl
  | process io => cases moved <;> exact counted_idle _ rfl
  | offer skb tsCaptureMode => cases moved; exact counted_other d _ counted rfl rfl rfl id
  | xmit linearized => cases moved <;> exact counted_other d _ counted rfl rfl rfl id
  | interrupt => cases moved; exact counted_other d _ counted rfl rfl rfl fun _ => rfl
  | interruptWake => cases moved; exact counted_other d _ counted rfl rfl rfl id

theorem counted_reached {ok : Driver → DriverAct → Prop} {d : Driver}
    (reached : Reaches (driverMachine 255) ok d) : Counted d := by
  apply reached.strengthen (Sized 255) Counted
    (fun _ earlier => sized_reached 255 (by decide) (by decide) earlier)
  · exact counted_init 255
  · intro before act after sized counted _ moved
    exact counted_moves 255 (by decide) before after act sized counted
      (driver_moves before after act moved)

/-- Whatever the device reports, a transfer is built as long as it is. -/
theorem transfer_built {ok : Driver → DriverAct → Prop} {d : Driver}
    (reached : Reaches (driverMachine 255) ok d) (after : Driver) (len : Nat)
    (moved : d.spiNext = some after) (pc : after.spi = .transfer len) :
    TransferBuilt d after len := by
  have sized := sized_reached 255 (by decide) (by decide) reached
  have counted := counted_reached reached
  cases moves_spi d after moved with
  | testClear length here int some_ =>
      obtain rfl : length = len := by simpa using pc
      obtain ⟨count, _, same, offset⟩ := sized.filled length (by rw [here]; rfl)
      exact ⟨offset.trans same.symm, .inl (counted.padded length (.inl here))⟩
  | clear length here some_ =>
      obtain rfl : length = len := by simpa using pc
      obtain ⟨count, _, same, offset⟩ := sized.filled length (by rw [here]; rfl)
      exact ⟨offset.trans same.symm, .inl (counted.padded length (.inr here))⟩
  | clearEmpty here =>
      obtain rfl : chunkSize = len := by simpa [Driver.setTx] using pc
      obtain ⟨count, _, length, offset⟩ := sized.filled 0 (by rw [here]; rfl)
      obtain rfl : 0 = count := by
        rw [chunk_size] at length
        omega
      obtain ⟨idle, padded⟩ := add_empty_chunks d.tc6.tx 0 1 offset (by omega)
      have nothing := counted.padded 0 (.inr here)
      have data :
          dataChunks (spiChunks (addEmptyChunksToSpiBuf d.tc6.tx 1) (1 * chunkSize)) = 0 := by
        have grown := padded.grown
        rw [Nat.zero_add] at grown
        rw [grown, data_chunks_idle _ _ padded.headers]
        rfl
      have unavailable : d.tc6.rx.rxChunksAvailable = 0 := by
        rw [chunk_size] at nothing
        omega
      constructor
      · exact padded.filled
      · exact .inr ⟨data, unavailable, counted.flagged 0 here, rfl⟩
  | _ => simp_all [Driver.setTx]

/-! Registers that report more than 48 chunks. -/

section Overruns
variable (bufferStatus : BitVec 32)

theorem boot_start : (bootMachine bufferStatus).start (sampleStart bufferStatus) :=
  ⟨1500, 0, _, _, rfl⟩

/-- An interrupt makes the thread fetch the chunks that BUFFER_STATUS announced. -/
theorem available_overruns (small : number bufferStatusRxChunksAvailable bufferStatus ≤ 255)
    (many : maxTxChunks < number bufferStatusRxChunksAvailable bufferStatus) :
    ∃ d, Reaches (bootMachine bufferStatus) anyStep d ∧ ¬ WellBuilt d := by
  let start := sampleStart bufferStatus
  let filling : Driver :=
    { start with tc6 := { start.tc6 with intFlag := true }, isrWaking := true, spi := .fillRx 0 }
  have begun : Reaches (bootMachine bufferStatus) anyStep filling := by
    apply (Reaches.start (boot_start bufferStatus)).run [.interrupt, .spi, .spi, .spi]
    · exact allowed_any _ _ _
    · rfl
  obtain ⟨length, _⟩ := prepare_for_rx_chunks filling.tc6.tx filling.tc6.rx.rxChunksAvailable 0
    rfl (by simp [filling, start, sampleStart, initDriver]; omega)
  refine ⟨_, begun.step .spi trivial rfl, fun built => ?_⟩
  have inside := built.inside (max 0 filling.tc6.rx.rxChunksAvailable * chunkSize)
    (congrArg some length)
  simp only [filling, start, sampleStart, initDriver, spiDataBufSize, Nat.zero_max] at inside
  have fewer := Nat.le_of_mul_le_mul_right inside (by decide)
  omega

/-- A frame that needs more chunks than the buffer has. -/
def jumboSkb : Skb :=
  ⟨1, List.replicate 3073 7, by rw [List.length_replicate]; decide,
    by rw [List.length_replicate]; decide⟩

/-- The thread is filling the buffer with the long frame. -/
structure FillsJumbo (d : Driver) (used : Nat) : Prop where
  pc : d.spi = .fillTx used
  credits : d.tc6.rx.txCredits = number bufferStatusTxCreditsAvailable bufferStatus
  held : (dequeueTxSkb d.tc6.tx).ongoingTxSkb = some jumboSkb
  cursor : (dequeueTxSkb d.tc6.tx).txSkbOffset = 64 * used

/-- The long frame is offered and the thread finds a credit for it. -/
theorem jumbo_begins (credits : number bufferStatusTxCreditsAvailable bufferStatus ≠ 0) :
    ∃ d, Reaches (bootMachine bufferStatus) anyStep d ∧ FillsJumbo bufferStatus d 0 := by
  let start := sampleStart bufferStatus
  let offered : Driver :=
    { start with
      tc6 := { start.tc6 with tx := { start.tc6.tx with waitingTxSkb := some jumboSkb } }
      spi := .evalCredits
      accepted := [(jumboSkb, 0)] }
  have waits : Reaches (bootMachine bufferStatus) anyStep offered := by
    apply (Reaches.start (boot_start bufferStatus)).run
      ([.offer jumboSkb 0, .xmit true, .xmit true, .xmit true, .xmit true, .spi, .spi, .spi])
    · exact allowed_any _ _ _
    · rfl
  have goes : Reaches (bootMachine bufferStatus) anyStep { offered with spi := .loopTop } := by
    apply waits.step .spi trivial
    have credit : offered.tc6.rx.txCredits ≠ 0 := credits
    simp [bootMachine, Driver.next, Driver.spiNext, credit, offered]
  refine ⟨_, goes.step .spi trivial rfl, ?_⟩
  constructor <;> rfl

theorem jumbo_step (d : Driver) (used : Nat) (fills : FillsJumbo bufferStatus d used)
    (credit : used < number bufferStatusTxCreditsAvailable bufferStatus) :
    (bootMachine bufferStatus).next d .spi =
      some (d.setTx (addTxSkbToSpiBuf (dequeueTxSkb d.tc6.tx) jumboSkb) (.fillTx (used + 1))) := by
  have left : used < d.tc6.rx.txCredits := fills.credits ▸ credit
  simp [bootMachine, Driver.next, Driver.spiNext, fills.pc, prepareSpiTxBufForTxSkbs, left,
    fills.held]

theorem jumbo_fills (many : maxTxChunks < number bufferStatusTxCreditsAvailable bufferStatus)
    (used : Nat) (room : used ≤ maxTxChunks) :
    ∃ d, Reaches (bootMachine bufferStatus) anyStep d ∧ FillsJumbo bufferStatus d used := by
  induction used with
  | zero => exact jumbo_begins bufferStatus (by omega)
  | succ used ih =>
      obtain ⟨d, reached, fills⟩ := ih (by omega)
      have cursor := fills.cursor
      have limit : maxTxChunks = 48 := rfl
      have length : jumboSkb.data.length = 3073 := List.length_replicate
      have full : copyLength (dequeueTxSkb d.tc6.tx) jumboSkb = 64 := by
        rw [copyLength, cursor, length, chunk_payload_size]
        omega
      obtain ⟨added, _, _⟩ := add_tx_skb_more (dequeueTxSkb d.tc6.tx) jumboSkb (by omega) (by omega)
      have kept : dequeueTxSkb (addTxSkbToSpiBuf (dequeueTxSkb d.tc6.tx) jumboSkb) =
          addTxSkbToSpiBuf (dequeueTxSkb d.tc6.tx) jumboSkb := by
        apply dequeue_held _ jumboSkb
        rw [added]
        exact fills.held
      refine ⟨_, reached.step .spi trivial (jumbo_step bufferStatus d used fills (by omega)), ?_⟩
      constructor
      · rfl
      · exact fills.credits
      · rw [Driver.setTx, kept, added]
        exact fills.held
      · rw [Driver.setTx, kept, added]
        simp only [putChunk, cursor]
        omega

/-- With more than 48 credits the long frame is built past the buffer. -/
theorem credits_overrun (many : maxTxChunks < number bufferStatusTxCreditsAvailable bufferStatus) :
    ∃ d, Reaches (bootMachine bufferStatus) anyStep d ∧ ¬ WellBuilt d := by
  obtain ⟨d, reached, fills⟩ := jumbo_fills bufferStatus many maxTxChunks (Nat.le_refl _)
  refine ⟨_, reached.step .spi trivial (jumbo_step bufferStatus d maxTxChunks fills many), ?_⟩
  intro built
  exact absurd (built.inside _ rfl) (by decide)

end Overruns

theorem buffer_status_small (bufferStatus : BitVec 32) :
    number bufferStatusTxCreditsAvailable bufferStatus ≤ 255 ∧
      number bufferStatusRxChunksAvailable bufferStatus ≤ 255 := by
  have credits : number bufferStatusTxCreditsAvailable bufferStatus < 2 ^ 8 := number_lt _ _
  have available : number bufferStatusRxChunksAvailable bufferStatus < 2 ^ 8 := number_lt _ _
  omega

/-- All transfers are fully built and fit the buffers if and only if the register
that is read at the start reports at most 48 chunks in either field. -/
theorem transfers_well_built_iff (bufferStatus : BitVec 32) :
    (∀ d, Reaches (bootMachine bufferStatus) anyStep d → WellBuilt d) ↔
      number bufferStatusTxCreditsAvailable bufferStatus ≤ maxTxChunks ∧
        number bufferStatusRxChunksAvailable bufferStatus ≤ maxTxChunks := by
  obtain ⟨credits, available⟩ := buffer_status_small bufferStatus
  constructor
  · intro built
    by_contra more
    by_cases many : maxTxChunks < number bufferStatusTxCreditsAvailable bufferStatus
    · obtain ⟨d, reached, overruns⟩ := credits_overrun bufferStatus many
      exact overruns (built d reached)
    · obtain ⟨d, reached, overruns⟩ := available_overruns bufferStatus available (by omega)
      exact overruns (built d reached)
  · rintro ⟨fewCredits, fewAvailable⟩ d reached
    constructor
    · intro len built
      exact transfer_fits len (boot_reaches bufferStatus _ fewCredits fewAvailable reached) built
    · intro after len moved pc
      have boot := boot_reaches bufferStatus 255 credits available reached
      exact transfer_built boot after len moved pc

/-- BUFFER_STATUS may report 49 receive chunks. -/
theorem transfer_overruns_buffers :
    ¬ ∀ bufferStatus d, Reaches (bootMachine bufferStatus) anyStep d → WellBuilt d := by
  intro claimed
  obtain ⟨d, reached, overruns⟩ := available_overruns 0x31#32 (by decide) (by decide)
  exact overruns (claimed 0x31#32 d reached)

end Lan865x.OaTc6
