import Lan865x.Wire

/-!
The receive path of oa_tc6.c, from the footer of a received chunk to `netif_rx`,
in the `FRAME_TIMESTAMP_ENABLE` build on a little-endian machine. `RxState` holds
the fields of `struct oa_tc6` that these functions read or write, the netdev
counters, and a record of what they do: the copies made by `memcpy`, the skbs
allocated, submitted and freed, and the accesses that would bring the kernel down. Such an
access is recorded and the model goes on, so that every function is total.
-/

namespace Lan865x.OaTc6
open BitField Memory

def ethHlen : Nat := 14
def ethFcsLen : Nat := 4
def nsIn1s : Nat := 1000000000

def ethP8021q : Nat := 0x8100
def ethP1588 : Nat := 0x88F7
def ptpMsgtypeSync : Nat := 0
def ptpMsgtypeDelayReq : Nat := 1

def hwtstampFilterNone : Int := 0
def hwtstampFilterAll : Int := 1
def hwtstampFilterPtpV2L2Event : Int := 9
def hwtstampFilterPtpV2L2Sync : Int := 10
def hwtstampFilterPtpV2L2DelayReq : Int := 11
def hwtstampFilterPtpV2Event : Int := 12
def hwtstampFilterPtpV2Sync : Int := 13
def hwtstampFilterPtpV2DelayReq : Int := 14

/-- A receive skb: which allocation it is, the bytes asked for, the bytes put. -/
structure RxSkb where
  addr : Nat
  room : Nat
  data : List UInt8
  hwtstamp : Option Nat

/-- One `memcpy` of `oa_tc6_update_rx_skb`: from where in `spi_data_rx_buf`, how
many bytes, and how many the skb then holds of how many it has room for. -/
structure RxCopy where
  payload : Nat
  length : Nat
  total : Nat
  room : Nat

inductive RxFault where
  | nullSkb
  | overwrite (addr : Nat)
  | overrun (addr : Nat)

structure RxState where
  spiDataRxBuf : Nat → UInt8
  rxSkb : Option RxSkb
  rxBufOverflow : Bool
  txCredits : Nat
  rxChunksAvailable : Nat
  mtu : Nat
  rxFilter : Int
  rxDropped : Nat
  rxPackets : Nat
  rxBytes : Nat
  allocated : List Nat
  submitted : List RxSkb
  freed : List Nat
  refused : List Nat
  copies : List RxCopy
  faults : List RxFault

/-- The receive side after `oa_tc6_init`. -/
def initRx (mtu : Nat) (rxFilter : Int) (buffer : Nat → UInt8) : RxState where
  spiDataRxBuf := buffer
  rxSkb := none
  rxBufOverflow := false
  txCredits := 0
  rxChunksAvailable := 0
  mtu := mtu
  rxFilter := rxFilter
  rxDropped := 0
  rxPackets := 0
  rxBytes := 0
  allocated := []
  submitted := []
  freed := []
  refused := []
  copies := []
  faults := []

/-- What the world answers while one chunk is processed: the two accesses to
STATUS0, and `netdev_alloc_skb_ip_align`, whose skb is known by its address. -/
structure ChunkIo where
  readStatus0 : Except Int (BitVec 32)
  writeStatus0 : Int
  alloc : Bool
  addr : Nat

instance : Inhabited ChunkIo := ⟨⟨.ok 0#32, 0, true, 0⟩⟩

def be16At (memory : Nat → UInt8) (addr : Nat) : Nat :=
  (memory addr).toNat * 256 + (memory (addr + 1)).toNat

def filterRxTimestamp (rx : RxState) (data : Nat) : Bool :=
  if rx.rxFilter = hwtstampFilterNone then false
  else if rx.rxFilter = hwtstampFilterAll then true
  else
    let ethType := be16At rx.spiDataRxBuf (data + 12)
    -- A VLAN tag shifts the type and what follows it by four bytes.
    let tagged := ethType = ethP8021q
    let payload := if tagged then data + ethHlen + 4 else data + ethHlen
    let ethType := if tagged then be16At rx.spiDataRxBuf (data + ethHlen + 2) else ethType
    if ethType ≠ ethP1588 then false
    else
      let msgType := (rx.spiDataRxBuf payload).toNat % 16
      if rx.rxFilter = hwtstampFilterPtpV2Event ∨ rx.rxFilter = hwtstampFilterPtpV2L2Event then
        true
      else if rx.rxFilter = hwtstampFilterPtpV2Sync ∨
          rx.rxFilter = hwtstampFilterPtpV2L2Sync then msgType = ptpMsgtypeSync
      else if rx.rxFilter = hwtstampFilterPtpV2DelayReq ∨
          rx.rxFilter = hwtstampFilterPtpV2L2DelayReq then msgType = ptpMsgtypeDelayReq
      else false

def sizeofTimestampFormat : Nat := 8

/-- The value stored in `hwtstamp`. The 30-bit `nanoseconds` field is read from
the network-order word before `ntohl`, so the two top bits of the fourth byte
are lost, and cut to 30 bits again when it is assigned. -/
def rxTimestamp (memory : Nat → UInt8) (payload : Nat) : Nat :=
  let seconds := be16At memory payload * 65536 + be16At memory (payload + 2)
  let nanoseconds := be16At memory (payload + 4) * 65536 +
    ((memory (payload + 6)).toNat * 256 + (memory (payload + 7)).toNat % 64)
  seconds * nsIn1s + nanoseconds % 2 ^ 30

def updateRxSkb (rx : RxState) (payload length : Nat) : RxState :=
  match rx.rxSkb with
  | none => { rx with faults := rx.faults ++ [.nullSkb] }
  | some skb =>
      -- `memcpy` does not stop at the end of the chunk, nor at the end of the skb.
      let data := skb.data ++ cellsAt rx.spiDataRxBuf payload length
      { rx with
        rxSkb := some { skb with data := data }
        copies := rx.copies ++ [⟨payload, length, data.length, skb.room⟩]
        faults := if data.length ≤ skb.room then rx.faults
          else rx.faults ++ [.overrun skb.addr] }

/-- `eth_type_trans` pulls the Ethernet header before the length is counted. -/
def submitRxSkb (rx : RxState) : RxState :=
  match rx.rxSkb with
  | none => { rx with faults := rx.faults ++ [.nullSkb] }
  | some skb =>
      { rx with
        rxSkb := none
        rxPackets := rx.rxPackets + 1
        rxBytes := rx.rxBytes +
          (if ethHlen ≤ skb.data.length then skb.data.length - ethHlen else skb.data.length)
        submitted := rx.submitted ++ [skb] }

def allocateRxSkb (rx : RxState) (io : ChunkIo) : Int × RxState :=
  -- `rx_skb` is assigned before the result is tested.
  let faults := match rx.rxSkb with
    | none => rx.faults
    | some skb => rx.faults ++ [.overwrite skb.addr]
  if io.alloc then
    (0, { rx with
          rxSkb := some ⟨io.addr, rx.mtu + ethHlen + ethFcsLen, [], none⟩
          allocated := rx.allocated ++ [io.addr]
          faults := faults })
  else
    (-enomem, { rx with
                rxSkb := none
                rxDropped := rx.rxDropped + 1
                refused := rx.refused ++ [io.addr]
                faults := faults })

/-- The common body of `oa_tc6_prcs_complete_rx_frame` and
`oa_tc6_prcs_rx_frame_start`: allocate, take the timestamp, copy what follows. -/
def beginRxFrame (rx : RxState) (payload size : Nat) (io : ChunkIo) : Int × RxState :=
  let (ret, rx) := allocateRxSkb rx io
  if ret ≠ 0 then (ret, rx)
  else
    let rx := if filterRxTimestamp rx (payload + sizeofTimestampFormat) then
        { rx with rxSkb := rx.rxSkb.map fun skb =>
            { skb with hwtstamp := some (rxTimestamp rx.spiDataRxBuf payload) } }
      else rx
    (0, updateRxSkb rx (payload + sizeofTimestampFormat)
      (toU8 ((size : Int) - sizeofTimestampFormat)))

def prcsCompleteRxFrame (rx : RxState) (payload size : Nat) (io : ChunkIo) : Int × RxState :=
  let (ret, rx) := beginRxFrame rx payload size io
  if ret ≠ 0 then (ret, rx) else (0, submitRxSkb rx)

def prcsRxFrameStart (rx : RxState) (payload size : Nat) (io : ChunkIo) : Int × RxState :=
  beginRxFrame rx payload size io

def prcsRxFrameEnd (rx : RxState) (payload size : Nat) : RxState :=
  -- The FCS is cut off from this chunk alone, and the length is a `u8`.
  submitRxSkb (updateRxSkb rx payload (toU8 ((size : Int) - 4)))

def prcsOngoingRxFrame (rx : RxState) (payload : Nat) : RxState :=
  updateRxSkb rx payload chunkPayloadSize

def prcsRxChunkPayload (rx : RxState) (data : Nat) (footer : BitVec 32) (io : ChunkIo) :
    Int × RxState :=
  let startByteOffset := number dataFooterStartWordOffset footer * 4
  let endByteOffset := number dataFooterEndByteOffset footer
  let startValid := flag dataFooterStartValid footer
  let endValid := flag dataFooterEndValid footer
  -- A new frame ends the recovery from a receive buffer overflow.
  let rx := if startValid && rx.rxBufOverflow then { rx with rxBufOverflow := false } else rx
  if rx.rxBufOverflow then (0, rx)
  else if startValid && endValid && startByteOffset < endByteOffset then
    prcsCompleteRxFrame rx (data + startByteOffset) (endByteOffset + 1 - startByteOffset) io
  else if startValid && !endValid then
    prcsRxFrameStart rx (data + startByteOffset) (chunkPayloadSize - startByteOffset) io
  else if endValid && !startValid then
    (0, prcsRxFrameEnd rx data (endByteOffset + 1))
  else if startValid && endValid && endByteOffset < startByteOffset then
    -- Behind an overflow the frame that ends may have been dropped already.
    let rx := if rx.rxSkb.isSome then prcsRxFrameEnd rx data (endByteOffset + 1) else rx
    prcsRxFrameStart rx (data + startByteOffset) (chunkPayloadSize - startByteOffset) io
  else (0, prcsOngoingRxFrame rx data)

def cleanupOngoingRxSkb (rx : RxState) : RxState :=
  match rx.rxSkb with
  | none => rx
  | some skb =>
      { rx with
        rxDropped := rx.rxDropped + 1
        freed := rx.freed ++ [skb.addr]
        rxSkb := none }

def processExtendedStatus (rx : RxState) (io : ChunkIo) : Int × RxState :=
  match io.readStatus0 with
  | .error ret => (ret, rx)
  | .ok value =>
      -- The word goes back as it was read, before any of its bits is looked at.
      if io.writeStatus0 ≠ 0 then (io.writeStatus0, rx)
      else if flag status0RxBufferOverflowError value then
        (-eagain, cleanupOngoingRxSkb { rx with rxBufOverflow := true })
      else if flag status0TxProtocolError value then (-enodev, rx)
      else if flag status0LossOfFrameError value then (-enodev, rx)
      else if flag status0HeaderError value then (-enodev, rx)
      else (0, rx)

def processRxChunkFooter (rx : RxState) (footer : BitVec 32) (io : ChunkIo) : Int × RxState :=
  -- The credits are taken over first, whatever the footer says besides.
  let rx := { rx with
    txCredits := number dataFooterTxCredits footer
    rxChunksAvailable := number dataFooterRxChunks footer }
  let (ret, rx) := if flag dataFooterExtendedSts footer then processExtendedStatus rx io
    else (0, rx)
  if ret ≠ 0 then (ret, rx)
  else if flag dataFooterRxdHeaderBad footer then (-enodev, rx)
  else if !flag dataFooterConfigSync footer then (-enodev, rx)
  else (0, rx)

def getRxChunkFooter (rx : RxState) (footerOffset : Nat) : BitVec 32 :=
  be32ToCpu (rx.spiDataRxBuf footerOffset) (rx.spiDataRxBuf (footerOffset + 1))
    (rx.spiDataRxBuf (footerOffset + 2)) (rx.spiDataRxBuf (footerOffset + 3))

/-- One round of the loop in `oa_tc6_process_spi_data_rx_buf`. -/
def processRxChunk (rx : RxState) (i : Nat) (io : ChunkIo) : Int × RxState :=
  let footer := getRxChunkFooter rx (i * chunkSize + chunkPayloadSize)
  let (ret, rx) := processRxChunkFooter rx footer io
  if ret ≠ 0 then (ret, rx)
  else if flag dataFooterDataValid footer then
    prcsRxChunkPayload rx (i * chunkSize) footer io
  else (0, rx)

def processRxChunks (rx : RxState) (io : Nat → ChunkIo) (i : Nat) : Nat → Int × RxState
  | 0 => (0, rx)
  | left + 1 =>
      let (ret, rx) := processRxChunk rx i (io i)
      if ret ≠ 0 then (ret, rx) else processRxChunks rx io (i + 1) left

def processSpiDataRxBuf (rx : RxState) (length : Nat) (io : Nat → ChunkIo) : Int × RxState :=
  processRxChunks rx io 0 (length / chunkSize)

/-! What each function does, case by case. Later proofs use these equations and
do not unfold the functions again. -/

def overrunFaults (skb : RxSkb) (total : Nat) : List RxFault :=
  if total ≤ skb.room then [] else [.overrun skb.addr]

theorem update_some (rx : RxState) (skb : RxSkb) (payload length : Nat)
    (held : rx.rxSkb = some skb) :
    updateRxSkb rx payload length =
      { rx with
        rxSkb := some { skb with data := skb.data ++ cellsAt rx.spiDataRxBuf payload length }
        copies := rx.copies ++ [⟨payload, length, skb.data.length + length, skb.room⟩]
        faults := rx.faults ++ overrunFaults skb (skb.data.length + length) } := by
  simp only [updateRxSkb, held, List.length_append, cellsAt_length, overrunFaults]
  split <;> simp

theorem submit_some (rx : RxState) (skb : RxSkb) (held : rx.rxSkb = some skb) :
    submitRxSkb rx =
      { rx with
        rxSkb := none
        rxPackets := rx.rxPackets + 1
        rxBytes := rx.rxBytes +
          (if ethHlen ≤ skb.data.length then skb.data.length - ethHlen else skb.data.length)
        submitted := rx.submitted ++ [skb] } := by
  simp [submitRxSkb, held]

def newRxSkb (rx : RxState) (io : ChunkIo) : RxSkb :=
  ⟨io.addr, rx.mtu + ethHlen + ethFcsLen, [], none⟩

/-- The skb that a successful `beginRxFrame` leaves in `rx_skb`. -/
def begunRxSkb (rx : RxState) (payload size : Nat) (io : ChunkIo) : RxSkb :=
  { newRxSkb rx io with
    data := cellsAt rx.spiDataRxBuf (payload + sizeofTimestampFormat)
      (toU8 ((size : Int) - sizeofTimestampFormat))
    hwtstamp := if filterRxTimestamp rx (payload + sizeofTimestampFormat) then
      some (rxTimestamp rx.spiDataRxBuf payload) else none }

/-- An allocation forgets the skb that is still current. -/
def overwriteFaults (rx : RxState) : List RxFault :=
  match rx.rxSkb with
  | none => []
  | some skb => [.overwrite skb.addr]

theorem overwrite_none (rx : RxState) (empty : rx.rxSkb = none) : overwriteFaults rx = [] := by
  simp [overwriteFaults, empty]

theorem allocate_faults (rx : RxState) :
    (match rx.rxSkb with
      | none => rx.faults
      | some skb => rx.faults ++ [.overwrite skb.addr]) = rx.faults ++ overwriteFaults rx := by
  cases held : rx.rxSkb <;> simp [overwriteFaults, held]

theorem begin_granted (rx : RxState) (payload size : Nat) (io : ChunkIo)
    (granted : io.alloc = true) :
    beginRxFrame rx payload size io =
      (0, { rx with
            rxSkb := some (begunRxSkb rx payload size io)
            allocated := rx.allocated ++ [io.addr]
            copies := rx.copies ++ [⟨payload + sizeofTimestampFormat,
              toU8 ((size : Int) - sizeofTimestampFormat),
              toU8 ((size : Int) - sizeofTimestampFormat), (newRxSkb rx io).room⟩]
            faults := rx.faults ++ overwriteFaults rx ++ overrunFaults (newRxSkb rx io)
              (toU8 ((size : Int) - sizeofTimestampFormat)) }) := by
  have filtered : ∀ skb allocated faults,
      filterRxTimestamp { rx with rxSkb := skb, allocated := allocated, faults := faults } =
      filterRxTimestamp rx := fun _ _ _ => rfl
  simp only [beginRxFrame, allocateRxSkb, allocate_faults, granted, if_true, ne_eq,
    not_true_eq_false, if_false, filtered]
  split
  · rename_i stamped
    rw [update_some _ _ _ _ rfl]
    simp [begunRxSkb, newRxSkb, stamped]
    rfl
  · rename_i plain
    rw [update_some _ _ _ _ rfl]
    simp [begunRxSkb, newRxSkb, plain]

theorem begin_refused (rx : RxState) (payload size : Nat) (io : ChunkIo)
    (refused : io.alloc = false) :
    beginRxFrame rx payload size io =
      (-enomem, { rx with
                  rxSkb := none
                  rxDropped := rx.rxDropped + 1
                  refused := rx.refused ++ [io.addr]
                  faults := rx.faults ++ overwriteFaults rx }) := by
  simp [beginRxFrame, allocateRxSkb, allocate_faults, refused, enomem]

/-- The skb that `oa_tc6_prcs_rx_frame_end` submits when `skb` is the current one. -/
def endedRxSkb (rx : RxState) (skb : RxSkb) (payload size : Nat) : RxSkb :=
  { skb with data := skb.data ++ cellsAt rx.spiDataRxBuf payload (toU8 ((size : Int) - 4)) }

theorem frame_end_some (rx : RxState) (skb : RxSkb) (payload size : Nat)
    (held : rx.rxSkb = some skb) :
    prcsRxFrameEnd rx payload size =
      { rx with
        rxSkb := none
        rxPackets := rx.rxPackets + 1
        rxBytes := rx.rxBytes + (if ethHlen ≤ (endedRxSkb rx skb payload size).data.length then
          (endedRxSkb rx skb payload size).data.length - ethHlen
          else (endedRxSkb rx skb payload size).data.length)
        submitted := rx.submitted ++ [endedRxSkb rx skb payload size]
        copies := rx.copies ++ [⟨payload, toU8 ((size : Int) - 4),
          skb.data.length + toU8 ((size : Int) - 4), skb.room⟩]
        faults := rx.faults ++
          overrunFaults skb (skb.data.length + toU8 ((size : Int) - 4)) } := by
  rw [prcsRxFrameEnd, update_some rx skb _ _ held, submit_some _ _ rfl]
  rfl

/-- The branch that `oa_tc6_prcs_rx_chunk_payload` takes when it does not skip. -/
inductive RxBranch where
  | complete
  | start
  | finish
  | turn
  | ongoing
  deriving DecidableEq

def startOffset (footer : BitVec 32) : Nat := number dataFooterStartWordOffset footer * 4
def endOffset (footer : BitVec 32) : Nat := number dataFooterEndByteOffset footer

def rxBranch (footer : BitVec 32) : RxBranch :=
  match flag dataFooterStartValid footer, flag dataFooterEndValid footer with
  | true, true =>
      if startOffset footer < endOffset footer then .complete
      else if endOffset footer < startOffset footer then .turn else .ongoing
  | true, false => .start
  | false, true => .finish
  | false, false => .ongoing

theorem start_offset_le (footer : BitVec 32) : startOffset footer ≤ 60 := by
  have bound : number dataFooterStartWordOffset footer < 2 ^ 4 := number_lt _ footer
  unfold startOffset
  omega

theorem end_offset_le (footer : BitVec 32) : endOffset footer ≤ 63 := by
  have bound : number dataFooterEndByteOffset footer < 2 ^ 6 := number_lt _ footer
  unfold endOffset
  omega

def awake (rx : RxState) : RxState := { rx with rxBufOverflow := false }

def branchPayload (rx : RxState) (data : Nat) (footer : BitVec 32) (io : ChunkIo) :
    RxBranch → Int × RxState
  | .complete => prcsCompleteRxFrame rx (data + startOffset footer)
      (endOffset footer + 1 - startOffset footer) io
  | .start => prcsRxFrameStart rx (data + startOffset footer)
      (chunkPayloadSize - startOffset footer) io
  | .finish => (0, prcsRxFrameEnd rx data (endOffset footer + 1))
  | .turn =>
      prcsRxFrameStart
        (if rx.rxSkb.isSome then prcsRxFrameEnd rx data (endOffset footer + 1) else rx)
        (data + startOffset footer) (chunkPayloadSize - startOffset footer) io
  | .ongoing => (0, prcsOngoingRxFrame rx data)

theorem payload_skips (rx : RxState) (data : Nat) (footer : BitVec 32) (io : ChunkIo)
    (recovering : rx.rxBufOverflow = true) (inside : flag dataFooterStartValid footer = false) :
    prcsRxChunkPayload rx data footer io = (0, rx) := by
  simp [prcsRxChunkPayload, recovering, inside]

theorem payload_branches (rx : RxState) (data : Nat) (footer : BitVec 32) (io : ChunkIo)
    (live : rx.rxBufOverflow = false ∨ flag dataFooterStartValid footer = true) :
    prcsRxChunkPayload rx data footer io =
      branchPayload (awake rx) data footer io (rxBranch footer) := by
  have woken : (if (flag dataFooterStartValid footer && rx.rxBufOverflow) = true then
      { rx with rxBufOverflow := false } else rx) = awake rx := by
    rcases live with calm | starts
    · simp [awake, ← calm]
    · cases held : rx.rxBufOverflow
      · simp [awake, ← held]
      · simp [starts, awake]
  have starts : number dataFooterStartWordOffset footer * 4 = startOffset footer := rfl
  have ends : number dataFooterEndByteOffset footer = endOffset footer := rfl
  have calm : (awake rx).rxBufOverflow = false := rfl
  simp only [prcsRxChunkPayload, woken, rxBranch, starts, ends, calm]
  cases flag dataFooterStartValid footer <;> cases flag dataFooterEndValid footer
  · rfl
  · rfl
  · rfl
  · by_cases inside : startOffset footer < endOffset footer
    · simp [branchPayload, inside]
    · by_cases crossed : endOffset footer < startOffset footer <;>
        simp [branchPayload, inside, crossed]

/-- What no receive function writes. -/
structure Kept (before after : RxState) : Prop where
  buffer : after.spiDataRxBuf = before.spiDataRxBuf
  mtu : after.mtu = before.mtu
  filter : after.rxFilter = before.rxFilter

theorem Kept.refl (rx : RxState) : Kept rx rx := ⟨rfl, rfl, rfl⟩

theorem Kept.trans {first second third : RxState} (left : Kept first second)
    (right : Kept second third) : Kept first third :=
  ⟨right.buffer.trans left.buffer, right.mtu.trans left.mtu, right.filter.trans left.filter⟩

/-- What only footers write. -/
structure CreditsKept (before after : RxState) : Prop extends Kept before after where
  credits : after.txCredits = before.txCredits
  available : after.rxChunksAvailable = before.rxChunksAvailable

theorem CreditsKept.refl (rx : RxState) : CreditsKept rx rx := ⟨Kept.refl rx, rfl, rfl⟩

theorem CreditsKept.trans {first second third : RxState} (left : CreditsKept first second)
    (right : CreditsKept second third) : CreditsKept first third :=
  ⟨left.toKept.trans right.toKept, right.credits.trans left.credits,
    right.available.trans left.available⟩

theorem update_kept (rx : RxState) (payload length : Nat) :
    CreditsKept rx (updateRxSkb rx payload length) := by
  unfold updateRxSkb
  split <;> exact ⟨⟨rfl, rfl, rfl⟩, rfl, rfl⟩

theorem submit_kept (rx : RxState) : CreditsKept rx (submitRxSkb rx) := by
  unfold submitRxSkb
  split <;> exact ⟨⟨rfl, rfl, rfl⟩, rfl, rfl⟩

theorem begin_kept (rx : RxState) (payload size : Nat) (io : ChunkIo) :
    CreditsKept rx (beginRxFrame rx payload size io).2 := by
  cases granted : io.alloc with
  | false =>
      rw [begin_refused rx payload size io granted]
      exact ⟨⟨rfl, rfl, rfl⟩, rfl, rfl⟩
  | true =>
      rw [begin_granted rx payload size io granted]
      exact ⟨⟨rfl, rfl, rfl⟩, rfl, rfl⟩

theorem frame_end_kept (rx : RxState) (payload size : Nat) :
    CreditsKept rx (prcsRxFrameEnd rx payload size) :=
  (update_kept rx _ _).trans (submit_kept _)

theorem cleanup_kept (rx : RxState) : CreditsKept rx (cleanupOngoingRxSkb rx) := by
  unfold cleanupOngoingRxSkb
  split <;> exact ⟨⟨rfl, rfl, rfl⟩, rfl, rfl⟩

theorem branch_kept (rx : RxState) (data : Nat) (footer : BitVec 32) (io : ChunkIo)
    (branch : RxBranch) : CreditsKept rx (branchPayload rx data footer io branch).2 := by
  cases branch with
  | complete =>
      simp only [branchPayload, prcsCompleteRxFrame]
      split
      · exact begin_kept rx _ _ io
      · exact (begin_kept rx _ _ io).trans (submit_kept _)
  | start => exact begin_kept rx _ _ io
  | finish => exact frame_end_kept rx _ _
  | turn =>
      simp only [branchPayload, prcsRxFrameStart]
      refine CreditsKept.trans ?_ (begin_kept _ _ _ io)
      split
      · exact frame_end_kept rx _ _
      · exact CreditsKept.refl rx
  | ongoing => exact update_kept rx _ _

theorem payload_kept (rx : RxState) (data : Nat) (footer : BitVec 32) (io : ChunkIo) :
    CreditsKept rx (prcsRxChunkPayload rx data footer io).2 := by
  by_cases live : rx.rxBufOverflow = false ∨ flag dataFooterStartValid footer = true
  · rw [payload_branches rx data footer io live]
    have woken : CreditsKept rx (awake rx) := ⟨⟨rfl, rfl, rfl⟩, rfl, rfl⟩
    exact woken.trans (branch_kept _ _ _ _ _)
  · obtain ⟨recovering, inside⟩ := not_or.mp live
    rw [payload_skips rx data footer io (by simpa using recovering) (by simpa using inside)]
    exact CreditsKept.refl rx

theorem extended_status_kept (rx : RxState) (io : ChunkIo) :
    CreditsKept rx (processExtendedStatus rx io).2 := by
  have flagged : CreditsKept rx { rx with rxBufOverflow := true } := ⟨⟨rfl, rfl, rfl⟩, rfl, rfl⟩
  unfold processExtendedStatus
  repeat' split
  -- The overflow is the only outcome that changes the state.
  all_goals first
    | exact CreditsKept.refl rx
    | exact flagged.trans (cleanup_kept _)

/-- The two fields that every footer updates. -/
def footerCredits (rx : RxState) (footer : BitVec 32) : RxState :=
  { rx with
    txCredits := number dataFooterTxCredits footer
    rxChunksAvailable := number dataFooterRxChunks footer }

theorem footer_kept (rx : RxState) (footer : BitVec 32) (io : ChunkIo) :
    CreditsKept (footerCredits rx footer) (processRxChunkFooter rx footer io).2 := by
  simp only [processRxChunkFooter, footerCredits]
  repeat' split
  all_goals first
    | exact CreditsKept.refl _
    | exact extended_status_kept _ io

theorem chunk_credits (rx : RxState) (i : Nat) (io : ChunkIo) :
    CreditsKept (footerCredits rx (getRxChunkFooter rx (i * chunkSize + chunkPayloadSize)))
      (processRxChunk rx i io).2 := by
  simp only [processRxChunk]
  repeat' split
  · exact footer_kept rx _ io
  · exact (footer_kept rx _ io).trans (payload_kept _ _ _ io)
  · exact footer_kept rx _ io

theorem chunk_kept (rx : RxState) (i : Nat) (io : ChunkIo) :
    Kept rx (processRxChunk rx i io).2 :=
  have credited := (chunk_credits rx i io).toKept
  ⟨credited.buffer, credited.mtu, credited.filter⟩

end Lan865x.OaTc6
