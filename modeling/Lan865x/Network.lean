import Lan865x.Reassembly
import Lan865x.TransmitAccounts

/-!
Two nodes on one line. The driver of the sender cuts the accepted skbs into chunks, its
MAC-PHY puts the frames together, pads them and appends an FCS; the MAC-PHY of the
receiver puts a timestamp in front and cuts them into chunks again, and the other driver
puts them together. Both drivers run with all their threads, interleaved in any way.
-/

namespace Lan865x.OaTc6
open BitField Memory Framing Transition

def ethZlen : Nat := 60

/-- A frame as the MAC sends it, the FCS apart. -/
def padded (data : List UInt8) : List UInt8 :=
  data ++ List.replicate (ethZlen - data.length) 0

/-- The bytes that a frame of this length leaves for its last received chunk. -/
def tailBytes (len : Nat) : Nat :=
  (sizeofTimestampFormat + max len ethZlen + ethFcsLen - 1) % chunkPayloadSize + 1

/-- The frames that the sender's MAC-PHY has put together. -/
def Driver.line (d : Driver) : List (List UInt8) :=
  ((decodeTx d.wire).map fun assembly => assembly.done.map frameBytes).getD []

/-- The documented reading of the chunks received. -/
def decodeRx (chunks : List RxChunk) : Option (Assembly (List UInt8)) :=
  (chunks.mapM RxChunk.piece).bind Assembly.empty.feedAll

variable {mtu : Nat}

def OnLine (sent : List UInt8) (frame : SentFrame mtu) : Prop :=
  ∃ fcs, fcs.length = ethFcsLen ∧ frame.bytes = padded sent ++ fcs

/-- The chunks bring the first frames of the line, the last of them perhaps in part. -/
def Brings (mtu : Nat) (line : List (List UInt8)) (chunks : List RxChunk) : Prop :=
  ∃ (early : List (List UInt8)) (frames : List (SentFrame mtu)) (all : List (Piece (List UInt8))),
    early <+: line ∧ List.Forall₂ OnLine early frames ∧
    chunks.map RxChunk.piece = all.map some ∧
    all.filter (fun piece => !piece.isIdle) <+: frames.flatMap fun frame => pieces frame.blocks

structure Network where
  sender : Driver
  receiver : Driver
  arrived : List RxChunk

inductive NetworkAct where
  | sender (act : DriverAct)
  | receiver (act : DriverAct)

def DriverAct.received : DriverAct → List RxChunk
  | .exchange received => received
  | _ => []

def Network.next (n : Network) : NetworkAct → Option Network
  | .sender act => (n.sender.next act).map fun sender => { n with sender := sender }
  | .receiver act => (n.receiver.next act).map fun receiver =>
      { n with receiver := receiver, arrived := n.arrived ++ act.received }

def networkMachine (mtu : Nat) : Machine Network NetworkAct where
  start n := (driverMachine maxTxChunks).start n.sender ∧
    (driverMachine maxTxChunks).start n.receiver ∧ n.receiver.tc6.rx.mtu = mtu ∧ n.arrived = []
  next := Network.next

/-- The receiver's MAC-PHY hands out what the line has brought, without errors, and its
driver is given the memory that it asks for. -/
def Conforms (mtu : Nat) (n : Network) : NetworkAct → Prop
  | .receiver (.exchange received) =>
      Brings mtu n.sender.line (n.arrived ++ received) ∧
        ∀ chunk ∈ received, CleanFooter chunk.footer
  | .receiver (.process io) => ∀ i, (io i).alloc = true
  | _ => True

theorem padded_length (data : List UInt8) : (padded data).length = max data.length ethZlen := by
  rw [padded, List.length_append, List.length_replicate]
  omega

theorem on_line_without_fcs (sent : List UInt8) (frame : SentFrame mtu)
    (onLine : OnLine sent frame) : frame.withoutFcs = padded sent := by
  obtain ⟨fcs, four, bytes⟩ := onLine
  rw [SentFrame.withoutFcs, bytes, List.length_append, four, Nat.add_sub_cancel]
  exact List.take_left

theorem on_line_tail (sent : List UInt8) (frame : SentFrame mtu) (onLine : OnLine sent frame) :
    frame.lastChunkBytes = tailBytes sent.length := by
  obtain ⟨fcs, four, bytes⟩ := onLine
  rw [SentFrame.lastChunkBytes, wire_length, bytes, List.length_append, padded_length, four,
    tailBytes, sizeofTimestampFormat, Nat.add_assoc]

theorem map_m_of_map {chunks : List RxChunk} {all : List (Piece (List UInt8))}
    (reads : chunks.map RxChunk.piece = all.map some) : chunks.mapM RxChunk.piece = some all := by
  induction chunks generalizing all with
  | nil =>
      cases all with
      | nil => rfl
      | cons => simp at reads
  | cons chunk rest ih =>
      cases all with
      | nil => simp at reads
      | cons piece pieces =>
          simp only [List.map_cons, List.cons.injEq] at reads
          simp [reads.1, ih reads.2]

theorem decode_rx_eq {chunks : List RxChunk} {all : List (Piece (List UInt8))}
    (reads : chunks.map RxChunk.piece = all.map some) :
    decodeRx chunks = Assembly.empty.feedAll all := by
  rw [decodeRx, map_m_of_map reads]
  rfl

/-- Chunks of the line can be continued to whole frames. -/
theorem brings_continues {frames : List (SentFrame mtu)} {all : List (Piece (List UInt8))}
    (part : all.filter (fun piece => !piece.isIdle) <+:
      frames.flatMap fun frame => pieces frame.blocks) :
    ∃ later, Assembly.empty.feedAll (all ++ later) =
      some ⟨frames.map SentFrame.blocks, none⟩ := by
  obtain ⟨later, whole⟩ := part
  refine ⟨later, ?_⟩
  have fed : Assembly.empty.feedAll (all.filter (fun piece => !piece.isIdle) ++ later) =
      some ⟨frames.map SentFrame.blocks, none⟩ := by
    rw [whole, ← List.flatMap_map]
    apply feed_frames [] _
    intro blocks member
    obtain ⟨frame, _, rfl⟩ := List.mem_map.mp member
    exact (blocks_last frame).1
  rwa [feed_all_append, feed_all_idle, ← feed_all_append] at fed

theorem brings_plain {frames : List (SentFrame mtu)} {all : List (Piece (List UInt8))}
    (part : all.filter (fun piece => !piece.isIdle) <+:
      frames.flatMap fun frame => pieces frame.blocks) : ∀ piece ∈ all, Plain piece := by
  intro piece member
  cases idle : piece.isIdle with
  | true => cases piece <;> simp_all [Piece.isIdle, Plain]
  | false =>
      have kept : piece ∈ all.filter fun piece => !piece.isIdle := by simp [member, idle]
      obtain ⟨frame, _, inside⟩ := List.mem_flatMap.mp (part.subset kept)
      exact blocks_plain frame piece inside

theorem sent_bounded (frames : List (SentFrame mtu)) :
    Bounded mtu ⟨frames.map SentFrame.blocks, none⟩ := by
  rintro blocks (under | done)
  · exact absurd under (by simp)
  · obtain ⟨frame, _, rfl⟩ := List.mem_map.mp done
    have maximum := frame.maximum
    simp only [ethHlen, ethFcsLen] at maximum
    rw [blocks_flatten, wire_length]
    omega

/-! The receiving driver. -/

/-- The chunks of a transfer with what the world answers while they are processed. -/
def answered (io : Nat → ChunkIo) (received : List RxChunk) : List Received :=
  received.mapIdx fun i chunk => ⟨chunk, io i⟩

theorem answered_chunks (io : Nat → ChunkIo) (received : List RxChunk) :
    (answered io received).map Received.chunk = received := by
  apply List.ext_getElem
  · simp [answered]
  · intro i _ _
    simp [answered]

theorem answered_length (io : Nat → ChunkIo) (received : List RxChunk) :
    (answered io received).length = received.length := by
  simp [answered]

theorem processed_received (io : Nat → ChunkIo) (rx : RxState) (i : Nat) (received : List Received)
    (same : ∀ j, (inside : j < received.length) → io (i + j) = received[j].io) :
    processRxChunks rx io i received.length = processReceived rx i received := by
  induction received generalizing rx i with
  | nil => rfl
  | cons r rest ih =>
      have here : io i = r.io := same 0 (by simp)
      simp only [List.length_cons, processRxChunks, processReceived, here]
      split
      · rfl
      · apply ih
        intro j inside
        have later := same (j + 1) (by simpa using inside)
        simpa [Nat.add_comm, Nat.add_left_comm, Nat.add_assoc] using later

/-- Where the receiving driver is in what has arrived: the chunks of a transfer that is not
processed yet lie in its buffer. -/
inductive InStepWithLine (mtu : Nat) (r : Driver) (arrived : List RxChunk) : Prop where
  | settled (assembly : Assembly (List UInt8)) (idle : r.spi.processing = none)
      (decoded : decodeRx arrived = some assembly)
      (represents : Represents mtu r.tc6.rx assembly)
  | loaded (before received : List RxChunk) (buffer : Nat → UInt8)
      (assembly : Assembly (List UInt8)) (pc : r.spi = .process (received.length * chunkSize))
      (split : arrived = before ++ received) (decoded : decodeRx before = some assembly)
      (represents : Represents mtu r.tc6.rx assembly)
      (filled : r.tc6.rx.spiDataRxBuf = load buffer (received.flatMap RxChunk.bytes))
      (few : received.length ≤ maxTxChunks) (clean : ∀ chunk ∈ received, CleanFooter chunk.footer)

theorem represents_buffer (rx : RxState) (assembly : Assembly (List UInt8)) (buffer : Nat → UInt8)
    (represents : Represents mtu rx assembly) :
    Represents mtu { rx with spiDataRxBuf := buffer } assembly :=
  ⟨represents.calm, represents.mtuIs, represents.closed, represents.opened,
    represents.delivered, represents.faultless⟩

/-- The chunks in the buffer are processed without an error. -/
theorem represents_process (rx : RxState) (io : Nat → ChunkIo) (buffer : Nat → UInt8)
    (before received : List RxChunk) (line : List (List UInt8))
    (assembly : Assembly (List UInt8)) (decoded : decodeRx before = some assembly)
    (represents : Represents mtu rx assembly)
    (filled : rx.spiDataRxBuf = load buffer (received.flatMap RxChunk.bytes))
    (few : received.length ≤ maxTxChunks) (clean : ∀ chunk ∈ received, CleanFooter chunk.footer)
    (granted : ∀ i, (io i).alloc = true) (brings : Brings mtu line (before ++ received)) :
    ∃ next, decodeRx (before ++ received) = some next ∧
      (processSpiDataRxBuf rx (received.length * chunkSize) io).1 = 0 ∧
      Represents mtu (processSpiDataRxBuf rx (received.length * chunkSize) io).2 next := by
  obtain ⟨early, frames, all, _, _, reads, part⟩ := brings
  obtain ⟨later, continued⟩ := brings_continues part
  have plain := brings_plain part
  rw [decode_rx_eq reads]
  rw [List.map_append] at reads
  obtain ⟨first, here, rfl, readsFirst, readsHere⟩ := List.map_eq_append_iff.mp reads.symm
  rw [decode_rx_eq readsFirst.symm] at decoded
  rw [feed_all_append, feed_all_append, decoded, Option.bind_some] at continued
  obtain ⟨next, fedHere, fedLater⟩ := Option.bind_eq_some_iff.mp continued
  have kept : KeptByChunks mtu (Represents mtu) fun r =>
      Undisturbed r ∧ ∀ piece, r.chunk.piece = some piece → Plain piece := by
    intro rx i r piece assembly next represents holds fine reads fed bounded
    exact represents_chunk rx i r piece assembly next represents holds fine.1 reads
      (fine.2 piece reads) fed bounded
  have chunks : (answered io received).map (fun r => r.chunk.piece) = here.map some := by
    rw [readsHere, ← answered_chunks io received, List.map_map, answered_chunks]
    rfl
  have fine : ∀ r ∈ answered io received,
      Undisturbed r ∧ ∀ piece, r.chunk.piece = some piece → Plain piece := by
    intro r member
    obtain ⟨i, inside, rfl⟩ := List.mem_mapIdx.mp member
    refine ⟨⟨clean _ (List.getElem_mem inside), granted i⟩, fun piece read => ?_⟩
    apply plain piece
    have among : some piece ∈ here.map some := by
      rw [← chunks, ← read]
      exact List.mem_map_of_mem member
    exact List.mem_append_right _ (by simpa using among)
  have bytes : (⟨answered io received, (answered_length io received).trans_le few⟩ :
      Transfer).bytes = received.flatMap RxChunk.bytes := by
    rw [Transfer.bytes, ← List.flatMap_map, answered_chunks]
  have loaded := transfer_loaded ⟨answered io received, (answered_length io received).trans_le few⟩
    buffer 0 (answered io received) rfl
  rw [bytes, ← filled] at loaded
  have run := chunks_keep kept rx 0 (answered io received) here later assembly next _ represents
    loaded fine chunks fedHere fedLater rfl (sent_bounded frames)
  have same := processed_received io rx 0 (answered io received) (by simp [answered])
  rw [answered_length] at same
  rw [← same] at run
  refine ⟨next, ?_, ?_⟩
  · rw [feed_all_append, decoded]
    exact fedHere
  · rwa [processSpiDataRxBuf, Nat.mul_div_cancel _ (by decide)]

theorem in_step_same {d after : Driver} {arrived : List RxChunk}
    (inStep : InStepWithLine mtu d arrived) (rx : after.tc6.rx = d.tc6.rx)
    (spi : after.spi = d.spi) : InStepWithLine mtu after arrived := by
  cases inStep with
  | settled assembly idle decoded represents =>
      exact .settled assembly (spi ▸ idle) decoded (rx ▸ represents)
  | loaded before received buffer assembly pc split decoded represents filled few clean =>
      exact .loaded before received buffer assembly (spi.trans pc) split decoded (rx ▸ represents)
        (rx ▸ filled) few clean

theorem in_step_walk {d after : Driver} {arrived : List RxChunk}
    (inStep : InStepWithLine mtu d arrived) (pc : d.spi.processing = none)
    (rx : after.tc6.rx = d.tc6.rx) (idle : after.spi.processing = none) :
    InStepWithLine mtu after arrived := by
  cases inStep with
  | settled assembly _ decoded represents => exact .settled assembly idle decoded (rx ▸ represents)
  | loaded before received buffer assembly busy => simp [busy, SpiPc.processing] at pc

theorem in_step_exchange (n : Network) (after : Driver) (received : List RxChunk)
    (sized : Sized maxTxChunks n.receiver) (inStep : InStepWithLine mtu n.receiver n.arrived)
    (clean : ∀ chunk ∈ received, CleanFooter chunk.footer)
    (moved : n.receiver.Moves (.exchange received) after) :
    InStepWithLine mtu after (n.arrived ++ received) := by
  cases moved with
  | exchange len pc received whole =>
      obtain ⟨count, few, length, _⟩ := sized.filled len (by rw [pc]; rfl)
      obtain rfl : received.length = count :=
        Nat.eq_of_mul_eq_mul_right (by decide) (whole.trans length)
      cases inStep with
      | settled assembly idle decoded represents =>
          exact .loaded n.arrived received n.receiver.tc6.rx.spiDataRxBuf assembly
            (congrArg SpiPc.process length) rfl decoded (represents_buffer _ _ _ represents) rfl
            few clean
      | loaded before earlier buffer assembly busy => simp [pc] at busy

theorem in_step_process (n : Network) (after : Driver) (io : Nat → ChunkIo)
    (brings : Brings mtu n.sender.line n.arrived) (inStep : InStepWithLine mtu n.receiver n.arrived)
    (granted : ∀ i, (io i).alloc = true) (moved : n.receiver.Moves (.process io) after) :
    InStepWithLine mtu after n.arrived := by
  cases inStep with
  | settled assembly idle => cases moved <;> simp_all [SpiPc.processing]
  | loaded before received buffer assembly pc split decoded represents filled few clean =>
      rw [split] at brings
      obtain ⟨next, reads, fine, there⟩ := represents_process _ io buffer before received _
        assembly decoded represents filled few clean granted brings
      cases moved with
      | processFine len busy io rx out =>
          obtain rfl := SpiPc.process.inj (busy.symm.trans pc)
          rw [out] at there
          exact .settled next rfl (split ▸ reads) there
      | processAgain len busy io rx out =>
          obtain rfl := SpiPc.process.inj (busy.symm.trans pc)
          rw [out] at fine
          exact absurd fine.symm zero_not_eagain
      | processFails len busy io rx ret fails out =>
          obtain rfl := SpiPc.process.inj (busy.symm.trans pc)
          rw [out] at fine
          exact absurd fine fails.1

theorem in_step_moves (n : Network) (after : Driver) (act : DriverAct)
    (sized : Sized maxTxChunks n.receiver) (brings : Brings mtu n.sender.line n.arrived)
    (inStep : InStepWithLine mtu n.receiver n.arrived) (conforms : Conforms mtu n (.receiver act))
    (moved : n.receiver.Moves act after) :
    InStepWithLine mtu after (n.arrived ++ act.received) := by
  cases act with
  | exchange received => exact in_step_exchange n after received sized inStep conforms.2 moved
  | process io =>
      simp only [DriverAct.received, List.append_nil]
      exact in_step_process n after io brings inStep conforms moved
  | spi =>
      simp only [DriverAct.received, List.append_nil]
      cases moved <;> exact in_step_walk inStep (by simp [SpiPc.processing, *]) rfl rfl
  | exchangeFails ret =>
      simp only [DriverAct.received, List.append_nil]
      cases moved with
      | exchangeFails len pc => exact in_step_walk inStep (by rw [pc]; rfl) rfl rfl
  | offer | xmit | interrupt | interruptWake =>
      simp only [DriverAct.received, List.append_nil]
      cases moved <;> exact in_step_same inStep rfl rfl

/-! The line. -/

theorem decode_tx_grows (chunks more : List TxChunk) (assembly later : Assembly TxPiece)
    (decoded : decodeTx chunks = some assembly) (grown : decodeTx (chunks ++ more) = some later) :
    assembly.done <+: later.done := by
  obtain ⟨pieces, read, fed⟩ := Option.bind_eq_some_iff.mp decoded
  obtain ⟨all, readAll, fedAll⟩ := Option.bind_eq_some_iff.mp grown
  simp only [List.mapM_append, read, Option.bind_eq_bind, Option.bind_some, Option.pure_def,
    Option.bind_eq_some_iff, Option.some.injEq] at readAll
  obtain ⟨rest, _, same⟩ := readAll
  rw [← same, feed_all_append, fed] at fedAll
  exact (feed_all_extends assembly later rest fedAll).1

theorem line_accepted (d : Driver) (firstSent : FirstSent d) :
    d.line <+: d.accepted.map fun sent => sent.1.data := by
  obtain ⟨assembly, sent, rest, decoded, carried, split⟩ := firstSent
  rw [Driver.line, decoded, Option.map_some, Option.getD_some, carried_bytes carried, split,
    List.map_append]
  exact List.prefix_append _ _

theorem line_grows (d after : Driver) (act : DriverAct) (before : FirstSent d)
    (behind : FirstSent after) (moved : d.Moves act after) : d.line <+: after.line := by
  obtain ⟨assembly, _, _, decoded, _⟩ := before
  obtain ⟨later, _, _, grown, _⟩ := behind
  rw [Driver.line, Driver.line, decoded, grown]
  have done : assembly.done <+: later.done := by
    cases act with
    | exchange received =>
        cases moved with
        | exchange len pc received whole => exact decode_tx_grows _ _ _ _ decoded grown
    | _ =>
        obtain ⟨wire, _⟩ := wire_moves d after _ moved (by simp)
        rw [wire, decoded, Option.some.injEq] at grown
        exact grown ▸ List.prefix_rfl
  exact done.map frameBytes

theorem brings_grows {line longer : List (List UInt8)} {chunks : List RxChunk}
    (brings : Brings mtu line chunks) (grows : line <+: longer) : Brings mtu longer chunks := by
  obtain ⟨early, frames, all, first, onLine, reads, part⟩ := brings
  exact ⟨early, frames, all, first.trans grows, onLine, reads, part⟩

/-- What is known of the two nodes in any run. -/
structure Follows (mtu : Nat) (n : Network) : Prop where
  sender : Tracked maxTxChunks n.sender
  sized : Sized maxTxChunks n.receiver
  brings : Brings mtu n.sender.line n.arrived
  inStep : InStepWithLine mtu n.receiver n.arrived

theorem follows_reached {n : Network} (reached : Reaches (networkMachine mtu) (Conforms mtu) n) :
    Follows mtu n := by
  refine reached.invariant (Follows mtu) ?initially ?preserved
  case initially =>
    rintro n ⟨senderStarts, receiverStarts, mtuIs, nothing⟩
    refine ⟨tracked_init _ _ senderStarts, sized_init _ _ receiverStarts,
      ⟨[], [], [], List.nil_prefix, .nil, by rw [nothing]; rfl, List.prefix_rfl⟩, ?_⟩
    obtain ⟨bufferStatus, mtu', rxFilter, rxBuffer, txBuffer, _, _, same⟩ := receiverStarts
    refine .settled Assembly.empty (by rw [same]; rfl) (by rw [nothing]; rfl) ?_
    apply fresh_represents
    rw [same] at mtuIs ⊢
    exact ⟨rfl, rfl, mtuIs, rfl, rfl⟩
  case preserved =>
    intro n act after follows conforms stepped
    cases act with
    | sender act =>
        obtain ⟨sender, moved, rfl⟩ := Option.map_eq_some_iff.mp stepped
        have moves := driver_moves _ _ act moved
        have tracked :=
          tracked_moves maxTxChunks (by decide) (by decide) _ _ act follows.sender moves
        exact ⟨tracked, follows.sized, brings_grows follows.brings
          (line_grows _ _ act follows.sender.firstSent tracked.firstSent moves), follows.inStep⟩
    | receiver act =>
        obtain ⟨receiver, moved, rfl⟩ := Option.map_eq_some_iff.mp stepped
        have moves := driver_moves _ _ act moved
        refine ⟨follows.sender,
          sized_moves maxTxChunks (by decide) (by decide) _ _ act follows.sized moves, ?_,
          in_step_moves n receiver act follows.sized follows.brings follows.inStep conforms moves⟩
        cases act with
        | exchange received => exact conforms.1
        | _ => simpa [DriverAct.received] using follows.brings

/-- The frames of which all chunks are processed are the first of the line, and one skb has
been submitted for each. -/
theorem processed_first (n : Network) (follows : Follows mtu n) :
    ∃ before assembly, before <+: n.arrived ∧ decodeRx before = some assembly ∧
      (n.receiver.spi.processing = none → before = n.arrived) ∧
      Represents mtu n.receiver.tc6.rx assembly ∧
      ∃ (early : List (List UInt8)) (frames : List (SentFrame mtu)), early <+: n.sender.line ∧
        List.Forall₂ OnLine early frames ∧ assembly.done = frames.map SentFrame.blocks := by
  obtain ⟨early, frames, all, first, onLine, reads, part⟩ := follows.brings
  obtain ⟨later, continued⟩ := brings_continues part
  have stage : ∃ before assembly, before <+: n.arrived ∧ decodeRx before = some assembly ∧
      (n.receiver.spi.processing = none → before = n.arrived) ∧
      Represents mtu n.receiver.tc6.rx assembly := by
    cases follows.inStep with
    | settled assembly idle decoded represents =>
        exact ⟨n.arrived, assembly, List.prefix_rfl, decoded, fun _ => rfl, represents⟩
    | loaded before received buffer assembly pc split decoded represents =>
        exact ⟨before, assembly, split ▸ List.prefix_append _ _, decoded,
          fun idle => by simp [pc, SpiPc.processing] at idle, represents⟩
  obtain ⟨before, assembly, within, decoded, settled, represents⟩ := stage
  refine ⟨before, assembly, within, decoded, settled, represents, ?_⟩
  obtain ⟨rest, split⟩ := within
  rw [← split, List.map_append] at reads
  obtain ⟨here, behind, rfl, readsHere, _⟩ := List.map_eq_append_iff.mp reads.symm
  rw [decode_rx_eq readsHere.symm] at decoded
  rw [List.append_assoc, feed_all_append, decoded, Option.bind_some] at continued
  have done := (feed_all_extends assembly _ _ continued).1
  have count : assembly.done = (frames.take assembly.done.length).map SentFrame.blocks := by
    rw [List.map_take]
    exact List.prefix_iff_eq_take.mp done
  exact ⟨early.take assembly.done.length, frames.take assembly.done.length,
    (List.take_prefix _ _).trans first, List.forall₂_take _ onLine, count⟩

section Frames
variable {early : List (List UInt8)} {frames : List (SentFrame mtu)}
  (onLine : List.Forall₂ OnLine early frames)
include onLine

theorem line_without_fcs : frames.map SentFrame.withoutFcs = early.map padded := by
  induction onLine with
  | nil => rfl
  | cons here _ ih => rw [List.map_cons, List.map_cons, on_line_without_fcs _ _ here, ih]

theorem line_tails : (∀ frame ∈ frames, 4 ≤ frame.lastChunkBytes) ↔
    ∀ sent ∈ early, 4 ≤ tailBytes sent.length := by
  induction onLine with
  | nil => simp
  | cons here _ ih => simp only [List.forall_mem_cons, on_line_tail _ _ here, ih]
end Frames

theorem prefix_data {early : List (List UInt8)} {line : List (List UInt8)}
    {accepted : List (Skb × Nat)} (first : early <+: line)
    (queued : line <+: accepted.map fun sent => sent.1.data) :
    early.length ≤ accepted.length ∧
      early = (accepted.take early.length).map fun sent => sent.1.data := by
  have within := first.trans queued
  refine ⟨by simpa using within.length_le, ?_⟩
  rw [List.map_take]
  exact List.prefix_iff_eq_take.mp within

/-- What has been submitted, frame by frame. -/
structure Submits (n : Network) (count : Nat) : Prop where
  one : n.receiver.tc6.rx.submitted.length = count
  few : count ≤ n.sender.accepted.length
  exact' : n.receiver.tc6.rx.submitted.map RxSkb.data =
      (n.sender.accepted.take count).map (fun sent => padded sent.1.data) ↔
    ∀ sent ∈ n.sender.accepted.take count, 4 ≤ tailBytes sent.1.data.length
  unharmed : (∀ sent ∈ n.sender.accepted.take count, 4 ≤ tailBytes sent.1.data.length) →
    n.receiver.tc6.rx.faults = []

theorem follows_submits (n : Network) (follows : Follows mtu n) :
    ∃ before assembly, decodeRx before = some assembly ∧
      (n.receiver.spi.processing = none → before = n.arrived) ∧
      Submits n assembly.done.length := by
  obtain ⟨before, assembly, _, decoded, settled, represents, early, frames, first, onLine, done⟩ :=
    processed_first n follows
  refine ⟨before, assembly, decoded, settled, ?_⟩
  have delivered := represents.delivered
  have length := delivered.length_eq
  rw [done] at delivered
  have each := List.forall₂_map_right_iff.mp delivered
  have count : assembly.done.length = early.length := by
    rw [done, List.length_map]
    exact onLine.length_eq.symm
  obtain ⟨few, same⟩ := prefix_data first (line_accepted n.sender follows.sender.firstSent)
  rw [← count] at few same
  have exact' := delivered_all_iff _ _ each
  have unharmed : (∀ frame ∈ frames, 4 ≤ frame.lastChunkBytes) →
      n.receiver.tc6.rx.faults = [] := by
    refine fun enough => represents.faultless ?_
    rw [done, List.forall_mem_map]
    intro frame member
    rw [(blocks_last frame).2]
    exact enough frame member
  rw [line_tails onLine, same] at unharmed
  rw [line_without_fcs onLine, line_tails onLine, same] at exact'
  simp only [List.map_map, List.forall_mem_map, Function.comp_def] at exact' unharmed
  exact ⟨length, few, exact', unharmed⟩

/-- However the two nodes interleave, the receiver has submitted one skb for each of the
first frames that the sender accepted, in order and nothing else. They are the padded
frames exactly if none of them leaves its last chunk fewer than four bytes, and no skb is
overrun then. -/
theorem line_delivers {n : Network} (reached : Reaches (networkMachine mtu) (Conforms mtu) n) :
    n.receiver.tc6.rx.submitted.length ≤ n.sender.accepted.length ∧
      (n.receiver.tc6.rx.submitted.map RxSkb.data =
          (n.sender.accepted.take n.receiver.tc6.rx.submitted.length).map
            (fun sent => padded sent.1.data) ↔
        ∀ sent ∈ n.sender.accepted.take n.receiver.tc6.rx.submitted.length,
          4 ≤ tailBytes sent.1.data.length) ∧
      ((∀ sent ∈ n.sender.accepted.take n.receiver.tc6.rx.submitted.length,
          4 ≤ tailBytes sent.1.data.length) → n.receiver.tc6.rx.faults = []) := by
  obtain ⟨_, assembly, _, _, submits⟩ := follows_submits n (follows_reached reached)
  rw [submits.one]
  exact ⟨submits.few, submits.exact', submits.unharmed⟩

/-- The SPI thread runs, asleep or not, with no transfer under way, and holds no skb. -/
structure Driver.Drained (d : Driver) : Prop where
  running : d.Running
  between : d.spi.built = none
  noOngoing : d.tc6.tx.ongoingTxSkb = none
  noWaiting : d.tc6.tx.waitingTxSkb = none

/-- Then what was accepted is on the line. -/
theorem line_whole (d : Driver) (segmented : Segmented d) (drained : d.Drained) :
    d.line.length = d.accepted.length := by
  obtain ⟨assembly, decoded, ⟨sent, carried, split⟩, _⟩ := segmented.laid drained.running
  rw [emitted_none d drained.between] at decoded
  have length := carried.length_eq
  simp only [TxState.ongoing, TxState.waiting, drained.noOngoing, drained.noWaiting,
    Option.toList_none, List.map_nil, List.append_nil] at split
  rw [Driver.line, decoded, Option.map_some, Option.getD_some, List.length_map, length, split]

/-- Once the sender is drained, and all frames of its line have arrived and are processed, each skb
that was accepted has been submitted at the other end, unless one was overrun there. -/
theorem line_lossless {n : Network} (reached : Reaches (networkMachine mtu) (Conforms mtu) n)
    (drained : n.sender.Drained) (settled : n.receiver.spi.processing = none)
    (assembly : Assembly (List UInt8)) (decoded : decodeRx n.arrived = some assembly)
    (all : assembly.done.length = n.sender.line.length) :
    (n.receiver.tc6.rx.faults = [] →
        n.receiver.tc6.rx.submitted.length = n.sender.accepted.length) ∧
      (n.receiver.tc6.rx.submitted.map RxSkb.data =
          n.sender.accepted.map (fun sent => padded sent.1.data) ↔
        ∀ sent ∈ n.sender.accepted, 4 ≤ tailBytes sent.1.data.length) ∧
      ((∀ sent ∈ n.sender.accepted, 4 ≤ tailBytes sent.1.data.length) →
        n.receiver.tc6.rx.faults = []) := by
  have follows := follows_reached reached
  obtain ⟨before, found, decoded', whole, submits⟩ := follows_submits n follows
  rw [whole settled, decoded, Option.some.injEq] at decoded'
  have count : found.done.length = n.sender.accepted.length := by
    rw [← decoded', all]
    exact line_whole n.sender follows.sender.segmented drained
  have exact' := submits.exact'
  have unharmed := submits.unharmed
  rw [count, List.take_length] at exact' unharmed
  exact ⟨fun _ => submits.one.trans count, exact', unharmed⟩

section Samples

/-- What the environment has no part in. -/
def NetworkAct.quiet : NetworkAct → Bool
  | .receiver (.exchange _) | .receiver (.process _) => false
  | _ => true

theorem allowed_quiet (n : Network) (acts : List NetworkAct)
    (quiet : acts.all NetworkAct.quiet = true) :
    (networkMachine mtu).Allowed (Conforms mtu) n acts := by
  induction acts generalizing n with
  | nil => trivial
  | cons act rest ih =>
      obtain ⟨here, later⟩ := Bool.and_eq_true_iff.mp quiet
      refine ⟨?_, fun after _ => ih after later⟩
      cases act with
      | sender act => trivial
      | receiver act => cases act <;> trivial

def sendFrame : List DriverAct :=
  .offer (sampleSkb 1 60 (by decide) (by decide)) 0 :: List.replicate 4 (.xmit true) ++
    List.replicate 9 .spi ++
    [.exchange [answer 0x20000002#32], .process fun _ => default, .spi, .spi]

/-- A frame of 60 bytes is accepted and sent; the other node is about to fetch it. -/
def frameOnLine : Network :=
  (networkMachine 1500).after ⟨sampleStart 0x100#32, sampleStart 0x2#32, []⟩
    (sendFrame.map .sender ++ (.interrupt :: List.replicate 6 .spi).map .receiver)

def fetched : List RxChunk := shortTransfer.received.map Received.chunk

def frameDelivered : Network :=
  (networkMachine 1500).after frameOnLine
    [.receiver (.exchange fetched), .receiver (.process fun _ => default)]

theorem frame_on_line : Reaches (networkMachine 1500) (Conforms 1500) frameOnLine := by
  apply reaches_after
  · exact ⟨sample_start _ _ (by decide) (by decide), sample_start _ _ (by decide) (by decide),
      rfl, rfl⟩
  · exact allowed_quiet _ _ (by decide +kernel)

theorem fetched_brings : Brings 1500 frameOnLine.sender.line fetched := by
  refine ⟨[List.replicate 60 7], [sampleFrame 64 (by decide) (by decide)],
    pieces (sampleFrame 64 (by decide) (by decide)).blocks, ?_, ?_, rfl, ⟨[], rfl⟩⟩
  · have line : frameOnLine.sender.line = [List.replicate 60 7] := by decide +kernel
    exact line ▸ List.prefix_rfl
  · exact .cons ⟨List.replicate 4 7, rfl, by decide⟩ .nil

theorem frame_delivered : Reaches (networkMachine 1500) (Conforms 1500) frameDelivered := by
  refine frame_on_line.run _ ?_ (run_after (by decide +kernel))
  refine ⟨⟨?_, ?_⟩, fun after _ => ⟨fun _ => rfl, fun _ _ => trivial⟩⟩
  · have nothing : frameOnLine.arrived = [] := List.isEmpty_iff.mp (by decide +kernel)
    rw [nothing]
    exact fetched_brings
  · refine List.forall_mem_cons.mpr ⟨?_, List.forall_mem_singleton.mpr ?_⟩
    · exact ⟨by decide, by decide, by decide⟩
    · exact ⟨by decide, by decide, by decide⟩

theorem line_delivers_sample :
    frameDelivered.receiver.tc6.rx.submitted.length ≤ frameDelivered.sender.accepted.length ∧
      (frameDelivered.receiver.tc6.rx.submitted.map RxSkb.data =
          (frameDelivered.sender.accepted.take
            frameDelivered.receiver.tc6.rx.submitted.length).map
              (fun sent => padded sent.1.data) ↔
        ∀ sent ∈ frameDelivered.sender.accepted.take
            frameDelivered.receiver.tc6.rx.submitted.length,
          4 ≤ tailBytes sent.1.data.length) ∧
      ((∀ sent ∈ frameDelivered.sender.accepted.take
            frameDelivered.receiver.tc6.rx.submitted.length,
          4 ≤ tailBytes sent.1.data.length) → frameDelivered.receiver.tc6.rx.faults = []) :=
  line_delivers frame_delivered

/-- The sender goes back to sleep, with nothing left to do. -/
def senderAsleep : Network :=
  (networkMachine 1500).after frameDelivered (List.replicate 6 (.sender .spi))

theorem sender_asleep : Reaches (networkMachine 1500) (Conforms 1500) senderAsleep :=
  frame_delivered.run _ (allowed_quiet _ _ (by decide)) (run_after (by decide +kernel))

theorem sender_drained : senderAsleep.sender.Drained where
  running ret := by
    have asleep : senderAsleep.sender.spi = .sleep := by decide +kernel
    simp [asleep]
  between := by decide +kernel
  noOngoing := by decide +kernel
  noWaiting := by decide +kernel

theorem line_lossless_sample :
    (senderAsleep.receiver.tc6.rx.faults = [] →
        senderAsleep.receiver.tc6.rx.submitted.length = senderAsleep.sender.accepted.length) ∧
      (senderAsleep.receiver.tc6.rx.submitted.map RxSkb.data =
          senderAsleep.sender.accepted.map (fun sent => padded sent.1.data) ↔
        ∀ sent ∈ senderAsleep.sender.accepted, 4 ≤ tailBytes sent.1.data.length) ∧
      ((∀ sent ∈ senderAsleep.sender.accepted, 4 ≤ tailBytes sent.1.data.length) →
        senderAsleep.receiver.tc6.rx.faults = []) :=
  line_lossless sender_asleep sender_drained (by decide +kernel) _
    (Option.some_get (x := decodeRx senderAsleep.arrived) (by decide +kernel)).symm
    (by decide +kernel)

example : frameDelivered.receiver.tc6.rx.submitted.map RxSkb.data = [List.replicate 60 7] := by
  decide +kernel

end Samples

end Lan865x.OaTc6
