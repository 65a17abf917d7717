import Mathlib.Data.List.Forall2
import Lan865x.ReceiveTransfer

/-!
Receive reassembly. The MAC-PHY sends each frame as an 8-byte timestamp and the
frame bytes, cut into 64-byte payloads from the start of a chunk. While it does,
the driver's partial skb is the chunks of the frame under way without the
timestamp. A frame whose last chunk brings fewer than four bytes makes
`size - 4` wrap in the `u8` length of `oa_tc6_update_rx_skb`.
-/

namespace Lan865x.OaTc6
open BitField Memory Framing

/-- A frame as the MAC-PHY received it, FCS included. -/
structure SentFrame (mtu : Nat) where
  timestamp : List UInt8
  bytes : List UInt8
  stamped : timestamp.length = sizeofTimestampFormat
  minimum : 64 ≤ bytes.length
  maximum : bytes.length ≤ mtu + ethHlen + ethFcsLen

variable {mtu : Nat}

def SentFrame.wire (frame : SentFrame mtu) : List UInt8 := frame.timestamp ++ frame.bytes

def SentFrame.blocks (frame : SentFrame mtu) : List (List UInt8) :=
  cut chunkPayloadSize frame.wire

/-- How many bytes fall in the frame's last chunk, 1 to 64. -/
def SentFrame.lastChunkBytes (frame : SentFrame mtu) : Nat :=
  (frame.wire.length - 1) % chunkPayloadSize + 1

def SentFrame.withoutFcs (frame : SentFrame mtu) : List UInt8 :=
  frame.bytes.take (frame.bytes.length - ethFcsLen)

/-- The chunks carry exactly these frames, with idle chunks anywhere between. -/
def Sends (frames : List (SentFrame mtu)) (received : List Received) : Prop :=
  ∃ all : List (Piece (List UInt8)), received.map (fun r => r.chunk.piece) = all.map some ∧
    all.filter (fun piece => !piece.isIdle) = frames.flatMap fun frame => pieces frame.blocks

/-- No error in the footer, and the allocation succeeds. -/
structure Undisturbed (r : Received) : Prop where
  clean : CleanFooter r.chunk.footer
  granted : r.io.alloc = true

/-- `rx_skb` NULL, `rx_buf_overflow` false, nothing done yet. -/
structure Fresh (mtu : Nat) (rx : RxState) : Prop where
  noSkb : rx.rxSkb = none
  calm : rx.rxBufOverflow = false
  mtuIs : rx.mtu = mtu
  nothingSubmitted : rx.submitted = []
  noFaults : rx.faults = []

theorem to_u8_sub (size less : Nat) (enough : less ≤ size) (small : size < 256) :
    toU8 ((size : Int) - less) = size - less := by
  unfold toU8
  omega

theorem to_u8_wraps (size : Nat) (short : size < 4) : toU8 ((size : Int) - 4) = size + 252 := by
  unfold toU8
  omega

theorem awake_calm (rx : RxState) (calm : rx.rxBufOverflow = false) : awake rx = rx := by
  rw [awake, ← calm]

/-- What the stack gets for a frame that came as these blocks. -/
def Delivered (data : List UInt8) (blocks : List (List UInt8)) : Prop :=
  (4 ≤ (blocks.getLastD []).length →
    data = (blocks.flatten.drop 8).take (blocks.flatten.length - 12)) ∧
  ((blocks.getLastD []).length < 4 → data.length = blocks.flatten.length + 244)

/-- The driver's state stands for the frames put together so far. -/
structure Represents (mtu : Nat) (rx : RxState) (assembly : Assembly (List UInt8)) : Prop where
  calm : rx.rxBufOverflow = false
  mtuIs : rx.mtu = mtu
  closed : assembly.current = none → rx.rxSkb = none
  opened : ∀ blocks, assembly.current = some blocks → 8 ≤ blocks.flatten.length ∧
    ∃ skb, rx.rxSkb = some skb ∧ skb.data = blocks.flatten.drop 8 ∧
      skb.room = mtu + ethHlen + ethFcsLen
  delivered : List.Forall₂ (fun skb blocks => Delivered skb.data blocks) rx.submitted assembly.done
  faultless : (∀ blocks ∈ assembly.done, 4 ≤ (blocks.getLastD []).length) → rx.faults = []

theorem represents_credits (rx : RxState) (assembly : Assembly (List UInt8)) (footer : BitVec 32)
    (represents : Represents mtu rx assembly) :
    Represents mtu (footerCredits rx footer) assembly :=
  ⟨represents.calm, represents.mtuIs, represents.closed, represents.opened,
    represents.delivered, represents.faultless⟩

theorem overrun_none (skb : RxSkb) (total : Nat) (fits : total ≤ skb.room) :
    overrunFaults skb total = [] := by
  simp [overrunFaults, fits]

theorem represents_start (rx : RxState) (i : Nat) (r : Received) (first : List UInt8)
    (assembly next : Assembly (List UInt8)) (represents : Represents mtu rx assembly)
    (holds : Holds rx.spiDataRxBuf i r.chunk) (granted : r.io.alloc = true)
    (reads : first = r.chunk.payload.drop (startOffset r.chunk.footer))
    (stamped : 8 ≤ first.length) (fits : first.length ≤ mtu + 26)
    (fed : assembly.feed (.start first) = some next) :
    (branchPayload rx (i * chunkSize) r.chunk.footer r.io .start).1 = 0 ∧
      Represents mtu (branchPayload rx (i * chunkSize) r.chunk.footer r.io .start).2 next := by
  have offset := start_offset_le r.chunk.footer
  have payload : chunkPayloadSize = 64 := rfl
  have size : first.length = 64 - startOffset r.chunk.footer := by
    rw [reads, List.length_drop, r.chunk.sized, payload]
  cases current : assembly.current with
  | some frame => simp [Assembly.feed, current] at fed
  | none =>
      simp only [Assembly.feed, current, Option.some.injEq] at fed
      subst next
      have copied : toU8 (((chunkPayloadSize - startOffset r.chunk.footer : Nat) : Int) -
          sizeofTimestampFormat) = first.length - 8 := by
        rw [to_u8_sub _ _ (by rw [payload, sizeofTimestampFormat]; omega) (by rw [payload]; omega),
          size]
        rfl
      have bytes : cellsAt rx.spiDataRxBuf
          (i * chunkSize + startOffset r.chunk.footer + sizeofTimestampFormat)
          (first.length - 8) = first.drop 8 := by
        rw [Nat.add_assoc, holds_payload _ i r.chunk holds _ _
          (by rw [payload, sizeofTimestampFormat]; omega), reads, List.drop_drop]
        apply List.take_of_length_le
        have sized := r.chunk.sized
        simp only [List.length_drop, sizeofTimestampFormat]
        omega
      rw [branchPayload, prcsRxFrameStart,
        begin_granted rx _ _ r.io granted, copied,
        overwrite_none rx (represents.closed current), List.append_nil]
      refine ⟨rfl, represents.calm, represents.mtuIs, by simp, ?_, represents.delivered, ?_⟩
      · intro blocks held
        simp only [Option.some.injEq] at held
        subst blocks
        refine ⟨by simpa using stamped, _, rfl, ?_, ?_⟩
        · simp only [begunRxSkb, copied, bytes, List.flatten_singleton]
        · simp [begunRxSkb, newRxSkb, represents.mtuIs]
      · intro good
        rw [overrun_none, List.append_nil]
        · exact represents.faultless good
        · simp only [newRxSkb, represents.mtuIs, ethHlen, ethFcsLen]
          omega

theorem represents_middle (rx : RxState) (i : Nat) (r : Received) (piece : List UInt8)
    (assembly next : Assembly (List UInt8)) (represents : Represents mtu rx assembly)
    (holds : Holds rx.spiDataRxBuf i r.chunk) (reads : piece = r.chunk.payload)
    (fits : ∀ blocks, assembly.current = some blocks →
      (blocks ++ [piece]).flatten.length ≤ mtu + 26)
    (fed : assembly.feed (.middle piece) = some next) :
    (branchPayload rx (i * chunkSize) r.chunk.footer r.io .ongoing).1 = 0 ∧
      Represents mtu (branchPayload rx (i * chunkSize) r.chunk.footer r.io .ongoing).2 next := by
  obtain ⟨frame, current, moved⟩ := Option.map_eq_some_iff.mp fed
  subst next
  obtain ⟨stamped, skb, held, data, room⟩ := represents.opened frame current
  have bytes : cellsAt rx.spiDataRxBuf (i * chunkSize) chunkPayloadSize = piece :=
    (holds_whole _ i r.chunk holds).trans reads.symm
  have size : piece.length = chunkPayloadSize := by rw [reads, r.chunk.sized]
  have bound := fits frame current
  simp only [List.flatten_append, List.flatten_singleton, List.length_append] at bound
  rw [branchPayload, prcsOngoingRxFrame, update_some rx skb _ _ held, bytes]
  refine ⟨rfl, represents.calm, represents.mtuIs, by simp, ?_, represents.delivered, ?_⟩
  · intro blocks under
    simp only [Option.some.injEq] at under
    subst blocks
    refine ⟨?_, _, rfl, ?_, room⟩
    · rw [List.flatten_append, List.length_append]
      omega
    · simp [data, List.drop_append_of_le_length stamped]
  · intro good
    rw [overrun_none, List.append_nil]
    · exact represents.faultless good
    · simp only [room, data, List.length_drop, ethHlen, ethFcsLen, ← size]
      omega

/-- A frame without its timestamp and its FCS, which is all in its last chunk. -/
theorem trimmed_append (front last : List UInt8) (stamped : 8 ≤ front.length)
    (enough : 4 ≤ last.length) :
    ((front ++ last).drop 8).take ((front ++ last).length - 12) =
      front.drop 8 ++ last.take (last.length - 4) := by
  have cutAt : (front ++ last).length - 12 = (front.drop 8).length + (last.length - 4) := by
    simp only [List.length_append, List.length_drop]
    omega
  rw [List.drop_append_of_le_length stamped, cutAt, List.take_length_add_append]

theorem represents_finish (rx : RxState) (i : Nat) (r : Received) (last : List UInt8)
    (assembly next : Assembly (List UInt8)) (represents : Represents mtu rx assembly)
    (holds : Holds rx.spiDataRxBuf i r.chunk)
    (reads : last = r.chunk.payload.take (endOffset r.chunk.footer + 1))
    (fits : ∀ blocks, assembly.current = some blocks →
      (blocks ++ [last]).flatten.length ≤ mtu + 26)
    (fed : assembly.feed (.finish last) = some next) :
    (branchPayload rx (i * chunkSize) r.chunk.footer r.io .finish).1 = 0 ∧
      Represents mtu (branchPayload rx (i * chunkSize) r.chunk.footer r.io .finish).2 next := by
  obtain ⟨frame, current, moved⟩ := Option.map_eq_some_iff.mp fed
  subst next
  obtain ⟨stamped, skb, held, data, room⟩ := represents.opened frame current
  have offset := end_offset_le r.chunk.footer
  have payload : chunkPayloadSize = 64 := rfl
  have size : last.length = endOffset r.chunk.footer + 1 := by
    rw [reads, List.length_take, r.chunk.sized, payload]
    omega
  have bound := fits frame current
  simp only [List.flatten_append, List.flatten_singleton, List.length_append] at bound
  rw [branchPayload, frame_end_some rx skb _ _ held, ← size]
  refine ⟨rfl, represents.calm, represents.mtuIs, by simp, by simp, ?_, ?_⟩
  · refine List.rel_append represents.delivered (List.Forall₂.cons ?_ List.Forall₂.nil)
    -- Whether the last chunk holds the whole FCS decides what is submitted.
    constructor
    · intro enough
      simp only [List.getLastD_concat] at enough
      have copied := to_u8_sub last.length 4 enough (by omega)
      have bytes : cellsAt rx.spiDataRxBuf (i * chunkSize) (last.length - 4) =
          last.take (last.length - 4) := by
        obtain ⟨kept, keeps⟩ : ∃ kept, kept = last.length - 4 := ⟨_, rfl⟩
        rw [holds_front _ i r.chunk holds _ (by rw [payload]; omega), ← keeps, reads,
          List.take_take, Nat.min_eq_left (by omega)]
      simp only [endedRxSkb, Nat.cast_ofNat] at copied ⊢
      rw [copied, bytes, data, List.flatten_append, List.flatten_singleton,
        trimmed_append _ _ stamped enough]
    · intro short
      simp only [List.getLastD_concat] at short
      simp only [endedRxSkb, to_u8_wraps last.length short, List.length_append, cellsAt_length,
        data, List.length_drop, List.flatten_append, List.flatten_singleton]
      omega
  · intro good
    have enough : 4 ≤ last.length := by
      simpa using good (frame ++ [last]) (by simp)
    have copied := to_u8_sub last.length 4 enough (by omega)
    simp only [Nat.cast_ofNat] at copied
    rw [overrun_none, List.append_nil]
    · exact represents.faultless fun blocks member => good blocks (by simp [member])
    · rw [copied, data, room, List.length_drop]
      simp only [ethHlen, ethFcsLen]
      omega

/-- The pieces that zero-aligned frames of more than one chunk are made of. -/
def Plain : Piece (List UInt8) → Prop
  | .start first => first.length = chunkPayloadSize
  | .whole _ => False
  | .turn _ _ => False
  | _ => True

/-- Every frame, done or under way, is within the longest frame and its timestamp. -/
def Bounded (mtu : Nat) (assembly : Assembly (List UInt8)) : Prop :=
  ∀ blocks, assembly.current = some blocks ∨ blocks ∈ assembly.done →
    blocks.flatten.length ≤ mtu + 26

theorem bounded_before (assembly final : Assembly (List UInt8)) (all : List (Piece (List UInt8)))
    (fed : assembly.feedAll all = some final) (ended : final.current = none)
    (bounded : Bounded mtu final) : Bounded mtu assembly := by
  obtain ⟨grown, opened⟩ := feed_all_extends assembly final all fed
  rintro blocks (under | done)
  · obtain ⟨whole, member, tail, split⟩ := opened blocks under ended
    have bound := bounded whole (Or.inr member)
    rw [← split, List.flatten_append, List.length_append] at bound
    omega
  · exact bounded blocks (Or.inr (grown.subset done))

/-- One chunk keeps the driver's state in step with the frames. -/
theorem represents_chunk (rx : RxState) (i : Nat) (r : Received) (piece : Piece (List UInt8))
    (assembly next : Assembly (List UInt8)) (represents : Represents mtu rx assembly)
    (holds : Holds rx.spiDataRxBuf i r.chunk) (undisturbed : Undisturbed r)
    (reads : r.chunk.piece = some piece) (plain : Plain piece)
    (fed : assembly.feed piece = some next) (bounded : Bounded mtu next) :
    (processRxChunk rx i r.io).1 = 0 ∧ Represents mtu (processRxChunk rx i r.io).2 next := by
  have credited := represents_credits rx assembly r.chunk.footer represents
  have branch := piece_branch r.chunk piece reads
  have taken := payload_branches (footerCredits rx r.chunk.footer) (i * chunkSize)
    r.chunk.footer r.io (Or.inl credited.calm)
  rw [awake_calm _ credited.calm] at taken
  rw [clean_chunk rx i r holds undisturbed.clean]
  cases piece with
  | idle =>
      simp only [Assembly.feed, Option.some.injEq] at fed
      subst next
      simp only [branch, Bool.false_eq_true, if_false]
      exact ⟨trivial, credited⟩
  | start first =>
      obtain ⟨valid, isStart, content⟩ := branch
      rw [if_pos valid, taken, isStart]
      have size : first.length = 64 := plain
      refine represents_start _ i r first assembly next credited holds undisturbed.granted content
        (by omega) ?_ fed
      have opened : next.current = some [first] := by
        cases current : assembly.current with
        | some frame => simp [Assembly.feed, current] at fed
        | none =>
            simp only [Assembly.feed, current, Option.some.injEq] at fed
            rw [← fed]
      simpa using bounded [first] (Or.inl opened)
  | middle block =>
      obtain ⟨valid, isOngoing, content⟩ := branch
      rw [if_pos valid, taken, isOngoing]
      refine represents_middle _ i r block assembly next credited holds content ?_ fed
      intro blocks current
      simp only [Assembly.feed, current, Option.map_some, Option.some.injEq] at fed
      exact bounded _ (Or.inl (by rw [← fed]))
  | finish last =>
      obtain ⟨valid, isFinish, content⟩ := branch
      rw [if_pos valid, taken, isFinish]
      refine represents_finish _ i r last assembly next credited holds content ?_ fed
      intro blocks current
      simp only [Assembly.feed, current, Option.map_some, Option.some.injEq] at fed
      exact bounded _ (Or.inr (by rw [← fed]; simp))
  -- Frames cut from the start of a chunk never share one, nor fit into one.
  | whole only => exact absurd plain (by simp [Plain])
  | turn last first => exact absurd plain (by simp [Plain])

section Transfers
variable {Inv : RxState → Assembly (List UInt8) → Prop} {Fine : Received → Prop}

/-- Each chunk that is fine goes through, and keeps the invariant in step with the
frames. -/
def KeptByChunks (mtu : Nat) (Inv : RxState → Assembly (List UInt8) → Prop)
    (Fine : Received → Prop) : Prop :=
  ∀ rx i r piece assembly next, Inv rx assembly → Holds rx.spiDataRxBuf i r.chunk → Fine r →
    r.chunk.piece = some piece → assembly.feed piece = some next → Bounded mtu next →
    (processRxChunk rx i r.io).1 = 0 ∧ Inv (processRxChunk rx i r.io).2 next

/-- The chunks of one transfer, processed in order. -/
theorem chunks_keep (kept : KeptByChunks mtu Inv Fine) (rx : RxState) (i : Nat)
    (received : List Received) (all later : List (Piece (List UInt8)))
    (assembly next final : Assembly (List UInt8)) (inv : Inv rx assembly)
    (loaded : Loaded rx.spiDataRxBuf i received) (fine : ∀ r ∈ received, Fine r)
    (reads : received.map (fun r => r.chunk.piece) = all.map some)
    (fed : assembly.feedAll all = some next) (fedLater : next.feedAll later = some final)
    (ended : final.current = none) (bounded : Bounded mtu final) :
    (processReceived rx i received).1 = 0 ∧ Inv (processReceived rx i received).2 next := by
  induction received generalizing rx i all assembly with
  | nil =>
      cases all with
      | nil =>
          simp only [Assembly.feedAll, Option.some.injEq] at fed
          subst next
          exact ⟨rfl, inv⟩
      | cons piece rest => simp at reads
  | cons r rest ih =>
      cases all with
      | nil => simp at reads
      | cons piece pieces =>
          simp only [List.map_cons, List.cons.injEq] at reads
          obtain ⟨middle, first, tail⟩ := Option.bind_eq_some_iff.mp fed
          have whole : middle.feedAll (pieces ++ later) = some final := by
            rw [feed_all_append, tail]
            exact fedLater
          obtain ⟨success, there⟩ := kept rx i r piece assembly middle inv loaded.1
            (fine r List.mem_cons_self) reads.1 first
            (bounded_before middle final _ whole ended bounded)
          have run := ih (processRxChunk rx i r.io).2 (i + 1) pieces middle there
            (by rw [(chunk_kept rx i r.io).buffer]; exact loaded.2)
            (fun other member => fine other (List.mem_cons_of_mem r member)) reads.2 tail
          simpa [processReceived, success] using run

/-- A run of transfers, the chunk stream cut between them anywhere. -/
theorem transfers_keep (kept : KeptByChunks mtu Inv Fine)
    (buffered : ∀ rx assembly buffer, Inv rx assembly →
      Inv { rx with spiDataRxBuf := buffer } assembly)
    (rx : RxState) (transfers : List Transfer) (all : List (Piece (List UInt8)))
    (assembly final : Assembly (List UInt8)) (inv : Inv rx assembly)
    (fine : ∀ r ∈ transfers.flatMap Transfer.received, Fine r)
    (reads : (transfers.flatMap Transfer.received).map (fun r => r.chunk.piece) = all.map some)
    (fed : assembly.feedAll all = some final) (ended : final.current = none)
    (bounded : Bounded mtu final) : Inv (receive rx transfers) final := by
  induction transfers generalizing rx all assembly with
  | nil =>
      have none : all = [] := by simpa using reads.symm
      subst none
      simp only [Assembly.feedAll, Option.some.injEq] at fed
      subst final
      exact inv
  | cons transfer rest ih =>
      rw [List.flatMap_cons, List.map_append] at reads
      obtain ⟨here, later, rfl, readsHere, readsLater⟩ := List.map_eq_append_iff.mp reads.symm
      rw [feed_all_append] at fed
      obtain ⟨next, fedHere, fedLater⟩ := Option.bind_eq_some_iff.mp fed
      have loaded := transfer_loaded transfer rx.spiDataRxBuf 0 transfer.received rfl
      obtain ⟨success, there⟩ := chunks_keep kept
        { rx with spiDataRxBuf := load rx.spiDataRxBuf transfer.bytes } 0 transfer.received here
        later assembly next final (buffered rx assembly _ inv) loaded
        (fun r member => fine r (by simp [member])) readsHere.symm fedHere fedLater ended bounded
      simp only [receive, receive_transfer_eq, success, true_or, if_true]
      exact ih _ later next there
        (fun r member => fine r (by
          rw [List.flatMap_cons]
          exact List.mem_append_right _ member))
        readsLater.symm fedLater

end Transfers

/-- A run of transfers whose frames are of more than one chunk each. -/
theorem represents_transfers (rx : RxState) (transfers : List Transfer)
    (all : List (Piece (List UInt8))) (assembly final : Assembly (List UInt8))
    (represents : Represents mtu rx assembly)
    (undisturbed : ∀ r ∈ transfers.flatMap Transfer.received, Undisturbed r)
    (reads : (transfers.flatMap Transfer.received).map (fun r => r.chunk.piece) = all.map some)
    (plain : ∀ piece ∈ all, Plain piece) (fed : assembly.feedAll all = some final)
    (ended : final.current = none) (bounded : Bounded mtu final) :
    Represents mtu (receive rx transfers) final := by
  have kept : KeptByChunks mtu (Represents mtu) fun r =>
      Undisturbed r ∧ ∀ piece, r.chunk.piece = some piece → Plain piece := by
    intro rx i r piece assembly next represents holds fine reads fed bounded
    exact represents_chunk rx i r piece assembly next represents holds fine.1 reads
      (fine.2 piece reads) fed bounded
  apply transfers_keep kept _ rx transfers all assembly final represents _ reads fed ended bounded
  · intro rx assembly buffer represents
    exact ⟨represents.calm, represents.mtuIs, represents.closed, represents.opened,
      represents.delivered, represents.faultless⟩
  · intro r member
    constructor
    · exact undisturbed r member
    · intro piece read
      apply plain
      have among : some piece ∈ all.map some := by
        rw [← reads, ← read]
        exact List.mem_map_of_mem member
      simpa using among

theorem wire_length (frame : SentFrame mtu) : frame.wire.length = 8 + frame.bytes.length := by
  rw [SentFrame.wire, List.length_append, frame.stamped, sizeofTimestampFormat]

theorem wire_nonempty (frame : SentFrame mtu) : 0 < frame.wire.length := by
  rw [wire_length]
  omega

theorem blocks_flatten (frame : SentFrame mtu) : frame.blocks.flatten = frame.wire :=
  cut_flatten chunkPayloadSize (by decide) frame.wire (wire_nonempty frame)

theorem blocks_last (frame : SentFrame mtu) :
    frame.blocks ≠ [] ∧ (frame.blocks.getLastD []).length = frame.lastChunkBytes :=
  cut_last chunkPayloadSize (by decide) frame.wire (wire_nonempty frame)

theorem rest_pieces_plain (blocks : List (List UInt8)) :
    ∀ piece ∈ restPieces blocks, Plain piece := by
  induction blocks with
  | nil => simp [restPieces]
  | cons block rest ih =>
      cases rest with
      | nil => simp [restPieces, Plain]
      | cons next tail =>
          intro piece member
          rcases List.mem_cons.mp member with rfl | later
          · trivial
          · exact ih piece later

/-- A frame has more than 64 bytes with its timestamp, so it starts with a full
chunk and ends in another one. -/
theorem blocks_plain (frame : SentFrame mtu) : ∀ piece ∈ pieces frame.blocks, Plain piece := by
  have long : chunkPayloadSize < frame.wire.length := by
    have minimum := frame.minimum
    rw [wire_length, chunk_payload_size]
    omega
  have more : cut chunkPayloadSize (frame.wire.drop chunkPayloadSize) ≠ [] :=
    (cut_last chunkPayloadSize (by decide) _ (by rw [List.length_drop]; omega)).1
  rw [SentFrame.blocks, cut_long _ _ (by decide) long]
  cases tail : cut chunkPayloadSize (frame.wire.drop chunkPayloadSize) with
  | nil => exact absurd tail more
  | cons next rest =>
      intro piece member
      rcases List.mem_cons.mp member with rfl | later
      · simp only [Plain, List.length_take]
        omega
      · exact rest_pieces_plain (next :: rest) piece later

theorem delivered_iff (data : List UInt8) (frame : SentFrame mtu)
    (delivered : Delivered data frame.blocks) :
    data = frame.withoutFcs ↔ 4 ≤ frame.lastChunkBytes := by
  have minimum := frame.minimum
  rw [Delivered, (blocks_last frame).2, blocks_flatten, wire_length] at delivered
  constructor
  · intro same
    by_contra short
    have longer := delivered.2 (by omega)
    rw [same, SentFrame.withoutFcs, List.length_take] at longer
    omega
  · intro enough
    have stripped : frame.wire.drop 8 = frame.bytes :=
      List.drop_left' (by rw [frame.stamped, sizeofTimestampFormat])
    have rest : 8 + frame.bytes.length - 12 = frame.bytes.length - ethFcsLen := by
      rw [ethFcsLen]
      omega
    rw [delivered.1 enough, stripped, rest, SentFrame.withoutFcs]

theorem delivered_all_iff (submitted : List RxSkb) (frames : List (SentFrame mtu))
    (delivered : List.Forall₂ (fun skb frame => Delivered skb.data frame.blocks)
      submitted frames) :
    submitted.map RxSkb.data = frames.map SentFrame.withoutFcs ↔
      ∀ frame ∈ frames, 4 ≤ frame.lastChunkBytes := by
  induction delivered with
  | nil => simp
  | cons one _ ih =>
      simp only [List.map_cons, List.cons.injEq, ih, delivered_iff _ _ one, List.mem_cons,
        forall_eq_or_imp]

theorem fresh_represents (rx : RxState) (fresh : Fresh mtu rx) :
    Represents mtu rx Assembly.empty where
  calm := fresh.calm
  mtuIs := fresh.mtuIs
  closed _ := fresh.noSkb
  opened := by simp [Assembly.empty]
  delivered := by
    rw [fresh.nothingSubmitted]
    exact List.Forall₂.nil
  faultless _ := fresh.noFaults

theorem represents_sent (frames : List (SentFrame mtu)) (transfers : List Transfer) (rx : RxState)
    (fresh : Fresh mtu rx)
    (undisturbed : ∀ r ∈ transfers.flatMap Transfer.received, Undisturbed r)
    (sends : Sends frames (transfers.flatMap Transfer.received)) :
    Represents mtu (receive rx transfers) ⟨frames.map SentFrame.blocks, none⟩ := by
  obtain ⟨all, reads, sent⟩ := sends
  have together : Assembly.empty.feedAll all = some ⟨frames.map SentFrame.blocks, none⟩ := by
    rw [← feed_all_idle, sent, ← List.flatMap_map]
    apply feed_frames [] _
    intro blocks member
    obtain ⟨frame, _, rfl⟩ := List.mem_map.mp member
    exact (blocks_last frame).1
  have plain : ∀ piece ∈ all, Plain piece := by
    intro piece member
    cases idle : piece.isIdle with
    | true => cases piece <;> simp_all [Piece.isIdle, Plain]
    | false =>
        have kept : piece ∈ all.filter fun piece => !piece.isIdle := by simp [member, idle]
        rw [sent] at kept
        obtain ⟨frame, _, inside⟩ := List.mem_flatMap.mp kept
        exact blocks_plain frame piece inside
  refine represents_transfers rx transfers all Assembly.empty _ (fresh_represents rx fresh)
    undisturbed reads plain together rfl ?_
  rintro blocks (under | done)
  · exact absurd under (by simp)
  · obtain ⟨frame, _, rfl⟩ := List.mem_map.mp done
    have maximum := frame.maximum
    simp only [ethHlen, ethFcsLen] at maximum
    rw [blocks_flatten, wire_length]
    omega

/-- Exactly one skb per frame, in order, with the frame's bytes: this holds of
the frames whose last chunk brings at least the four bytes of the FCS. -/
theorem receive_reassembles_iff (frames : List (SentFrame mtu)) (transfers : List Transfer)
    (rx : RxState) (fresh : Fresh mtu rx)
    (undisturbed : ∀ r ∈ transfers.flatMap Transfer.received, Undisturbed r)
    (sends : Sends frames (transfers.flatMap Transfer.received)) :
    ((receive rx transfers).submitted.map RxSkb.data = frames.map SentFrame.withoutFcs ∧
      (receive rx transfers).faults = []) ↔ ∀ frame ∈ frames, 4 ≤ frame.lastChunkBytes := by
  have represents := represents_sent frames transfers rx fresh undisturbed sends
  have delivered := List.forall₂_map_right_iff.mp represents.delivered
  rw [delivered_all_iff _ _ delivered]
  refine and_iff_left_of_imp fun enough => represents.faultless ?_
  intro blocks member
  obtain ⟨frame, inside, rfl⟩ := List.mem_map.mp member
  rw [(blocks_last frame).2]
  exact enough frame inside

section Samples

def sampleFrame (len : Nat) (minimum : 64 ≤ len) (maximum : len ≤ 1518) : SentFrame 1500 :=
  ⟨List.replicate 8 0, List.replicate len 7, rfl, by simpa, by simpa⟩

def sampleReceived (block : List UInt8) (fits : block.length ≤ 64) (footer : BitVec 32) :
    Received :=
  ⟨⟨block ++ List.replicate (64 - block.length) 0, footer, by
    rw [List.length_append, List.length_replicate, chunk_payload_size]
    omega⟩, default⟩

def bareReceived (footer : BitVec 32) : Received := sampleReceived [] (by decide) footer

def Received.answered (received : Received) (io : ChunkIo) : Received :=
  { received with io := io }

theorem sample_undisturbed (block : List UInt8) (fits : block.length ≤ 64) (footer : BitVec 32)
    (noStatus : flag dataFooterExtendedSts footer = false)
    (headerGood : flag dataFooterRxdHeaderBad footer = false)
    (synced : flag dataFooterConfigSync footer = true) :
    Undisturbed (sampleReceived block fits footer) :=
  ⟨⟨noStatus, headerGood, synced⟩, rfl⟩

/-- A frame of 64 bytes, eight of them in its second chunk. -/
def shortTransfer : Transfer :=
  ⟨[sampleReceived (List.replicate 8 0 ++ List.replicate 56 7) (by decide) 0x20300000#32,
    sampleReceived (List.replicate 8 7) (by decide) 0x20204700#32], by decide⟩

theorem receive_reassembles_short :
    ((receive (initRx 1500 0 fun _ => 0) [shortTransfer]).submitted.map RxSkb.data =
        [sampleFrame 64 (by decide) (by decide)].map SentFrame.withoutFcs ∧
      (receive (initRx 1500 0 fun _ => 0) [shortTransfer]).faults = []) ↔
      ∀ frame ∈ [sampleFrame 64 (by decide) (by decide)], 4 ≤ frame.lastChunkBytes := by
  refine receive_reassembles_iff _ [shortTransfer] _ ⟨rfl, rfl, rfl, rfl, rfl⟩ ?_ ?_
  · refine List.forall_mem_cons.mpr ⟨?_, List.forall_mem_singleton.mpr ?_⟩
    · exact sample_undisturbed _ _ _ (by decide) (by decide) (by decide)
    · exact sample_undisturbed _ _ _ (by decide) (by decide) (by decide)
  · exact ⟨pieces (sampleFrame 64 (by decide) (by decide)).blocks, rfl, rfl⟩

/-- A frame of 121 bytes, the last of them alone in its third chunk. -/
def wrappedTransfer : Transfer :=
  ⟨[sampleReceived (List.replicate 8 0 ++ List.replicate 56 7) (by decide) 0x20300000#32,
    sampleReceived (List.replicate 64 7) (by decide) 0x20200000#32,
    sampleReceived (List.replicate 1 7) (by decide) 0x20204000#32], by decide⟩

/-- One byte in the last chunk: `1 - 4` is taken for 253 bytes. -/
theorem receive_wraps_length :
    ¬ ∀ (frames : List (SentFrame 1500)) (transfers : List Transfer) (rx : RxState),
      Fresh 1500 rx → (∀ r ∈ transfers.flatMap Transfer.received, Undisturbed r) →
      Sends frames (transfers.flatMap Transfer.received) →
      (receive rx transfers).submitted.map RxSkb.data = frames.map SentFrame.withoutFcs := by
  intro claimed
  have same := claimed [sampleFrame 121 (by decide) (by decide)] [wrappedTransfer]
    (initRx 1500 0 fun _ => 0) ⟨rfl, rfl, rfl, rfl, rfl⟩ ?_ ?_
  · have lengths := congrArg (List.map List.length) same
    revert lengths
    decide +kernel
  · refine List.forall_mem_cons.mpr ⟨?_, List.forall_mem_cons.mpr ⟨?_,
      List.forall_mem_singleton.mpr ?_⟩⟩
    · exact sample_undisturbed _ _ _ (by decide) (by decide) (by decide)
    · exact sample_undisturbed _ _ _ (by decide) (by decide) (by decide)
    · exact sample_undisturbed _ _ _ (by decide) (by decide) (by decide)
  · exact ⟨pieces (sampleFrame 121 (by decide) (by decide)).blocks, by decide +kernel,
      by decide +kernel⟩

end Samples

end Lan865x.OaTc6
