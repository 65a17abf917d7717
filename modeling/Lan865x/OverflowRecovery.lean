import Lan865x.SkbRoom

/-!
What an overflow costs. Every frame that starts asks for one skb, known by the
address the allocation is given, and the frame is accounted for when that
allocation is refused, or its skb is submitted or freed. The frames whose start
chunk is read are those whose allocation is asked, up to the first refusal,
which ends the thread.
-/

namespace Lan865x.OaTc6
open Framing Memory

/-- The footer lets the chunk through: an extended status, if there is one, is
read and written back and shows none of the errors. -/
structure Unharmed (r : Received) : Prop where
  headerGood : flag dataFooterRxdHeaderBad r.chunk.footer = false
  synced : flag dataFooterConfigSync r.chunk.footer = true
  noError : flag dataFooterExtendedSts r.chunk.footer = true →
    r.io.writeStatus0 = 0 ∧ ∃ value, r.io.readStatus0 = .ok value ∧
      flag status0RxBufferOverflowError value = false ∧
      flag status0TxProtocolError value = false ∧
      flag status0LossOfFrameError value = false ∧ flag status0HeaderError value = false

/-- The footer announces an extended status, which shows an overflow. -/
structure ReportsOverflow (r : Received) : Prop where
  extended : flag dataFooterExtendedSts r.chunk.footer = true
  written : r.io.writeStatus0 = 0
  overflow : ∃ value, r.io.readStatus0 = .ok value ∧
    flag status0RxBufferOverflowError value = true

theorem unharmed_footer (rx : RxState) (r : Received) (unharmed : Unharmed r) :
    processRxChunkFooter rx r.chunk.footer r.io = (0, footerCredits rx r.chunk.footer) := by
  have credits : { rx with
      txCredits := number dataFooterTxCredits r.chunk.footer
      rxChunksAvailable := number dataFooterRxChunks r.chunk.footer } =
        footerCredits rx r.chunk.footer := rfl
  cases extended : flag dataFooterExtendedSts r.chunk.footer with
  | false => simp [processRxChunkFooter, extended, unharmed.headerGood, unharmed.synced, credits]
  | true =>
      obtain ⟨written, value, read, calm, protocol, frame, header⟩ := unharmed.noError extended
      simp [processRxChunkFooter, processExtendedStatus, extended, unharmed.headerGood,
        unharmed.synced, written, read, calm, protocol, frame, header, credits]

theorem unharmed_quiet (r : Received) (unharmed : Unharmed r) :
    overflowReported r.chunk.footer r.io = false := by
  cases extended : flag dataFooterExtendedSts r.chunk.footer with
  | false => simp [overflowReported, extended]
  | true =>
      obtain ⟨_, value, read, calm, _⟩ := unharmed.noError extended
      simp [overflowReported, overflowRead, read, calm]

theorem reports_footer (rx : RxState) (r : Received) (reports : ReportsOverflow r) :
    processRxChunkFooter rx r.chunk.footer r.io =
      (-eagain, overflowed (footerCredits rx r.chunk.footer)) := by
  obtain ⟨value, read, overflow⟩ := reports.overflow
  simp [processRxChunkFooter, processExtendedStatus, reports.extended, read, reports.written,
    overflow, overflowed, footerCredits, eagain]

theorem reports_chunk (rx : RxState) (slot : Nat) (r : Received)
    (holds : Holds rx.spiDataRxBuf slot r.chunk) (reports : ReportsOverflow r) :
    processRxChunk rx slot r.io = (-eagain, overflowed (footerCredits rx r.chunk.footer)) := by
  simp [processRxChunk, holds_footer rx slot r.chunk holds, reports_footer rx r reports, eagain]

/-- An allocation asked for this address. -/
def Asked (rx : RxState) (addr : Nat) : Prop := addr ∈ rx.allocated ∨ addr ∈ rx.refused

/-- The skbs up to the first one that is overrun. They are filled one after the other, and
`skb_put` brings the kernel down there. -/
def intactSkbs (rx : RxState) : List Nat :=
  rx.allocated.takeWhile fun addr => !(overrunSkbs rx).contains addr

/-- The skb of this address was submitted, or its frame counted in `rx_dropped`, and no skb was
overrun before that. -/
def Accounted (rx : RxState) (addr : Nat) : Prop :=
  (addr ∈ intactSkbs rx ∧ (addr ∈ rx.submitted.map RxSkb.addr ∨ addr ∈ rx.freed)) ∨
    (addr ∈ rx.refused ∧ overrunSkbs rx = [])

/-- With no skb in hand, what was allocated was submitted or freed. -/
theorem accounted_iff (rx : RxState) (addr : Nat) (life : LifeSound rx)
    (empty : rx.rxSkb = none) :
    Accounted rx addr ↔ addr ∈ intactSkbs rx ∨ (addr ∈ rx.refused ∧ overrunSkbs rx = []) := by
  have ledger := life.ledger.mem_iff (a := addr)
  simp only [empty, Option.map_none, Option.toList_none, List.append_nil, List.mem_append] at ledger
  rw [Accounted, ← ledger]
  refine or_congr_left (and_iff_left_of_imp fun intact => ?_)
  exact (List.takeWhile_sublist _).mem intact

/-- The addresses asked for along the chunks, up to the first refusal. -/
def asks : List Received → List Nat
  | [] => []
  | r :: rest =>
      if startsFrame r then r.io.addr :: if r.io.alloc then asks rest else [] else asks rest

theorem asks_append (left right : List Received) :
    asks (left ++ right) = asks left ++ if refuses left then [] else asks right := by
  induction left with
  | nil => simp [asks, refuses]
  | cons r rest ih =>
      have tail : refuses (r :: rest) = ((startsFrame r && !r.io.alloc) || refuses rest) := rfl
      rw [List.cons_append, asks, asks, ih, tail]
      cases startsFrame r <;> cases r.io.alloc <;> simp

theorem asks_started (received : List Received) (addr : Nat) (asked : addr ∈ asks received) :
    addr ∈ (received.filter startsFrame).map fun q => q.io.addr := by
  induction received with
  | nil => simp [asks] at asked
  | cons r rest ih =>
      cases starts : startsFrame r with
      | false => simpa [asks, starts] using ih (by simpa [asks, starts] using asked)
      | true =>
          cases granted : r.io.alloc with
          | false => simp_all [asks]
          | true =>
              have cases : addr = r.io.addr ∨ addr ∈ asks rest := by
                simpa [asks, starts, granted] using asked
              rcases cases with same | later
              · simp [starts, same]
              · simpa [starts] using Or.inr (by simpa using ih later)

theorem refuses_iff (received : List Received) :
    refuses received = false ↔
      ∀ q ∈ received, startsFrame q = true → q.io.alloc = true := by
  simp [refuses]

/-- Whether the frame that starts at `r` gets as far as its allocation. -/
theorem asks_mem_iff (front rest : List Received) (r : Received) (starts : startsFrame r = true)
    (distinct : (((front ++ r :: rest).filter startsFrame).map fun q => q.io.addr).Nodup) :
    r.io.addr ∈ asks (front ++ r :: rest) ↔ refuses front = false := by
  rw [asks_append, List.filter_append, List.map_append] at *
  have here : r.io.addr ∈ ((r :: rest).filter startsFrame).map fun q => q.io.addr := by
    simp [starts]
  -- Addresses are distinct, so no frame in front can have asked for this one.
  have apart : r.io.addr ∉ asks front := fun asked =>
    (List.nodup_append.mp distinct).2.2 _ (asks_started front _ asked) _ here rfl
  cases refuses front <;> simp [apart, asks, starts]

/-- What an operation asks for. -/
structure AsksNothing (before after : RxState) : Prop where
  allocated : after.allocated = before.allocated
  refused : after.refused = before.refused

theorem update_asks (rx : RxState) (payload length : Nat) :
    AsksNothing rx (updateRxSkb rx payload length) := by
  unfold updateRxSkb
  split <;> exact ⟨rfl, rfl⟩

theorem submit_asks (rx : RxState) : AsksNothing rx (submitRxSkb rx) := by
  unfold submitRxSkb
  split <;> exact ⟨rfl, rfl⟩

theorem cleanup_asks (rx : RxState) : AsksNothing rx (cleanupOngoingRxSkb rx) := by
  unfold cleanupOngoingRxSkb
  split <;> exact ⟨rfl, rfl⟩

theorem AsksNothing.trans {first second third : RxState} (left : AsksNothing first second)
    (right : AsksNothing second third) : AsksNothing first third :=
  ⟨right.allocated.trans left.allocated, right.refused.trans left.refused⟩

theorem frame_end_asks (rx : RxState) (payload size : Nat) :
    AsksNothing rx (prcsRxFrameEnd rx payload size) :=
  (update_asks rx _ _).trans (submit_asks _)

theorem asks_nothing_iff (before after : RxState) (same : AsksNothing before after) (addr : Nat) :
    Asked after addr ↔ Asked before addr := by
  rw [Asked, Asked, same.allocated, same.refused]

/-- What starting a frame asks for and answers. -/
structure AsksOnce (before : RxState) (io : ChunkIo) (result : Int × RxState) : Prop where
  ret : result.1 = if io.alloc then 0 else -enomem
  asked : ∀ addr, Asked result.2 addr ↔ Asked before addr ∨ addr = io.addr

theorem AsksOnce.after {first second : RxState} {io : ChunkIo} {result : Int × RxState}
    (same : AsksNothing first second) (once : AsksOnce second io result) :
    AsksOnce first io result :=
  ⟨once.ret, fun addr => by rw [once.asked addr, asks_nothing_iff _ _ same]⟩

theorem awake_asks (rx : RxState) : AsksNothing rx (awake rx) := ⟨rfl, rfl⟩

theorem begin_asks (rx : RxState) (payload size : Nat) (io : ChunkIo) :
    AsksOnce rx io (beginRxFrame rx payload size io) := by
  cases granted : io.alloc with
  | true =>
      rw [begin_granted rx payload size io granted]
      refine ⟨by simp [granted], fun addr => ?_⟩
      simp [Asked, or_right_comm]
  | false =>
      rw [begin_refused rx payload size io granted]
      refine ⟨by simp [granted], fun addr => ?_⟩
      simp [Asked, or_assoc]

theorem complete_asks (rx : RxState) (payload size : Nat) (io : ChunkIo) :
    AsksOnce rx io (prcsCompleteRxFrame rx payload size io) := by
  obtain ⟨ret, asked⟩ := begin_asks rx payload size io
  simp only [prcsCompleteRxFrame]
  split
  · exact ⟨ret, asked⟩
  · rename_i done
    refine ⟨?_, fun addr => ?_⟩
    · rw [← ret]
      exact (not_not.mp done).symm
    · rw [asks_nothing_iff _ _ (submit_asks _)]
      exact asked addr

/-- A chunk in which no frame starts asks for nothing. -/
theorem payload_asks_nothing (rx : RxState) (data : Nat) (footer : BitVec 32) (io : ChunkIo)
    (inside : flag dataFooterStartValid footer = false) :
    (prcsRxChunkPayload rx data footer io).1 = 0 ∧
      AsksNothing rx (prcsRxChunkPayload rx data footer io).2 := by
  cases overflow : rx.rxBufOverflow with
  | true =>
      rw [payload_skips rx data footer io overflow inside]
      exact ⟨rfl, rfl, rfl⟩
  | false =>
      rw [payload_branches rx data footer io (Or.inl overflow), awake_calm rx overflow]
      cases ends : flag dataFooterEndValid footer with
      | true =>
          simp only [rxBranch, inside, ends, branchPayload]
          exact ⟨trivial, frame_end_asks rx _ _⟩
      | false =>
          simp only [rxBranch, inside, ends, branchPayload]
          exact ⟨trivial, update_asks rx _ _⟩

/-- A chunk in which a frame starts asks for its skb. -/
theorem payload_asks_once (rx : RxState) (data : Nat) (r : Received)
    (piece : Piece (List UInt8)) (reads : r.chunk.piece = some piece)
    (busy : piece.isIdle = false) (starts : flag dataFooterStartValid r.chunk.footer = true) :
    AsksOnce rx r.io (prcsRxChunkPayload rx data r.chunk.footer r.io) := by
  have branch := piece_branch r.chunk piece reads
  rw [payload_branches rx data r.chunk.footer r.io (Or.inr starts)]
  apply AsksOnce.after (awake_asks rx)
  rcases piece_starts r.chunk piece reads busy starts with
    ⟨first, rfl⟩ | ⟨only, rfl⟩ | ⟨last, first, rfl⟩
  · rw [branch.2.1]
    exact begin_asks _ _ _ r.io
  · rw [branch.2.1]
    exact complete_asks _ _ _ r.io
  · rw [branch.2.1, branchPayload, prcsRxFrameStart]
    refine AsksOnce.after ?_ (begin_asks _ _ _ r.io)
    split
    · exact frame_end_asks _ _ _
    · exact ⟨rfl, rfl⟩

/-- What a chunk that is let through asks for. -/
theorem unharmed_asks (rx : RxState) (slot : Nat) (r : Received) (piece : Piece (List UInt8))
    (holds : Holds rx.spiDataRxBuf slot r.chunk) (unharmed : Unharmed r)
    (reads : r.chunk.piece = some piece) :
    if startsFrame r then AsksOnce rx r.io (processRxChunk rx slot r.io)
    else (processRxChunk rx slot r.io).1 = 0 ∧ AsksNothing rx (processRxChunk rx slot r.io).2 := by
  have branch := piece_branch r.chunk piece reads
  have credited : AsksNothing rx (footerCredits rx r.chunk.footer) := ⟨rfl, rfl⟩
  simp only [processRxChunk, holds_footer rx slot r.chunk holds, unharmed_footer rx r unharmed,
    ne_eq, not_true_eq_false, if_false, startsFrame]
  cases valid : flag dataFooterDataValid r.chunk.footer with
  | false => exact ⟨rfl, credited⟩
  | true =>
      simp only [Bool.true_and, if_true]
      cases starts : flag dataFooterStartValid r.chunk.footer with
      | false =>
          obtain ⟨ret, nothing⟩ :=
            payload_asks_nothing (footerCredits rx r.chunk.footer) (slot * chunkSize) _ r.io starts
          exact ⟨ret, credited.trans nothing⟩
      | true =>
          have busy : piece.isIdle = false := by
            cases piece <;> simp [valid, Piece.isIdle] at branch ⊢
          exact AsksOnce.after credited (payload_asks_once _ _ r piece reads busy starts)

/-- What is true after some chunks: the ledger balances, the addresses asked for
are known, and unless one was refused the driver is in step. -/
structure Went (mtu : Nat) (before : RxState) (received : List Received) (pos : DevicePos)
    (filling : SkbFill) (spilled : List Nat) (result : Int × RxState) : Prop where
  life : LifeSound result.2
  fills : FillsOn mtu before result.2 filling spilled (grants (untilRefusal received))
  asked : ∀ addr, Asked result.2 addr ↔ Asked before addr ∨ addr ∈ asks received
  ret : result.1 = if refuses received then -enomem else 0
  inStep : refuses received = false → InStep result.2 pos

theorem went_received {mtu : Nat} {filling : SkbFill} (rx : RxState) (slot : Nat)
    (received : List Received) (pos final : DevicePos) (inStep : InStep rx pos)
    (life : LifeSound rx) (fills : Fills mtu filling rx)
    (loaded : Loaded rx.spiDataRxBuf slot received) (unharmed : ∀ r ∈ received, Unharmed r)
    (runs : deviceRun pos received = some final) :
    Went mtu rx received final (filling.behind (untilRefusal received))
      (overruns mtu filling (untilRefusal received)) (processReceived rx slot received) := by
  -- By induction on the chunks; a refusal ends the loop and the list of addresses alike.
  induction received generalizing rx slot pos filling with
  | nil =>
      simp only [deviceRun, Option.some.injEq] at runs
      subst final
      exact ⟨life, FillsOn.refl fills, by simp [processReceived, asks], rfl, fun _ => inStep⟩
  | cons r rest ih =>
      obtain ⟨next, stepped, later⟩ := Option.bind_eq_some_iff.mp runs
      obtain ⟨piece, reads, _⟩ := Option.bind_eq_some_iff.mp stepped
      have fine := unharmed r List.mem_cons_self
      have sustains := sustains_chunk rx slot r pos next inStep life loaded.1
        (unharmed_footer rx r fine) (unharmed_quiet r fine) stepped
      have asksHere := unharmed_asks rx slot r piece loaded.1 fine reads
      have filled := fills_chunk rx slot r piece fills reads loaded.1 (unharmed_footer rx r fine)
      obtain rfl : r.piece = piece := by rw [Received.piece, reads, Option.getD_some]
      have goesOn : (processRxChunk rx slot r.io).1 = 0 →
          Went mtu (processRxChunk rx slot r.io).2 rest final
            ((filling.after r.io r.piece).behind (untilRefusal rest))
            (overruns mtu (filling.after r.io r.piece) (untilRefusal rest))
            (processReceived rx slot (r :: rest)) := by
        intro done
        have tail := ih (processRxChunk rx slot r.io).2 (slot + 1) next (sustains.goesOn done)
          sustains.life filled.fills (by rw [(chunk_kept rx slot r.io).buffer]; exact loaded.2)
          (fun other member => unharmed other (List.mem_cons_of_mem r member)) later
        simpa [processReceived, done] using tail
      cases starts : startsFrame r with
      | false =>
          rw [if_neg (by simp [starts])] at asksHere
          obtain ⟨life, fills, asked, ret, inStep⟩ := goesOn asksHere.1
          have further : untilRefusal (r :: rest) = r :: untilRefusal rest := by
            simp [untilRefusal, starts]
          rw [further]
          refine ⟨life, ?_, fun addr => ?_, ?_, ?_⟩
          · rw [further]
            exact filled.trans fills
          · rw [asked addr, asks_nothing_iff _ _ asksHere.2]
            simp [asks, starts]
          · simpa [refuses, starts] using ret
          · simpa [refuses, starts] using inStep
      | true =>
          rw [if_pos starts] at asksHere
          cases granted : r.io.alloc with
          | true =>
              obtain ⟨life, fills, asked, ret, inStep⟩ := goesOn (by simp [asksHere.ret, granted])
              have further : untilRefusal (r :: rest) = r :: untilRefusal rest := by
                simp [untilRefusal, granted]
              rw [further]
              refine ⟨life, ?_, fun addr => ?_, ?_, ?_⟩
              · rw [further]
                exact filled.trans fills
              · rw [asked addr, asksHere.asked addr]
                simp [asks, starts, granted, or_assoc]
              · simpa [refuses, starts, granted] using ret
              · simpa [refuses, starts, granted] using inStep
          | false =>
              have failed : (processRxChunk rx slot r.io).1 = -enomem := by
                simp [asksHere.ret, granted]
              have out : processReceived rx slot (r :: rest) = processRxChunk rx slot r.io := by
                simp [processReceived, failed, enomem, Prod.ext_iff]
              have last : untilRefusal (r :: rest) = [r] := by
                simp [untilRefusal, starts, granted]
              rw [out, last]
              refine ⟨sustains.life, ?_, fun addr => ?_, ?_, ?_⟩
              · rw [last]
                simpa [SkbFill.behind, overruns, grants] using filled
              · rw [asksHere.asked addr]
                simp [asks, starts, granted]
              · simp [failed, refuses, starts, granted]
              · simp [refuses, starts, granted]

theorem device_run_append (pos : DevicePos) (left right : List Received) :
    deviceRun pos (left ++ right) = (deviceRun pos left).bind fun next => deviceRun next right := by
  induction left generalizing pos with
  | nil => rfl
  | cons r rest ih =>
      simp only [List.cons_append, deviceRun, Option.bind_assoc]
      exact congrArg _ (funext fun next => ih next)

theorem received_append (rx : RxState) (slot : Nat) (left right : List Received) :
    processReceived rx slot (left ++ right) =
      if (processReceived rx slot left).1 ≠ 0 then processReceived rx slot left
      else processReceived (processReceived rx slot left).2 (slot + left.length) right := by
  induction left generalizing rx slot with
  | nil => simp [processReceived]
  | cons r rest ih =>
      simp only [List.cons_append, processReceived]
      split
      · rfl
      · rw [ih, List.length_cons, Nat.add_right_comm slot 1]
        rfl

theorem received_kept (rx : RxState) (slot : Nat) (received : List Received) :
    Kept rx (processReceived rx slot received).2 := by
  induction received generalizing rx slot with
  | nil => exact Kept.refl rx
  | cons r rest ih =>
      simp only [processReceived]
      split
      · exact chunk_kept rx slot r.io
      · exact (chunk_kept rx slot r.io).trans (ih _ _)

theorem loaded_append (buffer : Nat → UInt8) (slot : Nat) (left right : List Received) :
    Loaded buffer slot (left ++ right) ↔
      Loaded buffer slot left ∧ Loaded buffer (slot + left.length) right := by
  induction left generalizing slot with
  | nil => simp [Loaded]
  | cons r rest ih =>
      simp only [List.cons_append, Loaded, ih, List.length_cons, and_assoc, Nat.add_right_comm,
        Nat.add_assoc]

theorem Went.append {mtu : Nat} {before : RxState} {left right : List Received}
    {middle final : DevicePos} {filling last : SkbFill} {spilled spilledThen : List Nat}
    {first second : Int × RxState} (went : Went mtu before left middle filling spilled first)
    (granted : refuses left = false)
    (onward : Went mtu first.2 right final last spilledThen second) :
    Went mtu before (left ++ right) final last (spilled ++ spilledThen) second where
  life := onward.life
  fills := by
    have both := went.fills.trans onward.fills
    rw [until_refusal_all left granted, grants, grants, ← List.flatMap_append] at both
    rw [until_refusal_append, granted]
    exact both
  asked addr := by
    rw [onward.asked addr, went.asked addr, asks_append, granted, List.mem_append, or_assoc]
    rfl
  ret := by rw [onward.ret, refuses_append, granted, Bool.false_or]
  inStep calm := onward.inStep (by rwa [refuses_append, granted, Bool.false_or] at calm)

theorem Went.stop {mtu : Nat} {before : RxState} {left : List Received} (right : List Received)
    {middle : DevicePos} (final : DevicePos) {filling : SkbFill} {spilled : List Nat}
    {result : Int × RxState} (went : Went mtu before left middle filling spilled result)
    (refused : refuses left = true) :
    Went mtu before (left ++ right) final filling spilled result where
  life := went.life
  fills := by
    rw [until_refusal_append, if_pos refused]
    exact went.fills
  asked addr := by rw [went.asked addr, asks_append, refused, if_pos rfl, List.append_nil]
  ret := by rw [went.ret, refuses_append, refused, Bool.true_or]
  inStep calm := by simp [refuses_append, refused] at calm

/-- The overflow asks for nothing; where the MAC-PHY is then does not matter. -/
theorem Went.overflow {mtu : Nat} {before : RxState} {received : List Received}
    {middle : DevicePos} {filling : SkbFill} {spilled : List Nat} {result : Int × RxState}
    (went : Went mtu before received middle filling spilled result)
    (granted : refuses received = false) (footer : BitVec 32) (final : DevicePos) :
    Went mtu before received final none spilled
      (0, overflowed (footerCredits result.2 footer)) := by
  obtain ⟨recovering, empty⟩ := overflowed_skb (footerCredits result.2 footer)
  have credited := life_credits result.2 footer went.life
  refine ⟨life_cleanup _ ⟨credited.sound, credited.ledger, credited.counted⟩, ?_, fun addr => ?_,
    by simp [granted], fun _ => overflowed_in_step _ recovering empty final⟩
  · have freed := fills_overflowed (footerCredits result.2 footer)
      ⟨went.fills.fills.mtuIs, went.fills.fills.held, went.fills.fills.room,
        went.fills.fills.recovering⟩
    have both := went.fills.trans (freed.after result.2 rfl rfl)
    rwa [List.append_nil, List.append_nil] at both
  · rw [overflowed, asks_nothing_iff _ _ (cleanup_asks _)]
    exact went.asked addr

theorem fills_buffer {mtu : Nat} {filling : SkbFill} {rx : RxState} (buffer : Nat → UInt8)
    (fills : Fills mtu filling rx) : Fills mtu filling { rx with spiDataRxBuf := buffer } :=
  ⟨fills.mtuIs, fills.held, fills.room, fills.recovering⟩

theorem went_transfer {mtu : Nat} {filling : SkbFill} (rx : RxState) (slot : Nat)
    (buffer : Nat → UInt8) (received : List Received) (pos final : DevicePos)
    (inStep : InStep rx pos) (life : LifeSound rx) (fills : Fills mtu filling rx)
    (loaded : Loaded buffer slot received) (unharmed : ∀ r ∈ received, Unharmed r)
    (runs : deviceRun pos received = some final) :
    Went mtu rx received final (filling.behind (untilRefusal received))
      (overruns mtu filling (untilRefusal received))
      (processReceived { rx with spiDataRxBuf := buffer } slot received) := by
  obtain ⟨life, fills, asked, ret, inStep⟩ := went_received { rx with spiDataRxBuf := buffer } slot
    received pos final ⟨inStep.recovering, inStep.aligned⟩ ⟨life.sound, life.ledger, life.counted⟩
    (fills_buffer buffer fills) loaded unharmed runs
  exact ⟨life, fills.after rx rfl rfl, asked, ret, inStep⟩

/-- Transfers without an error, followed by any others. -/
theorem went_transfers {mtu : Nat} {filling : SkbFill} (rx : RxState)
    (transfers rest : List Transfer) (pos final : DevicePos) (inStep : InStep rx pos)
    (life : LifeSound rx) (fills : Fills mtu filling rx)
    (unharmed : ∀ r ∈ transfers.flatMap Transfer.received, Unharmed r)
    (runs : deviceRun pos (transfers.flatMap Transfer.received) = some final) :
    ∃ result, Went mtu rx (transfers.flatMap Transfer.received) final
        (filling.behind (untilRefusal (transfers.flatMap Transfer.received)))
        (overruns mtu filling (untilRefusal (transfers.flatMap Transfer.received))) result ∧
      receive rx (transfers ++ rest) =
        if refuses (transfers.flatMap Transfer.received) then cleanupOngoingRxSkb result.2
        else receive result.2 rest := by
  induction transfers generalizing rx pos filling with
  | nil =>
      simp only [List.flatMap_nil, deviceRun, Option.some.injEq] at runs
      subst final
      exact ⟨(0, rx), ⟨life, FillsOn.refl fills, by simp [asks], rfl, fun _ => inStep⟩, rfl⟩
  | cons transfer later ih =>
      rw [List.flatMap_cons, device_run_append] at runs
      obtain ⟨middle, here, onward⟩ := Option.bind_eq_some_iff.mp runs
      have went := went_transfer rx 0 (load rx.spiDataRxBuf transfer.bytes) transfer.received pos
        middle inStep life fills (transfer_loaded transfer _ 0 _ rfl)
        (fun r member => unharmed r (by simp [member])) here
      simp only [List.flatMap_cons, List.cons_append, receive, receive_transfer_eq, went.ret,
        refuses_append]
      cases refused : refuses transfer.received with
      | true =>
          have stops := went.stop (later.flatMap Transfer.received) final refused
          rw [until_refusal_append, if_pos refused]
          exact ⟨_, stops, by simp [enomem, eagain]⟩
      | false =>
          obtain ⟨result, there, same⟩ := ih _ middle (went.inStep refused) went.life
            went.fills.fills (fun r member => unharmed r (by
              rw [List.flatMap_cons]
              exact List.mem_append_right _ member)) onward
          have both := went.append refused there
          rw [until_refusal_all _ refused, ← overruns_append] at both
          rw [until_refusal_append, refused]
          refine ⟨result, ?_, by simpa using same⟩
          simpa [SkbFill.behind] using both

/-- A stream of frames between whose chunks lies one, `hit`, that reports an
overflow; the frames have skbs of different addresses. -/
structure OverflowStream where
  before : List Transfer
  pre : List Received
  hit : Received
  post : List Received
  fits : (pre ++ hit :: post).length ≤ maxTxChunks
  after : List Transfer
  reports : ReportsOverflow hit
  unharmed : ∀ r ∈ (before.flatMap Transfer.received ++ pre) ++
    (post ++ after.flatMap Transfer.received), Unharmed r
  frames : deviceRun .idle ((before.flatMap Transfer.received ++ pre) ++
    hit :: (post ++ after.flatMap Transfer.received)) = some .idle
  distinct : ((((before.flatMap Transfer.received ++ pre) ++
    hit :: (post ++ after.flatMap Transfer.received)).filter startsFrame).map
      fun r => r.io.addr).Nodup

namespace OverflowStream

def transfers (stream : OverflowStream) : List Transfer :=
  stream.before ++ ⟨stream.pre ++ stream.hit :: stream.post, stream.fits⟩ :: stream.after

/-- The chunks before the one that reports the overflow. -/
def earlier (stream : OverflowStream) : List Received :=
  stream.before.flatMap Transfer.received ++ stream.pre

/-- The chunks of the transfers after that chunk's. -/
def later (stream : OverflowStream) : List Received := stream.after.flatMap Transfer.received

/-- No frame is put more than its skb has room for: those before the report, as far as they
come, and those that start within so many chunks of `later` and are granted one. -/
structure Roomy (stream : OverflowStream) (mtu chunks : Nat) : Prop where
  earlier : ∀ front q back, stream.earlier = front ++ q :: back → overrunsSkb mtu q back = false
  later : ∀ front q back, stream.later = front ++ q :: back → front.length ≤ chunks →
    q.io.alloc = true → overrunsSkb mtu q back = false

/-- No frame starts in the rest of the transfer of the chunk that reports, and none later once an
allocation was refused or an skb put more than it has room for. -/
structure Spared (stream : OverflowStream) (mtu : Nat) : Prop where
  rest : ∀ r ∈ stream.post, startsFrame r = false
  granted : ∀ front r back, stream.later = front ++ r :: back → startsFrame r = true →
    ∀ q ∈ stream.earlier ++ front, startsFrame q = true → q.io.alloc = true
  fits : ∀ front r back, stream.later = front ++ r :: back → startsFrame r = true →
    stream.Roomy mtu front.length

end OverflowStream

theorem cleanup_skb (rx : RxState) : (cleanupOngoingRxSkb rx).rxSkb = none := by
  unfold cleanupOngoingRxSkb
  split
  · assumption
  · rfl

theorem idle_skb (rx : RxState) (inStep : InStep rx .idle) : rx.rxSkb = none := by
  cases overflow : rx.rxBufOverflow with
  | true => exact inStep.recovering overflow
  | false => exact inStep.aligned overflow

/-- The skbs that are overrun, the frame under way at the report being broken off there. -/
def OverflowStream.overrun (stream : OverflowStream) (mtu : Nat) : List Nat :=
  overruns mtu none (untilRefusal stream.earlier) ++
    if refuses stream.earlier then [] else overruns mtu none (untilRefusal stream.later)

/-- At the end, what was asked for is what the chunks outside the rest of the
hit transfer ask for. -/
structure Settled (stream : OverflowStream) (mtu : Nat) (rx : RxState) : Prop where
  life : LifeSound rx
  empty : rx.rxSkb = none
  asked : ∀ addr, Asked rx addr ↔ addr ∈ asks (stream.earlier ++ stream.later)
  overran : overrunSkbs rx = stream.overrun mtu
  allocated : rx.allocated = grants (untilRefusal (stream.earlier ++ stream.later))

theorem settled_stop (stream : OverflowStream) (mtu : Nat) (start rx : RxState)
    (left : List Received) (pos : DevicePos) (filling : SkbFill) (ret : Int)
    (nothing : ∀ addr, ¬ Asked start addr)
    (unused : start.allocated = [] ∧ overrunSkbs start = [])
    (went : Went mtu start left pos filling (stream.overrun mtu) (ret, rx))
    (all : asks left = asks (stream.earlier ++ stream.later))
    (read : untilRefusal left = untilRefusal (stream.earlier ++ stream.later)) :
    Settled stream mtu (cleanupOngoingRxSkb rx) := by
  have freed := went.fills.trans (fills_cleanup rx went.fills.fills)
  refine ⟨life_cleanup rx went.life, cleanup_skb rx, fun addr => ?_, ?_, ?_⟩
  · rw [asks_nothing_iff _ _ (cleanup_asks _), went.asked addr, or_iff_right (nothing addr), all]
  · rw [freed.overran, unused.2, List.append_nil, List.nil_append]
  · rw [freed.allocated, unused.1, List.append_nil, List.nil_append, read]

/-- The loop leaves the transfer at the chunk that reports. -/
theorem received_hit (rx : RxState) (pre post : List Received) (hit : Received)
    (loaded : Loaded rx.spiDataRxBuf 0 (pre ++ hit :: post)) (reports : ReportsOverflow hit)
    (done : (processReceived rx 0 pre).1 = 0) :
    processReceived rx 0 (pre ++ hit :: post) =
      (-eagain, overflowed (footerCredits (processReceived rx 0 pre).2 hit.chunk.footer)) := by
  have held := ((loaded_append _ _ _ _).mp loaded).2.1
  rw [← (received_kept rx 0 pre).buffer] at held
  rw [received_append, if_neg (not_not.mpr done), processReceived,
    reports_chunk _ _ hit held reports]
  simp [eagain]

theorem went_hit {mtu : Nat} {filling : SkbFill} (stream : OverflowStream) (rx : RxState)
    (pos middle : DevicePos) (inStep : InStep rx pos) (life : LifeSound rx)
    (fills : Fills mtu filling rx) (runs : deviceRun pos stream.pre = some middle) :
    ∃ result, Went mtu rx stream.pre middle (filling.behind (untilRefusal stream.pre))
        (overruns mtu filling (untilRefusal stream.pre)) result ∧
      receive rx (⟨stream.pre ++ stream.hit :: stream.post, stream.fits⟩ :: stream.after) =
        if refuses stream.pre then cleanupOngoingRxSkb result.2
        else receive (overflowed (footerCredits result.2 stream.hit.chunk.footer))
          stream.after := by
  have loaded := transfer_loaded ⟨stream.pre ++ stream.hit :: stream.post, stream.fits⟩
    rx.spiDataRxBuf 0 _ rfl
  rw [receive, receive_transfer_eq]
  generalize load rx.spiDataRxBuf _ = buffer at loaded
  have went := went_transfer rx 0 buffer stream.pre pos middle inStep life fills
    ((loaded_append _ _ _ _).mp loaded).1
    (fun r member => stream.unharmed r (by simp [member])) runs
  refine ⟨_, went, ?_⟩
  have ret := went.ret
  cases refused : refuses stream.pre with
  | true =>
      rw [refused, if_pos rfl] at ret
      have stops : processReceived { rx with spiDataRxBuf := buffer } 0
          (stream.pre ++ stream.hit :: stream.post) =
            processReceived { rx with spiDataRxBuf := buffer } 0 stream.pre := by
        rw [received_append, if_pos (by rw [ret]; exact enomem_fails.1)]
      simp [stops, ret, enomem, eagain]
  | false =>
      rw [refused, if_neg (by simp)] at ret
      have leaves := received_hit { rx with spiDataRxBuf := buffer } stream.pre stream.post
        stream.hit loaded stream.reports ret
      simp [leaves]

theorem overflow_settled (stream : OverflowStream) (mtu : Nat) (rxFilter : Int)
    (buffer : Nat → UInt8) :
    Settled stream mtu (receive (initRx mtu rxFilter buffer) stream.transfers) := by
  have nothing : ∀ addr, ¬ Asked (initRx mtu rxFilter buffer) addr := by
    simp [Asked, initRx]
  have fresh : InStep (initRx mtu rxFilter buffer) .idle := ⟨fun _ => rfl, fun _ => rfl⟩
  have balanced : LifeSound (initRx mtu rxFilter buffer) :=
    ⟨by simp [initRx], List.Perm.refl _, rfl⟩
  have unused : (initRx mtu rxFilter buffer).allocated = [] ∧
      overrunSkbs (initRx mtu rxFilter buffer) = [] := ⟨rfl, rfl⟩
  have fills : Fills mtu none (initRx mtu rxFilter buffer) :=
    ⟨rfl, rfl, by simp [initRx], fun _ => rfl⟩
  have frames := stream.frames
  -- The run in four parts: transfers before, chunks before the report, the report, transfers after.
  -- A refusal in the first two ends the thread there.
  simp only [device_run_append, Option.bind_assoc] at frames
  obtain ⟨first, beforeRuns, frames⟩ := Option.bind_eq_some_iff.mp frames
  obtain ⟨second, preRuns, frames⟩ := Option.bind_eq_some_iff.mp frames
  obtain ⟨third, _, frames⟩ := Option.bind_eq_some_iff.mp frames
  rw [device_run_append] at frames
  obtain ⟨fourth, _, afterRuns⟩ := Option.bind_eq_some_iff.mp frames
  obtain ⟨result, went, same⟩ := went_transfers _ stream.before
    (⟨stream.pre ++ stream.hit :: stream.post, stream.fits⟩ :: stream.after) .idle first fresh
    balanced fills (fun r member => stream.unharmed r
      (List.mem_append_left _ (List.mem_append_left _ member))) beforeRuns
  rw [OverflowStream.transfers, same]
  cases refused : refuses (stream.before.flatMap Transfer.received) with
  | true =>
      have spilled : overruns mtu none (untilRefusal (stream.before.flatMap Transfer.received)) =
          stream.overrun mtu := by
        simp [OverflowStream.overrun, OverflowStream.earlier, until_refusal_append, refuses_append,
          refused]
      rw [spilled] at went
      apply settled_stop stream mtu _ _ _ _ _ _ nothing unused went
      · simp [OverflowStream.earlier, asks_append, refused]
      · simp [OverflowStream.earlier, until_refusal_append, refused]
  | false =>
      rw [if_neg (by simp)]
      obtain ⟨hitResult, hitWent, hitSame⟩ := went_hit stream result.2 first second
        (went.inStep refused) went.life went.fills.fills preRuns
      have earlier := went.append refused hitWent
      rw [until_refusal_all _ refused, ← overruns_append] at earlier
      rw [hitSame]
      cases hitRefused : refuses stream.pre with
      | true =>
          have spilled : overruns mtu none
              (stream.before.flatMap Transfer.received ++ untilRefusal stream.pre) =
                stream.overrun mtu := by
            simp [OverflowStream.overrun, OverflowStream.earlier, until_refusal_append,
              refuses_append, refused, hitRefused]
          rw [spilled] at earlier
          apply settled_stop stream mtu _ _ _ _ _ _ nothing unused earlier
          · simp [OverflowStream.earlier, asks_append, refused, hitRefused]
          · simp [OverflowStream.earlier, until_refusal_append, refused, hitRefused]
      | false =>
          rw [if_neg (by simp)]
          have granted :
              refuses (stream.before.flatMap Transfer.received ++ stream.pre) = false := by
            simp [refuses_append, refused, hitRefused]
          have skips := earlier.overflow granted stream.hit.chunk.footer fourth
          obtain ⟨last, lastWent, lastSame⟩ := went_transfers _ stream.after [] fourth .idle
            (skips.inStep granted) skips.life skips.fills.fills
            (fun r member => stream.unharmed r
              (List.mem_append_right _ (List.mem_append_right _ member))) afterRuns
          have whole := skips.append granted lastWent
          have spilled : overruns mtu none
                (stream.before.flatMap Transfer.received ++ untilRefusal stream.pre) ++
              overruns mtu none (untilRefusal (stream.after.flatMap Transfer.received)) =
                stream.overrun mtu := by
            simp [OverflowStream.overrun, OverflowStream.earlier, OverflowStream.later,
              until_refusal_append, refuses_append, refused, hitRefused]
          rw [spilled] at whole
          rw [List.append_nil] at lastSame
          rw [lastSame]
          cases lastRefused : refuses (stream.after.flatMap Transfer.received) with
          | true => exact settled_stop stream mtu _ _ _ _ _ _ nothing unused whole rfl rfl
          | false =>
              refine ⟨whole.life, idle_skb _ (lastWent.inStep lastRefused), fun addr => ?_, ?_, ?_⟩
              · simp only [receive, Bool.false_eq_true, if_false]
                rw [whole.asked addr, or_iff_right (nothing addr)]
                rfl
              · simpa [receive, unused] using whole.fills.overran
              · have allocated := whole.fills.allocated
                simpa [receive, unused, OverflowStream.earlier, OverflowStream.later]
                  using allocated

theorem run_readable (pos final : DevicePos) (received : List Received)
    (runs : deviceRun pos received = some final) :
    ∀ r ∈ received, r.chunk.piece = some r.piece := by
  induction received generalizing pos with
  | nil => exact nofun
  | cons r rest ih =>
      obtain ⟨next, stepped, later⟩ := Option.bind_eq_some_iff.mp runs
      obtain ⟨piece, reads, _⟩ := Option.bind_eq_some_iff.mp stepped
      refine List.forall_mem_cons.mpr ⟨?_, ih next later⟩
      rw [Received.piece, reads, Option.getD_some]

theorem granted_by (r : Received) (readable : r.chunk.piece = some r.piece) :
    grantedBy r.io r.piece = if startsFrame r && r.io.alloc then [r.io.addr] else [] := by
  rw [piece_starts_frame r r.piece readable]
  cases r.piece <;> simp [grantedBy, opensFrame]

/-- Two frames of one list of chunks: either one is in front of the other, or they are the same. -/
theorem split_cases {α : Type} {left front back right : List α} {other here : α}
    (same : left ++ other :: right = front ++ here :: back) :
    (∃ between, front = left ++ other :: between) ∨ (left = front ∧ other = here) ∨
      ∃ between, left = front ++ here :: between ∧ back = between ++ other :: right := by
  rcases List.append_eq_append_iff.mp same with ⟨between, rfl, rest⟩ | ⟨between, rfl, rest⟩
  · rcases List.cons_eq_append_iff.mp rest with ⟨rfl, rest⟩ | ⟨between, rfl, rfl⟩
    · exact .inr (.inl ⟨by simp, (List.cons.inj rest).1⟩)
    · exact .inl ⟨between, rfl⟩
  · rcases List.cons_eq_append_iff.mp rest with ⟨rfl, rest⟩ | ⟨between, rfl, rfl⟩
    · exact .inr (.inl ⟨by simp, (List.cons.inj rest).1.symm⟩)
    · exact .inr (.inr ⟨between, rfl, rfl⟩)

/-- A member comes before the first that fails when no earlier one fails, nor the member itself. -/
theorem mem_take_while {α : Type} (p : α → Bool) (before after : List α) (x : α)
    (fresh : x ∉ before) :
    x ∈ (before ++ x :: after).takeWhile p ↔ ∀ y ∈ before ++ [x], p y = true := by
  induction before with
  | nil => cases good : p x <;> simp [good]
  | cons first rest ih =>
      have apart : x ≠ first := fun same => fresh (same ▸ List.mem_cons_self)
      have tail := ih (fun member => fresh (List.mem_cons_of_mem first member))
      rw [List.cons_append, List.cons_append, List.forall_mem_cons, ← tail]
      cases good : p first <;> simp [good, apart]

/-- An skb is intact when neither it nor one allocated before it is overrun. -/
theorem intact_iff (rx : RxState) (before after : List Nat) (addr : Nat)
    (order : rx.allocated = before ++ addr :: after) (fresh : addr ∉ before) :
    addr ∈ intactSkbs rx ↔ ∀ other ∈ before ++ [addr], other ∉ overrunSkbs rx := by
  rw [intactSkbs, order, mem_take_while _ before after addr fresh]
  simp

theorem mem_grants (received : List Received)
    (readable : ∀ r ∈ received, r.chunk.piece = some r.piece) (addr : Nat) :
    addr ∈ grants received ↔
      ∃ r ∈ received, startsFrame r = true ∧ r.io.alloc = true ∧ r.io.addr = addr := by
  rw [grants, List.mem_flatMap]
  refine exists_congr fun r => and_congr_right fun member => ?_
  rw [granted_by r (readable r member)]
  cases startsFrame r <;> cases r.io.alloc <;> simp [eq_comm]

namespace OverflowStream

theorem readable (stream : OverflowStream) :
    ∀ r ∈ stream.earlier ++ stream.later, r.chunk.piece = some r.piece := by
  intro r member
  refine run_readable _ _ _ stream.frames r ?_
  rcases List.mem_append.mp member with early | late
  · exact List.mem_append_left _ early
  · exact List.mem_append_right _ (List.mem_cons_of_mem _ (List.mem_append_right _ late))

theorem asked_distinct (stream : OverflowStream) :
    (((stream.post ++ (stream.earlier ++ stream.later)).filter startsFrame).map
      fun r => r.io.addr).Nodup := by
  have order : (stream.earlier ++ (stream.post ++ stream.later)).Perm
      (stream.post ++ (stream.earlier ++ stream.later)) := List.perm_append_comm_assoc ..
  refine ((order.filter _).map _).nodup_iff.mp (stream.distinct.sublist ?_)
  exact (((List.sublist_cons_self _ _).append_left _).filter _).map _

theorem outside_distinct (stream : OverflowStream) :
    (((stream.earlier ++ stream.later).filter startsFrame).map fun r => r.io.addr).Nodup :=
  stream.asked_distinct.sublist (((List.sublist_append_right _ _).filter _).map _)

/-- What starts in the rest of the transfer of the report is never asked for. -/
theorem rest_unasked (stream : OverflowStream) (r : Received) (member : r ∈ stream.post)
    (starts : startsFrame r = true) : r.io.addr ∉ asks (stream.earlier ++ stream.later) := by
  have distinct := stream.asked_distinct
  rw [List.filter_append, List.map_append, List.nodup_append] at distinct
  intro asked
  refine distinct.2.2 _ (List.mem_map.mpr ⟨r, ?_, rfl⟩) _ (asks_started _ _ asked) rfl
  exact List.mem_filter.mpr ⟨member, starts⟩

theorem mem_overrun (stream : OverflowStream) (mtu addr : Nat) :
    addr ∈ stream.overrun mtu ↔
      (∃ front q back, stream.earlier = front ++ q :: back ∧ refuses front = false ∧
        q.io.alloc = true ∧ q.io.addr = addr ∧ overrunsSkb mtu q back = true) ∨
      (refuses stream.earlier = false ∧ ∃ front q back, stream.later = front ++ q :: back ∧
        refuses front = false ∧ q.io.alloc = true ∧ q.io.addr = addr ∧
          overrunsSkb mtu q back = true) := by
  rw [overrun, List.mem_append, mem_overruns mtu addr stream.earlier fun r member =>
    stream.readable r (List.mem_append_left _ member)]
  simp only [reduceCtorEq, false_and, exists_false, false_or]
  refine or_congr_right ?_
  cases refused : refuses stream.earlier with
  | true => simp
  | false =>
      rw [if_neg (by simp), mem_overruns mtu addr stream.later fun r member =>
        stream.readable r (List.mem_append_right _ member)]
      simp

end OverflowStream

theorem overruns_starts (mtu : Nat) (r : Received) (back : List Received)
    (readable : r.chunk.piece = some r.piece) (spilled : overrunsSkb mtu r back = true) :
    startsFrame r = true := by
  rw [piece_starts_frame r r.piece readable]
  rw [overrunsSkb] at spilled
  cases piece : r.piece with
  | idle | middle _ | finish _ =>
      rw [piece, startsBeyond] at spilled
      exact absurd spilled (by simp)
  | start _ | whole _ | turn _ _ => rfl

/-- A frame that starts after the transfer of the report, when every frame before it was granted
its skb. -/
structure Reached (stream : OverflowStream) (front : List Received) (r : Received)
    (back : List Received) : Prop where
  split : stream.later = front ++ r :: back
  starts : startsFrame r = true
  granted : refuses (stream.earlier ++ front) = false

namespace Reached

variable {stream : OverflowStream} {front back : List Received} {r : Received}

theorem readable (reached : Reached stream front r back) :
    ∀ q ∈ stream.earlier ++ front, q.chunk.piece = some q.piece := by
  intro q member
  refine stream.readable q ?_
  rw [reached.split, ← List.append_assoc]
  exact List.mem_append_left _ member

theorem apart (reached : Reached stream front r back) :
    ∀ q ∈ stream.earlier ++ front, startsFrame q = true →
      ∀ other ∈ r :: back, startsFrame other = true → q.io.addr ≠ other.io.addr := by
  have distinct := stream.outside_distinct
  rw [reached.split, ← List.append_assoc, List.filter_append, List.map_append,
    List.nodup_append] at distinct
  intro q member starts other behind begins
  exact distinct.2.2 _ (List.mem_map_of_mem (List.mem_filter.mpr ⟨member, starts⟩)) _
    (List.mem_map_of_mem (List.mem_filter.mpr ⟨behind, begins⟩))

theorem own (reached : Reached stream front r back) :
    ∀ q ∈ back, startsFrame q = true → r.io.addr ≠ q.io.addr := by
  have distinct := stream.outside_distinct
  have inside : (r :: back).Sublist (stream.earlier ++ stream.later) := by
    rw [reached.split, ← List.append_assoc]
    exact List.sublist_append_right _ _
  have pair := distinct.sublist ((inside.filter startsFrame).map fun q => q.io.addr)
  rw [List.filter_cons_of_pos reached.starts, List.map_cons, List.nodup_cons] at pair
  intro q member starts same
  exact pair.1 (same ▸ List.mem_map_of_mem (List.mem_filter.mpr ⟨member, starts⟩))

theorem fresh (reached : Reached stream front r back) :
    r.io.addr ∉ grants (stream.earlier ++ front) := by
  rw [mem_grants _ reached.readable]
  rintro ⟨q, member, starts, _, same⟩
  exact reached.apart q member starts r List.mem_cons_self reached.starts same

theorem asked (reached : Reached stream front r back) :
    r.io.addr ∈ asks (stream.earlier ++ stream.later) := by
  rw [reached.split, ← List.append_assoc, asks_append, reached.granted, if_neg (by simp), asks,
    if_pos reached.starts]
  exact List.mem_append_right _ List.mem_cons_self

theorem allocated (reached : Reached stream front r back) :
    grants (untilRefusal (stream.earlier ++ stream.later)) =
      grants (stream.earlier ++ front) ++
        if r.io.alloc then r.io.addr :: grants (untilRefusal back) else [] := by
  have readable := stream.readable r (by simp [reached.split])
  have here := granted_by r readable
  rw [reached.starts, Bool.true_and] at here
  rw [reached.split, ← List.append_assoc, until_refusal_append, reached.granted, if_neg (by simp),
    grants, List.flatMap_append]
  refine congrArg _ ?_
  rw [untilRefusal, List.flatMap_cons, here, reached.starts]
  cases r.io.alloc <;> simp [grants]

/-- An overrun at or before the frame is of an skb among those allocated up to there. -/
theorem overrun_before (reached : Reached stream front r back) {mtu : Nat}
    (cramped : ¬ stream.Roomy mtu front.length) :
    ∃ other ∈ stream.overrun mtu, other ∈ grants (stream.earlier ++ front) ∨
      (r.io.alloc = true ∧ other = r.io.addr) := by
  have granted := reached.granted
  rw [refuses_append, Bool.or_eq_false_iff] at granted
  by_contra none
  push Not at none
  refine cramped ⟨fun before q behind here => ?_, fun before q behind here inside alloc => ?_⟩
  · by_contra spilled
    rw [Bool.not_eq_false] at spilled
    have member : q ∈ stream.earlier := by simp [here]
    have starts := overruns_starts mtu q behind
      (reached.readable q (List.mem_append_left _ member)) spilled
    have alloc := (refuses_iff _).mp granted.1 q member starts
    have calm : refuses before = false := by
      have all := granted.1
      rw [here, refuses_append, Bool.or_eq_false_iff] at all
      exact all.1
    refine (none q.io.addr ((stream.mem_overrun mtu _).mpr
      (.inl ⟨before, q, behind, here, calm, alloc, rfl, spilled⟩))).1 ?_
    exact (mem_grants _ reached.readable _).mpr
      ⟨q, List.mem_append_left _ member, starts, alloc, rfl⟩
  · by_contra spilled
    rw [Bool.not_eq_false] at spilled
    have starts := overruns_starts mtu q behind (stream.readable q (by simp [here])) spilled
    have listed : refuses before = false → q.io.addr ∈ stream.overrun mtu := fun calm =>
      (stream.mem_overrun mtu _).mpr
        (.inr ⟨granted.1, before, q, behind, here, calm, alloc, rfl, spilled⟩)
    rcases split_cases (here.symm.trans reached.split) with
      ⟨between, same⟩ | ⟨same, rfl⟩ | ⟨between, same, _⟩
    · have calm : refuses before = false := by
        have all := granted.2
        rw [same, refuses_append, Bool.or_eq_false_iff] at all
        exact all.1
      refine (none _ (listed calm)).1 ((mem_grants _ reached.readable _).mpr
        ⟨q, ?_, starts, alloc, rfl⟩)
      simp [same]
    · exact (none _ (listed (same ▸ granted.2))).2 alloc rfl
    · rw [same, List.length_append, List.length_cons] at inside
      omega

/-- With room up to the frame, an overrun is of an skb that starts behind it. -/
theorem overrun_behind (reached : Reached stream front r back) {mtu : Nat}
    (roomy : stream.Roomy mtu front.length) (other : Nat) (spilled : other ∈ stream.overrun mtu) :
    r.io.alloc = true ∧ ∃ q ∈ back, startsFrame q = true ∧ q.io.addr = other := by
  rcases (stream.mem_overrun mtu other).mp spilled with
    ⟨before, q, behind, here, _, _, _, beyond⟩ |
      ⟨_, before, q, behind, here, calm, alloc, same, beyond⟩
  · exact absurd beyond (by rw [roomy.earlier before q behind here]; simp)
  · have starts := overruns_starts mtu q behind (stream.readable q (by simp [here])) beyond
    have outside : ¬ before.length ≤ front.length := fun inside =>
      absurd beyond (by rw [roomy.later before q behind here inside alloc]; simp)
    rcases split_cases (here.symm.trans reached.split) with
      ⟨between, prefixed⟩ | ⟨prefixed, _⟩ | ⟨between, prefixed, rest⟩
    · exact absurd (by rw [prefixed, List.length_append]; omega) outside
    · exact absurd (by simp [prefixed]) outside
    · refine ⟨?_, q, by simp [rest], starts, same⟩
      rw [prefixed, refuses_iff] at calm
      exact calm r (by simp) reached.starts

theorem accounted_iff_roomy (reached : Reached stream front r back) {mtu : Nat} {rx : RxState}
    (settled : Settled stream mtu rx) :
    Accounted rx r.io.addr ↔ stream.Roomy mtu front.length := by
  rw [accounted_iff rx _ settled.life settled.empty]
  have order := settled.allocated.trans reached.allocated
  have none : overrunSkbs rx = [] → stream.Roomy mtu front.length := by
    intro none
    by_contra cramped
    obtain ⟨other, spilled, _⟩ := reached.overrun_before cramped
    rw [← settled.overran, none] at spilled
    exact nomatch spilled
  cases granted : r.io.alloc with
  | false =>
      rw [granted, if_neg (by simp), List.append_nil] at order
      have dropped : r.io.addr ∉ rx.allocated := order ▸ reached.fresh
      have refused : r.io.addr ∈ rx.refused :=
        ((settled.asked _).mpr reached.asked).resolve_left dropped
      have unkept : r.io.addr ∉ intactSkbs rx := fun intact =>
        dropped ((List.takeWhile_sublist _).mem intact)
      rw [or_iff_right unkept, and_iff_right refused]
      refine ⟨none, fun roomy => List.eq_nil_iff_forall_not_mem.mpr fun other spilled => ?_⟩
      rw [settled.overran] at spilled
      simp [(reached.overrun_behind roomy other spilled).1] at granted
  | true =>
      rw [granted, if_pos rfl] at order
      rw [intact_iff rx _ _ _ order reached.fresh, settled.overran]
      constructor
      · rintro (intact | ⟨_, clean⟩)
        · by_contra cramped
          obtain ⟨other, spilled, place⟩ := reached.overrun_before cramped
          refine intact other ?_ spilled
          rcases place with early | ⟨_, rfl⟩
          · exact List.mem_append_left _ early
          · simp
        · exact none (settled.overran.trans clean)
      · refine fun roomy => .inl fun other place spilled => ?_
        obtain ⟨_, q, member, starts, same⟩ := reached.overrun_behind roomy other spilled
        rcases List.mem_append.mp place with early | here
        · obtain ⟨p, inFront, begins, _, owner⟩ := (mem_grants _ reached.readable _).mp early
          exact reached.apart p inFront begins q (List.mem_cons_of_mem r member) starts
            (owner.trans same.symm)
        · exact reached.own q member starts ((List.mem_singleton.mp here).symm.trans same.symm)

end Reached

theorem accounted_asked (rx : RxState) (addr : Nat) (accounted : Accounted rx addr) :
    Asked rx addr := by
  rcases accounted with ⟨intact, _⟩ | ⟨refused, _⟩
  · exact .inl ((List.takeWhile_sublist _).mem intact)
  · exact .inr refused

/-- Every frame that starts after the overflow is accounted for exactly when none starts in the
rest of its transfer, no refused allocation ends the thread before the last of them, and no skb
up to there is put more than it has room for. -/
theorem overflow_loses_only_damaged_iff (stream : OverflowStream) (mtu : Nat) (rxFilter : Int)
    (buffer : Nat → UInt8) :
    (∀ r ∈ stream.post ++ stream.later, startsFrame r = true →
      Accounted (receive (initRx mtu rxFilter buffer) stream.transfers) r.io.addr) ↔
      stream.Spared mtu := by
  have settled := overflow_settled stream mtu rxFilter buffer
  have unfinished : ∀ front r back, stream.later = front ++ r :: back → startsFrame r = true →
      r.io.addr ∈ asks (stream.earlier ++ stream.later) →
        refuses (stream.earlier ++ front) = false := by
    intro front r back split starts asked
    have distinct := stream.outside_distinct
    rw [split, ← List.append_assoc] at asked distinct
    exact (asks_mem_iff _ back r starts distinct).mp asked
  constructor
  · intro accounted
    have asked : ∀ r ∈ stream.post ++ stream.later, startsFrame r = true →
        r.io.addr ∈ asks (stream.earlier ++ stream.later) := fun r member starts =>
      (settled.asked _).mp (accounted_asked _ _ (accounted r member starts))
    have last : ∀ front r back, stream.later = front ++ r :: back →
        r ∈ stream.post ++ stream.later := fun front r back split => by simp [split]
    refine ⟨fun r member => ?_, fun front r back split starts => ?_,
      fun front r back split starts => ?_⟩
    · by_contra starts
      rw [Bool.not_eq_false] at starts
      exact stream.rest_unasked r member starts (asked r (List.mem_append_left _ member) starts)
    · exact (refuses_iff _).mp (unfinished front r back split starts
        (asked r (last front r back split) starts))
    · have reached : Reached stream front r back := ⟨split, starts, unfinished front r back split
        starts (asked r (last front r back split) starts)⟩
      exact (reached.accounted_iff_roomy settled).mp (accounted r (last front r back split) starts)
  · intro spared r member starts
    rcases List.mem_append.mp member with inRest | inLater
    · rw [spared.rest r inRest] at starts
      exact nomatch starts
    · obtain ⟨front, back, split⟩ := List.append_of_mem inLater
      have reached : Reached stream front r back :=
        ⟨split, starts, (refuses_iff _).mpr (spared.granted front r back split starts)⟩
      exact (reached.accounted_iff_roomy settled).mpr (spared.fits front r back split starts)

section Samples

def tagged (addr : Nat) (footer : BitVec 32) : Received :=
  (bareReceived footer).answered ⟨.ok 8#32, 0, true, addr⟩

theorem tagged_unharmed (addr : Nat) (footer : BitVec 32)
    (noStatus : flag dataFooterExtendedSts footer = false)
    (headerGood : flag dataFooterRxdHeaderBad footer = false)
    (synced : flag dataFooterConfigSync footer = true) : Unharmed (tagged addr footer) :=
  ⟨headerGood, synced, fun extended => absurd (noStatus.symm.trans extended) (by simp)⟩

/-- The chunk that ends the first frame reports the overflow; a second frame
follows in the same transfer. -/
def followedStream : OverflowStream where
  before := []
  pre := [tagged 0 0x20300000#32]
  hit := tagged 0 0xA0207F00#32
  post := [tagged 1 0x20300000#32, tagged 1 0x20207F00#32]
  fits := by decide
  after := []
  reports := ⟨by decide, rfl, 8#32, rfl, by decide⟩
  unharmed := List.forall_mem_cons.mpr ⟨tagged_unharmed _ _ (by decide) (by decide) (by decide),
    List.forall_mem_cons.mpr ⟨tagged_unharmed _ _ (by decide) (by decide) (by decide),
      List.forall_mem_singleton.mpr (tagged_unharmed _ _ (by decide) (by decide) (by decide))⟩⟩
  frames := by decide +kernel
  distinct := by decide +kernel

/-- The frame that follows is neither submitted nor counted. -/
theorem overflow_loses_following :
    ¬ ∀ (stream : OverflowStream) (mtu : Nat) (rxFilter : Int) (buffer : Nat → UInt8),
      ∀ r ∈ stream.post ++ stream.later, startsFrame r = true →
        Accounted (receive (initRx mtu rxFilter buffer) stream.transfers) r.io.addr := by
  intro claimed
  have accounted := claimed followedStream 1500 0 (fun _ => 0) (tagged 1 0x20300000#32)
    (by simp [followedStream]) (by decide)
  revert accounted
  unfold Accounted intactSkbs
  decide +kernel

end Samples

end Lan865x.OaTc6
