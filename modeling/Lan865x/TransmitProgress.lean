import Lan865x.TransmitAccounts

/-!
How long an accepted frame waits. A frame of n bytes takes one chunk for every 64 of them
begun, and every transfer that starts with a credit brings the frames in the slots at least
one chunk further, whatever else happens meanwhile. BUFFER_STATUS is any; above 48 chunks
the transfer buffers are taken as unbounded.
-/

namespace Lan865x.OaTc6
open BitField Framing Transition

/-- The chunks that a frame takes. -/
def frameChunks (len : Nat) : Nat := (len + chunkPayloadSize - 1) / chunkPayloadSize

def allChunks (frames : List (Skb × Nat)) : Nat :=
  (frames.map fun sent => frameChunks sent.1.data.length).sum

/-- The chunks that the frames in the two slots still need. -/
def TxState.owed (tx : TxState) : Nat :=
  ((tx.ongoingTxSkb.map fun skb => frameChunks (skb.data.length - tx.txSkbOffset)).getD 0) +
    ((tx.waitingTxSkb.map fun skb => frameChunks skb.data.length).getD 0)

theorem frame_chunks_pos (skb : Skb) : 0 < frameChunks skb.data.length := by
  have nonempty := skb.nonempty
  simp only [frameChunks, chunk_payload_size]
  omega

theorem all_chunks_append (first second : List (Skb × Nat)) :
    allChunks (first ++ second) = allChunks first + allChunks second := by
  simp [allChunks]

theorem data_chunks_append (first second : List TxChunk) :
    dataChunks (first ++ second) = dataChunks first + dataChunks second :=
  List.countP_append

theorem owed_kept (before after : TxState) (kept : TxKept before after) :
    after.owed = before.owed := by
  rw [TxState.owed, TxState.owed, kept.ongoing, kept.waiting, kept.cursor]

theorem owed_dequeue (tx : TxState) (fresh : tx.ongoingTxSkb = none → tx.txSkbOffset = 0) :
    (dequeueTxSkb tx).owed = tx.owed := by
  cases held : tx.ongoingTxSkb with
  | some skb => rw [dequeue_held tx skb held]
  | none =>
      rw [dequeue_idle tx held]
      cases waits : tx.waitingTxSkb <;> simp [TxState.owed, held, waits, fresh held]

/-- One chunk of the ongoing frame is one chunk less. -/
theorem owed_add (tx : TxState) (skb : Skb) (held : tx.ongoingTxSkb = some skb)
    (inside : tx.txSkbOffset < skb.data.length) :
    (addTxSkbToSpiBuf tx skb).owed + 1 = tx.owed := by
  obtain ⟨some_, short, reach⟩ := copy_length_pos tx skb inside
  by_cases ends : tx.txSkbOffset + copyLength tx skb = skb.data.length
  · have last : frameChunks (skb.data.length - tx.txSkbOffset) = 1 := by
      simp only [frameChunks, chunk_payload_size]
      omega
    rw [add_tx_skb_end tx skb inside ends]
    simp only [TxState.owed, putChunk, held, Option.map_none, Option.getD_none, Option.map_some,
      Option.getD_some, last]
    omega
  · obtain ⟨added, _, longer⟩ := add_tx_skb_more tx skb inside ends
    have fewer : frameChunks (skb.data.length - (tx.txSkbOffset + 64)) + 1 =
        frameChunks (skb.data.length - tx.txSkbOffset) := by
      simp only [frameChunks, chunk_payload_size]
      omega
    rw [added]
    simp only [TxState.owed, putChunk, held, Option.map_some, Option.getD_some]
    omega

/-- What a step does to the chunks made and to the slots. -/
inductive Emits (d after : Driver) : Prop where
  | idle (idle : List TxChunk) (emitted : after.emitted = d.emitted ++ idle)
      (headers : ∀ chunk ∈ idle, chunk.header = idleHeader) (kept : TxKept d.tc6.tx after.tc6.tx)
      (accepted : after.accepted = d.accepted)
  | chunk (skb : Skb) (chunk : TxChunk) (held : (dequeueTxSkb d.tc6.tx).ongoingTxSkb = some skb)
      (emitted : after.emitted = d.emitted ++ [chunk])
      (data : flag dataHeaderDataValid chunk.header = true)
      (tx : after.tc6.tx = addTxSkbToSpiBuf (dequeueTxSkb d.tc6.tx) skb)
      (accepted : after.accepted = d.accepted)
  | drained (emitted : after.emitted = d.emitted) (tx : after.tc6.tx = dequeueTxSkb d.tc6.tx)
      (accepted : after.accepted = d.accepted)
  | stored (skb : Skb) (tsCaptureMode : Nat) (emitted : after.emitted = d.emitted)
      (empty : d.tc6.tx.waitingTxSkb = none)
      (tx : after.tc6.tx = { d.tc6.tx with
        waitingTxSkb := some skb
        waitingTxTsCaptureMode := tsCaptureMode })
      (accepted : after.accepted = d.accepted ++ [(skb, tsCaptureMode)])
  | ended (ret : Int) (spi : after.spi = .ended ret) (wire : after.wire = d.wire)
      (accepted : after.accepted = d.accepted)

theorem emits_walk {d after : Driver} {pc : SpiPc} (here : d.spi = pc) (before : pc.built = none)
    (built : after.spi.built = none) (wire : after.wire = d.wire) (tx : after.tc6.tx = d.tc6.tx)
    (accepted : after.accepted = d.accepted) : Emits d after := by
  apply Emits.idle [] _ (by simp) (tx ▸ TxKept.refl _) accepted
  rw [emitted_none after built, emitted_none d (here ▸ before), wire, List.append_nil]

theorem emits_hold {d after : Driver} (len : Nat) (before : d.spi.built = some len)
    (built : after.spi.built = some len) (wire : after.wire = d.wire)
    (tx : after.tc6.tx = d.tc6.tx) (accepted : after.accepted = d.accepted) : Emits d after := by
  apply Emits.idle [] _ (by simp) (tx ▸ TxKept.refl _) accepted
  rw [emitted_built after len built, emitted_built d len before, wire, tx, List.append_nil]

theorem emits_other {d after : Driver} (emitted : after.emitted = d.emitted)
    (kept : TxKept d.tc6.tx after.tc6.tx) (accepted : after.accepted = d.accepted) :
    Emits d after :=
  .idle [] (by rw [emitted, List.append_nil]) (by simp) kept accepted

theorem emits_begin (d : Driver) (pc : d.spi = .loopTop) (next : SpiPc)
    (built : next.built = some 0) :
    Emits d (d.setTx { d.tc6.tx with spiDataTxBufOffset := 0 } next) := by
  refine Emits.idle [] ?_ (by simp) ⟨rfl, rfl, rfl, rfl, rfl⟩ rfl
  rw [emitted_built _ 0 built, emitted_none d (by rw [pc]; rfl)]
  rfl

theorem emits_spi (bound : Nat) (small : bound ≤ 255) (d after : Driver) (sized : Sized bound d)
    (segmented : Segmented d) (moved : d.Moves .spi after) : Emits d after := by
  have available := sized.available
  cases moved with
  | loopBusy pc busy => exact emits_begin d pc _ rfl
  | loopIdle pc noOngoing noWaiting => exact emits_begin d pc _ rfl
  | fillMore used pc credit skb held =>
      obtain ⟨few, filled⟩ := sized_filling bound d sized used pc
      obtain ⟨offset, buffer⟩ := dequeue_offset d.tc6.tx
      obtain ⟨assembly, _, laid⟩ := segmented.laid (running_at d _ pc (by simp))
      have inside : (dequeueTxSkb d.tc6.tx).txSkbOffset < skb.data.length :=
        ((laid_dequeue _ _ _ laid).underWay.taken skb held).1
      have built : d.emitted = d.wire ++ spiChunks (dequeueTxSkb d.tc6.tx) (used * chunkSize) := by
        rw [emitted_built d _ (by rw [pc]; rfl), spiChunks, spiChunks, buffer]
      by_cases ends : (dequeueTxSkb d.tc6.tx).txSkbOffset + copyLength (dequeueTxSkb d.tc6.tx) skb =
          skb.data.length
      · refine .chunk skb ⟨endHeader (dequeueTxSkb d.tc6.tx) skb,
          copyPayload (dequeueTxSkb d.tc6.tx) skb⟩ held ?_ (header_data_valid _ _ _ _ _) rfl rfl
        rw [emitted_built _ ((used + 1) * chunkSize) rfl, built, List.append_assoc]
        refine congrArg (d.wire ++ ·) ?_
        simp only [Driver.setTx]
        rw [add_tx_skb_end _ skb inside ends]
        exact spi_chunks_put _ used _ _ (offset.trans filled)
      · refine .chunk skb ⟨moreHeader (dequeueTxSkb d.tc6.tx),
          copyPayload (dequeueTxSkb d.tc6.tx) skb⟩ held ?_ (header_data_valid _ _ _ _ _) rfl rfl
        rw [emitted_built _ ((used + 1) * chunkSize) rfl, built, List.append_assoc]
        refine congrArg (d.wire ++ ·) ?_
        simp only [Driver.setTx]
        rw [(add_tx_skb_more _ skb inside ends).1]
        exact spi_chunks_put _ used _ _ (offset.trans filled)
  | fillEmpty used pc credit empty =>
      obtain ⟨few, offset⟩ := sized_filling bound d sized used pc
      have narrow := to_u16_chunks used (by omega)
      refine Emits.drained ?_ rfl rfl
      have built : (d.setTx (dequeueTxSkb d.tc6.tx)
          (.fillRx (toU16 (used * chunkSize)))).spi.built = some (used * chunkSize) :=
        congrArg some narrow
      rw [emitted_built d _ (by rw [pc]; rfl), emitted_built _ _ built, spiChunks, spiChunks]
      exact congrArg (fun buffer => _ ++ List.map buffer _) (dequeue_offset d.tc6.tx).2
  | fillFull used pc credit =>
      obtain ⟨few, offset⟩ := sized_filling bound d sized used pc
      exact emits_hold (used * chunkSize) (by rw [pc]; rfl)
        (congrArg some (to_u16_chunks used (by omega))) rfl rfl rfl
  | fillRx len pc =>
      obtain ⟨count, few, rfl, offset⟩ := sized.filled len (by rw [pc]; rfl)
      obtain ⟨length, idle, padded⟩ :=
        prepare_for_rx_chunks d.tc6.tx d.tc6.rx.rxChunksAvailable count offset (by omega)
      refine .idle idle ?_ padded.headers padded.kept rfl
      refine (emitted_built _ (max count d.tc6.rx.rxChunksAvailable * chunkSize)
        (by exact congrArg some length)).trans ?_
      rw [emitted_built d _ (by rw [pc]; rfl), List.append_assoc, ← padded.grown]
      rfl
  | testSet len pc int => exact emits_hold len (by rw [pc]; rfl) rfl rfl rfl rfl
  | testDone pc int =>
      refine emits_other ?_ (TxKept.refl _) rfl
      rw [emitted_none _ rfl, emitted_built d 0 (by rw [pc]; rfl)]
      exact (List.append_nil _).symm
  | testClear len pc int some_ => exact emits_hold len (by rw [pc]; rfl) rfl rfl rfl rfl
  | clearEmpty pc =>
      obtain ⟨count, _, length, offset⟩ := sized.filled 0 (by rw [pc]; rfl)
      obtain rfl : 0 = count := by
        rw [chunk_size] at length
        omega
      obtain ⟨idle, padded⟩ := add_empty_chunks d.tc6.tx 0 1 offset (by omega)
      have grown := padded.grown
      refine .idle idle ?_ padded.headers padded.kept rfl
      rw [emitted_built d 0 (by rw [pc]; rfl), emitted_built _ chunkSize rfl, List.append_assoc]
      exact congrArg _ grown
  | clear len pc some_ => exact emits_hold len (by rw [pc]; rfl) rfl rfl rfl rfl
  | prepare pc | intSet pc | intClear pc | waitingSome pc | waitingNone pc | creditsSome pc
  | creditsNone pc | wakeUp pc | wakeTestSome pc | wakeTestNone pc | wakeStopped pc
  | wakeRunning pc | wakeQueue pc => exact emits_walk pc rfl rfl rfl rfl rfl

theorem emits_moves (bound : Nat) (small : bound ≤ 255) (d after : Driver) (act : DriverAct)
    (sized : Sized bound d) (segmented : Segmented d) (moved : d.Moves act after) :
    Emits d after := by
  cases act with
  | spi => exact emits_spi bound small d after sized segmented moved
  | exchange received =>
      cases moved with
      | exchange len pc received whole =>
          refine emits_other ?_ (TxKept.refl _) rfl
          rw [emitted_none _ rfl, emitted_built d len (by rw [pc]; rfl)]
  | exchangeFails ret =>
      cases moved with
      | exchangeFails len pc ret failed => exact .ended ret rfl rfl rfl
  | process io =>
      cases moved with
      | processFine len pc io rx out => exact emits_walk pc rfl rfl rfl rfl rfl
      | processAgain len pc io rx out => exact emits_walk pc rfl rfl rfl rfl rfl
      | processFails len pc io rx ret fails out => exact .ended ret rfl rfl rfl
  | offer skb tsCaptureMode =>
      cases moved with
      | offer => exact emits_other rfl (TxKept.refl _) rfl
  | xmit linearized =>
      cases moved with
      | store skb tsCaptureMode linearized pc =>
          exact .stored skb tsCaptureMode rfl (segmented.room skb tsCaptureMode (.inr pc)) rfl rfl
      | linearizeFails => exact emits_other rfl ⟨rfl, rfl, rfl, rfl, rfl⟩ rfl
      | _ => exact emits_other rfl (TxKept.refl _) rfl
  | interrupt => cases moved with | interrupt => exact emits_other rfl (TxKept.refl _) rfl
  | interruptWake => cases moved with | interruptWake => exact emits_other rfl (TxKept.refl _) rfl

/-- Every chunk of an accepted frame has been made or is owed. -/
def Paid (d : Driver) : Prop :=
  d.Running → dataChunks d.emitted + d.tc6.tx.owed = allChunks d.accepted

theorem paid_emits (d after : Driver) (segmented : Segmented d) (paid : Paid d)
    (emits : Emits d after) (before : after.Running → d.Running) : Paid after := by
  intro running
  have balance := paid (before running)
  obtain ⟨assembly, _, laid⟩ := segmented.laid (before running)
  have fresh := laid.underWay.held
  cases emits with
  | idle idle emitted headers kept accepted =>
      rw [emitted, data_chunks_idle _ _ headers, owed_kept _ _ kept, accepted]
      exact balance
  | chunk skb chunk held emitted data tx accepted =>
      have one : dataChunks [chunk] = 1 := by simp [dataChunks, data]
      have inside := ((laid_dequeue _ _ _ laid).underWay.taken skb held).1
      have less := owed_add _ skb held inside
      rw [owed_dequeue _ fresh] at less
      rw [emitted, data_chunks_append, one, tx, accepted]
      omega
  | drained emitted tx accepted =>
      rw [emitted, tx, owed_dequeue _ fresh, accepted]
      exact balance
  | stored skb tsCaptureMode emitted empty tx accepted =>
      rw [emitted, accepted, all_chunks_append, ← balance, tx]
      simp [TxState.owed, empty, allChunks, Nat.add_assoc]
  | ended ret spi => exact absurd spi (running ret)

theorem paid_init (bound : Nat) (d : Driver) (starts : (driverMachine bound).start d) : Paid d := by
  obtain ⟨bufferStatus, mtu, rxFilter, rxBuffer, txBuffer, _, _, rfl⟩ := starts
  exact fun _ => rfl

/-- The frames that are on the wire whole, and that the next one is not. -/
def Whole (d : Driver) : Prop :=
  ∃ assembly sent rest, decodeTx d.wire = some assembly ∧
    List.Forall₂ Carries assembly.done sent ∧ d.accepted = sent ++ rest ∧
    (dataChunks d.wire ≤ allChunks sent ∨ ∃ next later, rest = next :: later ∧
      dataChunks d.wire < allChunks sent + frameChunks next.1.data.length)

theorem whole_same (d after : Driver) (whole : Whole d) (wire : after.wire = d.wire)
    (more : List (Skb × Nat)) (accepted : after.accepted = d.accepted ++ more) : Whole after := by
  obtain ⟨assembly, sent, rest, decoded, carried, split, short⟩ := whole
  refine ⟨assembly, sent, rest ++ more, wire ▸ decoded, carried, ?_, ?_⟩
  · rw [accepted, split, List.append_assoc]
  · rw [wire]
    rcases short with none_ | ⟨next, later, cons, few⟩
    · exact .inl none_
    · exact .inr ⟨next, later ++ more, by rw [cons, List.cons_append], few⟩

/-- A transfer is made: the ongoing frame still lacks a chunk. -/
theorem whole_exchanged (d : Driver) (segmented : Segmented d) (paid : Paid d)
    (running : d.Running) (built : d.spi.built = none) : Whole d := by
  have balance := paid running
  obtain ⟨assembly, decoded, ⟨sent, carried, split⟩, under⟩ := segmented.laid running
  rw [emitted_none d built] at decoded balance
  refine ⟨assembly, sent, d.tc6.tx.ongoing ++ d.tc6.tx.waiting, decoded, carried, ?_, ?_⟩
  · rw [split, List.append_assoc]
  · rw [split, all_chunks_append, all_chunks_append] at balance
    cases held : d.tc6.tx.ongoingTxSkb with
    | none =>
        left
        simp only [TxState.owed, TxState.ongoing, TxState.waiting, held, allChunks,
          Option.map_none, Option.getD_none, Option.toList_none, List.map_nil, List.sum_nil]
          at balance ⊢
        cases waits : d.tc6.tx.waitingTxSkb <;> simp [waits] at balance ⊢ <;> omega
    | some skb =>
        right
        have inside := (under.taken skb held).1
        have lacks : 0 < frameChunks (skb.data.length - d.tc6.tx.txSkbOffset) := by
          simp only [frameChunks, chunk_payload_size]
          omega
        refine ⟨(skb, d.tc6.tx.ongoingTxTsCaptureMode), d.tc6.tx.waiting, ?_, ?_⟩
        · simp [TxState.ongoing, held]
        · cases waits : d.tc6.tx.waitingTxSkb <;>
            simp [TxState.owed, TxState.ongoing, TxState.waiting, held, waits, allChunks]
              at balance ⊢ <;> omega

theorem prefix_of_short {sent rest first : List (Skb × Nat)} {onWire : Nat}
    (early : first <+: sent ++ rest) (paid : allChunks first ≤ onWire)
    (short : onWire ≤ allChunks sent ∨ ∃ next later, rest = next :: later ∧
      onWire < allChunks sent + frameChunks next.1.data.length) : first <+: sent := by
  rcases List.prefix_or_prefix_of_prefix early (List.prefix_append sent rest) with within | beyond
  · exact within
  · obtain ⟨tail, rfl⟩ := beyond
    cases tail with
    | nil => exact ⟨[], by simp⟩
    | cons next later =>
        -- A chunk of `next` has been counted that is not on the wire.
        exfalso
        rw [all_chunks_append] at paid
        have whole : allChunks (next :: later) =
            frameChunks next.1.data.length + allChunks later := rfl
        have some_ := frame_chunks_pos next.1
        rcases short with none_ | ⟨other, others, cons, few⟩
        · omega
        · obtain ⟨suffix, same⟩ := early
          rw [cons, List.append_assoc, List.append_cancel_left_eq] at same
          obtain ⟨rfl, _⟩ := List.cons.inj same
          omega

/-- What is known of the chunks in any run. -/
structure CreditMetered (d : Driver) : Prop where
  tracked : Tracked 255 d
  paid : Paid d
  whole : Whole d

theorem metered_init (d : Driver) (starts : (driverMachine 255).start d) : CreditMetered d := by
  refine ⟨tracked_init 255 d starts, paid_init 255 d starts, ?_⟩
  obtain ⟨bufferStatus, mtu, rxFilter, rxBuffer, txBuffer, _, _, rfl⟩ := starts
  exact ⟨Assembly.empty, [], [], rfl, .nil, rfl, .inl (Nat.le_refl _)⟩

theorem metered_emits (d after : Driver) (act : DriverAct) (metered : CreditMetered d)
    (moved : d.Moves act after) : Emits d after :=
  emits_moves 255 (by decide) d after act metered.tracked.sized metered.tracked.segmented moved

theorem metered_moves (d after : Driver) (act : DriverAct) (metered : CreditMetered d)
    (moved : d.Moves act after) : CreditMetered after := by
  have tracked := tracked_moves 255 (by decide) (by decide) d after act metered.tracked moved
  have paid := paid_emits d after metered.tracked.segmented metered.paid
    (metered_emits d after act metered moved) (running_before d after act moved)
  refine ⟨tracked, paid, ?_⟩
  cases act with
  | exchange received =>
      cases moved with
      | exchange len pc received long =>
          exact whole_exchanged _ tracked.segmented paid (fun ret => by simp) rfl
  | _ =>
      obtain ⟨wire, more, accepted⟩ := wire_moves d after _ moved (by simp)
      exact whole_same d after metered.whole wire more accepted

theorem metered_reached {d : Driver} (reached : Reaches (driverMachine 255) anyStep d) :
    CreditMetered d :=
  reached.invariant CreditMetered metered_init fun before act after metered _ moved =>
    metered_moves before after act metered (driver_moves before after act moved)

/-! How many transfers it takes. -/

/-- A transfer that starts with a transmit credit. -/
def Driver.credited (d : Driver) : DriverAct → Bool
  | .exchange _ => d.tc6.rx.txCredits ≠ 0
  | _ => false

/-- The transfers with a credit in a run. -/
def creditedTransfers : Driver → List DriverAct → Nat
  | _, [] => 0
  | d, act :: rest =>
      match d.next act with
      | some after => (if d.credited act then 1 else 0) + creditedTransfers after rest
      | none => 0

/-- The transfer being prepared has passed the loop that uses the credits, or has been
through it once. -/
def Driver.Filled (d : Driver) : Prop :=
  match d.spi with
  | .fillTx used => used ≠ 0
  | .fillRx _ | .testInt _ | .clearInt _ | .transfer _ => d.tc6.rx.txCredits ≠ 0
  | _ => False

/-- The transfer being prepared brings a data chunk, or `goal` of them are made. -/
def Supplied (goal : Nat) (d : Driver) : Prop :=
  d.Filled → goal ≤ dataChunks d.emitted ∨ dataChunks d.wire < dataChunks d.emitted

theorem emits_grows {d after : Driver} (emits : Emits d after) (running : after.Running) :
    dataChunks d.emitted ≤ dataChunks after.emitted := by
  cases emits with
  | idle idle emitted headers => exact Nat.le_of_eq (by rw [emitted, data_chunks_idle _ _ headers])
  | chunk skb chunk held emitted =>
      rw [emitted, data_chunks_append]
      exact Nat.le_add_right _ _
  | drained emitted | stored _ _ emitted => rw [emitted]
  | ended ret spi => exact absurd spi (running ret)

theorem filled_running (d : Driver) (filled : d.Filled) : d.Running := by
  intro ret ended
  simp [Driver.Filled, ended] at filled

theorem owed_taken (tx : TxState) (fresh : tx.ongoingTxSkb = none → tx.txSkbOffset = 0)
    (empty : (dequeueTxSkb tx).ongoingTxSkb = none) : tx.owed = 0 := by
  rw [← owed_dequeue tx fresh]
  cases held : tx.ongoingTxSkb with
  | some skb => simp [dequeue_held tx skb held, held] at empty
  | none =>
      cases waits : tx.waitingTxSkb <;> simp [dequeue_idle tx held, waits, TxState.owed] at empty ⊢

/-- A step that does not fill the transfer leaves it as supplied as it was. -/
theorem supplied_hold (goal : Nat) (d after : Driver) (supplied : Supplied goal d)
    (emits : Emits d after) (filled : after.Filled → d.Filled) (wire : after.wire = d.wire) :
    Supplied goal after := by
  intro here
  have grows := emits_grows emits (filled_running after here)
  rw [wire]
  rcases supplied (filled here) with made | brings
  · exact .inl (Nat.le_trans made grows)
  · exact .inr (Nat.lt_of_lt_of_le brings grows)

theorem supplied_drained (goal : Nat) (d after : Driver) (paid : Paid d) (running : d.Running)
    (target : goal ≤ allChunks d.accepted) (owed : d.tc6.tx.owed = 0) (emits : Emits d after) :
    Supplied goal after := by
  intro here
  have grows := emits_grows emits (filled_running after here)
  have balance := paid running
  exact .inl (by omega)

theorem supplied_moves (goal : Nat) (d after : Driver) (act : DriverAct) (metered : CreditMetered d)
    (target : goal ≤ allChunks d.accepted) (supplied : Supplied goal d)
    (moved : d.Moves act after) : Supplied goal after := by
  have emits := metered_emits d after act metered moved
  have metered' := metered_moves d after act metered moved
  have underWay : d.Running → d.tc6.tx.ongoingTxSkb = none → d.tc6.tx.txSkbOffset = 0 :=
    fun running => (metered.tracked.segmented.laid running).choose_spec.2.underWay.held
  cases moved with
  | loopIdle pc noOngoing noWaiting =>
      apply supplied_drained goal d _ metered.paid (running_at d _ pc (by simp)) target _ emits
      simp [TxState.owed, noOngoing, noWaiting]
  | fillMore used pc credit skb held =>
      have running := running_at d _ pc (by simp)
      intro filled
      obtain ⟨assembly, _, laid⟩ := metered.tracked.segmented.laid running
      have balance := metered.paid running
      have balance' := metered'.paid (filled_running _ filled)
      have less := owed_add _ skb held ((laid_dequeue _ _ _ laid).underWay.taken skb held).1
      rw [owed_dequeue _ (underWay running)] at less
      have onWire : dataChunks d.wire ≤ dataChunks d.emitted := by
        rw [Driver.emitted, data_chunks_append]
        exact Nat.le_add_right _ _
      simp only [Driver.setTx] at balance' ⊢
      right
      omega
  | fillEmpty used pc credit empty =>
      have running := running_at d _ pc (by simp)
      exact supplied_drained goal d _ metered.paid running target
        (owed_taken _ (underWay running) empty) emits
  | fillFull used pc credit =>
      refine supplied_hold goal d _ supplied emits (fun filled => ?_) rfl
      simp only [Driver.Filled, pc] at filled ⊢
      omega
  | fillRx len pc | testSet len pc int | testClear len pc int some_ | clearEmpty pc
  | clear len pc some_ =>
      refine supplied_hold goal d _ supplied emits (fun filled => ?_) rfl
      simpa only [Driver.Filled, Driver.setTx, pc] using filled
  | offer | testBusy | testFree | stop | linearized | linearizeFails | store | wake | interrupt
  | interruptWake => exact supplied_hold goal d _ supplied emits (fun filled => filled) rfl
  | _ => exact fun filled => absurd filled (by simp [Driver.Filled, Driver.setTx])

/-- What a run of `count` transfers with a credit has brought from `first` on. -/
structure Served (first : Driver) (count : Nat) (d : Driver) : Prop where
  metered : CreditMetered d
  grows : first.accepted <+: d.accepted
  onWire : dataChunks first.wire ≤ dataChunks d.wire
  supplied : count = 0 ∨ Supplied (allChunks first.accepted) d
  brought : allChunks first.accepted ≤ dataChunks d.wire ∨
    dataChunks first.wire + count ≤ dataChunks d.wire + 1

theorem all_chunks_prefix {first later : List (Skb × Nat)} (early : first <+: later) :
    allChunks first ≤ allChunks later := by
  obtain ⟨rest, rfl⟩ := early
  rw [all_chunks_append]
  exact Nat.le_add_right _ _

theorem served_first (d : Driver) (metered : CreditMetered d) : Served d 0 d :=
  ⟨metered, List.prefix_refl _, Nat.le_refl _, .inl rfl, .inr (Nat.le_succ _)⟩

theorem served_moves (first d after : Driver) (count : Nat) (act : DriverAct)
    (served : Served first count d) (moved : d.Moves act after) :
    Served first (count + if d.credited act then 1 else 0) after := by
  obtain ⟨metered, grows, onWire, supplied, brought⟩ := served
  have metered' := metered_moves d after act metered moved
  have target := all_chunks_prefix grows
  cases act with
  | exchange received =>
      cases moved with
      | exchange len pc received whole =>
          have emitted := emitted_built d len (by rw [pc]; rfl)
          refine ⟨metered', grows, ?_, .inr fun filled => absurd filled (by simp [Driver.Filled]),
            ?_⟩
          · simp only [data_chunks_append]
            omega
          · rw [← emitted]
            have wired : dataChunks d.wire ≤ dataChunks d.emitted := by
              rw [emitted, data_chunks_append]
              exact Nat.le_add_right _ _
            by_cases credits : d.tc6.rx.txCredits = 0
            · have idle : d.credited (.exchange received) = false := by
                simp [Driver.credited, credits]
              simp only [idle, Bool.false_eq_true, if_false]
              omega
            · have one : d.credited (.exchange received) = true := by
                simp [Driver.credited, credits]
              simp only [one, if_true]
              rcases supplied with none_ | supplied
              · omega
              · -- From the second transfer on, each one brings a chunk until all are there.
                rcases supplied (by simpa only [Driver.Filled, pc] using credits) with made | brings
                · exact .inl made
                · omega
  | _ =>
      obtain ⟨wire, more, accepted⟩ := wire_moves d after _ moved (by simp)
      have grown : first.accepted <+: after.accepted :=
        accepted ▸ grows.trans (List.prefix_append _ _)
      refine ⟨metered', grown, wire ▸ onWire, ?_, by simpa [wire, Driver.credited] using brought⟩
      rcases supplied with none_ | supplied
      · exact .inl (by simp [none_, Driver.credited])
      · exact .inr (supplied_moves _ d after _ metered target supplied moved)

theorem served_run (first : Driver) (acts : List DriverAct) (d last : Driver) (count : Nat)
    (served : Served first count d) (ran : (driverMachine 255).run d acts = some last) :
    Served first (count + creditedTransfers d acts) last := by
  induction acts generalizing d count with
  | nil =>
      simp only [Machine.run, Option.some.injEq] at ran
      exact ran ▸ served
  | cons act rest ih =>
      obtain ⟨after, moved, tail⟩ := Option.bind_eq_some_iff.mp ran
      have step := served_moves first d after count act served (driver_moves d after act moved)
      have here : d.next act = some after := moved
      have all := ih after _ step tail
      simp only [creditedTransfers, here]
      rwa [Nat.add_assoc] at all

/-- Every frame accepted is on the wire whole, in order, once there have been more
transfers with a credit than it and the frames before it still needed chunks. -/
theorem accepted_frames_served {first last : Driver} (acts : List DriverAct)
    (reached : Reaches (driverMachine 255) anyStep first)
    (ran : (driverMachine 255).run first acts = some last)
    (enough : allChunks first.accepted - dataChunks first.wire < creditedTransfers first acts) :
    ∃ assembly sent, decodeTx last.wire = some assembly ∧
      List.Forall₂ Carries assembly.done sent ∧ first.accepted <+: sent := by
  have served := served_run first acts first last 0
    (served_first first (metered_reached reached)) ran
  obtain ⟨assembly, sent, rest, decoded, carried, split, short⟩ := served.metered.whole
  refine ⟨assembly, sent, decoded, carried, prefix_of_short (split ▸ served.grows) ?_ short⟩
  have brought := served.brought
  have onWire := served.onWire
  omega

section Samples

/-- One frame of two chunks is accepted; the transfers have one credit each. -/
def acceptedWaiting : Driver :=
  (driverMachine 255).after (sampleStart 0x100#32)
    (.offer (sampleSkb 1 75 (by decide) (by decide)) 1 :: List.replicate 4 (.xmit true))

def threeTransfers : List DriverAct :=
  List.replicate 9 .spi ++ [.exchange [answer 0x20000002#32], .process fun _ => default] ++
    List.replicate 7 .spi ++ [.exchange [answer 0x20000002#32], .process fun _ => default,
      .offer (sampleSkb 2 5 (by decide) (by decide)) 0] ++ List.replicate 4 (.xmit true) ++
    List.replicate 6 .spi ++ [.exchange [answer 0x20000002#32]]

example : creditedTransfers acceptedWaiting threeTransfers = 3 := by decide +kernel

theorem accepted_frames_served_sample :
    ∃ assembly sent, decodeTx ((driverMachine 255).after acceptedWaiting threeTransfers).wire =
        some assembly ∧
      List.Forall₂ Carries assembly.done sent ∧ acceptedWaiting.accepted <+: sent :=
  accepted_frames_served threeTransfers
    (reaches_after (sample_start _ _ (by decide) (by decide)) _ (allowed_any _ _ _))
    (run_after (by decide +kernel)) (by decide +kernel)

end Samples

end Lan865x.OaTc6
