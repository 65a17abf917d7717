import Lan865x.Segmentation

/-!
The books of the transmit side: what becomes of every skb that `oa_tc6_start_xmit` has
taken over, and what the three counters of `netdev->stats` say about it. BUFFER_STATUS is
any; above 48 chunks the transfer buffers are taken as unbounded.
-/

namespace Lan865x.OaTc6
open BitField Framing Transition

/-- Why an skb is freed: its last chunk is in the transmit buffer, the thread has met an
error, or it could not be made linear. -/
inductive Fate where
  | sent
  | cleared
  | unlinear
  deriving DecidableEq

abbrev Freed : Type := Skb × Fate

def Freed.sent (freed : Freed) : Bool := freed.2 = .sent
def Freed.accepted (freed : Freed) : Bool := freed.2 ≠ .unlinear

/-- The skbs that a step gives to `kfree_skb`. -/
def Driver.frees (d : Driver) : DriverAct → List Freed
  | .spi =>
      match d.spi with
      | .fillTx used =>
          if used < d.tc6.rx.txCredits then
            match (dequeueTxSkb d.tc6.tx).ongoingTxSkb with
            | some skb =>
                if (addTxSkbToSpiBuf (dequeueTxSkb d.tc6.tx) skb).ongoingTxSkb.isNone then
                  [(skb, .sent)]
                else []
            | none => []
          else []
      | _ => []
  | .process io =>
      match d.spi with
      | .process len =>
          let ret := (processSpiDataRxBuf d.tc6.rx len io).1
          if ret = 0 ∨ ret = -eagain then []
          else d.tc6.tx.ongoingTxSkb.toList.map fun skb => (skb, .cleared)
      | _ => []
  | .xmit linearized =>
      match d.xmit with
      | .linearize skb _ => if linearized then [] else [(skb, .unlinear)]
      | _ => []
  | _ => []

/-- The transmit skbs that `oa_tc6_exit` frees. -/
def oaTc6ExitFrees (tx : TxState) : List Skb := tx.ongoingTxSkb.toList ++ tx.waitingTxSkb.toList

/-- Slots and counters are as before. -/
structure SameBooks (before after : TxState) : Prop where
  ongoing : after.ongoingTxSkb = before.ongoingTxSkb
  waiting : after.waitingTxSkb = before.waitingTxSkb
  packets : after.txPackets = before.txPackets
  bytes : after.txBytes = before.txBytes
  dropped : after.txDropped = before.txDropped

theorem SameBooks.refl (tx : TxState) : SameBooks tx tx := ⟨rfl, rfl, rfl, rfl, rfl⟩

theorem empty_chunks_books (tx : TxState) (needed : Nat) :
    SameBooks tx (addEmptyChunksToSpiBuf tx needed) := by
  induction needed generalizing tx with
  | zero => exact SameBooks.refl tx
  | succ needed ih =>
      obtain ⟨ongoing, waiting, packets, bytes, dropped⟩ :=
        ih (putChunk tx (prepareDataHeader false false false 0 0) (stalePayload tx))
      exact ⟨ongoing, waiting, packets, bytes, dropped⟩

theorem rx_chunks_books (tx : TxState) (available len : Nat) :
    SameBooks tx (prepareSpiTxBufForRxChunks tx available len).2 := by
  simp only [prepareSpiTxBufForRxChunks]
  split
  · exact SameBooks.refl tx
  · exact empty_chunks_books tx _

/-- What a step does to the books: the slots, the counters, the skbs accepted and those
freed. -/
inductive Books (tx : TxState) (accepted : List (Skb × Nat)) :
    TxState → List (Skb × Nat) → List Freed → Prop where
  | same {after} (same : SameBooks tx after) : Books tx accepted after accepted []
  | handed {after} (same : SameBooks (dequeueTxSkb tx) after) : Books tx accepted after accepted []
  | finished {after} (skb : Skb) (held : (dequeueTxSkb tx).ongoingTxSkb = some skb)
      (same : SameBooks { dequeueTxSkb tx with
        ongoingTxSkb := none
        txPackets := tx.txPackets + 1
        txBytes := tx.txBytes + skb.data.length } after) :
      Books tx accepted after accepted [(skb, .sent)]
  | cleared : Books tx accepted (cleanupOngoingTxSkb tx) accepted
      (tx.ongoingTxSkb.toList.map fun skb => (skb, .cleared))
  | refused (skb : Skb) :
      Books tx accepted { tx with txDropped := tx.txDropped + 1 } accepted [(skb, .unlinear)]
  | stored (skb : Skb) (tsCaptureMode : Nat) (empty : tx.waitingTxSkb = none) :
      Books tx accepted
        { tx with waitingTxSkb := some skb, waitingTxTsCaptureMode := tsCaptureMode }
        (accepted ++ [(skb, tsCaptureMode)]) []

/-- Every skb accepted has been freed or lies in a slot, in the order of acceptance, and
the counters tell what was freed. -/
structure Booked (tx : TxState) (accepted : List (Skb × Nat)) (freed : List Freed) : Prop where
  slots : (freed.filter Freed.accepted).map Prod.fst ++ oaTc6ExitFrees tx = accepted.map Prod.fst
  packets : tx.txPackets = freed.countP Freed.sent
  bytes : tx.txBytes = ((freed.filter Freed.sent).map fun freed => freed.1.data.length).sum
  dropped : tx.txDropped = freed.countP fun freed => !freed.sent

theorem dequeue_exit_frees (tx : TxState) :
    oaTc6ExitFrees (dequeueTxSkb tx) = oaTc6ExitFrees tx := by
  cases held : tx.ongoingTxSkb with
  | some skb => rw [dequeue_held tx skb held]
  | none => simp [dequeue_idle tx held, oaTc6ExitFrees, held]

theorem dequeue_counts (tx : TxState) :
    (dequeueTxSkb tx).txPackets = tx.txPackets ∧ (dequeueTxSkb tx).txBytes = tx.txBytes ∧
      (dequeueTxSkb tx).txDropped = tx.txDropped := by
  cases held : tx.ongoingTxSkb with
  | some skb => simp [dequeue_held tx skb held]
  | none => simp [dequeue_idle tx held]

theorem booked_same {before after : TxState} {accepted : List (Skb × Nat)} {freed : List Freed}
    (booked : Booked before accepted freed) (same : SameBooks before after) :
    Booked after accepted freed := by
  constructor
  · rw [oaTc6ExitFrees, same.ongoing, same.waiting]
    exact booked.slots
  · rw [same.packets]
    exact booked.packets
  · rw [same.bytes]
    exact booked.bytes
  · rw [same.dropped]
    exact booked.dropped

theorem booked_handed {tx : TxState} {accepted : List (Skb × Nat)} {freed : List Freed}
    (booked : Booked tx accepted freed) : Booked (dequeueTxSkb tx) accepted freed := by
  obtain ⟨packets, bytes, dropped⟩ := dequeue_counts tx
  constructor
  · rw [dequeue_exit_frees]
    exact booked.slots
  · rw [packets]
    exact booked.packets
  · rw [bytes]
    exact booked.bytes
  · rw [dropped]
    exact booked.dropped

theorem booked_books {before after : TxState} {accepted accepted' : List (Skb × Nat)}
    {freed more : List Freed} (booked : Booked before accepted freed)
    (books : Books before accepted after accepted' more) :
    Booked after accepted' (freed ++ more) := by
  cases books with
  | same same =>
      rw [List.append_nil]
      exact booked_same booked same
  | handed same =>
      rw [List.append_nil]
      exact booked_same (booked_handed booked) same
  | finished skb held same =>
      apply booked_same _ same
      obtain ⟨slots, packets, bytes, dropped⟩ := booked_handed booked
      obtain ⟨samePackets, sameBytes, sameDropped⟩ := dequeue_counts before
      constructor
      · rw [← slots]
        simp [oaTc6ExitFrees, held, Freed.accepted]
      · rw [← samePackets, packets]
        simp [Freed.sent]
      · rw [← sameBytes, bytes]
        simp [Freed.sent]
      · rw [dropped]
        simp [Freed.sent]
  | cleared =>
      obtain ⟨slots, packets, bytes, dropped⟩ := booked
      cases held : before.ongoingTxSkb with
      | none =>
          rw [cleanup_tx_none before held]
          exact ⟨by simpa using slots, by simpa using packets, by simpa using bytes,
            by simpa using dropped⟩
      | some skb =>
          rw [cleanup_tx_some before skb held]
          constructor
          · rw [← slots]
            simp [oaTc6ExitFrees, held, Freed.accepted]
          · simp [packets, Freed.sent]
          · simp [bytes, Freed.sent]
          · simp [dropped, Freed.sent]
  | refused skb =>
      obtain ⟨slots, packets, bytes, dropped⟩ := booked
      constructor
      · rw [← slots]
        simp [oaTc6ExitFrees, Freed.accepted]
      · simp [packets, Freed.sent]
      · simp [bytes, Freed.sent]
      · simp [dropped, Freed.sent]
  | stored skb tsCaptureMode empty =>
      obtain ⟨slots, packets, bytes, dropped⟩ := booked
      constructor
      · rw [List.map_append, ← slots]
        simp [oaTc6ExitFrees, empty]
      · simpa using packets
      · simpa using bytes
      · simpa using dropped

/-- A chunk of the ongoing skb: its last one frees it and is counted. -/
theorem added_books (tx : TxState) (skb : Skb) (held : tx.ongoingTxSkb = some skb) :
    ((addTxSkbToSpiBuf tx skb).ongoingTxSkb = none ∧
        SameBooks { tx with
          ongoingTxSkb := none
          txPackets := tx.txPackets + 1
          txBytes := tx.txBytes + skb.data.length } (addTxSkbToSpiBuf tx skb)) ∨
      ((addTxSkbToSpiBuf tx skb).ongoingTxSkb = some skb ∧
        SameBooks tx (addTxSkbToSpiBuf tx skb)) := by
  simp only [addTxSkbToSpiBuf]
  split
  · exact Or.inl ⟨rfl, rfl, rfl, rfl, rfl, rfl⟩
  · exact Or.inr ⟨held, rfl, rfl, rfl, rfl, rfl⟩

theorem books_moves (d after : Driver) (act : DriverAct) (segmented : Segmented d)
    (moved : d.Moves act after) :
    Books d.tc6.tx d.accepted after.tc6.tx after.accepted (d.frees act) := by
  cases moved with
  | fillMore used pc credit skb held =>
      have frees : d.frees .spi =
          if (addTxSkbToSpiBuf (dequeueTxSkb d.tc6.tx) skb).ongoingTxSkb.isNone then
            [(skb, .sent)] else [] := by
        simp only [Driver.frees, pc, if_pos credit, held]
      obtain ⟨packets, bytes, _⟩ := dequeue_counts d.tc6.tx
      rcases added_books (dequeueTxSkb d.tc6.tx) skb held with ⟨ended, same⟩ | ⟨goes, same⟩
      · rw [packets, bytes] at same
        rw [frees, ended]
        exact .finished skb held same
      · rw [frees, goes]
        exact .handed same
  | fillEmpty used pc credit empty =>
      have frees : d.frees .spi = [] := by simp only [Driver.frees, pc, if_pos credit, empty]
      rw [frees]
      exact .handed (SameBooks.refl _)
  | fillFull used pc credit =>
      have frees : d.frees .spi = [] := by
        simp only [Driver.frees, pc, if_neg (Nat.not_lt.mpr credit)]
      rw [frees]
      exact .same (SameBooks.refl _)
  | fillRx len pc =>
      have frees : d.frees .spi = [] := by simp only [Driver.frees, pc]
      rw [frees]
      exact .same (rx_chunks_books _ _ _)
  | clearEmpty pc =>
      have frees : d.frees .spi = [] := by simp only [Driver.frees, pc]
      rw [frees]
      exact .same (empty_chunks_books _ _)
  | loopBusy pc | loopIdle pc =>
      have frees : d.frees .spi = [] := by simp only [Driver.frees, pc]
      rw [frees]
      exact .same ⟨rfl, rfl, rfl, rfl, rfl⟩
  | processFine len pc io rx out =>
      have frees : d.frees (.process io) = [] := by simp [Driver.frees, pc, out]
      rw [frees]
      exact .same (SameBooks.refl _)
  | processAgain len pc io rx out =>
      have frees : d.frees (.process io) = [] := by simp [Driver.frees, pc, out]
      rw [frees]
      exact .same (SameBooks.refl _)
  | processFails len pc io rx ret fails out =>
      have frees : d.frees (.process io) =
          d.tc6.tx.ongoingTxSkb.toList.map fun skb => (skb, .cleared) := by
        simp only [Driver.frees, pc, out]
        exact if_neg (not_or.mpr fails)
      rw [frees]
      exact .cleared
  | linearizeFails skb tsCaptureMode pc =>
      have frees : d.frees (.xmit false) = [(skb, .unlinear)] := by
        simp only [Driver.frees, pc, Bool.false_eq_true, if_false]
      rw [frees]
      exact .refused skb
  | linearized skb tsCaptureMode pc =>
      have frees : d.frees (.xmit true) = [] := by simp only [Driver.frees, pc, if_true]
      rw [frees]
      exact .same (SameBooks.refl _)
  | store skb tsCaptureMode linearized pc =>
      have frees : d.frees (.xmit linearized) = [] := by simp only [Driver.frees, pc]
      rw [frees]
      exact .stored skb tsCaptureMode (segmented.room skb tsCaptureMode (.inr pc))
  | exchange | exchangeFails | offer | interrupt | interruptWake => exact .same (SameBooks.refl _)
  | _ =>
      simp only [Driver.frees, *]
      exact .same (SameBooks.refl _)

theorem books_packets {before after : TxState} {accepted accepted' : List (Skb × Nat)}
    {freed : List Freed} (books : Books before accepted after accepted' freed) :
    before.txPackets ≤ after.txPackets := by
  cases books with
  | same same => exact Nat.le_of_eq same.packets.symm
  | handed same => rw [same.packets, (dequeue_counts before).1]
  | finished skb held same =>
      rw [same.packets]
      exact Nat.le_succ _
  | cleared =>
      cases held : before.ongoingTxSkb with
      | some skb => rw [cleanup_tx_some before skb held]
      | none => rw [cleanup_tx_none before held]
  | refused | stored => exact Nat.le_refl _

/-- A thread that has ended does not run again. -/
theorem running_before (d after : Driver) (act : DriverAct) (moved : d.Moves act after)
    (running : after.Running) : d.Running := by
  intro ret ended
  cases moved with
  | offer | testBusy | testFree | stop | linearized | linearizeFails | store | wake | interrupt
  | interruptWake => exact running ret ended
  | _ => simp_all

/-- An skb is cleared only by a thread that ends. -/
theorem frees_cleared (d after : Driver) (act : DriverAct) (moved : d.Moves act after)
    (running : after.Running) : ∀ freed ∈ d.frees act, freed.2 ≠ .cleared := by
  intro freed among cleared
  cases moved with
  | processFails len pc io rx ret fails out => exact running ret rfl
  | fillMore used pc credit skb held =>
      simp only [Driver.frees, pc, if_pos credit, held] at among
      split at among
      · rw [List.mem_singleton.mp among] at cleared
        contradiction
      · contradiction
  | linearizeFails skb tsCaptureMode pc =>
      simp only [Driver.frees, pc, Bool.false_eq_true, if_false, List.mem_singleton] at among
      rw [among] at cleared
      contradiction
  | exchange | exchangeFails | offer | interrupt | interruptWake => simp [Driver.frees] at among
  | fillFull used pc credit =>
      simp [Driver.frees, pc, Nat.not_lt.mpr credit] at among
  | _ => simp [Driver.frees, *] at among

structure Account (d : Driver) (freed : List Freed) : Prop where
  booked : Booked d.tc6.tx d.accepted freed
  running : d.Running → ∀ one ∈ freed, one.2 ≠ .cleared
  wired : ∃ assembly, decodeTx d.wire = some assembly ∧
    assembly.done.length ≤ d.tc6.tx.txPackets

theorem carried_bytes {frames : List (List TxPiece)} {sent : List (Skb × Nat)}
    (carried : List.Forall₂ Carries frames sent) :
    frames.map frameBytes = sent.map fun one => one.1.data := by
  induction carried with
  | nil => rfl
  | cons here _ ih => rw [List.map_cons, List.map_cons, here.bytes, ih]

/-- While the thread runs, the frames counted as sent are those in the chunks made. -/
theorem running_exact {d : Driver} {freed : List Freed} (segmented : Segmented d)
    (booked : Booked d.tc6.tx d.accepted freed)
    (uncleared : ∀ one ∈ freed, one.2 ≠ .cleared) (running : d.Running) :
    ∃ assembly, decodeTx d.emitted = some assembly ∧
      assembly.done.map frameBytes = (freed.filter Freed.sent).map fun one => one.1.data := by
  obtain ⟨assembly, decoded, ⟨sent, carried, split⟩, _⟩ := segmented.laid running
  refine ⟨assembly, decoded, ?_⟩
  have slots : (d.tc6.tx.ongoing ++ d.tc6.tx.waiting).map Prod.fst = oaTc6ExitFrees d.tc6.tx := by
    simp [TxState.ongoing, TxState.waiting, oaTc6ExitFrees, Function.comp_def]
  have same : freed.filter Freed.accepted = freed.filter Freed.sent := by
    apply List.filter_congr
    intro one among
    have notCleared := uncleared one among
    obtain ⟨skb, fate⟩ := one
    cases fate with
    | cleared => contradiction
    | sent | unlinear => rfl
  have counted : (freed.filter Freed.sent).map Prod.fst = sent.map Prod.fst := by
    have all := booked.slots
    rw [split, List.append_assoc, List.map_append, slots, same] at all
    exact List.append_cancel_right all
  rw [carried_bytes carried]
  have data := congrArg (List.map Skb.data) counted
  simpa only [List.map_map, Function.comp_def] using data.symm

theorem sent_length (freed : List Freed) :
    ((freed.filter Freed.sent).map fun one => one.1.data).length = freed.countP Freed.sent := by
  rw [List.length_map, List.countP_eq_length_filter]

theorem account_reached {logged : Driver × List Freed}
    (reached : Reaches ((driverMachine 255).logging Driver.frees) anyStep logged) :
    Account logged.1 logged.2 := by
  refine reached.logged Account ?_ ?_
  · rintro d ⟨bufferStatus, mtu, rxFilter, rxBuffer, txBuffer, _, _, rfl⟩
    exact ⟨⟨rfl, rfl, rfl, rfl⟩, fun _ one among => absurd among List.not_mem_nil,
      ⟨Assembly.empty, rfl, Nat.le_refl _⟩⟩
  · intro d freed act after earlier account stepped
    have moved := driver_moves d after act stepped
    have segmented := segmented_reached 255 (by decide) (by decide) earlier
    have segmented' := segmented_reached 255 (by decide) (by decide)
      (.step act earlier trivial stepped)
    have books := books_moves d after act segmented moved
    have booked := booked_books account.booked books
    have uncleared : after.Running → ∀ one ∈ freed ++ d.frees act, one.2 ≠ .cleared := by
      intro running one among
      rcases List.mem_append.mp among with old | new
      · exact account.running (running_before d after act moved running) one old
      · exact frees_cleared d after act moved running one new
    refine ⟨booked, uncleared, ?_⟩
    obtain ⟨assembly, decoded, fewer⟩ := account.wired
    cases act with
    | exchange received =>
        cases moved with
        | exchange len pc received whole =>
            -- What was in the buffer is on the wire now.
            obtain ⟨assembly, decoded, bytes⟩ :=
              running_exact segmented' booked (uncleared fun ret => by simp) fun ret => by simp
            rw [emitted_none _ rfl] at decoded
            refine ⟨assembly, decoded, ?_⟩
            rw [booked.packets, ← sent_length, ← bytes, List.length_map]
    | _ =>
        obtain ⟨wire, _⟩ := wire_moves d after _ moved (by simp)
        rw [wire]
        exact ⟨assembly, decoded, Nat.le_trans fewer (books_packets books)⟩

/-- Every skb that was accepted is freed exactly once, in the order of acceptance, and
what a run has not freed `oa_tc6_exit` frees; the counters tell how they were freed. -/
theorem transmit_custody {d : Driver} {freed : List Freed}
    (reached : Reaches ((driverMachine 255).logging Driver.frees) anyStep (d, freed)) :
    (freed.filter Freed.accepted).map Prod.fst ++ oaTc6ExitFrees d.tc6.tx =
        d.accepted.map Prod.fst ∧
      d.tc6.tx.txPackets = freed.countP Freed.sent ∧
      d.tc6.tx.txBytes = ((freed.filter Freed.sent).map fun one => one.1.data.length).sum ∧
      d.tc6.tx.txDropped = freed.countP fun one => !one.sent := by
  obtain ⟨⟨slots, packets, bytes, dropped⟩, _, _⟩ := account_reached reached
  exact ⟨slots, packets, bytes, dropped⟩

/-- While the thread runs the counters agree with the frames in the chunks made; once it
has ended they may count frames that were never transferred. -/
theorem transmit_statistics_exact {d : Driver} {freed : List Freed}
    (reached : Reaches ((driverMachine 255).logging Driver.frees) anyStep (d, freed)) :
    (d.Running → ∃ assembly, decodeTx d.emitted = some assembly ∧
        d.tc6.tx.txPackets = assembly.done.length ∧
        d.tc6.tx.txBytes = (assembly.done.map fun frame => (frameBytes frame).length).sum) ∧
      ∃ assembly, decodeTx d.wire = some assembly ∧
        assembly.done.length ≤ d.tc6.tx.txPackets := by
  obtain ⟨booked, uncleared, wired⟩ := account_reached reached
  refine ⟨fun running => ?_, wired⟩
  have segmented := segmented_reached 255 (by decide) (by decide) reached.unlogged
  obtain ⟨assembly, decoded, bytes⟩ :=
    running_exact segmented booked (uncleared running) running
  refine ⟨assembly, decoded, ?_, ?_⟩
  · rw [booked.packets, ← sent_length, ← bytes, List.length_map]
  · have lengths := congrArg (List.map List.length) bytes
    simp only [List.map_map, Function.comp_def] at lengths
    rw [booked.bytes, lengths]

section Samples

/-- One frame is sent with two credits and the next one begun; then a footer has SYNC=0. -/
def frameSentFrameCleared : List DriverAct :=
  .offer (sampleSkb 1 80 (by decide) (by decide)) 1 :: List.replicate 4 (.xmit true) ++
    List.replicate 10 .spi ++
    [.exchange [answer 0x20000002#32, answer 0x20000002#32], .process fun _ => default,
      .offer (sampleSkb 2 110 (by decide) (by decide)) 0] ++ List.replicate 4 (.xmit true) ++
    List.replicate 6 .spi ++ [.exchange [answer 0#32], .process fun _ => default]

def sampleBooks : Driver × List Freed :=
  ((driverMachine 255).logging Driver.frees).after (sampleStart 0x200#32, [])
    frameSentFrameCleared

theorem sample_books_reached :
    Reaches ((driverMachine 255).logging Driver.frees) anyStep sampleBooks := by
  apply reaches_after
  · exact ⟨sample_start _ _ (by decide) (by decide), rfl⟩
  · exact allowed_any _ _ _

example : sampleBooks.2.map Prod.snd = [.sent, .cleared] := by decide +kernel

theorem transmit_custody_sample :
    (sampleBooks.2.filter Freed.accepted).map Prod.fst ++ oaTc6ExitFrees sampleBooks.1.tc6.tx =
        sampleBooks.1.accepted.map Prod.fst ∧
      sampleBooks.1.tc6.tx.txPackets = sampleBooks.2.countP Freed.sent ∧
      sampleBooks.1.tc6.tx.txBytes =
        ((sampleBooks.2.filter Freed.sent).map fun one => one.1.data.length).sum ∧
      sampleBooks.1.tc6.tx.txDropped = sampleBooks.2.countP fun one => !one.sent :=
  transmit_custody sample_books_reached

theorem transmit_statistics_exact_sample :
    (sampleBooks.1.Running → ∃ assembly, decodeTx sampleBooks.1.emitted = some assembly ∧
        sampleBooks.1.tc6.tx.txPackets = assembly.done.length ∧
        sampleBooks.1.tc6.tx.txBytes =
          (assembly.done.map fun frame => (frameBytes frame).length).sum) ∧
      ∃ assembly, decodeTx sampleBooks.1.wire = some assembly ∧
        assembly.done.length ≤ sampleBooks.1.tc6.tx.txPackets :=
  transmit_statistics_exact sample_books_reached

end Samples

end Lan865x.OaTc6
