import Lan865x.Station
import Lan865x.TransmitProgress
import Lan865x.NetDevice

/-!
The station comes to rest. While nothing comes from outside only so many transfers can follow,
and only so many steps between two of them, provided that the MAC-PHY gives a received chunk
wherever it has one.
-/

namespace Lan865x.OaTc6
open BitField Memory Transition

/-- The chunks of the frame that the stack has offered. -/
def XmitPc.offered : XmitPc → Nat
  | .test skb _ | .linearize skb _ | .store skb _ => frameChunks skb.data.length
  | _ => 0

/-- The chunks of frames that are not on the wire. -/
def Driver.unsent (d : Driver) : Nat :=
  allChunks d.accepted - dataChunks d.wire + d.xmit.offered

def showsChunks (rx : RxState) (count : Nat) : Prop :=
  ∃ i < count, number dataFooterRxChunks
    (getRxChunkFooter rx (i * chunkSize + chunkPayloadSize)) ≠ 0

instance (rx : RxState) (count : Nat) : Decidable (showsChunks rx count) :=
  inferInstanceAs (Decidable (∃ i < count, _))

/-- The driver takes a received chunk to be available, or may after the footers. -/
def Driver.expects (d : Driver) : Nat :=
  match d.spi with
  | .process len => if showsChunks d.tc6.rx (len / chunkSize) then 1 else 0
  | _ => if d.tc6.rx.rxChunksAvailable = 0 then 0 else 1

/-- A transfer that only the interrupt asked for. -/
def Driver.emptyTransfer (d : Driver) : Nat :=
  match d.spi with
  | .transfer len => if dataChunks (spiChunks d.tc6.tx len) = 0 ∧ d.tc6.rx.rxChunksAvailable = 0
      then 1 else 0
  | _ => 0

/-- A bound on the transfers to come, but for those that bring a received chunk. -/
def Driver.transfersLeft (d : Driver) : Nat :=
  2 * d.unsent + d.expects + d.emptyTransfer + d.tc6.intFlag.toNat

/-- The places outside the loop, in their order. -/
def SpiPc.waitRank (credits : Nat) : SpiPc → Nat
  | .transfer _ => 1
  | .evalCredits => credits + 7
  | .evalWaiting => credits + 8
  | .evalInt => credits + 9
  | .prepare => credits + 10
  | .wakeQueue => 2 * credits + 17
  | .wakeStopped => 2 * credits + 18
  | .wakeTest => 2 * credits + 19
  | .process _ => 530
  | _ => 0

/-- How far the thread is from its next transfer, or from sleep. In the loop it is behind the
wait if a transfer is certain to follow, and before it otherwise. -/
noncomputable def Driver.rank (d : Driver) : Nat :=
  open Classical in
  match d.spi.left d.tc6.rx.txCredits with
  | some left => if d.HasWork then left + 1 else left + d.tc6.rx.txCredits + 11
  | none => d.spi.waitRank d.tc6.rx.txCredits

/-- A wake-up that will be taken for one round of the wait. -/
def Driver.wakeLeft (d : Driver) : Nat :=
  if d.woken = true ∧ d.spi ≠ .prepare then 300 else 0

def XmitPc.left : XmitPc → Nat
  | .idle => 0
  | .stop => 1
  | .wake => 301
  | .store _ _ => 302
  | .linearize _ _ => 303
  | .test _ _ => 304

noncomputable def Driver.stepsLeft (d : Driver) : Nat :=
  d.rank + d.wakeLeft + d.xmit.left + if d.isrWaking then 301 else 0

/-! The thread on its way. -/

theorem left_le (credits left : Nat) (pc : SpiPc) (here : pc.left credits = some left) :
    left ≤ credits + 5 := by
  cases pc <;> simp [SpiPc.left] at here <;> omega

theorem starts_transfer {before after : SpiPc}
    (starts : waitEvent .spi before after = some .starts) : ∃ len, after = .transfer len := by
  cases after with
  | transfer len => exact ⟨len, rfl⟩
  | _ => cases before <;> simp [waitEvent] at starts

/-- A transfer that is certain stays certain. -/
theorem work_kept {d after : Driver} (sized : Sized 255 d) (moved : d.Moves .spi after)
    (work : d.HasWork) {left : Nat} (here : d.spi.left d.tc6.rx.txCredits = some left) :
    (∃ len, after.spi = .transfer len) ∨ after.HasWork := by
  have due : Due d [] := ⟨work, ⟨left, here, by simpa using left_le _ _ _ here⟩, by simp⟩
  exact (due_spi d after [] sized due moved).imp starts_transfer Due.work

/-- A step of another party leaves the thread at least as near. -/
theorem rank_other {d after : Driver} (spi : after.spi = d.spi) (rx : after.tc6.rx = d.tc6.rx)
    (flag : d.tc6.intFlag = true → after.tc6.intFlag = true)
    (ongoing : after.tc6.tx.ongoingTxSkb = d.tc6.tx.ongoingTxSkb)
    (waiting : d.tc6.tx.waitingTxSkb ≠ none → after.tc6.tx.waitingTxSkb ≠ none) :
    after.rank ≤ d.rank := by
  rw [Driver.rank, Driver.rank, spi, rx]
  cases here : d.spi.left d.tc6.rx.txCredits with
  | none => rfl
  | some left =>
      dsimp only
      by_cases work : d.HasWork
      · have due : Due d [] := ⟨work, ⟨left, here, by simpa using left_le _ _ _ here⟩, by simp⟩
        have still := (due_other d after none [] due (by simp) spi rx flag ongoing waiting).work
        rw [if_pos work, if_pos still]
      · rw [if_neg work]
        split <;> omega

/-- A step from one place of the loop to a later one. -/
theorem rank_loop {d after : Driver} (sized : Sized 255 d) (moved : d.Moves .spi after)
    (rx : after.tc6.rx = d.tc6.rx) (before behind : Nat)
    (here : d.spi.left d.tc6.rx.txCredits = some before)
    (next : after.spi.left d.tc6.rx.txCredits = some behind) (less : behind < before) :
    after.rank < d.rank := by
  have loops : ∀ len, after.spi ≠ .transfer len := by
    intro len pc
    simp [pc, SpiPc.left] at next
  rw [Driver.rank, Driver.rank, rx, here, next]
  dsimp only
  by_cases work : d.HasWork
  · have still := (work_kept sized moved work here).resolve_left fun stays => stays.elim loops
    rw [if_pos work, if_pos still]
    omega
  · rw [if_neg work]
    split <;> omega

theorem rank_bounds {d : Driver} {left : Nat}
    (here : d.spi.left d.tc6.rx.txCredits = some left) :
    left < d.rank ∧ d.rank ≤ left + d.tc6.rx.txCredits + 11 := by
  rw [Driver.rank, here]
  dsimp only
  split <;> omega

theorem rank_work (d : Driver) (left : Nat) (here : d.spi.left d.tc6.rx.txCredits = some left)
    (work : d.HasWork) : d.rank = left + 1 := by
  rw [Driver.rank, here]
  exact if_pos work

theorem rank_at (d : Driver) {pc : SpiPc} (here : d.spi = pc)
    (outside : pc.left d.tc6.rx.txCredits = none) : d.rank = pc.waitRank d.tc6.rx.txCredits := by
  rw [Driver.rank, here, outside]

theorem rank_no_work (d : Driver) (left : Nat)
    (here : d.spi.left d.tc6.rx.txCredits = some left) (unworked : ¬ d.HasWork) :
    d.rank = left + d.tc6.rx.txCredits + 11 := by
  rw [Driver.rank, here]
  exact if_neg unworked

/-- Woken, the thread goes once through the wait. -/
theorem wake_left_same {d after : Driver} (woken : after.woken = d.woken)
    (prepare : d.spi ≠ .prepare) : after.wakeLeft ≤ d.wakeLeft := by
  rw [Driver.wakeLeft, Driver.wakeLeft, woken]
  split <;> split <;> simp_all

theorem rank_spi {d after : Driver} (sized : Sized 255 d)
    (looking : d.spi = .evalCredits → d.tc6.tx.waitingTxSkb ≠ none) (moved : d.Moves .spi after) :
    after.rank + after.wakeLeft < d.rank + d.wakeLeft := by
  have few := sized.credits
  have available := sized.available
  have loops := fun rx before behind here next less =>
    rank_loop sized moved rx before behind here next less
  have walks : d.spi ≠ .prepare → after.woken = d.woken → after.rank < d.rank →
      after.rank + after.wakeLeft < d.rank + d.wakeLeft := by
    intro prepare woken less
    have same := wake_left_same woken prepare
    omega
  cases moved with
  | prepare pc =>
      rw [rank_at d pc rfl, rank_at _ rfl rfl]
      simp only [SpiPc.waitRank, Driver.wakeLeft, Bool.false_eq_true, false_and, if_false]
      omega
  | wakeUp pc woken =>
      rw [rank_at d pc rfl, rank_at _ rfl rfl]
      simp only [SpiPc.waitRank, Driver.wakeLeft, pc, woken, ne_eq, not_true_eq_false, and_false,
        if_false, reduceCtorEq, not_false_eq_true, and_true, if_true]
      omega
  | intSet pc int =>
      refine walks (by simp [pc]) rfl ?_
      rw [rank_at d pc rfl, rank_work { d with spi := .loopTop } _ rfl (.inl int)]
      simp only [SpiPc.waitRank]
      omega
  | creditsSome pc credits =>
      refine walks (by simp [pc]) rfl ?_
      rw [rank_at d pc rfl,
        rank_work { d with spi := .loopTop } _ rfl (.inr ⟨looking pc, credits⟩)]
      simp only [SpiPc.waitRank]
      omega
  | intClear pc | waitingSome pc | waitingNone pc | creditsNone pc | wakeTestNone pc
  | wakeStopped pc =>
      refine walks (by simp [pc]) rfl ?_
      rw [rank_at d pc rfl, rank_at _ rfl rfl]
      simp only [SpiPc.waitRank]
      omega
  | wakeTestSome pc | wakeRunning pc | wakeQueue pc =>
      refine walks (by simp [pc]) rfl (lt_of_le_of_lt (rank_bounds rfl).2 ?_)
      rw [rank_at d pc rfl]
      simp only [SpiPc.waitRank]
      omega
  | loopBusy pc busy =>
      exact walks (by simp [pc]) rfl (loops rfl _ _ (by rw [pc]; rfl) rfl (by omega))
  | loopIdle pc noOngoing noWaiting =>
      exact walks (by simp [pc]) rfl (loops rfl _ _ (by rw [pc]; rfl) rfl (by omega))
  | fillMore used pc credit skb held =>
      exact walks (by simp [pc]) rfl (loops rfl _ _ (by rw [pc]; rfl) rfl (by omega))
  | fillEmpty used pc credit empty =>
      exact walks (by simp [pc]) rfl (loops rfl _ _ (by rw [pc]; rfl) rfl (by omega))
  | fillFull used pc credit =>
      exact walks (by simp [pc]) rfl (loops rfl _ _ (by rw [pc]; rfl) rfl (by omega))
  | fillRx len pc =>
      exact walks (by simp [pc]) rfl (loops rfl _ _ (by rw [pc]; rfl) rfl (by omega))
  | testSet len pc int =>
      exact walks (by simp [pc]) rfl (loops rfl _ _ (by rw [pc]; rfl) rfl (by omega))
  | testDone pc int =>
      refine walks (by simp [pc]) rfl ?_
      have unworked : ¬ d.HasWork := by simp [Driver.HasWork, int, pc]
      rw [rank_at _ rfl rfl, rank_no_work d 2 (by rw [pc]; rfl) unworked]
      simp only [SpiPc.waitRank]
      omega
  | testClear len pc | clearEmpty pc | clear len pc =>
      refine walks (by simp [pc]) rfl (lt_of_le_of_lt ?_ (rank_bounds (by rw [pc]; rfl)).1)
      rw [rank_at _ rfl rfl]
      simp [SpiPc.waitRank, Driver.setTx]

/-! The transfers to come. -/

theorem expects_idle {d : Driver} (idle : ∀ len, d.spi ≠ .process len) :
    d.expects = if d.tc6.rx.rxChunksAvailable = 0 then 0 else 1 := by
  cases pc : d.spi with
  | process len => exact absurd pc (idle len)
  | _ => rw [Driver.expects, pc]

theorem expects_le (d : Driver) : d.expects ≤ 1 := by
  rw [Driver.expects]
  split <;> split <;> omega

theorem empty_transfer_none {d : Driver} (outside : ∀ len, d.spi ≠ .transfer len) :
    d.emptyTransfer = 0 := by
  cases pc : d.spi with
  | transfer len => exact absurd pc (outside len)
  | _ => rw [Driver.emptyTransfer, pc]

theorem empty_transfer_le (d : Driver) : d.emptyTransfer ≤ 1 := by
  rw [Driver.emptyTransfer]
  split
  · split <;> omega
  · omega

/-- A transfer that is not empty was asked for by something else. -/
theorem empty_transfer_asked {d : Driver} (len : Nat) (pc : d.spi = .transfer len)
    (asked : len = chunkSize * max (dataChunks (spiChunks d.tc6.tx len)) d.tc6.rx.rxChunksAvailable)
    (some_ : len ≠ 0) : d.emptyTransfer = 0 := by
  rw [Driver.emptyTransfer, pc]
  refine if_neg fun ⟨noData, unavailable⟩ => some_ ?_
  rw [asked, noData, unavailable]
  rfl

theorem transfers_same {d after : Driver} (wire : after.wire = d.wire)
    (accepted : after.accepted = d.accepted) (xmit : after.xmit = d.xmit)
    (rx : after.tc6.rx = d.tc6.rx) (before : ∀ len, d.spi ≠ .process len)
    (behind : ∀ len, after.spi ≠ .process len)
    (asked : after.emptyTransfer + after.tc6.intFlag.toNat ≤
      d.emptyTransfer + d.tc6.intFlag.toNat) : after.transfersLeft ≤ d.transfersLeft := by
  have unsent : after.unsent = d.unsent := by
    rw [Driver.unsent, Driver.unsent, wire, accepted, xmit]
  have expects : after.expects = d.expects := by
    rw [expects_idle before, expects_idle behind, rx]
  rw [Driver.transfersLeft, Driver.transfersLeft, unsent, expects]
  omega

theorem transfers_spi {d after : Driver} (counted : Counted d) (moved : d.Moves .spi after) :
    after.transfersLeft ≤ d.transfersLeft := by
  cases moved with
  | testClear len pc int some_ =>
      have asked : Driver.emptyTransfer { d with spi := .transfer len } = 0 :=
        empty_transfer_asked len rfl (counted.padded len (.inl pc)) some_
      exact transfers_same rfl rfl rfl rfl (by simp [pc]) (by simp) (by dsimp only; omega)
  | clear len pc some_ =>
      have asked : Driver.emptyTransfer { d with
          tc6 := { d.tc6 with intFlag := false }, spi := .transfer len } = 0 :=
        empty_transfer_asked len rfl (counted.padded len (.inr pc)) some_
      exact transfers_same rfl rfl rfl rfl (by simp [pc]) (by simp) (by simp [asked])
  | clearEmpty pc =>
      -- The flag pays for the empty chunk.
      refine transfers_same rfl rfl rfl rfl (by simp [pc]) (by simp [Driver.setTx]) ?_
      rw [counted.flagged 0 pc]
      exact (Nat.add_le_add_right (empty_transfer_le _) 0).trans (Nat.le_add_left 1 _)
  | _ =>
      refine transfers_same rfl rfl rfl rfl (by simp [*]) (by simp [Driver.setTx]) ?_
      rw [empty_transfer_none (by simp [Driver.setTx])]
      simp [Driver.setTx]

/-! Steps that start no transfer. -/

structure Nears (d after : Driver) : Prop where
  transfers : after.transfersLeft ≤ d.transfersLeft
  steps : after.stepsLeft < d.stepsLeft

/-- A step of `oa_tc6_start_xmit`. -/
theorem nears_xmit {d after : Driver} (spi : after.spi = d.spi) (rx : after.tc6.rx = d.tc6.rx)
    (buffer : after.tc6.tx.spiDataTxBuf = d.tc6.tx.spiDataTxBuf)
    (flag : after.tc6.intFlag = d.tc6.intFlag) (isr : after.isrWaking = d.isrWaking)
    (ongoing : after.tc6.tx.ongoingTxSkb = d.tc6.tx.ongoingTxSkb)
    (waiting : d.tc6.tx.waitingTxSkb ≠ none → after.tc6.tx.waitingTxSkb ≠ none)
    (unsent : after.unsent ≤ d.unsent)
    (left : after.wakeLeft + after.xmit.left < d.wakeLeft + d.xmit.left) : Nears d after := by
  have rank := rank_other spi rx (fun set => flag ▸ set) ongoing waiting
  have expects : after.expects = d.expects := by rw [Driver.expects, Driver.expects, spi, rx]
  have empty : after.emptyTransfer = d.emptyTransfer := by
    rw [Driver.emptyTransfer, Driver.emptyTransfer, spi, rx]
    simp only [spi_chunks_buffer _ _ buffer]
  constructor
  · rw [Driver.transfersLeft, Driver.transfersLeft, expects, empty, flag]
    omega
  · rw [Driver.stepsLeft, Driver.stepsLeft, isr]
    omega

theorem nears_xmit_moves {d after : Driver} {linearized : Bool}
    (moved : d.Moves (.xmit linearized) after) : Nears d after := by
  cases moved with
  | testBusy skb tsCaptureMode linearized pc | testFree skb tsCaptureMode linearized pc
  | stop linearized pc | linearized skb tsCaptureMode pc | linearizeFails skb tsCaptureMode pc =>
      refine nears_xmit rfl rfl rfl rfl rfl rfl id ?_ ?_
      · simp [Driver.unsent, pc, XmitPc.offered]
      · simp [Driver.wakeLeft, pc, XmitPc.left]
  | store skb tsCaptureMode linearized pc =>
      refine nears_xmit rfl rfl rfl rfl rfl rfl (fun _ => by simp) ?_ ?_
      · simp only [Driver.unsent, pc, XmitPc.offered, all_chunks_append]
        simp only [allChunks, List.map_cons, List.map_nil, List.sum_cons, List.sum_nil]
        omega
      · simp [Driver.wakeLeft, pc, XmitPc.left]
  | wake linearized pc =>
      refine nears_xmit rfl rfl rfl rfl rfl rfl id ?_ ?_
      · simp [Driver.unsent, XmitPc.offered]
      · simp only [Driver.wakeLeft, pc, XmitPc.left]
        split <;> omega

theorem nears_spi {d after : Driver} (sized : Sized 255 d) (counted : Counted d)
    (looking : d.spi = .evalCredits → d.tc6.tx.waitingTxSkb ≠ none) (moved : d.Moves .spi after) :
    Nears d after := by
  have rank := rank_spi sized looking moved
  have others : after.xmit = d.xmit ∧ after.isrWaking = d.isrWaking := by
    cases moved <;> exact ⟨rfl, rfl⟩
  refine ⟨transfers_spi counted moved, ?_⟩
  rw [Driver.stepsLeft, Driver.stepsLeft, others.1, others.2]
  omega

theorem wake_left_le (d : Driver) : d.wakeLeft ≤ 300 := by
  rw [Driver.wakeLeft]
  split <;> omega

theorem nears_interrupt_wake {d after : Driver} (moved : d.Moves .interruptWake after) :
    Nears d after := by
  cases moved with
  | interruptWake pc =>
      refine ⟨Nat.le_refl _, ?_⟩
      have rank : Driver.rank { d with woken := true, isrWaking := false } ≤ d.rank :=
        rank_other rfl rfl id rfl id
      have wake := wake_left_le { d with woken := true, isrWaking := false }
      simp only [Driver.stepsLeft, pc, Bool.false_eq_true, if_false, if_true]
      omega

/-- A step of the thread out of a transfer, or out of the footers. -/
theorem nears_leaves {d after : Driver} (xmit : after.xmit = d.xmit)
    (woken : after.woken = d.woken) (isr : after.isrWaking = d.isrWaking)
    (wire : after.wire = d.wire) (accepted : after.accepted = d.accepted)
    (flag : after.tc6.intFlag = d.tc6.intFlag) (prepare : d.spi ≠ .prepare)
    (transfer : ∀ len, after.spi ≠ .transfer len) (expects : after.expects ≤ d.expects)
    (rank : after.rank < d.rank) : Nears d after := by
  have wake := wake_left_same woken prepare
  constructor
  · rw [Driver.transfersLeft, Driver.transfersLeft, Driver.unsent, Driver.unsent, wire, accepted,
      xmit, flag, empty_transfer_none transfer]
    omega
  · rw [Driver.stepsLeft, Driver.stepsLeft, xmit, isr]
    omega

/-- What the footers leave as available one of them shows. -/
theorem expects_processed {d : Driver} (sized : Sized 255 d) (len : Nat)
    (pc : d.spi = .process len) (io : Nat → ChunkIo) (ret : Int) (rx : RxState)
    (out : processSpiDataRxBuf d.tc6.rx len io = (ret, rx)) :
    (if rx.rxChunksAvailable = 0 then 0 else 1) ≤ d.expects := by
  obtain ⟨k, inside, _, available, _⟩ :=
    chunks_credits d.tc6.rx io 0 (len / chunkSize) (sized.moving len (.inr pc))
  rw [processSpiDataRxBuf] at out
  rw [out, Nat.zero_add] at available
  rw [Driver.expects, pc]
  dsimp only
  split
  · exact Nat.zero_le _
  · rename_i some_
    rw [if_pos ⟨k, inside, available ▸ some_⟩]

theorem nears_process {d after : Driver} (sized : Sized 255 d) {io : Nat → ChunkIo}
    (moved : d.Moves (.process io) after) : Nears d after := by
  have still := sized_moves 255 (by decide) (by decide) d after _ sized moved
  cases moved with
  | processFine len pc io rx out =>
      have few := still.credits
      refine nears_leaves rfl rfl rfl rfl rfl rfl (by simp [pc]) (by simp) ?_ ?_
      · rw [expects_idle (by simp)]
        exact expects_processed sized len pc io _ rx out
      · rw [rank_at d pc rfl, rank_at _ rfl rfl]
        simp only [SpiPc.waitRank]
        dsimp only at few
        omega
  | processAgain len pc io rx out =>
      have few := still.credits
      refine nears_leaves rfl rfl rfl rfl rfl rfl (by simp [pc]) (by simp) ?_ ?_
      · rw [expects_idle (by simp)]
        exact expects_processed sized len pc io _ rx out
      · refine lt_of_le_of_lt (rank_bounds rfl).2 ?_
        rw [rank_at d pc rfl]
        simp only [SpiPc.waitRank]
        dsimp only at few
        omega
  | processFails len pc io rx ret fails out =>
      refine nears_leaves rfl rfl rfl rfl rfl rfl (by simp [pc]) (by simp) ?_ ?_
      · rw [expects_idle (by simp)]
        dsimp only
        rw [(cleanup_rx_credits rx).2]
        exact expects_processed sized len pc io _ rx out
      · rw [rank_at d pc rfl, rank_at _ rfl rfl]
        simp [SpiPc.waitRank]

theorem nears_exchange_fails {d after : Driver} {ret : Int}
    (moved : d.Moves (.exchangeFails ret) after) : Nears d after := by
  cases moved with
  | exchangeFails len pc ret failed =>
      refine nears_leaves rfl rfl rfl rfl rfl rfl (by simp [pc]) (by simp) ?_ ?_
      · rw [expects_idle (by simp), expects_idle (d := d) (by simp [pc])]
      · rw [rank_at d pc rfl, rank_at _ rfl rfl]
        simp [SpiPc.waitRank]

/-- The flag is set, by the handler or by `oa_tc6_init`. -/
theorem raised_left (d : Driver) (waking : Bool) :
    let after := { d with tc6 := { d.tc6 with intFlag := true }, isrWaking := waking }
    after.transfersLeft ≤ d.transfersLeft + 1 ∧ after.rank ≤ d.rank ∧
      after.wakeLeft = d.wakeLeft := by
  refine ⟨?_, rank_other rfl rfl (fun _ => rfl) rfl id, rfl⟩
  simp only [Driver.transfersLeft, Driver.unsent, Driver.expects, Driver.emptyTransfer,
    Bool.toNat_true]
  omega

/-! A transfer against a MAC-PHY that delivers. -/

/-- The MAC-PHY gives a received chunk wherever it has one, shows one only where it has one,
and none comes in. -/
def MacPhy.Delivers : MacPhy → List TxChunk → List Answered → Prop
  | phy, sent :: later, answer :: rest =>
      (answer.arrived = 0 ∧
        (phy.queued ≠ 0 → flag dataFooterDataValid answer.chunk.footer = true) ∧
        (number dataFooterRxChunks answer.chunk.footer ≠ 0 →
          (phy.after sent answer).queued ≠ 0)) ∧
        (phy.after sent answer).Delivers later rest
  | _, _, _ => True

instance decidableDelivers :
    (phy : MacPhy) → (sent : List TxChunk) → (answers : List Answered) →
      Decidable (phy.Delivers sent answers)
  | phy, sent :: later, answer :: rest =>
      have := decidableDelivers (phy.after sent answer) later rest
      inferInstanceAs (Decidable (_ ∧ _))
  | _, [], _ => isTrue (by simp [MacPhy.Delivers])
  | _, _ :: _, [] => isTrue (by simp [MacPhy.Delivers])

theorem delivers_queued {phy left : MacPhy} {sent : List TxChunk} {answers : List Answered}
    (delivers : phy.Delivers sent answers) (exchanged : phy.exchange sent answers = some left) :
    left.queued ≤ phy.queued := by
  induction sent generalizing phy answers with
  | nil => simp_all [MacPhy.exchange]
  | cons chunk later ih =>
      cases answers with
      | nil => simp_all [MacPhy.exchange]
      | cons answer rest =>
          simp only [MacPhy.exchange, Option.ite_none_right_eq_some] at exchanged
          have fewer := ih delivers.2 exchanged.2
          have none_ := delivers.1.1
          simp only [MacPhy.after, none_] at fewer
          omega

/-- A chunk that waits comes with the first of the transfer. -/
theorem delivers_first {phy left : MacPhy} {sent : List TxChunk} {answers : List Answered}
    (delivers : phy.Delivers sent answers) (exchanged : phy.exchange sent answers = some left)
    (whole : sent.length = answers.length) (some_ : sent ≠ []) (waits : phy.queued ≠ 0) :
    left.queued < phy.queued := by
  obtain ⟨chunk, later, rfl⟩ := List.exists_cons_of_ne_nil some_
  cases answers with
  | nil => simp at whole
  | cons answer rest =>
      simp only [MacPhy.exchange, Option.ite_none_right_eq_some] at exchanged
      have fewer := delivers_queued delivers.2 exchanged.2
      obtain ⟨⟨none_, gives, _⟩, _⟩ := delivers
      simp only [MacPhy.after, none_, gives waits, Bool.toNat_true] at fewer
      omega

theorem delivers_none {phy : MacPhy} {sent : List TxChunk} {answers : List Answered}
    (delivers : phy.Delivers sent answers) (whole : sent.length = answers.length)
    (empty : phy.queued = 0) :
    ∀ answer ∈ answers, number dataFooterRxChunks answer.chunk.footer = 0 := by
  induction sent generalizing phy answers with
  | nil =>
      obtain rfl : answers = [] := List.length_eq_zero_iff.mp whole.symm
      simp
  | cons chunk later ih =>
      cases answers with
      | nil => simp
      | cons answer rest =>
          obtain ⟨⟨none_, _, shows⟩, goes⟩ := delivers
          have still : (phy.after chunk answer).queued = 0 := by
            simp [MacPhy.after, none_, empty]
          rw [List.forall_mem_cons]
          exact ⟨by_contra fun some_ => shows some_ still, ih goes (by simpa using whole) still⟩

/-- What a transfer does to the driver. -/
structure Exchanged (d after : Driver) (len : Nat) (received : List RxChunk) : Prop where
  pc : d.spi = .transfer len
  whole : received.length * chunkSize = len
  spi : after.spi = .process len
  rx : after.tc6.rx = { d.tc6.rx with
    spiDataRxBuf := load d.tc6.rx.spiDataRxBuf (received.flatMap RxChunk.bytes) }
  flag : after.tc6.intFlag = d.tc6.intFlag
  wire : after.wire = d.wire ++ spiChunks d.tc6.tx len
  accepted : after.accepted = d.accepted
  xmit : after.xmit = d.xmit
  woken : after.woken = d.woken
  isr : after.isrWaking = d.isrWaking

theorem exchanged_moves {d after : Driver} {received : List RxChunk}
    (moved : d.Moves (.exchange received) after) : ∃ len, Exchanged d after len received := by
  cases moved with
  | exchange len pc received whole =>
      exact ⟨len, pc, whole, rfl, rfl, rfl, rfl, rfl, rfl, rfl, rfl⟩

section Exchange
variable {d after : Driver} {len : Nat} {phy left : MacPhy} {answers : List Answered}

theorem exchange_unsent {received : List RxChunk} (made : Exchanged d after len received)
    (paid : Paid d) : after.unsent + dataChunks (spiChunks d.tc6.tx len) = d.unsent := by
  have balance := paid (running_at d _ made.pc (by simp))
  rw [emitted_built d len (by rw [made.pc]; rfl), data_chunks_append] at balance
  rw [Driver.unsent, Driver.unsent, made.wire, made.accepted, made.xmit, data_chunks_append]
  omega

theorem exchange_count (made : Exchanged d after len (answers.map Answered.chunk)) :
    len / chunkSize = answers.length := by
  rw [← made.whole, Nat.mul_div_cancel _ (by decide), List.length_map]

theorem exchange_expects (made : Exchanged d after len (answers.map Answered.chunk))
    (delivers : phy.Delivers (spiChunks d.tc6.tx len) answers) (empty : phy.queued = 0) :
    after.expects = 0 := by
  have count := exchange_count made
  rw [Driver.expects, made.spi, made.rx]
  refine if_neg ?_
  rintro ⟨i, inside, shows⟩
  refine shows ?_
  rw [loaded_footer _ _ i (by rw [List.length_map, ← count]; exact inside), List.getElem_map]
  exact delivers_none delivers (by simp [spiChunks, count]) empty _ (List.getElem_mem _)

/-- A transfer brings a chunk that waits, or sends a data chunk; or it was asked for by an
interrupt or an outdated footer, and not again. -/
theorem exchange_left (sized : Sized 255 d) (paid : Paid d)
    (made : Exchanged d after len (answers.map Answered.chunk))
    (exchanged : phy.exchange (spiChunks d.tc6.tx len) answers = some left)
    (delivers : phy.Delivers (spiChunks d.tc6.tx len) answers) :
    after.transfersLeft + 2 * left.queued < d.transfersLeft + 2 * phy.queued := by
  have positive := sized.moving len (.inl made.pc)
  have count := exchange_count made
  have fewer := delivers_queued delivers exchanged
  have unsent := exchange_unsent made paid
  have empty := empty_transfer_none (d := after) (by simp [made.spi])
  have most := expects_le after
  rw [Driver.transfersLeft, Driver.transfersLeft, empty, made.flag]
  by_cases waits : phy.queued = 0
  · have none_ := exchange_expects made delivers waits
    have asked : 0 < dataChunks (spiChunks d.tc6.tx len) + d.expects + d.emptyTransfer := by
      rw [expects_idle (d := d) (by simp [made.pc]), Driver.emptyTransfer, made.pc]
      dsimp only
      by_cases asks : dataChunks (spiChunks d.tc6.tx len) = 0 ∧ d.tc6.rx.rxChunksAvailable = 0
      · rw [if_pos asks]
        omega
      · rw [if_neg asks]
        split <;> omega
    omega
  · have gone := delivers_first delivers exchanged (by simp [spiChunks, count])
      (List.ne_nil_of_length_pos (by simpa [spiChunks] using positive)) waits
    omega

theorem exchange_steps (made : Exchanged d after len (answers.map Answered.chunk)) :
    after.stepsLeft ≤ d.stepsLeft + 529 := by
  have wake := wake_left_same made.woken (by simp [made.pc])
  rw [Driver.stepsLeft, Driver.stepsLeft, rank_at d made.pc rfl, rank_at after made.spi rfl,
    made.xmit, made.isr]
  simp only [SpiPc.waitRank]
  omega
end Exchange

/-! The station. -/

def Station.transfersLeft (s : Station) : Nat :=
  s.driver.transfersLeft + 2 * s.macPhy.queued + s.edge.toNat +
    if s.booting = .setFlag then 1 else 0

def Booting.left : Booting → Nat
  | .setFlag => 302
  | .wake => 301
  | .done => 0

noncomputable def Station.stepsLeft (s : Station) : Nat :=
  s.driver.stepsLeft + (if s.edge then 302 else 0) + s.booting.left

/-- Fewer than 600 steps lie between two transfers. -/
noncomputable def Station.left (s : Station) : Nat := 600 * s.transfersLeft + s.stepsLeft

def StationAct.given : StationAct → Option (List Answered)
  | .exchange answers => some answers
  | _ => none

def SpiPc.transferring : SpiPc → Option Nat
  | .transfer len => some len
  | _ => none

/-- Nothing comes from outside, and the MAC-PHY delivers. -/
def Willing (s : Station) (act : StationAct) : Prop :=
  act.outside = false ∧ ∀ answers ∈ act.given, ∀ len ∈ s.driver.spi.transferring,
    MacPhy.Delivers { s.macPhy with line := false } (spiChunks s.driver.tc6.tx len) answers

instance (s : Station) (act : StationAct) : Decidable (Willing s act) :=
  inferInstanceAs (Decidable (_ ∧ ∀ answers ∈ act.given, ∀ len ∈ s.driver.spi.transferring,
    MacPhy.Delivers { s.macPhy with line := false } (spiChunks s.driver.tc6.tx len) answers))

/-- What is known of the driver in any run of the station. -/
structure Underway (d : Driver) : Prop where
  metered : CreditMetered d
  counted : Counted d
  looking : d.spi = .evalCredits → d.tc6.tx.waitingTxSkb ≠ none

theorem underway_moves {d after : Driver} {act : DriverAct} (under : Underway d)
    (moved : d.Moves act after) : Underway after :=
  ⟨metered_moves d after act under.metered moved,
    counted_moves 255 (by decide) d after act under.metered.tracked.sized under.counted moved,
    looking_moves d after act under.looking moved⟩

/-- `oa_tc6_init` sets the flag or wakes the thread. -/
theorem underway_boot {d : Driver} (under : Underway d) (flag woken : Bool)
    (set : d.tc6.intFlag = true → flag = true) :
    Underway { d with tc6 := { d.tc6 with intFlag := flag }, woken := woken } := by
  obtain ⟨⟨⟨sized, segmented, first⟩, paid, whole⟩, counted, looking⟩ := under
  exact ⟨⟨⟨sized_other 255 d _ sized rfl rfl rfl rfl,
    ⟨segmented.room, segmented.proper, segmented.laid⟩, first⟩, paid, whole⟩,
    counted_other d _ counted rfl rfl rfl set, looking⟩

theorem underway_next {s after : Station} {act : StationAct} (under : Underway s.driver)
    (moved : s.next act = some after) : Underway after.driver := by
  rcases station_next_cases moved with ⟨own, driver, rfl, moves, _, rfl⟩ | ⟨_, boots⟩ |
    ⟨driver, _, moves, rfl⟩ | ⟨answers, len, macPhy, driver, _, _, _, moves, rfl⟩ |
    ⟨_, driver, _⟩
  · exact underway_moves under moves
  · cases booting : s.booting with
    | setFlag =>
        simp only [Station.bootNext, booting, Option.some.injEq] at boots
        exact boots ▸ underway_boot under true s.driver.woken fun _ => rfl
    | wake =>
        simp only [Station.bootNext, booting, Option.some.injEq] at boots
        exact boots ▸ underway_boot under s.driver.tc6.intFlag true id
    | done => simp [Station.bootNext, booting] at boots
  · exact underway_moves under moves
  · exact underway_moves under moves
  · exact driver ▸ under

theorem underway_reached {ok : Station → StationAct → Prop} {s : Station}
    (reached : Reaches stationMachine ok s) : Underway s.driver := by
  refine reached.invariant (fun s => Underway s.driver) (fun s starts => ?_) ?_
  · refine ⟨metered_init s.driver starts.1, counted_init 255 s.driver starts.1, ?_⟩
    obtain ⟨bufferStatus, mtu, rxFilter, rxBuffer, txBuffer, _, _, made⟩ := starts.1
    simp [made, initDriver]
  · exact fun _ _ _ under _ moved => underway_next under moved

def StationAct.transfers : StationAct → Bool
  | .exchange _ => true
  | _ => false

/-- A step, which may be a transfer. -/
structure Falls (s after : Station) (transfer : Nat) : Prop where
  transfers : after.transfersLeft + transfer ≤ s.transfersLeft
  steps : after.stepsLeft + 1 ≤ s.stepsLeft + 530 * transfer

theorem falls_driver {s : Station} {driver : Driver} (nears : Nears s.driver driver) :
    Falls s { s with driver := driver } 0 := by
  have transfers := nears.transfers
  have steps := nears.steps
  constructor
  · simp only [Station.transfersLeft]
    omega
  · simp only [Station.stepsLeft]
    omega

theorem falls_boot {s after : Station} (moved : s.bootNext = some after) : Falls s after 0 := by
  cases booting : s.booting with
  | setFlag =>
      simp only [Station.bootNext, booting, Option.some.injEq] at moved
      subst after
      obtain ⟨transfers, rank, wake⟩ := raised_left s.driver s.driver.isrWaking
      dsimp only at transfers rank wake
      constructor
      · simp only [Station.transfersLeft, booting, if_true, reduceCtorEq, if_false]
        omega
      · simp only [Station.stepsLeft, Driver.stepsLeft, booting, Booting.left]
        omega
  | wake =>
      simp only [Station.bootNext, booting, Option.some.injEq] at moved
      subst after
      have rank : Driver.rank { s.driver with woken := true } ≤ s.driver.rank :=
        rank_other rfl rfl id rfl id
      have wake := wake_left_le { s.driver with woken := true }
      have transfers : Driver.transfersLeft { s.driver with woken := true } =
        s.driver.transfersLeft := rfl
      dsimp only at rank wake
      constructor
      · simp only [Station.transfersLeft, booting, reduceCtorEq, if_false, transfers]
        omega
      · simp only [Station.stepsLeft, Driver.stepsLeft, booting, Booting.left]
        omega
  | done => simp [Station.bootNext, booting] at moved

theorem falls_isr {s : Station} {driver : Driver} (edge : s.edge = true)
    (moved : s.driver.Moves .interrupt driver) :
    Falls s { s with driver := driver, edge := false } 0 := by
  cases moved with
  | interrupt pc =>
      obtain ⟨transfers, rank, wake⟩ := raised_left s.driver true
      dsimp only at transfers rank wake
      constructor
      · simp only [Station.transfersLeft, edge, Bool.toNat_true, Bool.toNat_false]
        omega
      · simp only [Station.stepsLeft, Driver.stepsLeft, edge, pc, if_true, Bool.false_eq_true,
          if_false]
        omega

theorem falls_exchange {s : Station} (under : Underway s.driver) {len : Nat} {macPhy : MacPhy}
    {answers : List Answered} {driver : Driver} (pc : s.driver.spi = .transfer len)
    (exchanged : MacPhy.exchange { s.macPhy with line := false } (spiChunks s.driver.tc6.tx len)
      answers = some macPhy)
    (willing : Willing s (.exchange answers))
    (moved : s.driver.Moves (.exchange (answers.map Answered.chunk)) driver) :
    Falls s { s with driver := driver, macPhy := macPhy } 1 := by
  obtain ⟨len', made⟩ := exchanged_moves moved
  obtain rfl : len = len' := by simpa [pc] using made.pc
  have transfers := exchange_left under.metered.tracked.sized under.metered.paid made exchanged
    (willing.2 answers rfl len (by rw [pc]; rfl))
  have steps := exchange_steps made
  dsimp only at transfers
  constructor
  · simp only [Station.transfersLeft]
    omega
  · simp only [Station.stepsLeft]
    omega

/-- Every step brings the station nearer to rest. -/
theorem falls_next {s after : Station} {act : StationAct} (under : Underway s.driver)
    (willing : Willing s act) (moved : s.next act = some after) :
    Falls s after act.transfers.toNat := by
  rcases station_next_cases moved with ⟨own, driver, rfl, moves, noExchange, rfl⟩ | ⟨rfl, boots⟩ |
    ⟨driver, rfl, moves, rfl⟩ | ⟨answers, len, macPhy, driver, rfl, pc, exchanged, moves, rfl⟩ |
    ⟨outside, _⟩
  · have sized := under.metered.tracked.sized
    apply falls_driver
    cases own with
    | spi => exact nears_spi sized under.counted under.looking moves
    | exchange received => exact absurd rfl (noExchange received)
    | exchangeFails ret => exact nears_exchange_fails moves
    | process io => exact nears_process sized moves
    | offer => simp [Willing, StationAct.outside] at willing
    | xmit linearized => exact nears_xmit_moves moves
    | interrupt => simp [Station.next] at moved
    | interruptWake => exact nears_interrupt_wake moves
  · exact falls_boot boots
  · refine falls_isr ?_ moves
    simp only [Station.next, Option.ite_none_right_eq_some] at moved
    exact moved.1
  · exact falls_exchange under pc exchanged willing moves
  · simp [willing.1] at outside

theorem rank_le {d : Driver} (sized : Sized 255 d) : d.rank ≤ 530 := by
  have few := sized.credits
  cases here : d.spi.left d.tc6.rx.txCredits with
  | some left =>
      have most := left_le _ _ _ here
      exact (rank_bounds here).2.trans (by omega)
  | none =>
      rw [rank_at d rfl here]
      cases d.spi <;> simp only [SpiPc.waitRank] <;> omega

theorem transfers_left_le (s : Station) :
    s.transfersLeft ≤ 2 * (s.driver.unsent + s.macPhy.queued) + 5 := by
  have expects := expects_le s.driver
  have empty := empty_transfer_le s.driver
  have flag := Bool.toNat_le s.driver.tc6.intFlag
  have edge := Bool.toNat_le s.edge
  simp only [Station.transfersLeft, Driver.transfersLeft]
  split <;> omega

theorem steps_left_le (s : Station) (sized : Sized 255 s.driver) : s.stepsLeft ≤ 2039 := by
  have rank := rank_le sized
  have wake := wake_left_le s.driver
  have xmit : s.driver.xmit.left ≤ 304 := by cases s.driver.xmit <;> simp [XmitPc.left]
  have booting : s.booting.left ≤ 302 := by cases s.booting <;> simp [Booting.left]
  simp only [Station.stepsLeft, Driver.stepsLeft]
  split <;> split <;> omega

/-- While nothing comes from outside and the MAC-PHY delivers, the station comes to rest: there
are at most two transfers for each chunk to be sent or read, and five more, and fewer than 600
steps for each. -/
theorem station_comes_to_rest {ok : Station → StationAct → Prop} {s last : Station}
    (reached : Reaches stationMachine ok s) (acts : List StationAct)
    (willing : stationMachine.Allowed Willing s acts)
    (ran : stationMachine.run s acts = some last) :
    acts.countP StationAct.transfers ≤ 2 * (s.driver.unsent + s.macPhy.queued) + 5 ∧
      acts.length ≤ 600 * (2 * (s.driver.unsent + s.macPhy.queued) + 9) := by
  have under := underway_reached reached
  have transfers := transfers_left_le s
  have steps := steps_left_le s under.metered.tracked.sized
  have made := run_paid (fun s => Underway s.driver) Station.transfersLeft StationAct.transfers
    (fun _ _ _ under willing moved =>
      ⟨underway_next under moved, (falls_next under willing moved).transfers⟩)
    under acts willing ran
  have long := run_bounded (fun s => Underway s.driver) Station.left ?_ under acts willing ran
  · simp only [Station.left] at long
    omega
  · intro before act after under willing moved
    have falls := falls_next under willing moved
    have transfers := falls.transfers
    have steps := falls.steps
    refine ⟨underway_next under moved, ?_⟩
    simp only [Station.left]
    omega

section Samples

/-- A chunk waits and a frame of two chunks is offered. -/
def stationBusy : Station :=
  stationMachine.after stationStart (lineFreed ++
    [.driver (.offer (sampleSkb 1 115 (by decide) (by decide)) 0), .arrive 1])

/-- The station sends the frame and reads the chunk, in one transfer and 26 steps. -/
def untilRest : List StationAct :=
  List.replicate 4 (.driver (.xmit true)) ++ [.isr, .driver .interruptWake] ++
    List.replicate 10 (.driver .spi) ++
    [.exchange [⟨answer 0x20307F04#32, 0, 1⟩, ⟨answer 0x20000004#32, 0, 1⟩],
      .driver (.process fun _ => default)] ++ List.replicate 8 (.driver .spi)

theorem station_busy_reached : Reaches stationMachine anyStep stationBusy :=
  reaches_after station_start _ (allowed_any _ _ _)

theorem until_rest_ran :
    stationMachine.run stationBusy untilRest = some (stationMachine.after stationBusy untilRest) :=
  run_after (by decide +kernel)

theorem station_comes_to_rest_sample :
    untilRest.countP StationAct.transfers ≤
        2 * (stationBusy.driver.unsent + stationBusy.macPhy.queued) + 5 ∧
      untilRest.length ≤
        600 * (2 * (stationBusy.driver.unsent + stationBusy.macPhy.queued) + 9) :=
  station_comes_to_rest station_busy_reached untilRest (by decide +kernel) until_rest_ran

example : Quiet (stationMachine.after stationBusy untilRest) :=
  ⟨.inl (by decide +kernel), by decide +kernel, by decide +kernel, by decide +kernel,
    by decide +kernel⟩

end Samples

end Lan865x.OaTc6
