import Lan865x.Transition
import Lan865x.ReceiveTransfer
import Lan865x.TransmitPath

/-!
The SPI thread, `oa_tc6_start_xmit` and the interrupt handler as one machine.
Each access to `waiting_tx_skb`, `int_flag` or the state of the queue is a step
of its own; what touches only data of the SPI thread goes with the step before.
`wait_event_interruptible` first joins the wait queue and then evaluates its
condition, so a wake-up between the two and the `schedule` is seen. The test
before joining is left out: it adds no behaviour. The thread is not stopped
from outside.
-/

namespace Lan865x.OaTc6
open BitField Memory Transition

/-- `struct oa_tc6`, and whether the netdev queue is stopped. -/
structure Tc6 where
  rx : RxState
  tx : TxState
  intFlag : Bool
  queueStopped : Bool

/-- Where the SPI thread is: in `wait_event_interruptible`, then in the loop of
`oa_tc6_try_spi_transfer`. `len` is `spi_len`. -/
inductive SpiPc where
  | prepare
  | evalInt
  | evalWaiting
  | evalCredits
  | sleep
  | loopTop
  | fillTx (used : Nat)
  | fillRx (len : Nat)
  | testInt (len : Nat)
  | clearInt (len : Nat)
  | transfer (len : Nat)
  | process (len : Nat)
  | wakeTest
  | wakeStopped
  | wakeQueue
  | ended (ret : Int)
  deriving DecidableEq

/-- Where `oa_tc6_start_xmit` is. -/
inductive XmitPc where
  | idle
  | test (skb : Skb) (tsCaptureMode : Nat)
  | stop
  | linearize (skb : Skb) (tsCaptureMode : Nat)
  | store (skb : Skb) (tsCaptureMode : Nat)
  | wake

/-- The driver, with the chunks of all SPI data transfers made so far and the
skbs that `oa_tc6_start_xmit` accepted, each with its capture mode. -/
structure Driver where
  tc6 : Tc6
  spi : SpiPc
  woken : Bool
  xmit : XmitPc
  isrWaking : Bool
  wire : List TxChunk
  accepted : List (Skb × Nat)

inductive DriverAct where
  | spi
  | exchange (received : List RxChunk)
  | exchangeFails (ret : Int)
  | process (io : Nat → ChunkIo)
  | offer (skb : Skb) (tsCaptureMode : Nat)
  | xmit (linearized : Bool)
  | interrupt
  | interruptWake

/-- The transfer whose footers are to be processed. -/
def SpiPc.processing : SpiPc → Option Nat
  | .process len => some len
  | _ => none

def DriverAct.answers : DriverAct → Option (Nat → ChunkIo)
  | .process io => some io
  | _ => none

def Driver.setTx (d : Driver) (tx : TxState) (spi : SpiPc) : Driver :=
  { d with tc6 := { d.tc6 with tx := tx }, spi := spi }

/-- One round of the loop in `oa_tc6_prepare_spi_tx_buf_for_tx_skbs`. -/
def prepareSpiTxBufForTxSkbs (d : Driver) (used : Nat) : Driver :=
  if used < d.tc6.rx.txCredits then
    let tx := dequeueTxSkb d.tc6.tx
    match tx.ongoingTxSkb with
    | none => d.setTx tx (.fillRx (toU16 (used * chunkSize)))
    | some skb => d.setTx (addTxSkbToSpiBuf tx skb) (.fillTx (used + 1))
  else { d with spi := .fillRx (toU16 (used * chunkSize)) }

def Driver.spiNext (d : Driver) : Option Driver :=
  match d.spi with
  | .prepare => some { d with woken := false, spi := .evalInt }
  -- `int_flag || (waiting_tx_skb && tx_credits)`, one access a step.
  | .evalInt => some { d with spi := if d.tc6.intFlag then .loopTop else .evalWaiting }
  | .evalWaiting =>
      some { d with spi := if d.tc6.tx.waitingTxSkb.isSome then .evalCredits else .sleep }
  | .evalCredits => some { d with spi := if d.tc6.rx.txCredits ≠ 0 then .loopTop else .sleep }
  | .sleep => if d.woken then some { d with spi := .prepare } else none
  -- An skb stored after this test is left to the wake test.
  | .loopTop =>
      some (d.setTx { d.tc6.tx with spiDataTxBufOffset := 0 }
        (if d.tc6.tx.ongoingTxSkb.isSome || d.tc6.tx.waitingTxSkb.isSome then .fillTx 0
          else .fillRx 0))
  | .fillTx used => some (prepareSpiTxBufForTxSkbs d used)
  | .fillRx len =>
      let (len, tx) := prepareSpiTxBufForRxChunks d.tc6.tx d.tc6.rx.rxChunksAvailable len
      some (d.setTx tx (.testInt len))
  | .testInt len =>
      if d.tc6.intFlag then some { d with spi := .clearInt len }
      else if len = 0 then some { d with spi := .prepare }
      else some { d with spi := .transfer len }
  | .clearInt len =>
      let d := { d with tc6 := { d.tc6 with intFlag := false } }
      -- An interrupt with nothing to transfer: one empty chunk brings its footer.
      if len = 0 then some (d.setTx (addEmptyChunksToSpiBuf d.tc6.tx 1) (.transfer chunkSize))
      else some { d with spi := .transfer len }
  | .wakeTest =>
      some { d with spi := if d.tc6.tx.waitingTxSkb.isSome then .loopTop else .wakeStopped }
  | .wakeStopped => some { d with spi := if d.tc6.queueStopped then .wakeQueue else .loopTop }
  | .wakeQueue =>
      some { d with tc6 := { d.tc6 with queueStopped := false }, spi := .loopTop }
  | _ => none

def Driver.exchangeNext (d : Driver) (received : List RxChunk) : Option Driver :=
  match d.spi with
  | .transfer len =>
      if received.length * chunkSize = len then
        some { d with
          tc6 := { d.tc6 with rx := { d.tc6.rx with
            spiDataRxBuf := load d.tc6.rx.spiDataRxBuf (received.flatMap RxChunk.bytes) } }
          wire := d.wire ++ spiChunks d.tc6.tx len
          spi := .process len }
      else none
  | _ => none

/-- The footers are processed; an error other than -EAGAIN drops both skbs. -/
def Driver.processNext (d : Driver) (io : Nat → ChunkIo) : Option Driver :=
  match d.spi with
  | .process len =>
      let (ret, rx) := processSpiDataRxBuf d.tc6.rx len io
      if ret = 0 then some { d with tc6 := { d.tc6 with rx := rx }, spi := .wakeTest }
      else if ret = -eagain then some { d with tc6 := { d.tc6 with rx := rx }, spi := .loopTop }
      else some { d with
        tc6 := { d.tc6 with rx := cleanupOngoingRxSkb rx, tx := cleanupOngoingTxSkb d.tc6.tx }
        spi := .ended ret }
  | _ => none

def Driver.xmitNext (d : Driver) (linearized : Bool) : Option Driver :=
  match d.xmit with
  | .idle => none
  | .test skb tsCaptureMode =>
      some { d with xmit := if d.tc6.tx.waitingTxSkb.isSome then .stop
        else .linearize skb tsCaptureMode }
  -- Nothing is tested again once the queue is stopped.
  | .stop => some { d with tc6 := { d.tc6 with queueStopped := true }, xmit := .idle }
  | .linearize skb tsCaptureMode =>
      if linearized then some { d with xmit := .store skb tsCaptureMode }
      else some { d with
        tc6 := { d.tc6 with tx := { d.tc6.tx with txDropped := d.tc6.tx.txDropped + 1 } }
        xmit := .idle }
  | .store skb tsCaptureMode =>
      some { d with
        tc6 := { d.tc6 with tx := { d.tc6.tx with
          waitingTxSkb := some skb
          waitingTxTsCaptureMode := tsCaptureMode } }
        xmit := .wake
        accepted := d.accepted ++ [(skb, tsCaptureMode)] }
  | .wake => some { d with woken := true, xmit := .idle }

def Driver.next (d : Driver) : DriverAct → Option Driver
  | .spi => d.spiNext
  | .exchange received => d.exchangeNext received
  | .exchangeFails ret => match d.spi with
      | .transfer _ => if ret ≠ 0 then some { d with spi := .ended ret } else none
      | _ => none
  | .process io => d.processNext io
  | .offer skb tsCaptureMode => match d.xmit with
      | .idle => some { d with xmit := .test skb (tsCaptureMode % 256) }
      | _ => none
  | .xmit linearized => d.xmitNext linearized
  | .interrupt =>
      if d.isrWaking then none
      else some { d with tc6 := { d.tc6 with intFlag := true }, isrWaking := true }
  | .interruptWake =>
      if d.isrWaking then some { d with woken := true, isrWaking := false } else none

/-- After `oa_tc6_init`, with the value read from BUFFER_STATUS. -/
def initDriver (bufferStatus : BitVec 32) (mtu : Nat) (rxFilter : Int) (rxBuffer : Nat → UInt8)
    (txBuffer : Nat → TxChunk) : Driver where
  tc6 :=
    { rx := { initRx mtu rxFilter rxBuffer with
        txCredits := number bufferStatusTxCreditsAvailable bufferStatus
        rxChunksAvailable := number bufferStatusRxChunksAvailable bufferStatus }
      tx := initTx txBuffer
      intFlag := false
      queueStopped := false }
  spi := .prepare
  woken := false
  xmit := .idle
  isrWaking := false
  wire := []
  accepted := []

/-- BUFFER_STATUS reports at most `limit` in each of its fields. The two buffers are taken as
unbounded, and have room for `maxTxChunks` chunks. -/
def driverMachine (limit : Nat) : Machine Driver DriverAct where
  start d := ∃ bufferStatus mtu rxFilter rxBuffer txBuffer,
    number bufferStatusTxCreditsAvailable bufferStatus ≤ limit ∧
    number bufferStatusRxChunksAvailable bufferStatus ≤ limit ∧
    d = initDriver bufferStatus mtu rxFilter rxBuffer txBuffer
  next := Driver.next

/-- The steps of the machine, one rule for each branch. -/
inductive Driver.Moves (d : Driver) : DriverAct → Driver → Prop where
  | prepare (pc : d.spi = .prepare) : d.Moves .spi { d with woken := false, spi := .evalInt }
  | intSet (pc : d.spi = .evalInt) (int : d.tc6.intFlag = true) :
      d.Moves .spi { d with spi := .loopTop }
  | intClear (pc : d.spi = .evalInt) (int : d.tc6.intFlag = false) :
      d.Moves .spi { d with spi := .evalWaiting }
  | waitingSome (pc : d.spi = .evalWaiting) (skb : Skb) (held : d.tc6.tx.waitingTxSkb = some skb) :
      d.Moves .spi { d with spi := .evalCredits }
  | waitingNone (pc : d.spi = .evalWaiting) (empty : d.tc6.tx.waitingTxSkb = none) :
      d.Moves .spi { d with spi := .sleep }
  | creditsSome (pc : d.spi = .evalCredits) (credits : d.tc6.rx.txCredits ≠ 0) :
      d.Moves .spi { d with spi := .loopTop }
  | creditsNone (pc : d.spi = .evalCredits) (credits : d.tc6.rx.txCredits = 0) :
      d.Moves .spi { d with spi := .sleep }
  | wakeUp (pc : d.spi = .sleep) (woken : d.woken = true) : d.Moves .spi { d with spi := .prepare }
  | loopBusy (pc : d.spi = .loopTop)
      (busy : d.tc6.tx.ongoingTxSkb ≠ none ∨ d.tc6.tx.waitingTxSkb ≠ none) :
      d.Moves .spi (d.setTx { d.tc6.tx with spiDataTxBufOffset := 0 } (.fillTx 0))
  | loopIdle (pc : d.spi = .loopTop) (noOngoing : d.tc6.tx.ongoingTxSkb = none)
      (noWaiting : d.tc6.tx.waitingTxSkb = none) :
      d.Moves .spi (d.setTx { d.tc6.tx with spiDataTxBufOffset := 0 } (.fillRx 0))
  | fillMore (used : Nat) (pc : d.spi = .fillTx used) (credit : used < d.tc6.rx.txCredits)
      (skb : Skb) (held : (dequeueTxSkb d.tc6.tx).ongoingTxSkb = some skb) :
      d.Moves .spi (d.setTx (addTxSkbToSpiBuf (dequeueTxSkb d.tc6.tx) skb) (.fillTx (used + 1)))
  | fillEmpty (used : Nat) (pc : d.spi = .fillTx used) (credit : used < d.tc6.rx.txCredits)
      (empty : (dequeueTxSkb d.tc6.tx).ongoingTxSkb = none) :
      d.Moves .spi (d.setTx (dequeueTxSkb d.tc6.tx) (.fillRx (toU16 (used * chunkSize))))
  | fillFull (used : Nat) (pc : d.spi = .fillTx used) (credit : d.tc6.rx.txCredits ≤ used) :
      d.Moves .spi { d with spi := .fillRx (toU16 (used * chunkSize)) }
  | fillRx (len : Nat) (pc : d.spi = .fillRx len) :
      d.Moves .spi (d.setTx
        (prepareSpiTxBufForRxChunks d.tc6.tx d.tc6.rx.rxChunksAvailable len).2
        (.testInt (prepareSpiTxBufForRxChunks d.tc6.tx d.tc6.rx.rxChunksAvailable len).1))
  | testSet (len : Nat) (pc : d.spi = .testInt len) (int : d.tc6.intFlag = true) :
      d.Moves .spi { d with spi := .clearInt len }
  | testDone (pc : d.spi = .testInt 0) (int : d.tc6.intFlag = false) :
      d.Moves .spi { d with spi := .prepare }
  | testClear (len : Nat) (pc : d.spi = .testInt len) (int : d.tc6.intFlag = false)
      (some_ : len ≠ 0) : d.Moves .spi { d with spi := .transfer len }
  | clearEmpty (pc : d.spi = .clearInt 0) :
      d.Moves .spi (Driver.setTx { d with tc6 := { d.tc6 with intFlag := false } }
        (addEmptyChunksToSpiBuf d.tc6.tx 1) (.transfer chunkSize))
  | clear (len : Nat) (pc : d.spi = .clearInt len) (some_ : len ≠ 0) :
      d.Moves .spi { d with tc6 := { d.tc6 with intFlag := false }, spi := .transfer len }
  | wakeTestSome (pc : d.spi = .wakeTest) (skb : Skb) (held : d.tc6.tx.waitingTxSkb = some skb) :
      d.Moves .spi { d with spi := .loopTop }
  | wakeTestNone (pc : d.spi = .wakeTest) (empty : d.tc6.tx.waitingTxSkb = none) :
      d.Moves .spi { d with spi := .wakeStopped }
  | wakeStopped (pc : d.spi = .wakeStopped) (stopped : d.tc6.queueStopped = true) :
      d.Moves .spi { d with spi := .wakeQueue }
  | wakeRunning (pc : d.spi = .wakeStopped) (running : d.tc6.queueStopped = false) :
      d.Moves .spi { d with spi := .loopTop }
  | wakeQueue (pc : d.spi = .wakeQueue) :
      d.Moves .spi { d with tc6 := { d.tc6 with queueStopped := false }, spi := .loopTop }
  | exchange (len : Nat) (pc : d.spi = .transfer len) (received : List RxChunk)
      (whole : received.length * chunkSize = len) :
      d.Moves (.exchange received) { d with
        tc6 := { d.tc6 with rx := { d.tc6.rx with
          spiDataRxBuf := load d.tc6.rx.spiDataRxBuf (received.flatMap RxChunk.bytes) } }
        wire := d.wire ++ spiChunks d.tc6.tx len
        spi := .process len }
  | exchangeFails (len : Nat) (pc : d.spi = .transfer len) (ret : Int) (failed : ret ≠ 0) :
      d.Moves (.exchangeFails ret) { d with spi := .ended ret }
  | processFine (len : Nat) (pc : d.spi = .process len) (io : Nat → ChunkIo) (rx : RxState)
      (out : processSpiDataRxBuf d.tc6.rx len io = (0, rx)) :
      d.Moves (.process io) { d with tc6 := { d.tc6 with rx := rx }, spi := .wakeTest }
  | processAgain (len : Nat) (pc : d.spi = .process len) (io : Nat → ChunkIo) (rx : RxState)
      (out : processSpiDataRxBuf d.tc6.rx len io = (-eagain, rx)) :
      d.Moves (.process io) { d with tc6 := { d.tc6 with rx := rx }, spi := .loopTop }
  | processFails (len : Nat) (pc : d.spi = .process len) (io : Nat → ChunkIo) (rx : RxState)
      (ret : Int) (fails : Fails ret) (out : processSpiDataRxBuf d.tc6.rx len io = (ret, rx)) :
      d.Moves (.process io) { d with
        tc6 := { d.tc6 with rx := cleanupOngoingRxSkb rx, tx := cleanupOngoingTxSkb d.tc6.tx }
        spi := .ended ret }
  | offer (skb : Skb) (tsCaptureMode : Nat) (pc : d.xmit = .idle) :
      d.Moves (.offer skb tsCaptureMode) { d with xmit := .test skb (tsCaptureMode % 256) }
  | testBusy (skb : Skb) (tsCaptureMode : Nat) (linearized : Bool)
      (pc : d.xmit = .test skb tsCaptureMode) (other : Skb)
      (held : d.tc6.tx.waitingTxSkb = some other) :
      d.Moves (.xmit linearized) { d with xmit := .stop }
  | testFree (skb : Skb) (tsCaptureMode : Nat) (linearized : Bool)
      (pc : d.xmit = .test skb tsCaptureMode) (empty : d.tc6.tx.waitingTxSkb = none) :
      d.Moves (.xmit linearized) { d with xmit := .linearize skb tsCaptureMode }
  | stop (linearized : Bool) (pc : d.xmit = .stop) :
      d.Moves (.xmit linearized)
        { d with tc6 := { d.tc6 with queueStopped := true }, xmit := .idle }
  | linearized (skb : Skb) (tsCaptureMode : Nat) (pc : d.xmit = .linearize skb tsCaptureMode) :
      d.Moves (.xmit true) { d with xmit := .store skb tsCaptureMode }
  | linearizeFails (skb : Skb) (tsCaptureMode : Nat) (pc : d.xmit = .linearize skb tsCaptureMode) :
      d.Moves (.xmit false) { d with
        tc6 := { d.tc6 with tx := { d.tc6.tx with txDropped := d.tc6.tx.txDropped + 1 } }
        xmit := .idle }
  | store (skb : Skb) (tsCaptureMode : Nat) (linearized : Bool)
      (pc : d.xmit = .store skb tsCaptureMode) :
      d.Moves (.xmit linearized) { d with
        tc6 := { d.tc6 with tx := { d.tc6.tx with
          waitingTxSkb := some skb
          waitingTxTsCaptureMode := tsCaptureMode } }
        xmit := .wake
        accepted := d.accepted ++ [(skb, tsCaptureMode)] }
  | wake (linearized : Bool) (pc : d.xmit = .wake) :
      d.Moves (.xmit linearized) { d with woken := true, xmit := .idle }
  | interrupt (pc : d.isrWaking = false) :
      d.Moves .interrupt { d with tc6 := { d.tc6 with intFlag := true }, isrWaking := true }
  | interruptWake (pc : d.isrWaking = true) :
      d.Moves .interruptWake { d with woken := true, isrWaking := false }

theorem moves_fill (d : Driver) (used : Nat) (pc : d.spi = .fillTx used) :
    d.Moves .spi (prepareSpiTxBufForTxSkbs d used) := by
  unfold prepareSpiTxBufForTxSkbs
  by_cases credit : used < d.tc6.rx.txCredits
  · simp only [credit, if_true]
    cases held : (dequeueTxSkb d.tc6.tx).ongoingTxSkb with
    | none => exact .fillEmpty used pc credit held
    | some skb => exact .fillMore used pc credit skb held
  · simp only [credit, if_false]
    exact .fillFull used pc (Nat.not_lt.mp credit)

theorem moves_spi (d after : Driver) (moved : d.spiNext = some after) : d.Moves .spi after := by
  cases pc : d.spi with
  | prepare =>
      simp only [Driver.spiNext, pc, Option.some.injEq] at moved
      exact moved ▸ .prepare pc
  | evalInt =>
      simp only [Driver.spiNext, pc, Option.some.injEq] at moved
      cases int : d.tc6.intFlag with
      | true => exact moved ▸ by simpa [int] using Driver.Moves.intSet pc int
      | false => exact moved ▸ by simpa [int] using Driver.Moves.intClear pc int
  | evalWaiting =>
      simp only [Driver.spiNext, pc, Option.some.injEq] at moved
      cases held : d.tc6.tx.waitingTxSkb with
      | some skb => exact moved ▸ by simpa [held] using Driver.Moves.waitingSome pc skb held
      | none => exact moved ▸ by simpa [held] using Driver.Moves.waitingNone pc held
  | evalCredits =>
      simp only [Driver.spiNext, pc, Option.some.injEq] at moved
      by_cases credits : d.tc6.rx.txCredits = 0
      · exact moved ▸ by simpa [credits] using Driver.Moves.creditsNone pc credits
      · exact moved ▸ by simpa [credits] using Driver.Moves.creditsSome pc credits
  | sleep =>
      simp only [Driver.spiNext, pc, Option.ite_none_right_eq_some, Option.some.injEq] at moved
      exact moved.2 ▸ .wakeUp pc moved.1
  | loopTop =>
      simp only [Driver.spiNext, pc, Option.some.injEq] at moved
      cases ongoing : d.tc6.tx.ongoingTxSkb with
      | some skb =>
          exact moved ▸ by simpa [ongoing] using Driver.Moves.loopBusy pc (by simp [ongoing])
      | none =>
          cases waiting : d.tc6.tx.waitingTxSkb with
          | some skb =>
              exact moved ▸ by
                simpa [ongoing, waiting] using Driver.Moves.loopBusy pc (by simp [waiting])
          | none =>
              exact moved ▸ by
                simpa [ongoing, waiting] using Driver.Moves.loopIdle pc ongoing waiting
  | fillTx used =>
      simp only [Driver.spiNext, pc, Option.some.injEq] at moved
      exact moved ▸ moves_fill d used pc
  | fillRx len =>
      simp only [Driver.spiNext, pc, Option.some.injEq] at moved
      exact moved ▸ .fillRx len pc
  | testInt len =>
      simp only [Driver.spiNext, pc] at moved
      cases int : d.tc6.intFlag with
      | true =>
          simp only [int, if_true, Option.some.injEq] at moved
          exact moved ▸ .testSet len pc int
      | false =>
          simp only [int, Bool.false_eq_true, if_false] at moved
          by_cases empty : len = 0
          · subst len
            simp only [if_true, Option.some.injEq] at moved
            exact moved ▸ .testDone pc int
          · simp only [empty, if_false, Option.some.injEq] at moved
            exact moved ▸ .testClear len pc int empty
  | clearInt len =>
      simp only [Driver.spiNext, pc] at moved
      by_cases empty : len = 0
      · subst len
        simp only [if_true, Option.some.injEq] at moved
        exact moved ▸ .clearEmpty pc
      · simp only [empty, if_false, Option.some.injEq] at moved
        exact moved ▸ .clear len pc empty
  | wakeTest =>
      simp only [Driver.spiNext, pc, Option.some.injEq] at moved
      cases held : d.tc6.tx.waitingTxSkb with
      | some skb => exact moved ▸ by simpa [held] using Driver.Moves.wakeTestSome pc skb held
      | none => exact moved ▸ by simpa [held] using Driver.Moves.wakeTestNone pc held
  | wakeStopped =>
      simp only [Driver.spiNext, pc, Option.some.injEq] at moved
      cases stopped : d.tc6.queueStopped with
      | true => exact moved ▸ by simpa [stopped] using Driver.Moves.wakeStopped pc stopped
      | false => exact moved ▸ by simpa [stopped] using Driver.Moves.wakeRunning pc stopped
  | wakeQueue =>
      simp only [Driver.spiNext, pc, Option.some.injEq] at moved
      exact moved ▸ .wakeQueue pc
  | transfer len => simp [Driver.spiNext, pc] at moved
  | process len => simp [Driver.spiNext, pc] at moved
  | ended ret => simp [Driver.spiNext, pc] at moved

theorem moves_process (d after : Driver) (io : Nat → ChunkIo)
    (moved : d.processNext io = some after) : d.Moves (.process io) after := by
  cases pc : d.spi with
  | process len =>
      simp only [Driver.processNext, pc] at moved
      obtain ⟨ret, rx, out⟩ : ∃ ret rx, processSpiDataRxBuf d.tc6.rx len io = (ret, rx) :=
        ⟨_, _, rfl⟩
      simp only [out] at moved
      by_cases fine : ret = 0
      · subst ret
        simp only [if_true, Option.some.injEq] at moved
        exact moved ▸ .processFine len pc io rx out
      · by_cases again : ret = -eagain
        · subst ret
          simp only [fine, if_false, if_true, Option.some.injEq] at moved
          exact moved ▸ .processAgain len pc io rx out
        · simp only [fine, again, if_false, Option.some.injEq] at moved
          exact moved ▸ .processFails len pc io rx ret ⟨fine, again⟩ out
  | _ => simp [Driver.processNext, pc] at moved

theorem moves_exchange (d after : Driver) (received : List RxChunk)
    (moved : d.exchangeNext received = some after) : d.Moves (.exchange received) after := by
  cases pc : d.spi with
  | transfer len =>
      simp only [Driver.exchangeNext, pc, Option.ite_none_right_eq_some, Option.some.injEq] at moved
      exact moved.2 ▸ .exchange len pc received moved.1
  | _ => simp [Driver.exchangeNext, pc] at moved

theorem moves_xmit (d after : Driver) (linearized : Bool)
    (moved : d.xmitNext linearized = some after) : d.Moves (.xmit linearized) after := by
  cases pc : d.xmit with
  | idle => simp [Driver.xmitNext, pc] at moved
  | test skb tsCaptureMode =>
      simp only [Driver.xmitNext, pc, Option.some.injEq] at moved
      cases held : d.tc6.tx.waitingTxSkb with
      | some other =>
          exact moved ▸ by
            simpa [held] using Driver.Moves.testBusy skb tsCaptureMode linearized pc other held
      | none =>
          exact moved ▸ by
            simpa [held] using Driver.Moves.testFree skb tsCaptureMode linearized pc held
  | stop =>
      simp only [Driver.xmitNext, pc, Option.some.injEq] at moved
      exact moved ▸ .stop linearized pc
  | linearize skb tsCaptureMode =>
      simp only [Driver.xmitNext, pc] at moved
      cases linearized with
      | true =>
          simp only [if_true, Option.some.injEq] at moved
          exact moved ▸ .linearized skb tsCaptureMode pc
      | false =>
          simp only [Bool.false_eq_true, if_false, Option.some.injEq] at moved
          exact moved ▸ .linearizeFails skb tsCaptureMode pc
  | store skb tsCaptureMode =>
      simp only [Driver.xmitNext, pc, Option.some.injEq] at moved
      exact moved ▸ .store skb tsCaptureMode linearized pc
  | wake =>
      simp only [Driver.xmitNext, pc, Option.some.injEq] at moved
      exact moved ▸ .wake linearized pc

/-- Every step is one of the rules. -/
theorem driver_moves (d after : Driver) (act : DriverAct) (moved : d.next act = some after) :
    d.Moves act after := by
  cases act with
  | spi => exact moves_spi d after moved
  | exchange received => exact moves_exchange d after received moved
  | exchangeFails ret =>
      cases pc : d.spi with
      | transfer len =>
          simp only [Driver.next, pc, Option.ite_none_right_eq_some, Option.some.injEq] at moved
          exact moved.2 ▸ .exchangeFails len pc ret moved.1
      | _ => simp [Driver.next, pc] at moved
  | process io => exact moves_process d after io moved
  | offer skb tsCaptureMode =>
      cases pc : d.xmit with
      | idle =>
          simp only [Driver.next, pc, Option.some.injEq] at moved
          exact moved ▸ .offer skb tsCaptureMode pc
      | _ => simp [Driver.next, pc] at moved
  | xmit linearized => exact moves_xmit d after linearized moved
  | interrupt =>
      cases pc : d.isrWaking with
      | true => simp [Driver.next, pc] at moved
      | false =>
          simp only [Driver.next, pc, Bool.false_eq_true, if_false, Option.some.injEq] at moved
          exact moved ▸ .interrupt pc
  | interruptWake =>
      cases pc : d.isrWaking with
      | false => simp [Driver.next, pc] at moved
      | true =>
          simp only [Driver.next, pc, if_true, Option.some.injEq] at moved
          exact moved ▸ .interruptWake pc

section Samples

def sampleStart (bufferStatus : BitVec 32) : Driver :=
  initDriver bufferStatus 1500 0 (fun _ => 0) fun _ => ⟨0, fun _ => 0⟩

theorem sample_start (bufferStatus : BitVec 32) (bound : Nat)
    (credits : number bufferStatusTxCreditsAvailable bufferStatus ≤ bound)
    (available : number bufferStatusRxChunksAvailable bufferStatus ≤ bound) :
    (driverMachine bound).start (sampleStart bufferStatus) :=
  ⟨bufferStatus, 1500, 0, _, _, credits, available, rfl⟩

def sampleSkb (id len : Nat) (nonempty : 0 < len) (bounded : len ≤ 65535) : Skb :=
  ⟨id, List.replicate len 7, by simpa, by simpa⟩

/-- A received chunk without data. -/
def answer (footer : BitVec 32) : RxChunk := ⟨List.replicate 64 0, footer, rfl⟩

/-- STATUS0 shows a receive buffer overflow. -/
def overflowIo : ChunkIo := { (default : ChunkIo) with readStatus0 := .ok 8#32 }

end Samples

end Lan865x.OaTc6
