import Lan865x.TransmitQueue

/-!
The interface going up and down over the driver. `lan865x_net_close` stops the queue, and
`lan865x_net_open` does not start it: it stays stopped until the SPI thread passes its wake
test. The stack offers nothing while the interface is down or the queue stopped.
-/

namespace Lan865x.OaTc6
open Transition

/-- `closedAtRest` is history: when the interface was last closed the SPI thread had nothing
ahead of it, and no interrupt has come since. -/
structure NetDevice where
  driver : Driver
  up : Bool
  closedAtRest : Bool

inductive NetAct where
  | driver (act : DriverAct)
  | netOpen (hwEnable : Int)
  | netClose (hwDisable : Int)

def DriverAct.byStack : DriverAct → Bool
  | .offer _ _ => true
  | _ => false

def DriverAct.byIsr : DriverAct → Bool
  | .interrupt => true
  | _ => false

def NetDevice.driverNext (n : NetDevice) (act : DriverAct) : Option NetDevice :=
  if act.byStack && (!n.up || n.driver.tc6.queueStopped) then none
  else (n.driver.next act).map fun after =>
    { n with driver := after, closedAtRest := n.closedAtRest && !act.byIsr }

/-- The interface is up only if the hardware could be enabled. -/
def lan865xNetOpen (n : NetDevice) (hwEnable : Int) : Option NetDevice :=
  if n.up then none else some { n with up := hwEnable = 0 }

/-- The stack waits for the last `ndo_start_xmit` first, and takes the interface down
whatever `lan865x_hw_disable` returns. -/
def lan865xNetClose (n : NetDevice) (_hwDisable : Int) : Option NetDevice :=
  match n.up, n.driver.xmit with
  | true, .idle => some {
      driver := { n.driver with tc6 := { n.driver.tc6 with queueStopped := true } }
      up := false
      closedAtRest := !decide (Attended n.driver) }
  | _, _ => none

def NetDevice.next (n : NetDevice) : NetAct → Option NetDevice
  | .driver act => n.driverNext act
  | .netOpen hwEnable => lan865xNetOpen n hwEnable
  | .netClose hwDisable => lan865xNetClose n hwDisable

def netMachine : Machine NetDevice NetAct where
  start n := (driverMachine 255).start n.driver ∧ n.up = false ∧ n.closedAtRest = false
  next := NetDevice.next

/-- The driver itself stops the queue, and gives up for a retry, only where that is noticed. -/
def Careful (n : NetDevice) : NetAct → Prop
  | .driver act => Watchful n.driver act
  | _ => True

instance (n : NetDevice) : (act : NetAct) → Decidable (Careful n act)
  | .driver act => inferInstanceAs (Decidable (Watchful n.driver act))
  | .netOpen _ | .netClose _ => isTrue trivial

/-- The queue is stopped, and neither a frame nor an interrupt nor a transfer will bring the
SPI thread to its wake test. -/
structure Stranded (d : Driver) : Prop where
  stopped : d.tc6.queueStopped = true
  unattended : ¬ Attended d
  xmitIdle : d.xmit = .idle

theorem unattended_idle {d : Driver} (unattended : ¬ Attended d) :
    d.tc6.tx.waitingTxSkb = none ∧ d.tc6.tx.ongoingTxSkb = none ∧ d.tc6.intFlag = false ∧
      ¬ d.spi.wakeAhead d.tc6.rx.rxChunksAvailable := by
  simpa only [Attended, Busy, not_or, Bool.not_eq_true, Option.isSome_eq_false_iff,
    Option.isNone_iff_eq_none, and_assoc] using unattended

/-- What holds of the driver whether the interface is up or not. -/
structure Sound (d : Driver) : Prop where
  sized : Sized 255 d
  looking : d.spi = .evalCredits → d.tc6.tx.waitingTxSkb ≠ none

theorem looking_moves (d after : Driver) (act : DriverAct)
    (looking : d.spi = .evalCredits → d.tc6.tx.waitingTxSkb ≠ none) (moved : d.Moves act after) :
    after.spi = .evalCredits → after.tc6.tx.waitingTxSkb ≠ none := by
  cases moved with
  | waitingSome pc skb held => simp [held]
  | store => simp
  | offer | testBusy | testFree | stop | linearized | linearizeFails | wake | interrupt
  | interruptWake => exact looking
  | _ => simp [Driver.setTx]

theorem sound_driver (d after : Driver) (act : DriverAct) (sound : Sound d)
    (moved : d.Moves act after) : Sound after :=
  ⟨sized_moves 255 (by decide) (by decide) d after act sound.sized moved,
    looking_moves d after act sound.looking moved⟩

/-- The steps of the device. -/
theorem net_next_cases {n after : NetDevice} {act : NetAct} (moved : n.next act = some after) :
    (∃ own, act = .driver own ∧ n.driver.Moves own after.driver ∧
        (own.byStack = true → n.driver.tc6.queueStopped = false) ∧
        after.closedAtRest = (n.closedAtRest && !own.byIsr)) ∨
      (∃ hwEnable, act = .netOpen hwEnable ∧ after = { n with up := hwEnable = 0 }) ∨
      ∃ hwDisable, act = .netClose hwDisable ∧ n.driver.xmit = .idle ∧
        after.driver = { n.driver with tc6 := { n.driver.tc6 with queueStopped := true } } ∧
        after.closedAtRest = !decide (Attended n.driver) := by
  cases act with
  | driver own =>
      simp only [NetDevice.next, NetDevice.driverNext, Option.ite_none_left_eq_some,
        Option.map_eq_some_iff] at moved
      obtain ⟨offered, driver, stepped, rfl⟩ := moved
      exact .inl ⟨own, rfl, driver_moves _ _ own stepped, by grind, rfl⟩
  | netOpen hwEnable =>
      simp only [NetDevice.next, lan865xNetOpen, Option.ite_none_left_eq_some,
        Option.some.injEq] at moved
      exact .inr (.inl ⟨hwEnable, rfl, moved.2.symm⟩)
  | netClose hwDisable =>
      simp only [NetDevice.next, lan865xNetClose] at moved
      split at moved
      · simp only [Option.some.injEq] at moved
        subst moved
        exact .inr (.inr ⟨hwDisable, rfl, ‹_›, rfl, rfl⟩)
      · simp at moved

/-- The interface going down stops the queue, and leaves the rest. -/
theorem sound_closed (d : Driver) (sound : Sound d) :
    Sound { d with tc6 := { d.tc6 with queueStopped := true } } :=
  ⟨sized_other 255 d _ sound.sized rfl rfl rfl rfl, sound.looking⟩

theorem sound_start (d : Driver) (starts : (driverMachine 255).start d) : Sound d := by
  refine ⟨sized_init 255 d starts, ?_⟩
  obtain ⟨bufferStatus, mtu, rxFilter, rxBuffer, txBuffer, _, _, rfl⟩ := starts
  simp [initDriver]

theorem sound_next {n after : NetDevice} {act : NetAct} (sound : Sound n.driver)
    (moved : n.next act = some after) : Sound after.driver := by
  rcases net_next_cases moved with ⟨own, _, moves, _⟩ | ⟨hwEnable, _, rfl⟩ |
    ⟨hwDisable, _, _, closed, _⟩
  · exact sound_driver _ _ own sound moves
  · exact sound
  · exact closed ▸ sound_closed n.driver sound

theorem sound_net {ok : NetDevice → NetAct → Prop} {n : NetDevice}
    (reached : Reaches netMachine ok n) : Sound n.driver :=
  reached.invariant (fun n => Sound n.driver)
    (fun n (starts : netMachine.start n) => sound_start n.driver starts.1)
    fun _ _ _ sound _ moved => sound_next sound moved

/-! A stranded queue. -/

/-- The thread may still go back to sleep; nothing else happens. -/
theorem stranded_spi (d after : Driver) (sound : Sound d) (stranded : Stranded d)
    (moved : d.Moves .spi after) : Stranded after := by
  obtain ⟨noWaiting, noOngoing, noInt, notAhead⟩ := unattended_idle stranded.unattended
  have settles : ∀ rest : Driver, rest.tc6.queueStopped = d.tc6.queueStopped →
      rest.xmit = d.xmit → rest.tc6.tx.waitingTxSkb = none → rest.tc6.tx.ongoingTxSkb = none →
      rest.tc6.intFlag = false → ¬ rest.spi.wakeAhead rest.tc6.rx.rxChunksAvailable →
      Stranded rest := by
    intro rest stopped xmit waiting ongoing int ahead
    refine ⟨stopped.trans stranded.stopped, ?_, xmit.trans stranded.xmitIdle⟩
    simp [Attended, Busy, waiting, ongoing, int, ahead]
  cases moved with
  | prepare pc | intClear pc int | waitingNone pc empty | wakeUp pc woken | testDone pc int =>
      exact settles _ rfl rfl noWaiting noOngoing noInt (by simp [SpiPc.wakeAhead])
  | creditsNone pc credits => exact absurd noWaiting (sound.looking pc)
  | creditsSome pc credits => exact absurd noWaiting (sound.looking pc)
  | intSet pc int => simp [noInt] at int
  | waitingSome pc skb held => simp [noWaiting] at held
  | loopBusy pc busy => simp [noWaiting, noOngoing] at busy
  | loopIdle pc _ _ =>
      refine settles _ rfl rfl noWaiting noOngoing noInt ?_
      simpa [pc, SpiPc.wakeAhead, Driver.setTx] using notAhead
  | fillMore used pc credit skb held =>
      simp [dequeue_idle d.tc6.tx noOngoing, noWaiting] at held
  | fillEmpty used pc credit empty =>
      simp only [pc, SpiPc.wakeAhead, not_or, Nat.not_lt, Nat.le_zero] at notAhead
      obtain ⟨rfl, none_⟩ := notAhead
      refine settles _ rfl rfl ?_ empty noInt ?_
      · simp [Driver.setTx, dequeue_idle d.tc6.tx noOngoing]
      · simp [Driver.setTx, SpiPc.wakeAhead, none_, toU16]
  | fillFull used pc credit =>
      simp only [pc, SpiPc.wakeAhead, not_or, Nat.not_lt, Nat.le_zero] at notAhead
      obtain ⟨rfl, none_⟩ := notAhead
      exact settles _ rfl rfl noWaiting noOngoing noInt (by simp [SpiPc.wakeAhead, none_, toU16])
  | fillRx len pc =>
      simp only [pc, SpiPc.wakeAhead, not_or, Nat.not_lt, Nat.le_zero] at notAhead
      obtain ⟨rfl, none_⟩ := notAhead
      obtain ⟨count, _, zero, offset⟩ := sound.sized.filled 0 (by rw [pc]; rfl)
      obtain rfl : count = 0 := by simpa [chunk_size] using zero.symm
      obtain ⟨length, idle, padded⟩ :=
        prepare_for_rx_chunks d.tc6.tx d.tc6.rx.rxChunksAvailable 0 offset (by omega)
      rw [Nat.zero_mul, none_] at length padded
      rw [none_]
      refine settles _ rfl rfl (padded.kept.waiting.trans noWaiting)
        (padded.kept.ongoing.trans noOngoing) noInt ?_
      simp [Driver.setTx, length, SpiPc.wakeAhead]
  | testSet len pc int => simp [noInt] at int
  | testClear len pc int some_ =>
      exact absurd (Nat.pos_of_ne_zero some_) (by simpa [pc, SpiPc.wakeAhead] using notAhead)
  | clearEmpty pc | clear _ pc | wakeTestSome pc | wakeTestNone pc | wakeStopped pc
  | wakeRunning pc | wakeQueue pc => simp [pc, SpiPc.wakeAhead] at notAhead

/-- Only an interrupt, or a frame that the stack does not offer, ends it. -/
theorem stranded_moves (d after : Driver) (act : DriverAct) (sound : Sound d)
    (stranded : Stranded d) (quiet : act.byIsr = false) (unoffered : act.byStack = false)
    (moved : d.Moves act after) :
    Stranded after ∧ after.accepted = d.accepted ∧ after.wire = d.wire := by
  obtain ⟨_, _, _, notAhead⟩ := unattended_idle stranded.unattended
  have idle := stranded.xmitIdle
  cases act with
  | spi =>
      refine ⟨stranded_spi d after sound stranded moved, ?_⟩
      cases moved <;> exact ⟨rfl, rfl⟩
  | exchange received =>
      cases moved with | exchange len pc => simp [pc, SpiPc.wakeAhead] at notAhead
  | exchangeFails ret =>
      cases moved with | exchangeFails len pc => simp [pc, SpiPc.wakeAhead] at notAhead
  | process io => cases moved <;> simp_all [SpiPc.wakeAhead]
  | offer skb tsCaptureMode => simp [DriverAct.byStack] at unoffered
  | xmit linearized => cases moved <;> simp_all
  | interrupt => simp [DriverAct.byIsr] at quiet
  | interruptWake =>
      cases moved with
      | interruptWake pc => exact ⟨⟨stranded.stopped, stranded.unattended, idle⟩, rfl, rfl⟩

theorem stranded_next {n after : NetDevice} {act : NetAct} (sound : Sound n.driver)
    (stranded : Stranded n.driver) (quiet : act ≠ .driver .interrupt)
    (moved : n.next act = some after) :
    Stranded after.driver ∧ after.driver.accepted = n.driver.accepted ∧
      after.driver.wire = n.driver.wire := by
  rcases net_next_cases moved with ⟨own, rfl, moves, offered, _⟩ | ⟨hwEnable, _, rfl⟩ |
    ⟨hwDisable, _, idle, closed, _⟩
  · refine stranded_moves _ _ own sound stranded ?_ ?_ moves
    · cases own <;> first | rfl | simp at quiet
    · -- The stack offers nothing to a stopped queue.
      cases byStack : own.byStack with
      | false => rfl
      | true => simpa [stranded.stopped] using offered byStack
  · exact ⟨stranded, rfl, rfl⟩
  · exact closed ▸ ⟨⟨rfl, stranded.unattended, idle⟩, rfl, rfl⟩

theorem stranded_run {n last : NetDevice} {acts : List NetAct} (sound : Sound n.driver)
    (stranded : Stranded n.driver) (quiet : ∀ act ∈ acts, act ≠ .driver .interrupt)
    (ran : netMachine.run n acts = some last) :
    Stranded last.driver ∧ last.driver.accepted = n.driver.accepted ∧
      last.driver.wire = n.driver.wire := by
  induction acts generalizing n with
  | nil =>
      simp only [Machine.run, Option.some.injEq] at ran
      exact ran ▸ ⟨stranded, rfl, rfl⟩
  | cons act rest ih =>
      obtain ⟨after, moved, tail⟩ := Option.bind_eq_some_iff.mp ran
      rw [List.forall_mem_cons] at quiet
      obtain ⟨still, accepted, wire⟩ := stranded_next sound stranded quiet.1 moved
      obtain ⟨ends, acceptedLater, wireLater⟩ := ih (sound_next sound moved) still quiet.2 tail
      exact ⟨ends, acceptedLater.trans accepted, wireLater.trans wire⟩

/-- Closed while the SPI thread has nothing ahead of it, the interface sends nothing more
until an interrupt, though it be opened again: its queue stays stopped. -/
theorem closed_queue_silent {n closed last : NetDevice} (hwDisable : Int) (acts : List NetAct)
    (reached : Reaches netMachine anyStep n) (atRest : ¬ Attended n.driver)
    (closes : n.next (.netClose hwDisable) = some closed)
    (quiet : ∀ act ∈ acts, act ≠ .driver .interrupt)
    (ran : netMachine.run closed acts = some last) :
    last.driver.tc6.queueStopped = true ∧ last.driver.accepted = n.driver.accepted ∧
      last.driver.wire = n.driver.wire := by
  have sound := sound_net reached
  rcases net_next_cases closes with ⟨_, made, _⟩ | ⟨_, made, _⟩ | ⟨_, _, idle, driver, _⟩
  · simp at made
  · simp at made
  · have stranded : Stranded closed.driver := driver ▸ ⟨rfl, atRest, idle⟩
    obtain ⟨still, accepted, wire⟩ :=
      stranded_run (sound_next sound closes) stranded quiet ran
    exact ⟨still.stopped, accepted.trans (by rw [driver]), wire.trans (by rw [driver])⟩

/-! When the queue is stranded. -/

/-- A queue that is not closed at rest is noticed; one that is has nothing ahead. -/
structure Interface (n : NetDevice) : Prop where
  sound : Sound n.driver
  rest : n.closedAtRest = true → Stranded n.driver
  noticed : n.closedAtRest = false → Noticed n.driver

theorem interface_start (n : NetDevice) (starts : netMachine.start n) : Interface n := by
  obtain ⟨driver, _, open_⟩ := starts
  refine ⟨sound_start n.driver driver, by simp [open_], fun _ stop => ?_⟩
  obtain ⟨bufferStatus, mtu, rxFilter, rxBuffer, txBuffer, _, _, made⟩ := driver
  simp [made, initDriver] at stop

theorem interrupt_noticed (d after : Driver) (moved : d.Moves .interrupt after) :
    Noticed after := by
  cases moved with
  | interrupt => exact fun _ => .inl (.inr (.inr rfl))

theorem interface_next {n after : NetDevice} {act : NetAct} (holds : Interface n)
    (careful : Careful n act) (moved : n.next act = some after) : Interface after := by
  refine ⟨sound_next holds.sound moved, fun rest => ?_, fun open_ => ?_⟩
  · rcases net_next_cases moved with ⟨own, rfl, _, _, history⟩ | ⟨hwEnable, _, rfl⟩ |
      ⟨hwDisable, _, idle, closed, history⟩
    · rw [history, Bool.and_eq_true, Bool.not_eq_true'] at rest
      refine (stranded_next holds.sound (holds.rest rest.1) ?_ moved).1
      rintro made
      cases made
      simp [DriverAct.byIsr] at rest
    · exact holds.rest rest
    · have atRest : ¬ Attended n.driver := by simpa [history] using rest
      exact closed ▸ ⟨rfl, atRest, idle⟩
  · rcases net_next_cases moved with ⟨own, rfl, moves, _, history⟩ | ⟨hwEnable, _, rfl⟩ |
      ⟨hwDisable, _, idle, closed, history⟩
    · cases before : n.closedAtRest with
      | false =>
          exact noticed_moves _ _ holds.sound.sized (holds.noticed before) own careful moves
      | true =>
          have byIsr : own.byIsr = true := by simpa [history, before] using open_
          cases own with
          | interrupt => exact interrupt_noticed _ _ moves
          | _ => simp [DriverAct.byIsr] at byIsr
    · exact holds.noticed open_
    · have attended : Attended n.driver := by simpa [history] using open_
      exact closed ▸ fun _ => attended

/-- The queue is stopped with nothing ahead of the SPI thread exactly from the moment that
the interface is closed so until the next interrupt. -/
theorem queue_stranded_iff {n : NetDevice} (reached : Reaches netMachine Careful n) :
    (n.driver.tc6.queueStopped = true ∧ ¬ Attended n.driver) ↔ n.closedAtRest = true := by
  have holds := reached.invariant Interface interface_start
    fun _ _ _ holds careful moved => interface_next holds careful moved
  constructor
  · rintro ⟨stopped, unattended⟩
    cases rest : n.closedAtRest with
    | true => rfl
    | false => exact absurd (holds.noticed rest stopped) unattended
  · intro rest
    exact ⟨(holds.rest rest).stopped, (holds.rest rest).unattended⟩

section Samples

def frameSentAsleep : List DriverAct :=
  .offer (sampleSkb 1 50 (by decide) (by decide)) 0 :: List.replicate 4 (.xmit true) ++
    List.replicate 9 .spi ++ [.exchange [answer 0x20000004#32], .process fun _ => default] ++
    List.replicate 8 .spi

/-- The interface is opened and sends a frame; the SPI thread goes to sleep. -/
def openedAndSent : NetDevice :=
  netMachine.after ⟨sampleStart 0x200#32, false, false⟩
    (.netOpen 0 :: frameSentAsleep.map .driver)

theorem opened_and_sent_reached {ok : NetDevice → NetAct → Prop}
    (allowed : netMachine.Allowed ok ⟨sampleStart 0x200#32, false, false⟩
      (.netOpen 0 :: frameSentAsleep.map .driver)) : Reaches netMachine ok openedAndSent :=
  reaches_after (show netMachine.start _ from
    ⟨sample_start _ _ (by decide) (by decide), rfl, rfl⟩) _ allowed

example : openedAndSent.driver.spi = .sleep ∧ openedAndSent.driver.tc6.queueStopped = false := by
  decide +kernel

/-- It is closed, and opened again. -/
def closedAsleep : NetDevice :=
  (openedAndSent.next (.netClose 0)).get (by decide +kernel)

theorem closed_asleep : netMachine.next openedAndSent (.netClose 0) = some closedAsleep :=
  (Option.some_get (x := openedAndSent.next (.netClose 0)) _).symm

def reopened : NetDevice := netMachine.after closedAsleep [.netOpen 0]

theorem closed_queue_silent_sample :
    reopened.driver.tc6.queueStopped = true ∧
      reopened.driver.accepted = openedAndSent.driver.accepted ∧
      reopened.driver.wire = openedAndSent.driver.wire :=
  closed_queue_silent 0 [.netOpen 0] (opened_and_sent_reached (allowed_any _ _ _))
    (by decide +kernel) closed_asleep (by simp) (run_after (by decide +kernel))

theorem queue_stranded_iff_sample :
    (reopened.driver.tc6.queueStopped = true ∧ ¬ Attended reopened.driver) ↔
      reopened.closedAtRest = true :=
  queue_stranded_iff ((Reaches.step _ (opened_and_sent_reached (by decide +kernel)) trivial
    closed_asleep).run [.netOpen 0] (by decide +kernel) (run_after (by decide +kernel)))

example : reopened.closedAtRest = true := by decide +kernel

end Samples

end Lan865x.OaTc6
