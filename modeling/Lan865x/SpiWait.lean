import Lan865x.Timeline
import Lan865x.TransferLength

/-!
When the SPI thread sleeps. The steps of the driver are recorded as far as the
wait is concerned: the thread passes it, starts a transfer or returns from
`oa_tc6_try_spi_transfer`, and the interrupt handler sets `int_flag` and then
calls `wake_up_interruptible`.
-/

namespace Lan865x.OaTc6
open BitField Transition Timeline

inductive WaitEvent where
  | passes
  | starts
  | returns
  | works
  | interrupt
  | wakes
  deriving DecidableEq

/-- `works` is any other step of the thread. -/
def waitEvent : DriverAct → SpiPc → SpiPc → Option WaitEvent
  | .spi, .evalInt, .loopTop => some .passes
  | .spi, .evalCredits, .loopTop => some .passes
  | .spi, .testInt _, .prepare => some .returns
  | .spi, _, .transfer _ => some .starts
  | .spi, _, _ => some .works
  | .interrupt, _, _ => some .interrupt
  | .interruptWake, _, _ => some .wakes
  | _, _, _ => none

structure Watched where
  driver : Driver
  log : List WaitEvent

def watchMachine : Machine Watched DriverAct where
  start w := (driverMachine 255).start w.driver ∧ w.log = []
  next w act := (w.driver.next act).map fun driver =>
    ⟨driver, w.log ++ (waitEvent act w.driver.spi driver.spi).toList⟩

/-- The thread has gone to sleep in `wait_event_interruptible`, and nothing has
woken it. -/
def Driver.Blocked (d : Driver) : Prop := d.spi = .sleep ∧ d.woken = false

/-- Nothing is left to do. -/
def Driver.NothingToDo (d : Driver) : Prop :=
  d.tc6.rx.rxChunksAvailable = 0 ∧ d.tc6.intFlag = false ∧
    (d.tc6.rx.txCredits = 0 ∨ d.tc6.tx.ongoingTxSkb = none ∧ d.tc6.tx.waitingTxSkb = none)

/-- Nothing is left to do, but for what a `wake_up_interruptible` already under
way will show to the thread. -/
def Driver.NothingUnannounced (d : Driver) : Prop :=
  d.tc6.rx.rxChunksAvailable = 0 ∧ (d.tc6.intFlag = true → d.isrWaking = true) ∧
    (d.tc6.rx.txCredits = 0 ∨
      d.tc6.tx.ongoingTxSkb = none ∧ (d.tc6.tx.waitingTxSkb ≠ none → d.xmit = .wake))

structure Watched.SleepsWell (w : Watched) : Prop where
  idle : .returns ∈ w.log → w.driver.Blocked → w.driver.NothingUnannounced
  served : w.driver.Blocked →
    SinceEach .interrupt (fun later => .wakes ∈ later → .starts ∈ later) w.log
  works : SinceEach .passes (fun later => .starts ∈ later ∨
    .returns ∉ later ∧ w.driver.spiNext.isSome = true ∧
      later.count .works ≤ w.driver.tc6.rx.txCredits + 4) w.log

/-- In the wait, after `int_flag` has been read as clear. -/
def SpiPc.looked : SpiPc → Bool
  | .evalWaiting | .evalCredits | .sleep => true
  | _ => false

def SpiPc.waits : SpiPc → Bool
  | .prepare | .evalInt | .evalWaiting | .evalCredits | .sleep => true
  | _ => false

/-- What the thread has overlooked is announced to it by a wake-up. -/
structure Announced (w : Watched) : Prop where
  raised : SinceEach .interrupt (fun later => .starts ∈ later ∨ w.driver.tc6.intFlag = true) w.log
  flag : w.driver.spi.looked = true → w.driver.tc6.intFlag = true →
    w.driver.woken = true ∨ w.driver.isrWaking = true
  handled : w.driver.spi.looked = true → SinceEach .interrupt (fun later => .wakes ∈ later →
    .starts ∈ later ∨ w.driver.woken = true) w.log
  stored : w.driver.spi = .sleep → w.driver.tc6.rx.txCredits ≠ 0 →
    w.driver.tc6.tx.waitingTxSkb ≠ none → w.driver.woken = true ∨ w.driver.xmit = .wake

/-- A run that returned 0 has left nothing behind. -/
structure Emptied (w : Watched) : Prop where
  nothing : ∀ len, w.driver.spi = .fillRx len ∨ w.driver.spi = .testInt len → len = 0 →
    w.driver.tc6.rx.txCredits = 0 ∨ w.driver.tc6.tx.ongoingTxSkb = none
  returned : .returns ∈ w.log → w.driver.spi.waits = true →
    w.driver.tc6.rx.rxChunksAvailable = 0 ∧
      (w.driver.tc6.rx.txCredits = 0 ∨ w.driver.tc6.tx.ongoingTxSkb = none)

/-- How many steps the thread needs at most until it starts a transfer. -/
def SpiPc.left (credits : Nat) : SpiPc → Option Nat
  | .loopTop => some (credits + 5)
  | .fillTx used => some (credits - used + 4)
  | .fillRx _ => some 3
  | .testInt _ => some 2
  | .clearInt _ => some 1
  | _ => none

/-- Why the transfer under preparation will not be empty. -/
def Driver.HasWork (d : Driver) : Prop :=
  d.tc6.intFlag = true ∨ match d.spi with
    | .loopTop => d.tc6.tx.waitingTxSkb ≠ none ∧ d.tc6.rx.txCredits ≠ 0
    | .fillTx used => 0 < used ∨ d.tc6.rx.txCredits ≠ 0 ∧
        (d.tc6.tx.ongoingTxSkb ≠ none ∨ d.tc6.tx.waitingTxSkb ≠ none)
    | .fillRx len | .testInt len => len ≠ 0
    | _ => False

/-- The thread is on its way to a transfer. -/
structure Due (d : Driver) (later : List WaitEvent) : Prop where
  work : d.HasWork
  near : ∃ left, d.spi.left d.tc6.rx.txCredits = some left ∧
    later.count .works + left ≤ d.tc6.rx.txCredits + 5
  running : .returns ∉ later

/-- Each time the thread passes the wait, a transfer follows. -/
structure Passing (w : Watched) : Prop where
  seen : w.driver.spi = .evalCredits → w.driver.tc6.tx.waitingTxSkb ≠ none
  due : SinceEach .passes (fun later => .starts ∈ later ∨ Due w.driver later) w.log

theorem raised_step {log : List WaitEvent} {before after : Bool} (event : Option WaitEvent)
    (known : SinceEach .interrupt (fun later => .starts ∈ later ∨ before = true) log)
    (raises : event = some .interrupt → after = true)
    (kept : before = true → after = true ∨ event = some .starts) :
    SinceEach .interrupt (fun later => .starts ∈ later ∨ after = true)
      (log ++ event.toList) := by
  cases event with
  | none =>
      rw [Option.toList_none, List.append_nil]
      refine since_each_mono known ?_
      rintro later (started | flagged)
      · exact .inl started
      · exact .inr ((kept flagged).resolve_right (by simp))
  | some event =>
      refine since_each_snoc known ?_ ?_
      · rintro rfl
        exact .inr (raises rfl)
      · rintro later (started | flagged)
        · exact .inl (List.mem_append_left _ started)
        · rcases kept flagged with still | starts
          · exact .inr still
          · exact .inl (by simp [Option.some.inj starts])

theorem handled_step {log : List WaitEvent} {before after : Bool} (event : Option WaitEvent)
    (known : SinceEach .interrupt
      (fun later => .wakes ∈ later → .starts ∈ later ∨ before = true) log)
    (wakes : event = some .wakes → after = true) (kept : before = true → after = true) :
    SinceEach .interrupt (fun later => .wakes ∈ later → .starts ∈ later ∨ after = true)
      (log ++ event.toList) := by
  cases event with
  | none =>
      rw [Option.toList_none, List.append_nil]
      exact since_each_mono known fun later seen handled => (seen handled).imp_right kept
  | some event =>
      refine since_each_snoc known ?_ ?_
      · intro _ handled
        simp at handled
      · intro later seen handled
        rcases List.mem_append.mp handled with earlier | now
        · rcases seen earlier with started | woken
          · exact .inl (List.mem_append_left _ started)
          · exact .inr (kept woken)
        · exact .inr (wakes (congrArg some (List.mem_singleton.mp now).symm))

/-- A step after which the thread is not asleep, nor about to be. -/
theorem announced_busy (w : Watched) (after : Driver) (event : Option WaitEvent)
    (inv : Announced w) (busy : after.spi.looked = false)
    (raises : event = some .interrupt → after.tc6.intFlag = true)
    (kept : w.driver.tc6.intFlag = true → after.tc6.intFlag = true ∨ event = some .starts) :
    Announced ⟨after, w.log ++ event.toList⟩ := by
  constructor
  · exact raised_step event inv.raised raises kept
  · simp [busy]
  · simp [busy]
  · intro asleep
    simp [show after.spi = .sleep from asleep, SpiPc.looked] at busy

/-- The thread goes on looking; `int_flag` and the wake-ups are as they were. -/
theorem announced_looks (w : Watched) (pc : SpiPc) (inv : Announced w)
    (looked : w.driver.spi.looked = true)
    (stored : pc = .sleep → w.driver.tc6.rx.txCredits = 0 ∨ w.driver.tc6.tx.waitingTxSkb = none) :
    Announced ⟨{ w.driver with spi := pc }, w.log ++ [.works]⟩ := by
  constructor
  · exact raised_step (some .works) inv.raised (by simp) .inl
  · intro _
    exact inv.flag looked
  · intro _
    exact handled_step (some .works) (inv.handled looked) (by simp) id
  · intro asleep credits waiting
    rcases stored asleep with none_ | empty
    · exact absurd none_ credits
    · exact absurd empty waiting

/-- A step of `oa_tc6_start_xmit`. -/
theorem announced_xmit (w : Watched) (after : Driver) (inv : Announced w)
    (spi : after.spi = w.driver.spi) (credits : after.tc6.rx = w.driver.tc6.rx)
    (flag : after.tc6.intFlag = w.driver.tc6.intFlag)
    (isr : after.isrWaking = w.driver.isrWaking)
    (woken : w.driver.woken = true → after.woken = true)
    (stored : after.tc6.tx.waitingTxSkb = w.driver.tc6.tx.waitingTxSkb ∧ w.driver.xmit ≠ .wake ∨
      after.woken = true ∨ after.xmit = .wake) :
    Announced ⟨after, w.log ++ (none : Option WaitEvent).toList⟩ := by
  constructor
  · exact raised_step none inv.raised (by simp) (fun set => .inl (flag ▸ set))
  · intro looked set
    rcases inv.flag (spi ▸ looked) (flag ▸ set) with announced | waking
    · exact .inl (woken announced)
    · exact .inr (isr ▸ waking)
  · intro looked
    exact handled_step none (inv.handled (spi ▸ looked)) (by simp) woken
  · intro asleep some_ waiting
    rcases stored with ⟨same, other⟩ | announced
    · have before := inv.stored (spi ▸ asleep) (credits ▸ some_) (same ▸ waiting)
      exact .inl (woken (before.resolve_right other))
    · exact announced

theorem wait_event_spi (before after : SpiPc) :
    waitEvent .spi before after ≠ some .interrupt ∧ waitEvent .spi before after ≠ some .wakes := by
  unfold waitEvent
  split <;> simp_all

theorem announced_spi (w : Watched) (after : Driver) (inv : Announced w)
    (moved : w.driver.Moves .spi after) :
    Announced ⟨after, w.log ++ (waitEvent .spi w.driver.spi after.spi).toList⟩ := by
  have busy := announced_busy w after (waitEvent .spi w.driver.spi after.spi) inv
  have silent : waitEvent .spi w.driver.spi after.spi = some .interrupt →
      after.tc6.intFlag = true :=
    fun raised => absurd raised (wait_event_spi _ _).1
  cases moved with
  | intClear pc int =>
      -- All that has been raised so far has been served.
      constructor
      · simpa [waitEvent, pc] using raised_step (some .works) inv.raised (by simp) .inl
      · simp [int]
      · intro _
        simp only [waitEvent, pc, Option.toList_some]
        refine since_each_snoc inv.raised ?_ ?_
        · simp
        · rintro later (started | flagged) _
          · exact .inl (List.mem_append_left _ started)
          · simp [int] at flagged
      · simp
  | waitingSome pc skb held =>
      simp only [waitEvent, pc]
      exact announced_looks w _ inv (by rw [pc]; rfl) (by simp)
  | waitingNone pc empty =>
      simp only [waitEvent, pc]
      exact announced_looks w _ inv (by rw [pc]; rfl) (fun _ => .inr empty)
  | creditsNone pc credits =>
      simp only [waitEvent, pc]
      exact announced_looks w _ inv (by rw [pc]; rfl) (fun _ => .inl credits)
  -- What clears the flag also starts a transfer.
  | clearEmpty pc => exact busy rfl silent fun _ => .inr (by simp [waitEvent, pc, Driver.setTx])
  | clear len pc some_ => exact busy rfl silent fun _ => .inr (by simp [waitEvent, pc])
  | _ => exact busy rfl silent .inl

theorem announced_moves (w : Watched) (act : DriverAct) (after : Driver) (inv : Announced w)
    (moved : w.driver.Moves act after) :
    Announced ⟨after, w.log ++ (waitEvent act w.driver.spi after.spi).toList⟩ := by
  cases act with
  | spi => exact announced_spi w after inv moved
  | exchange received => cases moved; exact announced_busy w _ none inv rfl (by simp) .inl
  | exchangeFails ret => cases moved; exact announced_busy w _ none inv rfl (by simp) .inl
  | process io => cases moved <;> exact announced_busy w _ none inv rfl (by simp) .inl
  | offer skb tsCaptureMode =>
      cases moved with
      | offer skb tsCaptureMode pc =>
          exact announced_xmit w _ inv rfl rfl rfl rfl id (.inl ⟨rfl, by simp [pc]⟩)
  | xmit linearized =>
      cases moved with
      | store skb tsCaptureMode linearized pc =>
          exact announced_xmit w _ inv rfl rfl rfl rfl id (.inr (.inr rfl))
      | wake linearized pc =>
          exact announced_xmit w _ inv rfl rfl rfl rfl (fun _ => rfl) (.inr (.inl rfl))
      | testBusy skb tsCaptureMode linearized pc other held =>
          exact announced_xmit w _ inv rfl rfl rfl rfl id (.inl ⟨rfl, by simp [pc]⟩)
      | testFree skb tsCaptureMode linearized pc empty =>
          exact announced_xmit w _ inv rfl rfl rfl rfl id (.inl ⟨rfl, by simp [pc]⟩)
      | stop linearized pc =>
          exact announced_xmit w _ inv rfl rfl rfl rfl id (.inl ⟨rfl, by simp [pc]⟩)
      | linearized skb tsCaptureMode pc =>
          exact announced_xmit w _ inv rfl rfl rfl rfl id (.inl ⟨rfl, by simp [pc]⟩)
      | linearizeFails skb tsCaptureMode pc =>
          exact announced_xmit w _ inv rfl rfl rfl rfl id (.inl ⟨rfl, by simp [pc]⟩)
  | interrupt =>
      cases moved with
      | interrupt pc =>
          constructor
          · exact raised_step (some .interrupt) inv.raised (fun _ => rfl) (fun _ => .inl rfl)
          · intro _ _
            exact .inr rfl
          · intro looked
            exact handled_step (some .interrupt) (inv.handled looked) (by simp) id
          · exact inv.stored
  | interruptWake =>
      cases moved with
      | interruptWake pc =>
          constructor
          · exact raised_step (some .wakes) inv.raised (by simp) .inl
          · intro _ _
            exact .inl rfl
          · intro looked
            exact handled_step (some .wakes) (inv.handled looked) (fun _ => rfl) (fun _ => rfl)
          · intro _ _ _
            exact .inl rfl

/-! What a run that returns 0 leaves behind. -/

/-- A step after which the thread neither waits nor is about to leave a run. -/
theorem emptied_busy (w : Watched) (after : Driver) (event : Option WaitEvent)
    (filling : ∀ len, after.spi ≠ .fillRx len ∧ after.spi ≠ .testInt len)
    (busy : after.spi.waits = false) : Emptied ⟨after, w.log ++ event.toList⟩ := by
  constructor
  · rintro len (pc | pc)
    · exact absurd pc (filling len).1
    · exact absurd pc (filling len).2
  · simp [busy]

/-- A step that changes neither what is received nor the skb under way. -/
theorem emptied_kept (w : Watched) (after : Driver) (event : Option WaitEvent) (inv : Emptied w)
    (returns : event ≠ some .returns) (rx : after.tc6.rx = w.driver.tc6.rx)
    (ongoing : after.tc6.tx.ongoingTxSkb = w.driver.tc6.tx.ongoingTxSkb)
    (nothing : ∀ len, after.spi = .fillRx len ∨ after.spi = .testInt len →
      w.driver.spi = .fillRx len ∨ w.driver.spi = .testInt len)
    (waits : after.spi.waits = true → w.driver.spi.waits = true) :
    Emptied ⟨after, w.log ++ event.toList⟩ := by
  constructor
  · simp only [rx, ongoing]
    intro len pc empty
    exact inv.nothing len (nothing len pc) empty
  · simp only [rx, ongoing]
    intro returned waiting
    apply inv.returned _ (waits waiting)
    rcases List.mem_append.mp returned with earlier | now
    · exact earlier
    · exact absurd (Option.mem_toList.mp now) returns

theorem emptied_spi (w : Watched) (after : Driver) (sized : Sized 255 w.driver)
    (counted : Counted w.driver) (inv : Emptied w) (moved : w.driver.Moves .spi after) :
    Emptied ⟨after, w.log ++ (waitEvent .spi w.driver.spi after.spi).toList⟩ := by
  have available := sized.available
  have kept := emptied_kept w after (waitEvent .spi w.driver.spi after.spi) inv
  cases moved with
  | prepare pc =>
      exact kept (by simp [waitEvent, pc]) rfl rfl (by simp) (by simp [pc, SpiPc.waits])
  | intClear pc int =>
      exact kept (by simp [waitEvent, pc]) rfl rfl (by simp) (by simp [pc, SpiPc.waits])
  | waitingSome pc skb held =>
      exact kept (by simp [waitEvent, pc]) rfl rfl (by simp) (by simp [pc, SpiPc.waits])
  | waitingNone pc empty =>
      exact kept (by simp [waitEvent, pc]) rfl rfl (by simp) (by simp [pc, SpiPc.waits])
  | creditsNone pc credits =>
      exact kept (by simp [waitEvent, pc]) rfl rfl (by simp) (by simp [pc, SpiPc.waits])
  | wakeUp pc woken =>
      exact kept (by simp [waitEvent, pc]) rfl rfl (by simp) (by simp [pc, SpiPc.waits])
  | loopIdle pc noOngoing noWaiting =>
      constructor
      · intro _ _ _
        exact .inr noOngoing
      · simp [Driver.setTx, SpiPc.waits]
  | fillEmpty used pc credit empty =>
      constructor
      · intro _ _ _
        exact .inr empty
      · simp [Driver.setTx, SpiPc.waits]
  | fillFull used pc credit =>
      obtain ⟨few, _⟩ := sized_filling 255 w.driver sized used pc
      have narrow := to_u16_chunks used (by omega)
      constructor
      · rintro len (here | here) zero
        · obtain rfl : toU16 (used * chunkSize) = len := by simpa using here
          rw [narrow, chunk_size] at zero
          exact .inl (show w.driver.tc6.rx.txCredits = 0 by omega)
        · simp at here
      · simp [SpiPc.waits]
  | fillRx len pc =>
      obtain ⟨count, few, rfl, offset⟩ := sized.filled len (by rw [pc]; rfl)
      obtain ⟨length, idle, padded⟩ :=
        prepare_for_rx_chunks w.driver.tc6.tx w.driver.tc6.rx.rxChunksAvailable count offset
          (by omega)
      constructor
      · rintro other (here | here) zero
        · simp [Driver.setTx] at here
        · obtain rfl : (prepareSpiTxBufForRxChunks w.driver.tc6.tx w.driver.tc6.rx.rxChunksAvailable
              (count * chunkSize)).1 = other := by simpa [Driver.setTx] using here
          rw [length, chunk_size] at zero
          simp only [Driver.setTx]
          rw [padded.kept.ongoing]
          apply inv.nothing _ (.inl pc)
          rw [chunk_size]
          omega
      · simp [Driver.setTx, SpiPc.waits]
  | testDone pc int =>
      have exact_ := counted.padded 0 (.inl pc)
      rw [chunk_size] at exact_
      constructor
      · simp
      · intro _ _
        exact ⟨by dsimp only; omega, inv.nothing 0 (.inr pc) rfl⟩
  | _ => exact emptied_busy w _ _ (by simp [Driver.setTx]) rfl

theorem emptied_moves (w : Watched) (act : DriverAct) (after : Driver) (sized : Sized 255 w.driver)
    (counted : Counted w.driver) (inv : Emptied w) (moved : w.driver.Moves act after) :
    Emptied ⟨after, w.log ++ (waitEvent act w.driver.spi after.spi).toList⟩ := by
  cases act with
  | spi => exact emptied_spi w after sized counted inv moved
  | exchange received => cases moved; exact emptied_busy w _ none (by simp) rfl
  | exchangeFails ret => cases moved; exact emptied_busy w _ none (by simp) rfl
  | process io => cases moved <;> exact emptied_busy w _ none (by simp) rfl
  | offer skb tsCaptureMode =>
      cases moved; exact emptied_kept w _ none inv (by simp) rfl rfl (fun _ => id) id
  | xmit linearized =>
      cases moved <;> exact emptied_kept w _ none inv (by simp) rfl rfl (fun _ => id) id
  | interrupt =>
      cases moved; exact emptied_kept w _ (some .interrupt) inv (by simp) rfl rfl (fun _ => id) id
  | interruptWake =>
      cases moved; exact emptied_kept w _ (some .wakes) inv (by simp) rfl rfl (fun _ => id) id

/-! The way from the wait to a transfer. -/

theorem passing_step (w : Watched) (after : Driver) (event : Option WaitEvent) (inv : Passing w)
    (seen : after.spi = .evalCredits → after.tc6.tx.waitingTxSkb ≠ none)
    (passes : event = some .passes → Due after [])
    (goes : ∀ later, Due w.driver later →
      event = some .starts ∨ Due after (later ++ event.toList)) :
    Passing ⟨after, w.log ++ event.toList⟩ := by
  refine ⟨seen, ?_⟩
  cases event with
  | none =>
      rw [Option.toList_none, List.append_nil]
      refine since_each_mono inv.due ?_
      rintro later (started | due)
      · exact .inl started
      · have still := (goes later due).resolve_left (by simp)
        rw [Option.toList_none, List.append_nil] at still
        exact .inr still
  | some event =>
      refine since_each_snoc inv.due ?_ ?_
      · rintro rfl
        exact .inr (passes rfl)
      · rintro later (started | due)
        · exact .inl (List.mem_append_left _ started)
        · rcases goes later due with starts | still
          · exact .inl (by simp [Option.some.inj starts])
          · exact .inr still

/-- Outside a run nothing is due. -/
theorem not_due (d : Driver) (later : List WaitEvent)
    (outside : d.spi.left d.tc6.rx.txCredits = none) : ¬ Due d later := by
  intro due
  obtain ⟨left, near, _⟩ := due.near
  rw [outside] at near
  simp at near

theorem passing_outside (w : Watched) (after : Driver) (event : Option WaitEvent) (inv : Passing w)
    (outside : w.driver.spi.left w.driver.tc6.rx.txCredits = none)
    (seen : after.spi = .evalCredits → after.tc6.tx.waitingTxSkb ≠ none)
    (passes : event = some .passes → Due after []) : Passing ⟨after, w.log ++ event.toList⟩ :=
  passing_step w after event inv seen passes fun later due =>
    absurd due (not_due w.driver later outside)

/-- One more step of the thread brings it nearer to the transfer. -/
theorem due_works (d after : Driver) (later : List WaitEvent) (due : Due d later)
    (credits : after.tc6.rx.txCredits = d.tc6.rx.txCredits) (work : after.HasWork)
    (nearer : ∀ left, d.spi.left d.tc6.rx.txCredits = some left →
      ∃ less, after.spi.left d.tc6.rx.txCredits = some less ∧ less + 1 ≤ left) :
    Due after (later ++ [.works]) := by
  obtain ⟨left, near, bounded⟩ := due.near
  obtain ⟨less, nearer, steps⟩ := nearer left near
  constructor
  · exact work
  · rw [credits]
    refine ⟨less, nearer, ?_⟩
    rw [List.count_append, List.count_singleton_self]
    omega
  · simpa using due.running

/-- A step of another party leaves the thread where it is. -/
theorem due_other (d after : Driver) (event : Option WaitEvent) (later : List WaitEvent)
    (due : Due d later) (silent : event ≠ some .works ∧ event ≠ some .returns)
    (spi : after.spi = d.spi) (rx : after.tc6.rx = d.tc6.rx)
    (flag : d.tc6.intFlag = true → after.tc6.intFlag = true)
    (ongoing : after.tc6.tx.ongoingTxSkb = d.tc6.tx.ongoingTxSkb)
    (waiting : d.tc6.tx.waitingTxSkb ≠ none → after.tc6.tx.waitingTxSkb ≠ none) :
    Due after (later ++ event.toList) := by
  constructor
  · rcases due.work with set | reason
    · exact .inl (flag set)
    · refine .inr ?_
      rw [spi, rx, ongoing]
      cases pc : d.spi with
      | loopTop =>
          rw [pc] at reason
          exact ⟨waiting reason.1, reason.2⟩
      | fillTx used =>
          rw [pc] at reason
          rcases reason with some_ | ⟨credit, held⟩
          · exact .inl some_
          · exact .inr ⟨credit, held.imp_right waiting⟩
      | _ =>
          rw [pc] at reason
          exact reason
  · obtain ⟨left, near, bounded⟩ := due.near
    rw [spi, rx]
    refine ⟨left, near, ?_⟩
    rw [List.count_append,
      List.count_eq_zero.mpr fun works => silent.1 (Option.mem_toList.mp works)]
    exact bounded
  · intro returned
    rcases List.mem_append.mp returned with earlier | now
    · exact due.running earlier
    · exact silent.2 (Option.mem_toList.mp now)

theorem dequeue_some (tx : TxState) (held : tx.ongoingTxSkb ≠ none ∨ tx.waitingTxSkb ≠ none) :
    (dequeueTxSkb tx).ongoingTxSkb ≠ none := by
  cases ongoing : tx.ongoingTxSkb with
  | some skb => simp [dequeue_held tx skb ongoing, ongoing]
  | none =>
      rw [dequeue_idle tx ongoing]
      exact held.resolve_left (fun busy => busy ongoing)

/-- The steps of a run, from the loop head to the call of `oa_tc6_spi_transfer`. -/
theorem due_spi (d after : Driver) (later : List WaitEvent) (sized : Sized 255 d)
    (due : Due d later) (moved : d.Moves .spi after) :
    waitEvent .spi d.spi after.spi = some .starts ∨
      Due after (later ++ (waitEvent .spi d.spi after.spi).toList) := by
  have available := sized.available
  have work := due.work
  cases moved with
  | loopBusy pc busy =>
      rw [Driver.HasWork, pc] at work
      simp only [waitEvent, pc, Driver.setTx]
      refine .inr (due_works d _ later due rfl (work.imp_right fun reason => ?_)
        fun left near => ?_)
      · exact .inr ⟨reason.2, .inr reason.1⟩
      · exact ⟨_, rfl, by simp [pc, SpiPc.left] at near; omega⟩
  | loopIdle pc noOngoing noWaiting =>
      rw [Driver.HasWork, pc] at work
      simp only [waitEvent, pc, Driver.setTx]
      refine .inr (due_works d _ later due rfl (work.imp_right fun reason => ?_)
        fun left near => ?_)
      · exact absurd noWaiting reason.1
      · exact ⟨_, rfl, by simp [pc, SpiPc.left] at near; omega⟩
  | fillMore used pc credit skb held =>
      simp only [waitEvent, pc, Driver.setTx]
      refine .inr (due_works d _ later due rfl (.inr (.inl (Nat.succ_pos used)))
        fun left near => ?_)
      exact ⟨_, rfl, by simp [pc, SpiPc.left] at near; omega⟩
  | fillEmpty used pc credit empty =>
      obtain ⟨few, _⟩ := sized_filling 255 d sized used pc
      rw [Driver.HasWork, pc] at work
      simp only [waitEvent, pc, Driver.setTx]
      refine .inr (due_works d _ later due rfl (work.imp_right fun reason => ?_)
        fun left near => ?_)
      · rcases reason with some_ | ⟨_, held⟩
        · show toU16 (used * chunkSize) ≠ 0
          rw [to_u16_chunks used (by omega), chunk_size]
          omega
        · exact absurd empty (dequeue_some _ held)
      · exact ⟨_, rfl, by simp [pc, SpiPc.left] at near; omega⟩
  | fillFull used pc credit =>
      obtain ⟨few, _⟩ := sized_filling 255 d sized used pc
      rw [Driver.HasWork, pc] at work
      simp only [waitEvent, pc]
      refine .inr (due_works d _ later due rfl (work.imp_right fun reason => ?_)
        fun left near => ?_)
      · show toU16 (used * chunkSize) ≠ 0
        rw [to_u16_chunks used (by omega), chunk_size]
        rcases reason with some_ | ⟨some_, _⟩ <;> omega
      · exact ⟨_, rfl, by simp [pc, SpiPc.left] at near; omega⟩
  | fillRx len pc =>
      obtain ⟨count, few, rfl, offset⟩ := sized.filled len (by rw [pc]; rfl)
      obtain ⟨length, _⟩ :=
        prepare_for_rx_chunks d.tc6.tx d.tc6.rx.rxChunksAvailable count offset (by omega)
      rw [Driver.HasWork, pc] at work
      simp only [waitEvent, pc, Driver.setTx]
      refine .inr (due_works d _ later due rfl (work.imp_right fun reason => ?_)
        fun left near => ?_)
      · show (prepareSpiTxBufForRxChunks d.tc6.tx d.tc6.rx.rxChunksAvailable
          (count * chunkSize)).1 ≠ 0
        rw [length]
        simp only [chunk_size] at reason ⊢
        omega
      · exact ⟨_, rfl, by simp [pc, SpiPc.left] at near; omega⟩
  | testSet len pc int =>
      simp only [waitEvent, pc]
      refine .inr (due_works d _ later due rfl (.inl int) fun left near => ?_)
      exact ⟨_, rfl, by simp [pc, SpiPc.left] at near; omega⟩
  | testDone pc int =>
      rw [Driver.HasWork, pc, int] at work
      simp at work
  | testClear len pc int some_ => exact .inl (by simp [waitEvent, pc])
  | clearEmpty pc => exact .inl (by simp [waitEvent, pc, Driver.setTx])
  | clear len pc some_ => exact .inl (by simp [waitEvent, pc])
  | _ => exact absurd due (not_due d later (by simp_all [SpiPc.left]))

theorem passes_due (d after : Driver) (seen : d.spi = .evalCredits → d.tc6.tx.waitingTxSkb ≠ none)
    (moved : d.Moves .spi after) (passes : waitEvent .spi d.spi after.spi = some .passes) :
    Due after [] := by
  cases moved with
  | intSet pc int => exact ⟨.inl int, ⟨_, rfl, by simp⟩, by simp⟩
  | creditsSome pc credits => exact ⟨.inr ⟨seen pc, credits⟩, ⟨_, rfl, by simp⟩, by simp⟩
  | _ => simp_all [waitEvent, Driver.setTx]

theorem passing_spi (w : Watched) (after : Driver) (sized : Sized 255 w.driver) (inv : Passing w)
    (moved : w.driver.Moves .spi after) :
    Passing ⟨after, w.log ++ (waitEvent .spi w.driver.spi after.spi).toList⟩ := by
  apply passing_step w after _ inv
  · cases moved with
    | waitingSome pc skb held => simp [held]
    | _ => simp [Driver.setTx]
  · exact passes_due w.driver after inv.seen moved
  · intro later due
    exact due_spi w.driver after later sized due moved

theorem passing_other (w : Watched) (after : Driver) (event : Option WaitEvent) (inv : Passing w)
    (silent : event ≠ some .works ∧ event ≠ some .returns ∧ event ≠ some .passes)
    (spi : after.spi = w.driver.spi) (rx : after.tc6.rx = w.driver.tc6.rx)
    (flag : w.driver.tc6.intFlag = true → after.tc6.intFlag = true)
    (ongoing : after.tc6.tx.ongoingTxSkb = w.driver.tc6.tx.ongoingTxSkb)
    (waiting : w.driver.tc6.tx.waitingTxSkb ≠ none → after.tc6.tx.waitingTxSkb ≠ none) :
    Passing ⟨after, w.log ++ event.toList⟩ := by
  apply passing_step w after event inv
  · rw [spi]
    exact fun pc => waiting (inv.seen pc)
  · intro passes
    exact absurd passes silent.2.2
  · intro later due
    exact .inr (due_other w.driver after event later due ⟨silent.1, silent.2.1⟩ spi rx flag ongoing
      waiting)

theorem passing_moves (w : Watched) (act : DriverAct) (after : Driver) (sized : Sized 255 w.driver)
    (inv : Passing w) (moved : w.driver.Moves act after) :
    Passing ⟨after, w.log ++ (waitEvent act w.driver.spi after.spi).toList⟩ := by
  cases act with
  | spi => exact passing_spi w after sized inv moved
  | exchange received =>
      cases moved with
      | exchange len pc received whole =>
          exact passing_outside w _ none inv (by rw [pc]; rfl) (by simp) (by simp)
  | exchangeFails ret =>
      cases moved with
      | exchangeFails len pc ret failed =>
          exact passing_outside w _ none inv (by rw [pc]; rfl) (by simp) (by simp)
  | process io =>
      cases moved with
      | processFine len pc io rx out =>
          exact passing_outside w _ none inv (by rw [pc]; rfl) (by simp) (by simp)
      | processAgain len pc io rx out =>
          exact passing_outside w _ none inv (by rw [pc]; rfl) (by simp) (by simp)
      | processFails len pc io rx ret fails out =>
          exact passing_outside w _ none inv (by rw [pc]; rfl) (by simp) (by simp)
  | offer skb tsCaptureMode =>
      cases moved; exact passing_other w _ none inv (by simp) rfl rfl id rfl id
  | xmit linearized =>
      cases moved with
      | store skb tsCaptureMode linearized pc =>
          exact passing_other w _ none inv (by simp) rfl rfl id rfl (fun _ => by simp)
      | _ => exact passing_other w _ none inv (by simp) rfl rfl id rfl id
  | interrupt =>
      cases moved
      exact passing_other w _ (some .interrupt) inv (by simp) rfl rfl (fun _ => rfl) rfl id
  | interruptWake =>
      cases moved
      exact passing_other w _ (some .wakes) inv (by simp) rfl rfl id rfl id

/-! The thread in any run. -/

structure WatchInvariant (w : Watched) : Prop where
  sized : Sized 255 w.driver
  counted : Counted w.driver
  announced : Announced w
  emptied : Emptied w
  passing : Passing w

theorem watch_invariant_start (w : Watched) (starts : watchMachine.start w) : WatchInvariant w := by
  obtain ⟨driver, log⟩ := w
  obtain ⟨first, rfl⟩ := starts
  have sized := sized_init 255 driver first
  have counted := counted_init 255 driver first
  obtain ⟨bufferStatus, mtu, rxFilter, rxBuffer, txBuffer, _, _, rfl⟩ := first
  constructor
  · exact sized
  · exact counted
  · exact ⟨since_each_nil _ _, by simp [initDriver, SpiPc.looked],
      by simp [initDriver, SpiPc.looked], by simp [initDriver]⟩
  · exact ⟨by simp [initDriver], by simp⟩
  · exact ⟨by simp [initDriver], since_each_nil _ _⟩

theorem watch_invariant_next (w after : Watched) (act : DriverAct) (inv : WatchInvariant w)
    (moved : watchMachine.next w act = some after) : WatchInvariant after := by
  obtain ⟨driver, stepped, rfl⟩ := Option.map_eq_some_iff.mp moved
  have moves := driver_moves _ _ _ stepped
  constructor
  · exact sized_moves 255 (by decide) (by decide) _ _ act inv.sized moves
  · exact counted_moves 255 (by decide) _ _ act inv.sized inv.counted moves
  · exact announced_moves w act driver inv.announced moves
  · exact emptied_moves w act driver inv.sized inv.counted inv.emptied moves
  · exact passing_moves w act driver inv.sized inv.passing moves

/-- A thread that is on its way to a transfer can take its next step. -/
theorem due_goes_on (d : Driver) (later : List WaitEvent) (due : Due d later) :
    d.spiNext.isSome = true ∧ later.count .works ≤ d.tc6.rx.txCredits + 4 := by
  obtain ⟨left, near, bounded⟩ := due.near
  constructor
  · cases pc : d.spi with
    | testInt len =>
        simp only [Driver.spiNext, pc]
        split
        · rfl
        · split <;> rfl
    | clearInt len =>
        simp only [Driver.spiNext, pc]
        split <;> rfl
    | loopTop => simp [Driver.spiNext, pc]
    | fillTx used => simp [Driver.spiNext, pc]
    | fillRx len => simp [Driver.spiNext, pc]
    | _ => simp [pc, SpiPc.left] at near
  · cases pc : d.spi <;> simp [pc, SpiPc.left] at near <;> omega

/-- In every run: whenever the thread sleeps, nothing is left to do that a wake-up
under way would not show to it; and whenever it passes the wait, it gets to a
transfer within as many steps as there are credits, and four more. -/
theorem spi_thread_sleeps_well (w : Watched) (reached : Reaches watchMachine anyStep w) :
    w.SleepsWell := by
  have inv : WatchInvariant w := by
    apply reached.invariant WatchInvariant watch_invariant_start
    intro before act after inv _ moved
    exact watch_invariant_next before after act inv moved
  constructor
  · rintro returned ⟨asleep, still⟩
    obtain ⟨none_, idle⟩ := inv.emptied.returned returned (by rw [asleep]; rfl)
    refine ⟨none_, fun set => ?_, ?_⟩
    · exact (inv.announced.flag (by rw [asleep]; rfl) set).resolve_left (by simp [still])
    · by_cases credits : w.driver.tc6.rx.txCredits = 0
      · exact .inl credits
      · refine .inr ⟨idle.resolve_left credits, fun waiting => ?_⟩
        exact (inv.announced.stored asleep credits waiting).resolve_left (by simp [still])
  · rintro ⟨asleep, still⟩
    have handled := inv.announced.handled (by rw [asleep]; rfl)
    exact since_each_mono handled fun later seen wakes =>
      (seen wakes).resolve_right (by simp [still])
  · refine since_each_mono inv.passing.due fun later started => started.imp_right fun due => ?_
    exact ⟨due.running, due_goes_on w.driver later due⟩

section Samples

def watchStart : Watched := ⟨sampleStart 0#32, []⟩

theorem watch_start : watchMachine.start watchStart :=
  ⟨sample_start _ _ (by decide) (by decide), rfl⟩

/-- The thread serves an interrupt and looks at `int_flag` again. -/
def interruptServed : List DriverAct :=
  [.interrupt, .interruptWake, .spi, .spi, .spi, .spi, .spi, .spi,
    .exchange [answer 0x20000002#32], .process fun _ => default,
    .spi, .spi, .spi, .spi, .spi, .spi, .spi]

/-- Another interrupt sets the flag before the thread is asleep, and its handler
has still to wake it. -/
def flaggedAsleep : Watched := watchMachine.after watchStart (interruptServed ++ [.interrupt, .spi])

/-- The thread is asleep when an skb is stored, and is still to be woken. -/
def storedAsleep : Watched :=
  watchMachine.after watchStart
    (interruptServed ++ [.spi, .offer (sampleSkb 1 90 (by decide) (by decide)) 0, .xmit true,
      .xmit true, .xmit true])

theorem spi_thread_sleeps_flagged :
    (¬ ∀ w, Reaches watchMachine anyStep w → .returns ∈ w.log → w.driver.Blocked →
      w.driver.NothingToDo) ∧
    (¬ ∀ w, Reaches watchMachine anyStep w → .returns ∈ w.log → w.driver.Blocked →
      SinceEach .interrupt (fun later => .starts ∈ later) w.log) ∧
    ∃ w, Reaches watchMachine anyStep w ∧ .returns ∈ w.log ∧ w.driver.Blocked ∧
      w.driver.tc6.intFlag = false ∧ w.driver.tc6.rx.txCredits ≠ 0 ∧
        w.driver.tc6.tx.waitingTxSkb.isSome = true := by
  have flagged : Reaches watchMachine anyStep flaggedAsleep :=
    reaches_after watch_start _ (allowed_any _ _ _)
  have returned : .returns ∈ flaggedAsleep.log := by decide +kernel
  have blocked : flaggedAsleep.driver.Blocked := ⟨by decide +kernel, by decide +kernel⟩
  constructor
  · intro claimed
    have idle := claimed flaggedAsleep flagged returned blocked
    have set : flaggedAsleep.driver.tc6.intFlag = true := by decide +kernel
    rw [idle.2.1] at set
    exact absurd set (by decide)
  constructor
  · intro claimed
    have split : flaggedAsleep.log =
        flaggedAsleep.log.dropLast.dropLast ++ .interrupt :: [.works] := by decide +kernel
    exact absurd (claimed flaggedAsleep flagged returned blocked _ _ split) (by decide)
  · use storedAsleep
    constructor
    · exact reaches_after watch_start _ (allowed_any _ _ _)
    · exact ⟨by decide +kernel, ⟨by decide +kernel, by decide +kernel⟩, by decide +kernel,
        by decide +kernel, by decide +kernel⟩

theorem spi_thread_sleeps_sample : flaggedAsleep.SleepsWell :=
  spi_thread_sleeps_well _ (reaches_after watch_start _ (allowed_any _ _ _))

end Samples

end Lan865x.OaTc6
