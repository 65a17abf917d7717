import Lan865x.FlowControl
import Lan865x.SpiWait

/-!
The driver and its MAC-PHY, down to the interrupt line. The line is asserted for received
chunks or free transmit buffers where there were none and no footer told of them, and for
events; a data header deasserts it. The handler runs for a falling edge, so nothing happens
while the line stays asserted, as it does from the reset on. That is why `oa_tc6_init` sets
`int_flag` itself. BUFFER_STATUS is any; above 48 chunks the transfer buffers are taken as
unbounded.
-/

namespace Lan865x.OaTc6
open BitField Memory Transition

/-- Of `oa_tc6_init` behind `devm_request_irq`. -/
inductive Booting where
  | setFlag
  | wake
  | done
  deriving DecidableEq

/-- The received chunks to be read, the free transmit buffers, and whether the interrupt line
is asserted. -/
structure MacPhy where
  queued : Nat
  free : Nat
  line : Bool

/-- `edge`: the line has fallen, and the handler has not been called for it. -/
structure Station where
  driver : Driver
  booting : Booting
  macPhy : MacPhy
  edge : Bool

/-- A chunk of the MAC-PHY, and what came in and was sent out before it. -/
structure Answered where
  chunk : RxChunk
  arrived : Nat
  freed : Nat

inductive StationAct where
  | driver (act : DriverAct)
  | boot
  | isr
  | exchange (answers : List Answered)
  | arrive (count : Nat)
  | freed (count : Nat)
  | event

def MacPhy.after (phy : MacPhy) (sent : TxChunk) (answer : Answered) : MacPhy where
  queued := phy.queued + answer.arrived - (flag dataFooterDataValid answer.chunk.footer).toNat
  free := freeAfter phy.free sent answer.freed
  line := phy.line

/-- The counts do not report none where there are some. -/
def MacPhy.Known (phy : MacPhy) (available credits : Nat) : Prop :=
  (available = 0 → phy.queued = 0) ∧ (credits = 0 → phy.free = 0)

def MacPhy.Shown (phy : MacPhy) (footer : BitVec 32) : Prop :=
  phy.Known (number dataFooterRxChunks footer) (number dataFooterTxCredits footer)

instance (phy : MacPhy) (available credits : Nat) : Decidable (phy.Known available credits) :=
  inferInstanceAs (Decidable (_ ∧ _))

instance (phy : MacPhy) (footer : BitVec 32) : Decidable (phy.Shown footer) :=
  inferInstanceAs (Decidable (phy.Known _ _))

/-- The MAC-PHY after a transfer; none if a footer hides something. -/
def MacPhy.exchange : MacPhy → List TxChunk → List Answered → Option MacPhy
  | phy, sent :: later, answer :: rest =>
      if (phy.after sent answer).Shown answer.chunk.footer then
        (phy.after sent answer).exchange later rest
      else none
  | phy, _, _ => some phy

/-- The line is asserted; it falls only if it was not. -/
def Station.assert (s : Station) : Station :=
  { s with macPhy := { s.macPhy with line := true }, edge := s.edge || !s.macPhy.line }

def Station.bootNext (s : Station) : Option Station :=
  match s.booting with
  | .setFlag => some { s with
      driver := { s.driver with tc6 := { s.driver.tc6 with intFlag := true } }
      booting := .wake }
  | .wake => some { s with driver := { s.driver with woken := true }, booting := .done }
  | .done => none

def Station.exchangeNext (s : Station) (answers : List Answered) : Option Station :=
  match s.driver.spi with
  | .transfer len =>
      -- The first header deasserts the line.
      (MacPhy.exchange { s.macPhy with line := false } (spiChunks s.driver.tc6.tx len)
        answers).bind fun macPhy =>
          (s.driver.next (.exchange (answers.map Answered.chunk))).map fun driver =>
            { s with driver := driver, macPhy := macPhy }
  | _ => none

def Station.arriveNext (s : Station) (count : Nat) : Station :=
  let more := { s with macPhy := { s.macPhy with queued := s.macPhy.queued + count } }
  if s.macPhy.queued = 0 then more.assert else more

def Station.freedNext (s : Station) (count : Nat) : Station :=
  let more := { s with macPhy := { s.macPhy with free := s.macPhy.free + count } }
  if s.macPhy.free = 0 then more.assert else more

def Station.next (s : Station) : StationAct → Option Station
  | .driver (.exchange _) | .driver .interrupt => none
  | .driver act => (s.driver.next act).map fun driver => { s with driver := driver }
  | .boot => s.bootNext
  | .isr =>
      if s.edge then
        (s.driver.next .interrupt).map fun driver => { s with driver := driver, edge := false }
      else none
  | .exchange answers => s.exchangeNext answers
  | .arrive count => some (s.arriveNext count)
  | .freed count => some (s.freedNext count)
  | .event => some s.assert

/-- The line has been asserted since the reset. -/
def stationMachine : Machine Station StationAct where
  start s := (driverMachine 255).start s.driver ∧ s.booting = .setFlag ∧ s.macPhy.line = true
  next := Station.next

/-- The driver is told, or will be. -/
def Station.Pending (s : Station) : Prop :=
  s.edge = true ∨ s.driver.tc6.intFlag = true ∨ s.booting = .setFlag

instance (s : Station) : Decidable s.Pending := inferInstanceAs (Decidable (_ ∨ _))

def StationAct.answers : StationAct → Option (Nat → ChunkIo)
  | .driver act => act.answers
  | _ => none

/-- Where the footers are processed: a footer that makes the loop give up for a retry hides
nothing of what there is after the whole transfer, or the driver is told of it. -/
def Prompt (s : Station) (act : StationAct) : Prop :=
  ∀ io ∈ act.answers, ∀ len ∈ s.driver.spi.processing, ∀ i < len / chunkSize,
    retriesAt s.driver.tc6.rx io i = true → s.Pending ∨ s.macPhy.Shown
      (getRxChunkFooter s.driver.tc6.rx (i * chunkSize + chunkPayloadSize))

instance (s : Station) (act : StationAct) : Decidable (Prompt s act) :=
  inferInstanceAs (Decidable (∀ io ∈ act.answers, ∀ len ∈ s.driver.spi.processing,
    ∀ i < len / chunkSize, retriesAt s.driver.tc6.rx io i = true → s.Pending ∨ s.macPhy.Shown
      (getRxChunkFooter s.driver.tc6.rx (i * chunkSize + chunkPayloadSize))))

/-- What comes from outside. -/
def StationAct.outside : StationAct → Bool
  | .driver (.offer _ _) | .arrive _ | .freed _ | .event => true
  | _ => false

/-- Nothing moves unless something comes from outside. -/
def Halted (s : Station) : Prop :=
  ∀ act : StationAct, act.outside = false → stationMachine.next s act = none

structure Quiet (s : Station) : Prop where
  asleep : s.driver.Blocked ∨ ∃ ret, s.driver.spi = .ended ret
  xmitIdle : s.driver.xmit = .idle
  handled : s.driver.isrWaking = false
  booted : s.booting = .done
  noEdge : s.edge = false

/-! What the driver is told. -/

/-- A transfer follows that no test can skip, or there are none any more. -/
def SpiPc.serving : SpiPc → Bool
  | .transfer _ | .ended _ => true
  | _ => false

/-- The line is not asserted, and the counts of the driver, or the last of the footers it has
still to process, hide nothing. -/
structure UpToDate (s : Station) : Prop where
  quiet : s.macPhy.line = false
  known : (∀ len, s.driver.spi ≠ .process len) →
    s.macPhy.Known s.driver.tc6.rx.rxChunksAvailable s.driver.tc6.rx.txCredits
  footers : ∀ len last, s.driver.spi = .process len → last + 1 = len / chunkSize →
    s.macPhy.Shown
      (getRxChunkFooter s.driver.tc6.rx (last * chunkSize + chunkPayloadSize))

def Informed (s : Station) : Prop := s.Pending ∨ s.driver.spi.serving = true ∨ UpToDate s

/-- Where the driver is not told, it is about to look, or knows all. -/
theorem informed_other {s after : Station} (informed : Informed s)
    (pending : s.Pending → after.Pending) (spi : after.driver.spi = s.driver.spi)
    (still : ¬ after.Pending → UpToDate s → UpToDate after) : Informed after := by
  by_cases told : after.Pending
  · exact .inl told
  · rcases informed with earlier | serving | upToDate
    · exact absurd (pending earlier) told
    · exact .inr (.inl (spi ▸ serving))
    · exact .inr (.inr (still told upToDate))

theorem pending_assert (s : Station) (macPhy : MacPhy) (pending : s.Pending) :
    (Station.assert { s with macPhy := macPhy }).Pending := by
  rcases pending with edge | told
  · exact .inl (by simp [Station.assert, edge])
  · exact .inr told

/-- An edge comes with the line, unless it was asserted already: then the driver is told. -/
theorem informed_assert (s : Station) (informed : Informed s) (queued free : Nat) :
    Informed (Station.assert { s with macPhy := ⟨queued, free, s.macPhy.line⟩ }) := by
  refine informed_other informed (pending_assert s _) rfl fun untold upToDate => ?_
  exact absurd (.inl (by simp [Station.assert, upToDate.quiet])) untold

theorem up_to_date_more {s : Station} (upToDate : UpToDate s) (queued free : Nat)
    (received : s.macPhy.queued = 0 → queued = 0) (room : s.macPhy.free = 0 → free = 0) :
    UpToDate { s with macPhy := ⟨queued, free, s.macPhy.line⟩ } := by
  refine ⟨upToDate.quiet, fun idle => ?_, fun len last pc ends => ?_⟩
  · exact ⟨fun none_ => received ((upToDate.known idle).1 none_),
      fun none_ => room ((upToDate.known idle).2 none_)⟩
  · exact ⟨fun none_ => received ((upToDate.footers len last pc ends).1 none_),
      fun none_ => room ((upToDate.footers len last pc ends).2 none_)⟩

theorem informed_more {s : Station} (informed : Informed s) (queued free : Nat)
    (received : s.macPhy.queued = 0 → queued = 0) (room : s.macPhy.free = 0 → free = 0) :
    Informed { s with macPhy := ⟨queued, free, s.macPhy.line⟩ } :=
  informed_other informed id rfl fun _ upToDate =>
    up_to_date_more upToDate queued free received room

/-- `int_flag` is cleared only on the way into a transfer, and a transfer is not left out. -/
theorem moves_serving (d after : Driver) (act : DriverAct) (moved : d.Moves act after)
    (notProcess : ∀ io, act ≠ .process io) (notExchange : ∀ received, act ≠ .exchange received) :
    (d.spi.serving = true → after.spi.serving = true) ∧
      (d.tc6.intFlag = true → after.tc6.intFlag = true ∨ after.spi.serving = true) := by
  cases moved with
  | exchange => exact absurd rfl (notExchange _)
  | processFine | processAgain | processFails => exact absurd rfl (notProcess _)
  | clearEmpty | clear => exact ⟨fun _ => rfl, fun _ => .inr rfl⟩
  | exchangeFails => exact ⟨fun _ => rfl, .inl⟩
  | interrupt => exact ⟨id, fun _ => .inl rfl⟩
  | offer | testBusy | testFree | stop | linearized | linearizeFails | store | wake
  | interruptWake => exact ⟨id, .inl⟩
  | _ => exact ⟨by simp [*, SpiPc.serving], .inl⟩

theorem informed_kept {s : Station} {driver : Driver} {act : DriverAct} (informed : Informed s)
    (moved : s.driver.Moves act driver) (notProcess : ∀ io, act ≠ .process io)
    (notExchange : ∀ received, act ≠ .exchange received) :
    Informed { s with driver := driver } := by
  obtain ⟨rx, processing, _⟩ := moves_kept s.driver driver act moved notProcess notExchange
  obtain ⟨serves, told⟩ := moves_serving s.driver driver act moved notProcess notExchange
  by_cases serving : driver.spi.serving = true
  · exact .inr (.inl serving)
  · rcases informed with (edge | flagged | booting) | earlier | upToDate
    · exact .inl (.inl edge)
    · exact .inl (.inr (.inl ((told flagged).resolve_right serving)))
    · exact .inl (.inr (.inr booting))
    · exact absurd (serves earlier) serving
    · refine .inr (.inr ⟨upToDate.quiet, fun idle => ?_, fun len last pc => ?_⟩)
      · rw [rx]
        exact upToDate.known fun len here => idle len ((processing len).mpr here)
      · rw [rx]
        exact upToDate.footers len last ((processing len).mp pc)

/-- The last footer of a transfer shows what there is after it. -/
theorem exchange_shown (phy left : MacPhy) (sent : List TxChunk) (answers : List Answered)
    (exchanged : phy.exchange sent answers = some left) (whole : sent.length = answers.length)
    (last : Answered) (ends : answers.getLast? = some last) : left.Shown last.chunk.footer := by
  induction sent generalizing phy answers with
  | nil =>
      obtain rfl : answers = [] := List.length_eq_zero_iff.mp whole.symm
      exact absurd ends (by simp)
  | cons chunk later ih =>
      cases answers with
      | nil => exact absurd ends (by simp)
      | cons answer rest =>
          simp only [MacPhy.exchange, Option.ite_none_right_eq_some] at exchanged
          obtain ⟨shown, goes⟩ := exchanged
          cases rest with
          | nil =>
              obtain rfl : answer = last := by simpa using ends
              obtain rfl : later = [] := List.length_eq_zero_iff.mp (by simpa using whole)
              simp only [MacPhy.exchange, Option.some.injEq] at goes
              exact goes ▸ shown
          | cons next tail =>
              exact ih _ (next :: tail) goes (by simpa using whole) (by simpa using ends)

theorem exchange_line (phy left : MacPhy) (sent : List TxChunk) (answers : List Answered)
    (exchanged : phy.exchange sent answers = some left) : left.line = phy.line := by
  induction sent generalizing phy answers with
  | nil => simp_all [MacPhy.exchange]
  | cons chunk later ih =>
      cases answers with
      | nil => simp_all [MacPhy.exchange]
      | cons answer rest =>
          simp only [MacPhy.exchange, Option.ite_none_right_eq_some] at exchanged
          exact ih (phy.after chunk answer) rest exchanged.2

theorem informed_exchange (s : Station) (len : Nat) (macPhy : MacPhy)
    (pc : s.driver.spi = .transfer len) (answers : List Answered)
    (exchanged : MacPhy.exchange { s.macPhy with line := false }
      (spiChunks s.driver.tc6.tx len) answers = some macPhy)
    (driver : Driver) (moved : s.driver.Moves (.exchange (answers.map Answered.chunk)) driver) :
    Informed { s with driver := driver, macPhy := macPhy } := by
  cases moved with
  | exchange len' pc' received whole =>
      obtain rfl : len = len' := by simpa [pc] using pc'
      refine .inr (.inr ⟨exchange_line _ _ _ _ exchanged, fun idle => absurd rfl (idle len), ?_⟩)
      intro other last moving ends
      obtain rfl : len = other := by simpa using moving
      have count : len / chunkSize = answers.length := by
        rw [← whole, Nat.mul_div_cancel _ (by decide), List.length_map]
      have inside : last < answers.length := by omega
      have shown := exchange_shown _ macPhy _ answers exchanged (by simp [spiChunks, count])
        answers[last] (by
          rw [List.getLast?_eq_getElem?, show answers.length - 1 = last by omega,
            List.getElem?_eq_getElem inside])
      dsimp only
      rw [loaded_footer _ _ last (by simpa using inside), List.getElem_map]
      exact shown

/-- The counts come from the last footer, or from the one that asks for the retry. -/
theorem processed_known (s : Station) (sized : Sized 255 s.driver) (upToDate : UpToDate s)
    (untold : ¬ s.Pending) (len : Nat) (pc : s.driver.spi = .process len) (io : Nat → ChunkIo)
    (ret : Int) (rx : RxState) (out : processSpiDataRxBuf s.driver.tc6.rx len io = (ret, rx))
    (alive : ¬ Fails ret) (prompt : Prompt s (.driver (.process io))) :
    s.macPhy.Known rx.rxChunksAvailable rx.txCredits := by
  obtain ⟨k, inside, credits, available, exit⟩ :=
    chunks_credits s.driver.tc6.rx io 0 (len / chunkSize) (sized.moving len (.inr pc))
  rw [processSpiDataRxBuf] at out
  rw [out, Nat.zero_add] at credits available exit
  rw [credits, available]
  rcases exit with ⟨last, _⟩ | failed | ⟨_, before, asks⟩
  · exact upToDate.footers len k pc last
  · exact absurd failed alive
  · refine (prompt io rfl len (by rw [pc]; rfl) k inside ?_).resolve_left untold
    simp [retriesAt, before, asks]

theorem informed_processed (s : Station) (sized : Sized 255 s.driver) (informed : Informed s)
    (len : Nat) (pc : s.driver.spi = .process len) (io : Nat → ChunkIo) (ret : Int) (rx : RxState)
    (out : processSpiDataRxBuf s.driver.tc6.rx len io = (ret, rx)) (alive : ¬ Fails ret)
    (prompt : Prompt s (.driver (.process io))) (spi : SpiPc)
    (done : ∀ len, spi ≠ .process len) : Informed { s with
      driver := { s.driver with tc6 := { s.driver.tc6 with rx := rx }, spi := spi } } := by
  rcases informed with told | serving | upToDate
  · exact .inl told
  · simp [pc, SpiPc.serving] at serving
  · by_cases told : s.Pending
    · exact .inl told
    · refine .inr (.inr ⟨upToDate.quiet, fun _ => ?_, fun len _ here => absurd here (done len)⟩)
      exact processed_known s sized upToDate told len pc io ret rx out alive prompt

theorem informed_process (s : Station) (sized : Sized 255 s.driver) (informed : Informed s)
    (io : Nat → ChunkIo) (prompt : Prompt s (.driver (.process io))) (driver : Driver)
    (moved : s.driver.Moves (.process io) driver) : Informed { s with driver := driver } := by
  cases moved with
  | processFine len pc io rx out =>
      exact informed_processed s sized informed len pc io 0 rx out (fun fails => fails.1 rfl)
        prompt _ (by simp)
  | processAgain len pc io rx out =>
      exact informed_processed s sized informed len pc io _ rx out (fun fails => fails.2 rfl)
        prompt _ (by simp)
  | processFails => exact .inr (.inl rfl)

/-- The steps of the station. -/
theorem station_next_cases {s after : Station} {act : StationAct}
    (moved : s.next act = some after) :
    (∃ own driver, act = .driver own ∧ s.driver.Moves own driver ∧
        (∀ received, own ≠ .exchange received) ∧ after = { s with driver := driver }) ∨
      (act = .boot ∧ s.bootNext = some after) ∨
      (∃ driver, act = .isr ∧ s.driver.Moves .interrupt driver ∧
        after = { s with driver := driver, edge := false }) ∨
      (∃ answers len macPhy driver, act = .exchange answers ∧ s.driver.spi = .transfer len ∧
        MacPhy.exchange { s.macPhy with line := false } (spiChunks s.driver.tc6.tx len) answers =
          some macPhy ∧
        s.driver.Moves (.exchange (answers.map Answered.chunk)) driver ∧
        after = { s with driver := driver, macPhy := macPhy }) ∨
      act.outside = true ∧ after.driver = s.driver ∧ after.booting = s.booting ∧
        (Informed s → Informed after) ∧ (s.Pending → after.Pending) := by
  cases act with
  | driver own =>
      cases own with
      | exchange received => simp [Station.next] at moved
      | interrupt => simp [Station.next] at moved
      | _ =>
          obtain ⟨driver, stepped, rfl⟩ := Option.map_eq_some_iff.mp moved
          exact .inl ⟨_, driver, rfl, driver_moves _ _ _ stepped, by simp, rfl⟩
  | boot => exact .inr (.inl ⟨rfl, moved⟩)
  | isr =>
      simp only [Station.next, Option.ite_none_right_eq_some, Option.map_eq_some_iff] at moved
      obtain ⟨_, driver, stepped, rfl⟩ := moved
      exact .inr (.inr (.inl ⟨driver, rfl, driver_moves _ _ _ stepped, rfl⟩))
  | exchange answers =>
      cases pc : s.driver.spi with
      | transfer len =>
          simp only [Station.next, Station.exchangeNext, pc] at moved
          obtain ⟨macPhy, exchanged, rest⟩ := Option.bind_eq_some_iff.mp moved
          obtain ⟨driver, stepped, rfl⟩ := Option.map_eq_some_iff.mp rest
          exact .inr (.inr (.inr (.inl ⟨answers, len, macPhy, driver, rfl, rfl, exchanged,
            driver_moves _ _ _ stepped, rfl⟩)))
      | _ => simp [Station.next, Station.exchangeNext, pc] at moved
  | arrive count =>
      obtain rfl := Option.some.inj moved
      refine .inr (.inr (.inr (.inr ⟨rfl, ?_⟩)))
      simp only [Station.arriveNext]
      split
      · exact ⟨rfl, rfl, fun informed => informed_assert s informed _ _, pending_assert s _⟩
      · exact ⟨rfl, rfl, fun informed => informed_more informed _ _ (by omega) id, id⟩
  | freed count =>
      obtain rfl := Option.some.inj moved
      refine .inr (.inr (.inr (.inr ⟨rfl, ?_⟩)))
      simp only [Station.freedNext]
      split
      · exact ⟨rfl, rfl, fun informed => informed_assert s informed _ _, pending_assert s _⟩
      · exact ⟨rfl, rfl, fun informed => informed_more informed _ _ id (by omega), id⟩
  | event =>
      obtain rfl := Option.some.inj moved
      exact .inr (.inr (.inr (.inr ⟨rfl, rfl, rfl, fun informed => informed_assert s informed _ _,
        pending_assert s s.macPhy⟩)))

/-! What the thread leaves behind when it sleeps. -/

/-- A run that returned 0 has left nothing behind; until the first one the thread is told. -/
def Drained (d : Driver) (told : Prop) : Prop :=
  Emptied ⟨d, [.returns]⟩ ∨ told ∧ Emptied ⟨d, []⟩

theorem drained_moves {d after : Driver} {act : DriverAct} {told still : Prop}
    (sized : Sized 255 d) (counted : Counted d) (drained : Drained d told)
    (moved : d.Moves act after) (keeps : after.spi.waits = true → told → still) :
    Drained after still := by
  rcases drained with returned | ⟨pending, first⟩
  · have goes := emptied_moves ⟨d, [.returns]⟩ act after sized counted returned moved
    exact .inl ⟨goes.nothing, fun _ => goes.returned (by simp)⟩
  · have goes := emptied_moves ⟨d, []⟩ act after sized counted first moved
    by_cases waits : after.spi.waits = true
    · exact .inr ⟨keeps waits pending, goes.nothing, by simp⟩
    · exact .inl ⟨goes.nothing, fun _ waiting => absurd waiting waits⟩

theorem drained_same {d after : Driver} {told still : Prop} (drained : Drained d told)
    (spi : after.spi = d.spi) (rx : after.tc6.rx = d.tc6.rx)
    (ongoing : after.tc6.tx.ongoingTxSkb = d.tc6.tx.ongoingTxSkb) (keeps : told → still) :
    Drained after still := by
  have same : ∀ log, Emptied ⟨d, log⟩ → Emptied ⟨after, log⟩ := fun log emptied =>
    ⟨by simpa only [spi, rx, ongoing] using emptied.nothing,
      by simpa only [spi, rx, ongoing] using emptied.returned⟩
  exact drained.imp (same _) (And.imp keeps (same _))

/-- The flag is not cleared by a step into the wait. -/
theorem flag_waits {d after : Driver} {act : DriverAct} (moved : d.Moves act after)
    (waits : after.spi.waits = true) (flagged : d.tc6.intFlag = true) :
    after.tc6.intFlag = true := by
  cases moved with
  | clearEmpty | clear => simp [Driver.setTx, SpiPc.waits] at waits
  | interrupt => rfl
  | _ => exact flagged

/-- A flag that the thread has not seen set is announced. -/
theorem flag_moves {d after : Driver} {act : DriverAct} {promised : Prop}
    (flag : d.spi.looked = true → d.tc6.intFlag = true →
      d.woken = true ∨ d.isrWaking = true ∨ promised)
    (moved : d.Moves act after) : after.spi.looked = true → after.tc6.intFlag = true →
      after.woken = true ∨ after.isrWaking = true ∨ promised := by
  cases moved with
  | intClear pc int => simp [int]
  | waitingSome pc skb held => exact fun _ => flag (by rw [pc]; rfl)
  | waitingNone pc empty => exact fun _ => flag (by rw [pc]; rfl)
  | creditsNone pc credits => exact fun _ => flag (by rw [pc]; rfl)
  | wake | interruptWake => exact fun _ _ => .inl rfl
  | interrupt => exact fun _ _ => .inr (.inl rfl)
  | offer | testBusy | testFree | stop | linearized | linearizeFails | store => exact flag
  | _ => simp [SpiPc.looked, Driver.setTx]

/-- So is a frame that it has not seen. -/
theorem stored_moves {d after : Driver} {act : DriverAct}
    (stored : d.spi = .sleep → d.tc6.rx.txCredits ≠ 0 → d.tc6.tx.waitingTxSkb ≠ none →
      d.woken = true ∨ d.xmit = .wake)
    (moved : d.Moves act after) : after.spi = .sleep → after.tc6.rx.txCredits ≠ 0 →
      after.tc6.tx.waitingTxSkb ≠ none → after.woken = true ∨ after.xmit = .wake := by
  cases moved with
  | waitingNone pc empty => simp [empty]
  | creditsNone pc credits => simp [credits]
  | wake | interruptWake => exact fun _ _ _ => .inl rfl
  | store => exact fun _ _ _ => .inr rfl
  | interrupt => exact stored
  | offer skb tsCaptureMode pc | testBusy skb tsCaptureMode linearized pc
  | testFree skb tsCaptureMode linearized pc | stop linearized pc | linearized skb tsCaptureMode pc
  | linearizeFails skb tsCaptureMode pc =>
      intro asleep some_ waiting
      exact .inl ((stored asleep some_ waiting).resolve_right (by simp [pc]))
  | _ => simp [Driver.setTx]

structure StationInvariant (s : Station) : Prop where
  sized : Sized 255 s.driver
  counted : Counted s.driver
  informed : Informed s
  drained : Drained s.driver s.Pending
  flag : s.driver.spi.looked = true → s.driver.tc6.intFlag = true →
    s.driver.woken = true ∨ s.driver.isrWaking = true ∨ s.booting = .wake
  stored : s.driver.spi = .sleep → s.driver.tc6.rx.txCredits ≠ 0 →
    s.driver.tc6.tx.waitingTxSkb ≠ none → s.driver.woken = true ∨ s.driver.xmit = .wake

theorem station_invariant_start (s : Station) (starts : stationMachine.start s) :
    StationInvariant s := by
  obtain ⟨driver, booting, _⟩ := starts
  have sized := sized_init 255 s.driver driver
  have counted := counted_init 255 s.driver driver
  obtain ⟨bufferStatus, mtu, rxFilter, rxBuffer, txBuffer, _, _, made⟩ := driver
  refine ⟨sized, counted, .inl (.inr (.inr booting)), ?_, ?_, ?_⟩
  · exact .inr ⟨.inr (.inr booting), by simp [made, initDriver], by simp⟩
  · simp [made, initDriver, SpiPc.looked]
  · simp [made, initDriver]

/-- What a step of the driver keeps, whatever it makes the rest of the station. -/
theorem station_driver {s after : Station} {act : DriverAct} (inv : StationInvariant s)
    (moved : s.driver.Moves act after.driver) (booting : after.booting = s.booting)
    (informed : Informed after)
    (keeps : after.driver.spi.waits = true → s.Pending → after.Pending) :
    StationInvariant after where
  sized := sized_moves 255 (by decide) (by decide) _ _ act inv.sized moved
  counted := counted_moves 255 (by decide) _ _ act inv.sized inv.counted moved
  informed := informed
  drained := drained_moves inv.sized inv.counted inv.drained moved keeps
  flag := booting ▸ flag_moves inv.flag moved
  stored := stored_moves inv.stored moved

theorem station_boot {s after : Station} (inv : StationInvariant s)
    (moved : s.bootNext = some after) : StationInvariant after := by
  cases booting : s.booting with
  | setFlag =>
      simp only [Station.bootNext, booting, Option.some.injEq] at moved
      subst after
      exact ⟨sized_other 255 s.driver _ inv.sized rfl rfl rfl rfl,
        counted_other s.driver _ inv.counted rfl rfl rfl fun _ => rfl, .inl (.inr (.inl rfl)),
        drained_same inv.drained rfl rfl rfl fun _ => .inr (.inl rfl),
        fun _ _ => .inr (.inr rfl), inv.stored⟩
  | wake =>
      simp only [Station.bootNext, booting, Option.some.injEq] at moved
      subst after
      have pending : s.Pending → Station.Pending
          { s with driver := { s.driver with woken := true }, booting := .done } := by
        simp [Station.Pending, booting]
      refine ⟨sized_other 255 s.driver _ inv.sized rfl rfl rfl rfl,
        counted_other s.driver _ inv.counted rfl rfl rfl id, ?_,
        drained_same inv.drained rfl rfl rfl pending, fun _ _ => .inl rfl,
        fun _ _ _ => .inl rfl⟩
      exact informed_other inv.informed pending rfl fun _ upToDate =>
        ⟨upToDate.quiet, upToDate.known, upToDate.footers⟩
  | done => simp [Station.bootNext, booting] at moved

theorem station_invariant_next {s after : Station} {act : StationAct} (inv : StationInvariant s)
    (prompt : Prompt s act) (moved : s.next act = some after) : StationInvariant after := by
  rcases station_next_cases moved with ⟨own, driver, rfl, moves, own_, rfl⟩ | ⟨_, boots⟩ |
    ⟨driver, _, moves, rfl⟩ | ⟨answers, len, macPhy, driver, _, pc, exchanged, moves, rfl⟩ |
    ⟨_, driver, booting, informed, pending⟩
  · refine station_driver inv moves rfl ?_ fun waits => ?_
    · cases own with
      | process io => exact informed_process s inv.sized inv.informed io prompt driver moves
      | _ => exact informed_kept inv.informed moves (by simp) own_
    · exact Or.imp_right (Or.imp_left (flag_waits moves waits))
  · exact station_boot inv boots
  · have told : driver.tc6.intFlag = true := by
      cases moves
      rfl
    exact station_driver inv moves rfl (.inl (.inr (.inl told))) fun _ _ => .inr (.inl told)
  · refine station_driver inv moves rfl ?_ fun waits => ?_
    · exact informed_exchange s len macPhy pc answers exchanged driver moves
    · exact Or.imp_right (Or.imp_left (flag_waits moves waits))
  · exact ⟨driver ▸ inv.sized, driver ▸ inv.counted, informed inv.informed,
      drained_same inv.drained (by rw [driver]) (by rw [driver]) (by rw [driver]) pending,
      by rw [driver, booting]; exact inv.flag, by rw [driver]; exact inv.stored⟩

theorem station_invariant {s : Station} (reached : Reaches stationMachine Prompt s) :
    StationInvariant s :=
  reached.invariant StationInvariant station_invariant_start
    fun _ _ _ inv prompt moved => station_invariant_next inv prompt moved

/-! Where nothing moves. -/

theorem halted_quiet {s : Station} (halted : Halted s) : Quiet s := by
  have none_ : ∀ own, (∀ received, own ≠ .exchange received) → own ≠ .interrupt →
      StationAct.outside (.driver own) = false → s.driver.next own = none := by
    intro own exchange interrupt inside
    have refused := halted (.driver own) inside
    cases own with
    | exchange received => exact absurd rfl (exchange received)
    | interrupt => exact absurd rfl interrupt
    | _ => exact Option.map_eq_none_iff.mp refused
  have spi : s.driver.spiNext = none := none_ .spi (by simp) (by simp) rfl
  have process := none_ (.process fun _ => default) (by simp) (by simp) rfl
  have exchange := none_ (.exchangeFails 1) (by simp) (by simp) rfl
  have xmit : s.driver.xmitNext true = none := none_ (.xmit true) (by simp) (by simp) rfl
  have wakes := none_ .interruptWake (by simp) (by simp) rfl
  have boot : s.bootNext = none := halted .boot rfl
  have isr : s.next .isr = none := halted .isr rfl
  have handled : s.driver.isrWaking = false := by simpa [Driver.next] using wakes
  refine ⟨?_, ?_, handled, ?_, ?_⟩
  · cases pc : s.driver.spi with
    | sleep => exact .inl ⟨pc, by simpa [Driver.spiNext, pc] using spi⟩
    | ended ret => exact .inr ⟨ret, rfl⟩
    | transfer len => simp [Driver.next, pc] at exchange
    | process len =>
        simp only [Driver.next, Driver.processNext, pc] at process
        split at process <;> [skip; split at process] <;> simp at process
    | testInt len =>
        simp only [Driver.spiNext, pc] at spi
        split at spi <;> [skip; split at spi] <;> simp at spi
    | clearInt len =>
        simp only [Driver.spiNext, pc] at spi
        split at spi <;> simp at spi
    | _ => simp [Driver.spiNext, pc] at spi
  · cases pc : s.driver.xmit with
    | idle => rfl
    | _ => simp [Driver.xmitNext, pc] at xmit
  · cases booting : s.booting with
    | done => rfl
    | _ => simp [Station.bootNext, booting] at boot
  · simpa [Station.next, Driver.next, handled] using isr

theorem quiet_halted {s : Station} (quiet : Quiet s) : Halted s := by
  have refused : ∀ own, own = .spi ∨ (∃ ret, own = .exchangeFails ret) ∨
      (∃ io, own = .process io) → s.driver.next own = none := by
    rcases quiet.asleep with ⟨pc, unwoken⟩ | ⟨ret, pc⟩
    · rintro own (rfl | ⟨ret, rfl⟩ | ⟨io, rfl⟩) <;>
        simp [Driver.next, Driver.spiNext, Driver.processNext, pc, unwoken]
    · rintro own (rfl | ⟨ret, rfl⟩ | ⟨io, rfl⟩) <;>
        simp [Driver.next, Driver.spiNext, Driver.processNext, pc]
  intro act inside
  cases act with
  | driver own =>
      cases own with
      | exchange | interrupt => rfl
      | offer => simp [StationAct.outside] at inside
      | xmit linearized =>
          simp [stationMachine, Station.next, Driver.next, Driver.xmitNext, quiet.xmitIdle]
      | interruptWake => simp [stationMachine, Station.next, Driver.next, quiet.handled]
      | _ => exact Option.map_eq_none_iff.mpr (refused _ (by simp))
  | boot => simp [stationMachine, Station.next, Station.bootNext, quiet.booted]
  | isr => simp [stationMachine, Station.next, quiet.noEdge]
  | exchange answers =>
      rcases quiet.asleep with ⟨pc, _⟩ | ⟨ret, pc⟩
      · simp [stationMachine, Station.next, Station.exchangeNext, pc]
      · simp [stationMachine, Station.next, Station.exchangeNext, pc]
  | arrive | freed | event => simp [StationAct.outside] at inside

/-- If nothing moves, the SPI thread has given up, or nothing is left: the MAC-PHY holds no
received chunk, and no buffer for a frame that the driver has. -/
theorem station_halts_done {s : Station} (reached : Reaches stationMachine Prompt s)
    (halted : Halted s) : (∃ ret, s.driver.spi = .ended ret) ∨
      s.macPhy.queued = 0 ∧ (s.macPhy.free = 0 ∨
        s.driver.tc6.tx.ongoingTxSkb = none ∧ s.driver.tc6.tx.waitingTxSkb = none) := by
  have inv := station_invariant reached
  have quiet := halted_quiet halted
  rcases quiet.asleep with ⟨pc, unwoken⟩ | ended
  · right
    have unflagged : s.driver.tc6.intFlag = false := by
      by_contra flagged
      have announced := inv.flag (by rw [pc]; rfl) (by simpa using flagged)
      simp [unwoken, quiet.handled, quiet.booted] at announced
    have untold : ¬ s.Pending := by
      simp [Station.Pending, quiet.noEdge, unflagged, quiet.booted]
    have upToDate : UpToDate s := by
      rcases inv.informed with told | serving | upToDate
      · exact absurd told untold
      · simp [pc, SpiPc.serving] at serving
      · exact upToDate
    have drained : Emptied ⟨s.driver, [.returns]⟩ := inv.drained.resolve_right (absurd ·.1 untold)
    obtain ⟨received, room⟩ := upToDate.known (by simp [pc])
    obtain ⟨available, done⟩ := drained.returned (by simp) (by rw [pc]; rfl)
    refine ⟨received available, ?_⟩
    by_cases credits : s.driver.tc6.rx.txCredits = 0
    · exact .inl (room credits)
    · refine .inr ⟨done.resolve_left credits, ?_⟩
      by_contra waiting
      have announced := inv.stored pc credits waiting
      simp [unwoken, quiet.xmitIdle] at announced
  · exact .inl ended

section Samples

instance (d : Driver) : Decidable d.Blocked := inferInstanceAs (Decidable (_ ∧ _))

instance : (pc : XmitPc) → Decidable (pc = .idle)
  | .idle => isTrue rfl
  | .test _ _ | .stop | .linearize _ _ | .store _ _ | .wake => isFalse (by simp)

/-- Two buffers are free; the line has been asserted since the reset. -/
def stationStart : Station := ⟨sampleStart 0x200#32, .setFlag, ⟨0, 2, true⟩, false⟩

theorem station_start : stationMachine.start stationStart :=
  ⟨sample_start _ _ (by decide) (by decide), rfl, rfl⟩

/-- The thread sleeps until `oa_tc6_init` sets the flag; one empty chunk deasserts the line. -/
def lineFreed : List StationAct :=
  List.replicate 3 (.driver .spi) ++ [.boot, .boot] ++ List.replicate 7 (.driver .spi) ++
    [.exchange [⟨answer 0x20000004#32, 0, 0⟩], .driver (.process fun _ => default)] ++
    List.replicate 8 (.driver .spi)

/-- A frame comes in with one chunk: the line falls, an empty chunk shows the frame, and the
next transfer brings it. -/
def chunkFetched : Station :=
  stationMachine.after stationStart (lineFreed ++ [.arrive 1, .isr, .driver .interruptWake] ++
    List.replicate 7 (.driver .spi) ++
    [.exchange [⟨answer 0x21000004#32, 0, 0⟩], .driver (.process fun _ => default)] ++
    List.replicate 5 (.driver .spi) ++
    [.exchange [⟨answer 0x20307F04#32, 0, 0⟩], .driver (.process fun _ => default)] ++
    List.replicate 8 (.driver .spi))

theorem chunk_fetched_quiet : Quiet chunkFetched :=
  ⟨.inl (by decide +kernel), by decide +kernel, by decide +kernel, by decide +kernel,
    by decide +kernel⟩

theorem station_halts_done_sample : (∃ ret, chunkFetched.driver.spi = .ended ret) ∨
    chunkFetched.macPhy.queued = 0 ∧ (chunkFetched.macPhy.free = 0 ∨
      chunkFetched.driver.tc6.tx.ongoingTxSkb = none ∧
        chunkFetched.driver.tc6.tx.waitingTxSkb = none) :=
  station_halts_done (reaches_after station_start _ (by decide +kernel))
    (quiet_halted chunk_fetched_quiet)

/-- A chunk comes in while two are sent. The first footer reports an overflow and asks for
the retry; the second, which shows the chunk, is not looked at. -/
def chunkOverlooked : Station :=
  stationMachine.after stationStart (lineFreed ++
    .driver (.offer (sampleSkb 1 120 (by decide) (by decide)) 0) ::
    List.replicate 4 (.driver (.xmit true)) ++ List.replicate 11 (.driver .spi) ++
    [.exchange [⟨answer 0xA0000004#32, 0, 1⟩, ⟨answer 0x21000004#32, 1, 1⟩],
      .driver (.process fun _ => overflowIo)] ++ List.replicate 6 (.driver .spi))

example : Reaches stationMachine anyStep chunkOverlooked ∧ Halted chunkOverlooked ∧
    chunkOverlooked.macPhy.queued = 1 :=
  ⟨reaches_after station_start _ (allowed_any _ _ _), quiet_halted
    ⟨.inl (by decide +kernel), by decide +kernel, by decide +kernel, by decide +kernel,
      by decide +kernel⟩, by decide +kernel⟩

end Samples

end Lan865x.OaTc6
