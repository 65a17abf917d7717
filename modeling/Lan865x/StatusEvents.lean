import Lan865x.Transition
import Lan865x.StickyBits
import Lan865x.ReceiveTransfer
import Lan865x.PtpThread

/-!
STATUS0 between its two readers. `oa_tc6_process_extended_status` and the loop
of `lan865x_ptp_thread_handler` each read the register, and write back the whole
word they read. A step is one register access, with the local work that follows
it, or an event on the device.
-/

namespace Lan865x.OaTc6
open Transition StickyBits

def isStamp (bit : Nat) : Bool :=
  bit == stampBit timestampIdGptp || bit == stampBit timestampIdNormal

def isError (bit : Nat) : Bool :=
  bit == status0RxBufferOverflowError.lo || isFatal bit
where
  isFatal (bit : Nat) : Bool := bit == status0TxProtocolError.lo ||
    bit == status0LossOfFrameError.lo || bit == status0HeaderError.lo

/-- A write of STATUS0: who wrote, what it had read, what it met, and where the
PTP thread was in its round. -/
structure StatusWrite where
  bySpi : Bool
  seen : List Event
  pending : List Event
  ptpSeen : List Event
  ptpTodo : List PtpStep

structure StatusState where
  pending : List Event
  serial : Nat
  rx : RxState
  spiSeen : Option (List Event)
  spiEnded : Bool
  ptpSeen : List Event
  ptpTodo : List PtpStep
  acted : List Event
  reported : List Event
  lost : List Event
  writes : List StatusWrite

inductive StatusAct where
  | raise (bit : Nat)
  | spiRead
  | spiWrite
  | ptpRead
  | ptpNext

/-- The error bits that the code returned by `oa_tc6_process_extended_status`
acts on. -/
def actsOn (ret : Int) (bit : Nat) : Bool :=
  if ret = -eagain then bit == status0RxBufferOverflowError.lo
  else if ret = -enodev then isError.isFatal bit
  else false

/-- A timestamp event is done with when it was reported, an error event when it
was acted on; the other bits are nobody's. -/
def handled (reported acted : List Event) (event : Event) : Bool :=
  (!isStamp event.bit || event ∈ reported) && (!isError event.bit || event ∈ acted)

def StatusState.spiWrite (s : StatusState) (seen : List Event) : StatusState :=
  -- What is acted on follows from the word read; what is cleared, from the register now.
  let (ret, rx) := processExtendedStatus s.rx ⟨.ok (word seen), 0, true, 0⟩
  let acted := s.acted ++ seen.filter fun event => actsOn ret event.bit
  { s with
    pending := left (word seen) s.pending
    rx := rx
    spiSeen := none
    spiEnded := ret ≠ 0 ∧ ret ≠ -eagain
    acted := acted
    lost := s.lost ++ (cleared (word seen) s.pending).filter fun event =>
      !handled s.reported acted event
    writes := s.writes ++ [⟨true, seen, s.pending, s.ptpSeen, s.ptpTodo⟩] }

def StatusState.ptpWrite (s : StatusState) : StatusState :=
  { s with
    pending := left (word s.ptpSeen) s.pending
    lost := s.lost ++ (cleared (word s.ptpSeen) s.pending).filter fun event =>
      !handled s.reported s.acted event
    writes := s.writes ++ [⟨false, s.ptpSeen, s.pending, s.ptpSeen, s.ptpTodo⟩] }

def StatusState.next (s : StatusState) : StatusAct → Option StatusState
  | .raise bit =>
      if bit < 32 then
        some { s with pending := s.pending ++ [⟨bit, s.serial⟩], serial := s.serial + 1 }
      else none
  | .spiRead =>
      if s.spiSeen = none ∧ s.spiEnded = false then some { s with spiSeen := some s.pending }
      else none
  | .spiWrite => s.spiSeen.map s.spiWrite
  | .ptpRead =>
      if s.ptpTodo = [] then
        some { s with ptpSeen := s.pending, ptpTodo := ptpRound (word s.pending) }
      else none
  | .ptpNext => match s.ptpTodo with
      | [] => none
      | .high _ :: todo => some { s with ptpTodo := todo }
      | .low _ :: todo => some { s with ptpTodo := todo }
      -- One call reports all events behind the bit that was read.
      | .report id :: todo => some { s with
          ptpTodo := todo
          reported := s.reported ++ s.ptpSeen.filter fun event => event.bit == stampBit id }
      | .writeBack :: todo => some { s.ptpWrite with ptpTodo := todo }

def startStatus (rx : RxState) : StatusState where
  pending := []
  serial := 0
  rx := rx
  spiSeen := none
  spiEnded := false
  ptpSeen := []
  ptpTodo := []
  acted := []
  reported := []
  lost := []
  writes := []

def statusMachine : Machine StatusState StatusAct where
  start s := ∃ rx, s = startStatus rx
  next := StatusState.next

theorem start_status (rx : RxState) : statusMachine.start (startStatus rx) := ⟨rx, rfl⟩

/-- The PTP thread has read the event in this round and is past its report, with
the write still ahead. -/
def PastReport (ptpSeen : List Event) (ptpTodo : List PtpStep) (event : Event) : Prop :=
  event ∈ ptpSeen ∧ .writeBack ∈ ptpTodo ∧ ∀ id, .report id ∈ ptpTodo → event.bit ≠ stampBit id

/-- The SPI thread meets a timestamp event only between its report and the write
of the PTP thread, and an error event only if it has read it, not next to an
overflow unless it is one. The PTP thread meets no timestamp event that it has
not read, and no error event. -/
def StatusWrite.Spares (write : StatusWrite) : Prop :=
  ∀ event ∈ write.pending, (word write.seen).getLsbD event.bit = true →
    if write.bySpi then
      (isStamp event.bit = true → PastReport write.ptpSeen write.ptpTodo event) ∧
        (isError event.bit = true → event ∈ write.seen ∧
          (event.bit = status0RxBufferOverflowError.lo ∨
            (word write.seen).getLsbD status0RxBufferOverflowError.lo = false))
    else (isStamp event.bit = true → event ∈ write.seen) ∧ isError event.bit = false

theorem round_reports (status : BitVec 32) (bit : Nat) (stamp : isStamp bit = true)
    (set : status.getLsbD bit = true) :
    ∃ id, bit = stampBit id ∧ PtpStep.report id ∈ ptpRound status := by
  have cases : bit = stampBit timestampIdGptp ∨ bit = stampBit timestampIdNormal := by
    simpa [isStamp] using stamp
  rcases cases with rfl | rfl
  · exact ⟨_, rfl, by simp [ptpRound, ifStamp, set]⟩
  · exact ⟨_, rfl, by simp [ptpRound, ifStamp, set]⟩

theorem round_reports_once (status : BitVec 32) (done todo : List PtpStep) (id : Nat)
    (split : ptpRound status = done ++ .report id :: todo) : .report id ∉ todo := by
  have once := (round_left status).once
  rw [split, List.nodup_append] at once
  exact (List.nodup_cons.mp once.2.1).1

/-- Every event known to anyone is older than the next one. -/
def Known (s : StatusState) (events : List Event) : Prop :=
  ∀ event ∈ events, event.bit < 32 ∧ event.serial < s.serial

structure StatusInvariant (s : StatusState) : Prop where
  knownPending : Known s s.pending
  knownSpi : ∀ seen, s.spiSeen = some seen → Known s seen
  knownPtp : Known s s.ptpSeen
  knownActed : Known s s.acted
  knownReported : Known s s.reported
  /-- What was acted on has been cleared. -/
  actedGone : ∀ event ∈ s.acted, event ∉ s.pending
  /-- What was reported is cleared by the end of its round. -/
  reportedPast : ∀ event ∈ s.reported, event ∈ s.pending → PastReport s.ptpSeen s.ptpTodo event
  round : ∃ done, ptpRound (word s.ptpSeen) = done ++ s.ptpTodo ∧
    ∀ id, .report id ∈ done → ∀ event ∈ s.ptpSeen, event.bit = stampBit id → event ∈ s.reported

theorem invariant_start (rx : RxState) : StatusInvariant (startStatus rx) where
  knownPending := by simp [Known, startStatus]
  knownSpi := by simp [startStatus]
  knownPtp := by simp [Known, startStatus]
  knownActed := by simp [Known, startStatus]
  knownReported := by simp [Known, startStatus]
  actedGone := by simp [startStatus]
  reportedPast := by simp [startStatus]
  round := ⟨[], (by decide : ptpRound 0#32 = []), by simp [startStatus]⟩

theorem known_later {s : StatusState} {events : List Event} (known : Known s events)
    (event : Event) (member : event ∈ events) :
    event.bit < 32 ∧ event.serial < s.serial + 1 :=
  ⟨(known event member).1, Nat.lt_succ_of_lt (known event member).2⟩

theorem invariant_raise (s : StatusState) (inv : StatusInvariant s) (bit : Nat)
    (inside : bit < 32) :
    StatusInvariant { s with
      pending := s.pending ++ [⟨bit, s.serial⟩]
      serial := s.serial + 1 } where
  knownPending := List.forall_mem_append.mpr ⟨known_later inv.knownPending,
    List.forall_mem_singleton.mpr ⟨inside, Nat.lt_succ_self _⟩⟩
  knownSpi seen held := known_later (inv.knownSpi seen held)
  knownPtp := known_later inv.knownPtp
  knownActed := known_later inv.knownActed
  knownReported := known_later inv.knownReported
  actedGone event acted pending := by
    rcases List.mem_append.mp pending with old | new
    · exact inv.actedGone event acted old
    · have older := (inv.knownActed event acted).2
      rw [List.mem_singleton.mp new] at older
      exact absurd older (Nat.lt_irrefl _)
  reportedPast event reported pending := by
    rcases List.mem_append.mp pending with old | new
    · exact inv.reportedPast event reported old
    · have older := (inv.knownReported event reported).2
      rw [List.mem_singleton.mp new] at older
      exact absurd older (Nat.lt_irrefl _)
  round := inv.round

theorem known_left {s : StatusState} {events : List Event} (known : Known s events)
    (value : BitVec 32) : Known s (left value events) :=
  fun event member => known event (left_iff value events event |>.mp member).1

theorem seen_set {s : StatusState} {events : List Event} (known : Known s events) (event : Event)
    (member : event ∈ events) : (word events).getLsbD event.bit = true :=
  word_bit_of_mem events event member (known event member).1

theorem invariant_spi_write (s : StatusState) (inv : StatusInvariant s) (seen : List Event)
    (held : s.spiSeen = some seen) : StatusInvariant (s.spiWrite seen) where
  knownPending := known_left inv.knownPending _
  knownSpi := by simp [StatusState.spiWrite]
  knownPtp := inv.knownPtp
  knownActed := List.forall_mem_append.mpr ⟨inv.knownActed, fun event member =>
    inv.knownSpi seen held event (List.mem_filter.mp member).1⟩
  knownReported := inv.knownReported
  actedGone event acted pending := by
    obtain ⟨there, clear⟩ := (left_iff _ _ _).mp pending
    rcases List.mem_append.mp acted with old | new
    · exact inv.actedGone event old there
    · have set := seen_set (inv.knownSpi seen held) event (List.mem_filter.mp new).1
      exact absurd (set.symm.trans clear) (by simp)
  reportedPast event reported pending :=
    inv.reportedPast event reported ((left_iff _ _ _).mp pending).1
  round := inv.round

theorem invariant_ptp_read (s : StatusState) (inv : StatusInvariant s)
    (between : s.ptpTodo = []) :
    StatusInvariant { s with ptpSeen := s.pending, ptpTodo := ptpRound (word s.pending) } where
  knownPending := inv.knownPending
  knownSpi := inv.knownSpi
  knownPtp := inv.knownPending
  knownActed := inv.knownActed
  knownReported := inv.knownReported
  actedGone := inv.actedGone
  reportedPast event reported pending :=
    absurd (inv.reportedPast event reported pending).2.1 (by simp [between])
  round := ⟨[], by simp, by simp⟩

/-- Half of a timestamp is read. -/
theorem invariant_ptp_half (s : StatusState) (inv : StatusInvariant s) (step : PtpStep)
    (todo : List PtpStep) (next : s.ptpTodo = step :: todo) (half : step.isHalf = true) :
    StatusInvariant { s with ptpTodo := todo } := by
  obtain ⟨done, split, reported⟩ := inv.round
  rw [next] at split
  refine ⟨inv.knownPending, inv.knownSpi, inv.knownPtp, inv.knownActed, inv.knownReported,
    inv.actedGone, fun event member pending => ?_, done ++ [step], by simp [split], ?_⟩
  · obtain ⟨seen, ahead, past⟩ := inv.reportedPast event member pending
    rw [next] at ahead past
    rcases List.mem_cons.mp ahead with rfl | later
    · exact absurd half (by simp [PtpStep.isHalf])
    · exact ⟨seen, later, fun id waits => past id (List.mem_cons_of_mem _ waits)⟩
  · intro other member
    rcases List.mem_append.mp member with earlier | here
    · exact reported other earlier
    · rw [← List.mem_singleton.mp here] at half
      exact absurd half (by simp [PtpStep.isHalf])

theorem invariant_ptp_report (s : StatusState) (inv : StatusInvariant s) (id : Nat)
    (todo : List PtpStep) (next : s.ptpTodo = .report id :: todo) :
    StatusInvariant { s with
      ptpTodo := todo
      reported := s.reported ++ s.ptpSeen.filter fun event => event.bit == stampBit id } := by
  obtain ⟨done, split, reported⟩ := inv.round
  rw [next] at split
  refine ⟨inv.knownPending, inv.knownSpi, inv.knownPtp, inv.knownActed, ?_, inv.actedGone,
    fun event member pending => ?_, done ++ [.report id], by simp [split], ?_⟩
  · exact List.forall_mem_append.mpr ⟨inv.knownReported, fun event member =>
      inv.knownPtp event (List.mem_filter.mp member).1⟩
  · rcases List.mem_append.mp member with old | new
    · obtain ⟨seen, ahead, past⟩ := inv.reportedPast event old pending
      rw [next] at ahead past
      exact ⟨seen, by simpa using ahead,
        fun other waits => past other (List.mem_cons_of_mem _ waits)⟩
    · obtain ⟨seen, bit⟩ := List.mem_filter.mp new
      refine ⟨seen, round_write_ahead _ done todo id split, fun other waits same => ?_⟩
      obtain rfl : other = id := stamp_bit_inj (same.symm.trans (by simpa using bit))
      exact round_reports_once _ done todo other split waits
  · intro other member event seen bit
    rcases List.mem_append.mp member with earlier | here
    · exact List.mem_append_left _ (reported other earlier event seen bit)
    · have same : other = id := by simpa using here
      exact List.mem_append_right _ (List.mem_filter.mpr ⟨seen, by simp [bit, same]⟩)

/-- A pending timestamp event has been reported exactly when the PTP thread is
past its report. -/
theorem reported_iff (s : StatusState) (inv : StatusInvariant s) (event : Event)
    (pending : event ∈ s.pending) (stamp : isStamp event.bit = true) :
    event ∈ s.reported ↔ PastReport s.ptpSeen s.ptpTodo event := by
  constructor
  · intro reported
    exact inv.reportedPast event reported pending
  · rintro ⟨seen, _, past⟩
    obtain ⟨done, split, reported⟩ := inv.round
    obtain ⟨id, bit, member⟩ :=
      round_reports _ event.bit stamp (seen_set inv.knownPtp event seen)
    rw [split] at member
    rcases List.mem_append.mp member with earlier | later
    · exact reported id earlier event seen bit
    · exact absurd bit (past id later)

/-- When the PTP thread writes, it is past every report of its round. -/
theorem write_past_report (s : StatusState) (inv : StatusInvariant s) (todo : List PtpStep)
    (next : s.ptpTodo = .writeBack :: todo) (event : Event) :
    PastReport s.ptpSeen s.ptpTodo event ↔ event ∈ s.ptpSeen := by
  obtain ⟨done, split, _⟩ := inv.round
  rw [next] at split
  have last := round_last _ done todo split
  subst last
  simp [PastReport, next]

theorem invariant_ptp_write (s : StatusState) (inv : StatusInvariant s) (todo : List PtpStep)
    (next : s.ptpTodo = .writeBack :: todo) :
    StatusInvariant { s.ptpWrite with ptpTodo := todo } := by
  obtain ⟨done, split, reported⟩ := inv.round
  rw [next] at split
  refine ⟨known_left inv.knownPending _, inv.knownSpi, inv.knownPtp, inv.knownActed,
    inv.knownReported, ?_, ?_, done ++ [.writeBack], ?_, ?_⟩
  · intro event acted pending
    exact inv.actedGone event acted ((left_iff _ _ _).mp pending).1
  · intro event member pending
    obtain ⟨there, clear⟩ := (left_iff _ _ _).mp pending
    have set := seen_set inv.knownPtp event (inv.reportedPast event member there).1
    exact absurd (set.symm.trans clear) (by simp)
  · simpa [StatusState.ptpWrite] using split
  · intro other member
    exact reported other (by simpa using member)

/-- The steps of the machine, one rule for each kind. -/
inductive StatusState.Moves (s : StatusState) : StatusAct → StatusState → Prop where
  | raise (bit : Nat) (inside : bit < 32) :
      s.Moves (.raise bit) { s with
        pending := s.pending ++ [⟨bit, s.serial⟩]
        serial := s.serial + 1 }
  | spiRead : s.Moves .spiRead { s with spiSeen := some s.pending }
  | spiWrite (seen : List Event) (held : s.spiSeen = some seen) :
      s.Moves .spiWrite (s.spiWrite seen)
  | ptpRead (between : s.ptpTodo = []) :
      s.Moves .ptpRead { s with ptpSeen := s.pending, ptpTodo := ptpRound (word s.pending) }
  | half (step : PtpStep) (todo : List PtpStep) (next : s.ptpTodo = step :: todo)
      (half : step.isHalf = true) : s.Moves .ptpNext { s with ptpTodo := todo }
  | report (id : Nat) (todo : List PtpStep) (next : s.ptpTodo = .report id :: todo) :
      s.Moves .ptpNext { s with
        ptpTodo := todo
        reported := s.reported ++ s.ptpSeen.filter fun event => event.bit == stampBit id }
  | writeBack (todo : List PtpStep) (next : s.ptpTodo = .writeBack :: todo) :
      s.Moves .ptpNext { s.ptpWrite with ptpTodo := todo }

theorem status_moves (s after : StatusState) (act : StatusAct) (moved : s.next act = some after) :
    s.Moves act after := by
  cases act with
  | raise bit =>
      simp only [StatusState.next, Option.ite_none_right_eq_some, Option.some.injEq] at moved
      exact moved.2 ▸ .raise bit moved.1
  | spiRead =>
      simp only [StatusState.next, Option.ite_none_right_eq_some, Option.some.injEq] at moved
      exact moved.2 ▸ .spiRead
  | spiWrite =>
      obtain ⟨seen, held, written⟩ := Option.map_eq_some_iff.mp moved
      exact written ▸ .spiWrite seen held
  | ptpRead =>
      simp only [StatusState.next, Option.ite_none_right_eq_some, Option.some.injEq] at moved
      exact moved.2 ▸ .ptpRead moved.1
  | ptpNext =>
      cases next : s.ptpTodo with
      | nil => simp [StatusState.next, next] at moved
      | cons step todo =>
          cases step with
          | high id =>
              simp only [StatusState.next, next, Option.some.injEq] at moved
              exact moved ▸ .half (.high id) todo next rfl
          | low id =>
              simp only [StatusState.next, next, Option.some.injEq] at moved
              exact moved ▸ .half (.low id) todo next rfl
          | report id =>
              simp only [StatusState.next, next, Option.some.injEq] at moved
              exact moved ▸ .report id todo next
          | writeBack =>
              simp only [StatusState.next, next, Option.some.injEq] at moved
              exact moved ▸ .writeBack todo next

theorem status_invariant {ok : StatusState → StatusAct → Prop} {s : StatusState}
    (reached : Reaches statusMachine ok s) : StatusInvariant s := by
  apply reached.invariant StatusInvariant
  · rintro s ⟨rx, rfl⟩
    exact invariant_start rx
  · intro s act after inv _ moved
    cases status_moves s after act moved with
    | raise bit inside => exact invariant_raise s inv bit inside
    | spiRead =>
        refine ⟨inv.knownPending, fun seen held => ?_, inv.knownPtp, inv.knownActed,
          inv.knownReported, inv.actedGone, inv.reportedPast, inv.round⟩
        obtain rfl := Option.some.inj held
        exact inv.knownPending
    | spiWrite seen held => exact invariant_spi_write s inv seen held
    | ptpRead between => exact invariant_ptp_read s inv between
    | half step todo next half => exact invariant_ptp_half s inv step todo next half
    | report id todo next => exact invariant_ptp_report s inv id todo next
    | writeBack todo next => exact invariant_ptp_write s inv todo next

/-- What `oa_tc6_process_extended_status` returns for the word it has read. -/
theorem extended_status_ret (rx : RxState) (value : BitVec 32) :
    (processExtendedStatus rx ⟨.ok value, 0, true, 0⟩).1 =
      if value.getLsbD status0RxBufferOverflowError.lo then -eagain
      else if value.getLsbD status0TxProtocolError.lo ||
        value.getLsbD status0LossOfFrameError.lo || value.getLsbD status0HeaderError.lo then -enodev
      else 0 := by
  have overflow : flag status0RxBufferOverflowError value =
      value.getLsbD status0RxBufferOverflowError.lo := flag_bit 3 value
  have protocol : flag status0TxProtocolError value = value.getLsbD status0TxProtocolError.lo :=
    flag_bit 0 value
  have frame : flag status0LossOfFrameError value = value.getLsbD status0LossOfFrameError.lo :=
    flag_bit 4 value
  have header : flag status0HeaderError value = value.getLsbD status0HeaderError.lo :=
    flag_bit 5 value
  simp [status_error, statusRet, overflow, protocol, frame, header]

theorem fatal_cases (bit : Nat) : isError.isFatal bit = true ↔
    bit = status0TxProtocolError.lo ∨ bit = status0LossOfFrameError.lo ∨
      bit = status0HeaderError.lo := by
  simp [isError.isFatal, or_assoc]

/-- An error bit of the word is acted on unless the overflow comes before it. -/
theorem acts_on_iff (rx : RxState) (value : BitVec 32) (bit : Nat) (error : isError bit = true)
    (set : value.getLsbD bit = true) :
    actsOn (processExtendedStatus rx ⟨.ok value, 0, true, 0⟩).1 bit = true ↔
      bit = status0RxBufferOverflowError.lo ∨
        value.getLsbD status0RxBufferOverflowError.lo = false := by
  have apart : ¬ (-enodev : Int) = -eagain := enodev_fails.2
  rw [extended_status_ret]
  cases overflow : value.getLsbD status0RxBufferOverflowError.lo with
  | true => simp [actsOn]
  | false =>
      have fatal : isError.isFatal bit = true := by
        have cases : bit = status0RxBufferOverflowError.lo ∨ isError.isFatal bit = true := by
          simpa [isError] using error
        rcases cases with rfl | fatal
        · rw [overflow] at set
          exact absurd set (by simp)
        · exact fatal
      have some_ : (value.getLsbD status0TxProtocolError.lo ||
          value.getLsbD status0LossOfFrameError.lo ||
          value.getLsbD status0HeaderError.lo) = true := by
        rcases (fatal_cases bit).mp fatal with rfl | rfl | rfl <;> simp [set]
      simp [actsOn, some_, apart, fatal]

/-- A write loses nothing exactly when it spares what is not done with. -/
theorem spi_write_spares (s : StatusState) (inv : StatusInvariant s) (seen : List Event) :
    ((s.spiWrite seen).lost = s.lost) ↔
      StatusWrite.Spares ⟨true, seen, s.pending, s.ptpSeen, s.ptpTodo⟩ := by
  simp only [StatusState.spiWrite, List.append_right_eq_self, List.filter_eq_nil_iff, cleared_iff,
    StatusWrite.Spares, if_true, and_imp]
  refine forall_congr' fun event => forall_congr' fun pending => forall_congr' fun set => ?_
  have notActed : event ∉ s.acted := fun acted => inv.actedGone event acted pending
  have past := reported_iff s inv event pending
  cases stamp : isStamp event.bit <;> cases error : isError event.bit
  · simp [handled, stamp, error]
  · have acts := acts_on_iff s.rx (word seen) event.bit error set
    simp [handled, stamp, error, notActed, ← acts]
  · simp [handled, stamp, error, past stamp]
  · have acts := acts_on_iff s.rx (word seen) event.bit error set
    simp [handled, stamp, error, notActed, ← acts, past stamp]

theorem ptp_write_spares (s : StatusState) (inv : StatusInvariant s) (todo : List PtpStep)
    (next : s.ptpTodo = .writeBack :: todo) :
    (s.ptpWrite.lost = s.lost) ↔
      StatusWrite.Spares ⟨false, s.ptpSeen, s.pending, s.ptpSeen, s.ptpTodo⟩ := by
  simp only [StatusState.ptpWrite, List.append_right_eq_self, List.filter_eq_nil_iff, cleared_iff,
    StatusWrite.Spares, Bool.false_eq_true, if_false, and_imp]
  refine forall_congr' fun event => forall_congr' fun pending => forall_congr' fun set => ?_
  have notActed : event ∉ s.acted := fun acted => inv.actedGone event acted pending
  have seen : isStamp event.bit = true → (event ∈ s.reported ↔ event ∈ s.ptpSeen) := fun stamp =>
    (reported_iff s inv event pending stamp).trans (write_past_report s inv todo next event)
  cases stamp : isStamp event.bit <;> cases error : isError event.bit
  · simp [handled, stamp, error]
  · simp [handled, stamp, error, notActed]
  · simp [handled, stamp, error, seen stamp]
  · simp [handled, stamp, error, notActed]

/-- No event is lost in a run exactly when every write of the run spares what
it meets. -/
theorem status_events_kept_iff {s : StatusState} (reached : Reaches statusMachine anyStep s) :
    s.lost = [] ↔ ∀ write ∈ s.writes, write.Spares := by
  have grow : ∀ {lost more : List Event}, lost ++ more = [] ↔ lost = [] ∧ lost ++ more = lost := by
    intro lost more
    simp [List.append_right_eq_self]
  -- Only the two writes add to either side.
  refine reached.strengthen StatusInvariant
    (fun s => s.lost = [] ↔ ∀ write ∈ s.writes, write.Spares)
    (fun s earlier => status_invariant earlier) ?_ ?_
  · rintro s ⟨rx, rfl⟩
    simp [startStatus]
  · intro s act after inv ih _ moved
    cases status_moves s after act moved with
    | spiWrite seen held =>
        have spares := spi_write_spares s inv seen
        simp only [StatusState.spiWrite] at spares ⊢
        rw [grow, ih, spares, List.forall_mem_append, List.forall_mem_singleton]
    | writeBack todo next =>
        have spares := ptp_write_spares s inv todo next
        simp only [StatusState.ptpWrite] at spares ⊢
        rw [grow, ih, spares, List.forall_mem_append, List.forall_mem_singleton]
    | _ => exact ih

section Samples

/-- A timestamp is captured; the SPI thread clears it with the word it read. -/
def stampCleared : StatusState :=
  statusMachine.after (startStatus (initRx 1500 0 fun _ => 0)) [.raise 8, .spiRead, .spiWrite]

theorem status_stamp_lost :
    ¬ ∀ s : StatusState, Reaches statusMachine anyStep s → s.lost = [] := by
  intro claimed
  have none : stampCleared.lost = [] :=
    claimed _ (reaches_after (start_status _) _ (allowed_any _ _ _))
  revert none
  decide +kernel

/-- An overflow and a timestamp, each cleared by its own thread. -/
def eachItsOwn : StatusState :=
  statusMachine.after (startStatus (initRx 1500 0 fun _ => 0))
    [.raise 3, .spiRead, .spiWrite, .raise 8, .ptpRead, .ptpNext, .ptpNext, .ptpNext, .ptpNext]

theorem status_events_kept_sample :
    eachItsOwn.lost = [] ↔ ∀ write ∈ eachItsOwn.writes, write.Spares :=
  status_events_kept_iff (reaches_after (start_status _) _ (allowed_any _ _ _))

example : eachItsOwn.pending = [] ∧ eachItsOwn.lost = [] := by decide +kernel

end Samples

end Lan865x.OaTc6
