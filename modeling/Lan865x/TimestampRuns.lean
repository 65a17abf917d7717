import Mathlib.Data.List.Nodup
import Lan865x.Segmentation
import Lan865x.PtpThread

/-!
Which frame a transmit timestamp is reported for. `lan865x_send_packet`, the
transmit path, the MAC-PHY and the PTP thread take their steps in any order. The
MAC-PHY sends the frames it has been given one after another; a frame that asks
for it has its send time captured, and the status bit set, in one step. What
the SPI thread writes to STATUS0 may clear any bits at any time.
-/

namespace Lan865x.OaTc6
open Framing Transition

/-- A send time: of which skb, and of which frame on the network. -/
structure Capture where
  frame : Nat
  serial : Nat
  deriving DecidableEq

/-- One call of `skb_tstamp_tx`: where the halves of the timestamp come from, and
whose clone is passed. -/
structure StampReport where
  high : Option Capture
  low : Option Capture
  clone : Option Nat
  deriving DecidableEq

structure Stamping where
  driver : Driver
  priv : Lan865xPriv
  sent : Nat
  register : Nat → Option Capture
  status0 : BitVec 32
  seen : BitVec 32
  todo : List PtpStep
  high : Option Capture
  low : Option Capture
  reports : List StampReport

inductive StampAct where
  | driver (act : DriverAct)
  | send (call : SendCall)
  | frameSent
  | spiClears (value : BitVec 32)
  | ptpRead
  | ptpNext

/-- The TSC that a frame carries. -/
def requested (frame : List TxPiece) : Nat := (frame.map TxPiece.tsc).foldr max 0

def Stamping.capture (s : Stamping) (id frame : Nat) : Stamping :=
  { s with
    sent := s.sent + 1
    register := Function.update s.register id (some ⟨frame, s.sent⟩)
    status0 := s.status0 ||| BitVec.twoPow 32 (stampBit id) }

/-- The next frame on the wire, with the skb that it was accepted as. -/
def Stamping.frameSent (s : Stamping) : Option Stamping :=
  (decodeTx s.driver.wire).bind fun assembly => assembly.done[s.sent]?.bind fun frame =>
    s.driver.accepted[s.sent]?.map fun skb =>
      -- A frame with TSC=0 goes out unnoticed.
      if requested frame = timestampIdNone then { s with sent := s.sent + 1 }
      else s.capture (requested frame) skb.1.id

/-- An skb that was accepted is not sent again; `tx_type` is ON. -/
def Stamping.send (s : Stamping) (call : SendCall) : Option Stamping :=
  if call.txType = hwtstampTxOn ∧ ∀ skb ∈ s.driver.accepted, skb.1.id ≠ call.skb.id then
    -- The clone stays in its slot although the frame may be refused.
    match lan865xSendPacket s.priv call with
    | (none, priv) => some { s with priv := priv }
    | (some tsCaptureMode, priv) =>
        (s.driver.next (.offer call.skb tsCaptureMode)).map fun driver =>
          { s with driver := driver, priv := priv }
  else none

def Stamping.ptpNext (s : Stamping) : Option Stamping :=
  match s.todo with
  | [] => none
  | .high id :: todo => some { s with todo := todo, high := s.register id }
  | .low id :: todo => some { s with todo := todo, low := s.register id }
  | .report id :: todo => some { s with
      todo := todo
      reports := s.reports ++ [⟨s.high, s.low, s.priv.waitsFor id⟩]
      priv := ptpReport s.priv id }
  | .writeBack :: todo => some { s with todo := todo, status0 := s.status0 &&& ~~~s.seen }

def Stamping.next (s : Stamping) : StampAct → Option Stamping
  | .driver (.offer _ _) => none
  | .driver act => (s.driver.next act).map fun driver => { s with driver := driver }
  | .send call => s.send call
  | .frameSent => s.frameSent
  | .spiClears value => some { s with status0 := s.status0 &&& ~~~value }
  | .ptpRead =>
      if s.todo = [] then some { s with seen := s.status0, todo := ptpRound s.status0 } else none
  | .ptpNext => s.ptpNext

def startStamping (driver : Driver) : Stamping where
  driver := driver
  priv := initPriv
  sent := 0
  register := fun _ => none
  status0 := 0#32
  seen := 0#32
  todo := []
  high := none
  low := none
  reports := []

def stampMachine : Machine Stamping StampAct where
  start s := ∃ driver, (driverMachine 255).start driver ∧ s = startStamping driver
  next := Stamping.next

/-- Each timestamp was passed with the clone of its own frame, and only once. -/
structure Attributed (s : Stamping) : Prop where
  own : ∀ report ∈ s.reports, ∃ capture, report.high = some capture ∧ report.low = some capture ∧
    report.clone = some capture.frame
  once : (s.reports.map StampReport.low).Nodup

/-- What stands in the registers of this id is still to be reported. -/
def Stamping.Due (s : Stamping) (id : Nat) : Prop :=
  .report id ∈ s.todo ∨ s.status0.getLsbD (stampBit id) = true ∧
    (s.todo = [] ∨ s.seen.getLsbD (stampBit id) = false)

/-- A timestamp of this id is still to come, or to be reported. -/
def Stamping.Awaited (s : Stamping) (id : Nat) : Prop :=
  (∃ skb ∈ s.driver.accepted.drop s.sent, skb.2 % 4 = id) ∨ s.Due id

/-- A clone is kept only while no other frame's timestamp is awaited in its slot,
and a frame without one does not come with the mode of a slot by accident. -/
def Unshared (s : Stamping) : StampAct → Prop
  | .send call =>
      if call.hwTstamp then
        call.cloned = true → ¬ s.Awaited
          (if isGptpPacket call.skb then timestampIdGptp else timestampIdNormal)
      else call.stack % 4 = timestampIdNone ∨ call.stack % 4 = timestampIdReserved
  | _ => True

instance (s : Stamping) (id : Nat) : Decidable (s.Due id) :=
  inferInstanceAs (Decidable (_ ∈ s.todo ∨ _ ∧ (_ ∨ _)))

instance (s : Stamping) (id : Nat) : Decidable (s.Awaited id) :=
  inferInstanceAs (Decidable ((∃ skb ∈ s.driver.accepted.drop s.sent, skb.2 % 4 = id) ∨ s.Due id))

instance (s : Stamping) : (act : StampAct) → Decidable (Unshared s act)
  | .send call => inferInstanceAs (Decidable (if call.hwTstamp then
      call.cloned = true → ¬ s.Awaited
        (if isGptpPacket call.skb then timestampIdGptp else timestampIdNormal)
      else call.stack % 4 = timestampIdNone ∨ call.stack % 4 = timestampIdReserved))
  | .driver _ | .frameSent | .spiClears _ | .ptpRead | .ptpNext => isTrue trivial

/-- The skb that `oa_tc6_start_xmit` is working on. -/
def XmitPc.carries : XmitPc → Option (Skb × Nat)
  | .test skb tsCaptureMode | .linearize skb tsCaptureMode | .store skb tsCaptureMode =>
      some (skb, tsCaptureMode)
  | _ => none

theorem xmit_moves (d after : Driver) (act : DriverAct) (moved : d.Moves act after)
    (notOffer : ∀ skb tsCaptureMode, act ≠ .offer skb tsCaptureMode) :
    (after.accepted = d.accepted ∧
      ∀ held, after.xmit.carries = some held → d.xmit.carries = some held) ∨
    ∃ held, d.xmit.carries = some held ∧ after.accepted = d.accepted ++ [held] ∧
      after.xmit.carries = none := by
  cases moved with
  | offer skb tsCaptureMode => exact absurd rfl (notOffer skb _)
  | store skb tsCaptureMode linearized pc =>
      exact Or.inr ⟨(skb, tsCaptureMode), by rw [pc]; rfl, rfl, rfl⟩
  | testFree skb tsCaptureMode linearized pc => exact Or.inl ⟨rfl, by simp [pc, XmitPc.carries]⟩
  | linearized skb tsCaptureMode pc => exact Or.inl ⟨rfl, by simp [pc, XmitPc.carries]⟩
  | testBusy => exact Or.inl ⟨rfl, by simp [XmitPc.carries]⟩
  | stop => exact Or.inl ⟨rfl, by simp [XmitPc.carries]⟩
  | linearizeFails => exact Or.inl ⟨rfl, by simp [XmitPc.carries]⟩
  | wake => exact Or.inl ⟨rfl, by simp [XmitPc.carries]⟩
  | _ => exact Or.inl ⟨rfl, fun _ => id⟩

theorem requested_carries (frame : List TxPiece) (sent : Skb × Nat) (carries : Carries frame sent) :
    requested frame = sent.2 % 4 := by
  obtain ⟨first, last, rfl, quiet, capture⟩ := carries.capture
  have zero : ∀ pieces : List TxPiece, (∀ piece ∈ pieces, piece.tsc = 0) → ∀ start,
      (pieces.map TxPiece.tsc).foldr max start = start := by
    intro pieces quiet start
    induction pieces with
    | nil => rfl
    | cons piece rest ih =>
        obtain ⟨here, later⟩ := List.forall_mem_cons.mp quiet
        rw [List.map_cons, List.foldr_cons, ih later, here]
        exact Nat.zero_max start
  rw [requested, List.map_append, List.foldr_append, zero first quiet]
  simpa using capture

/-- The frame that is sent is the accepted skb of the same number. -/
theorem sent_frame (d : Driver) (firstSent : FirstSent d) (assembly : Assembly TxPiece)
    (decoded : decodeTx d.wire = some assembly) (i : Nat) (frame : List TxPiece)
    (skb : Skb × Nat) (sent : assembly.done[i]? = some frame)
    (accepted : d.accepted[i]? = some skb) :
    requested frame = skb.2 % 4 := by
  obtain ⟨same, all, rest, read, carried, split⟩ := firstSent
  obtain rfl : assembly = same := Option.some.inj (decoded.symm.trans read)
  obtain ⟨inside, here⟩ := List.getElem?_eq_some_iff.mp sent
  have within : i < all.length := carried.length_eq ▸ inside
  rw [split, List.getElem?_append_left within, List.getElem?_eq_getElem within] at accepted
  have carries := (List.forall₂_iff_get.mp carried).2 i inside within
  rw [List.get_eq_getElem, List.get_eq_getElem, here, Option.some.inj accepted] at carries
  exact requested_carries frame skb carries

/-- The ids whose timestamps are reported. -/
def IsSlot (id : Nat) : Prop := id = timestampIdGptp ∨ id = timestampIdNormal

/-- The capture in the registers of this id waits to be reported, with the clone
of its frame in the slot. -/
structure Matched (s : Stamping) (id : Nat) (capture : Capture) (skb : Skb × Nat) : Prop where
  held : s.register id = some capture
  slot : s.priv.waitsFor id = some capture.frame
  past : capture.serial < s.sent
  accepted : s.driver.accepted[capture.serial]? = some skb
  frame : skb.1.id = capture.frame
  asked : skb.2 % 4 = id
  unreported : ∀ report ∈ s.reports, report.low ≠ some capture

structure StampInvariant (s : Stamping) : Prop where
  tracked : Tracked 255 s.driver
  round : RoundLeft s.seen s.todo
  distinct : (s.driver.accepted.map fun skb => skb.1.id).Nodup
  fresh : ∀ held, s.driver.xmit.carries = some held →
    ∀ skb ∈ s.driver.accepted, skb.1.id ≠ held.1.id
  carried : ∀ held, s.driver.xmit.carries = some held → IsSlot (held.2 % 4) →
    s.priv.waitsFor (held.2 % 4) = some held.1.id
  queued : ∀ skb ∈ s.driver.accepted.drop s.sent, IsSlot (skb.2 % 4) →
    s.priv.waitsFor (skb.2 % 4) = some skb.1.id
  due : ∀ id, IsSlot id → s.Due id → ∃ capture skb, Matched s id capture skb
  highRead : ∀ id rest, s.todo = .low id :: rest → .report id ∈ rest → s.high = s.register id
  bothRead : ∀ id rest, s.todo = .report id :: rest →
    s.high = s.register id ∧ s.low = s.register id
  older : ∀ report ∈ s.reports, ∀ capture, report.low = some capture → capture.serial < s.sent
  attributed : Attributed s

theorem stamp_invariant_start (driver : Driver) (starts : (driverMachine 255).start driver) :
    StampInvariant (startStamping driver) := by
  have tracked := tracked_init 255 driver starts
  obtain ⟨bufferStatus, mtu, rxFilter, rxBuffer, txBuffer, _, _, rfl⟩ := starts
  refine ⟨tracked, ⟨.nil, List.nodup_nil, Or.inl rfl, by simp [startStamping]⟩,
    List.nodup_nil, by simp [startStamping, initDriver], by simp [startStamping, initDriver,
    XmitPc.carries], by simp [startStamping, initDriver], ?_, by simp [startStamping],
    by simp [startStamping], by simp [startStamping], ⟨by simp [startStamping], List.nodup_nil⟩⟩
  intro id slot due
  simp [Stamping.Due, startStamping] at due

/-- Nothing but the driver has moved. -/
theorem stamp_driver (s : Stamping) (inv : StampInvariant s) (driver : Driver) (act : DriverAct)
    (moved : s.driver.Moves act driver)
    (notOffer : ∀ skb tsCaptureMode, act ≠ .offer skb tsCaptureMode) :
    StampInvariant { s with driver := driver } := by
  have tracked := tracked_moves 255 (by decide) (by decide) _ _ act inv.tracked moved
  rcases xmit_moves s.driver driver act moved notOffer with
    ⟨accepted, carries⟩ | ⟨held, carries, accepted, idle⟩
  · refine ⟨tracked, inv.round, accepted ▸ inv.distinct, ?_, fun held holds => ?_,
      accepted ▸ inv.queued, fun id slot due => ?_, inv.highRead, inv.bothRead, inv.older,
      ⟨inv.attributed.own, inv.attributed.once⟩⟩
    · exact accepted ▸ fun held holds => inv.fresh held (carries held holds)
    · exact inv.carried held (carries held holds)
    · obtain ⟨capture, skb, matched⟩ := inv.due id slot due
      exact ⟨capture, skb, matched.held, matched.slot, matched.past, accepted ▸ matched.accepted,
        matched.frame, matched.asked, matched.unreported⟩
  · refine ⟨tracked, inv.round, ?_, by simp [idle], by simp [idle], ?_, fun id slot due => ?_,
      inv.highRead, inv.bothRead, inv.older, ⟨inv.attributed.own, inv.attributed.once⟩⟩
    · rw [accepted, List.map_append, List.nodup_append]
      refine ⟨inv.distinct, by simp, fun id earlier other last => ?_⟩
      obtain ⟨skb, member, rfl⟩ := List.mem_map.mp earlier
      obtain rfl : other = held.1.id := by simpa using last
      exact inv.fresh held carries skb member
    · intro skb member slot
      rw [accepted, List.drop_append] at member
      rcases List.mem_append.mp member with earlier | last
      · exact inv.queued skb earlier slot
      · obtain rfl : skb = held := by simpa using List.mem_of_mem_drop last
        exact inv.carried skb carries slot
    · obtain ⟨capture, skb, matched⟩ := inv.due id slot due
      refine ⟨capture, skb, matched.held, matched.slot, matched.past, ?_, matched.frame,
        matched.asked, matched.unreported⟩
      obtain ⟨inside, _⟩ := List.getElem?_eq_some_iff.mp matched.accepted
      rw [accepted, List.getElem?_append_left inside]
      exact matched.accepted

/-- STATUS0 and the round of the PTP thread move on without a report: what is due
was due before. -/
theorem stamp_waits (s after : Stamping) (inv : StampInvariant s)
    (round : RoundLeft after.seen after.todo) (driver : after.driver = s.driver)
    (priv : after.priv = s.priv) (sent : after.sent = s.sent)
    (register : after.register = s.register) (reports : after.reports = s.reports)
    (due : ∀ id, IsSlot id → after.Due id → s.Due id)
    (highRead : ∀ id rest, after.todo = .low id :: rest → .report id ∈ rest →
      after.high = s.register id)
    (bothRead : ∀ id rest, after.todo = .report id :: rest →
      after.high = s.register id ∧ after.low = s.register id) : StampInvariant after := by
  obtain ⟨_, _, _, _, _, _, _, _, _, _⟩ := after
  dsimp only at driver priv sent register reports
  subst driver priv sent register reports
  refine ⟨inv.tracked, round, inv.distinct, inv.fresh, inv.carried, inv.queued, ?_, highRead,
    bothRead, inv.older, ⟨inv.attributed.own, inv.attributed.once⟩⟩
  intro id slot now
  obtain ⟨capture, skb, matched⟩ := inv.due id slot (due id slot now)
  exact ⟨capture, skb, matched.held, matched.slot, matched.past, matched.accepted, matched.frame,
    matched.asked, matched.unreported⟩

theorem stamp_spi_clears (s : Stamping) (inv : StampInvariant s) (value : BitVec 32) :
    StampInvariant { s with status0 := s.status0 &&& ~~~value } := by
  refine stamp_waits s _ inv inv.round rfl rfl rfl rfl rfl ?_ inv.highRead inv.bothRead
  rintro id _ (pending | ⟨set, unseen⟩)
  · exact Or.inl pending
  · rw [BitVec.getLsbD_and, Bool.and_eq_true] at set
    exact Or.inr ⟨set.1, unseen⟩

theorem round_head (status : BitVec 32) (step : PtpStep) (rest : List PtpStep)
    (round : ptpRound status = step :: rest) : ∃ id, step = .high id := by
  revert round
  cases gptp : status.getLsbD (stampBit timestampIdGptp) <;>
    cases normal : status.getLsbD (stampBit timestampIdNormal) <;>
    cases reserved : status.getLsbD (stampBit timestampIdReserved) <;>
    simp [ptpRound, ifStamp, gptp, normal, reserved, eq_comm] <;> grind

theorem stamp_ptp_read (s : Stamping) (inv : StampInvariant s) (between : s.todo = []) :
    StampInvariant { s with seen := s.status0, todo := ptpRound s.status0 } := by
  have left := round_left s.status0
  refine stamp_waits s _ inv left rfl rfl rfl rfl rfl ?_ ?_ ?_
  · rintro id _ (pending | ⟨set, _⟩)
    · exact Or.inr ⟨(left.found id pending).2, Or.inl between⟩
    · exact Or.inr ⟨set, Or.inl between⟩
  · intro id rest round
    obtain ⟨other, high⟩ := round_head s.status0 _ rest round
    exact absurd high (by simp)
  · intro id rest round
    obtain ⟨other, high⟩ := round_head s.status0 _ rest round
    exact absurd high (by simp)

/-- Nothing new falls due by a step inside a round. -/
theorem due_before (s : Stamping) (round : RoundLeft s.seen s.todo) (step : PtpStep)
    (rest : List PtpStep) (next : s.todo = step :: rest) (inside : step ≠ .writeBack) (id : Nat)
    (due : .report id ∈ rest ∨ s.status0.getLsbD (stampBit id) = true ∧
      (rest = [] ∨ s.seen.getLsbD (stampBit id) = false)) : s.Due id := by
  rcases due with pending | ⟨set, finished | unseen⟩
  · exact Or.inl (next ▸ List.mem_cons_of_mem _ pending)
  · have ends := round.ends
    rw [next, finished] at ends
    exact absurd (List.mem_singleton.mp (ends.resolve_left (by simp))).symm inside
  · exact Or.inr ⟨set, Or.inr unseen⟩

theorem stamp_ptp_high (s : Stamping) (inv : StampInvariant s) (id : Nat) (rest : List PtpStep)
    (next : s.todo = .high id :: rest) :
    StampInvariant { s with todo := rest, high := s.register id } := by
  have round := inv.round
  rw [next] at round
  refine stamp_waits s _ inv round.tail rfl rfl rfl rfl rfl
    (fun other _ due => due_before s inv.round _ rest next (by simp) other due) ?_ ?_
  · rintro other later rfl _
    have follows := round.goes
    obtain rfl : other = id := by simpa [PtpStep.precedes] using follows
    rfl
  · rintro other later rfl
    have follows := round.goes
    simp [PtpStep.precedes] at follows

theorem stamp_ptp_low (s : Stamping) (inv : StampInvariant s) (id : Nat) (rest : List PtpStep)
    (next : s.todo = .low id :: rest) :
    StampInvariant { s with todo := rest, low := s.register id } := by
  have round := inv.round
  rw [next] at round
  refine stamp_waits s _ inv round.tail rfl rfl rfl rfl rfl
    (fun other _ due => due_before s inv.round _ rest next (by simp) other due) ?_ ?_
  · rintro other later rfl _
    have follows := round.goes
    simp [PtpStep.precedes] at follows
  · rintro other later rfl
    have follows := round.goes
    obtain rfl : other = id := by simpa [PtpStep.precedes] using follows
    exact ⟨inv.highRead other _ next (by simp), rfl⟩

theorem stamp_write_back (s : Stamping) (inv : StampInvariant s) (rest : List PtpStep)
    (next : s.todo = .writeBack :: rest) :
    StampInvariant { s with todo := rest, status0 := s.status0 &&& ~~~s.seen } := by
  have round := inv.round
  rw [next] at round
  obtain rfl : rest = [] := by
    cases rest with
    | nil => rfl
    | cons step later =>
        have follows := round.goes
        simp [PtpStep.precedes] at follows
  refine stamp_waits s _ inv round.tail rfl rfl rfl rfl rfl ?_ (by simp) (by simp)
  rintro id slot (pending | ⟨set, _⟩)
  · exact absurd pending (by simp)
  · have inside : stampBit id < 32 := by rcases slot with rfl | rfl <;> decide
    simp only [BitVec.getLsbD_and, BitVec.getLsbD_not, inside, decide_true, Bool.true_and,
      Bool.and_eq_true, Bool.not_eq_true'] at set
    exact Or.inr ⟨set.1, Or.inr set.2⟩

/-- The timestamp is reported for the frame it was captured for. -/
theorem stamp_ptp_report (s : Stamping) (inv : StampInvariant s) (id : Nat) (rest : List PtpStep)
    (next : s.todo = .report id :: rest) :
    StampInvariant { s with
      todo := rest
      reports := s.reports ++ [⟨s.high, s.low, s.priv.waitsFor id⟩]
      priv := ptpReport s.priv id } := by
  have round := inv.round
  rw [next] at round
  obtain ⟨slot, found⟩ := round.found id List.mem_cons_self
  obtain ⟨capture, skb, matched⟩ := inv.due id slot (Or.inl (next ▸ List.mem_cons_self))
  obtain ⟨high, low⟩ := inv.bothRead id rest next
  rw [matched.held] at high low
  have waits := report_waits_for s.priv id
  have head : ∀ step later, rest = step :: later → (PtpStep.report id).precedes step = true := by
    rintro step later rfl
    exact round.goes
  refine ⟨inv.tracked, round.tail, inv.distinct, inv.fresh, waits ▸ inv.carried,
    waits ▸ inv.queued, ?_, ?_, ?_, ?_, ?_, ?_⟩
  · intro other slot' due
    have before := due_before s inv.round _ rest next (by simp) other due
    have apart : other ≠ id := by
      -- This round does not report the id twice, and found its bit set.
      rintro rfl
      rcases due with pending | ⟨_, finished | unseen⟩
      · exact (List.nodup_cons.mp round.once).1 pending
      · have ends := round.ends
        rw [show rest = [] from finished] at ends
        simp at ends
      · exact absurd (found.symm.trans unseen) (by simp)
    obtain ⟨capture', skb', matched'⟩ := inv.due other slot' before
    refine ⟨capture', skb', matched'.held, waits ▸ matched'.slot, matched'.past,
      matched'.accepted, matched'.frame, matched'.asked, ?_⟩
    refine List.forall_mem_append.mpr ⟨matched'.unreported, List.forall_mem_singleton.mpr ?_⟩
    intro same
    obtain rfl : capture = capture' := Option.some.inj (low.symm.trans same)
    have skbs := Option.some.inj (matched.accepted.symm.trans matched'.accepted)
    have modes := congrArg (fun s => s.2 % 4) skbs
    exact apart (matched'.asked.symm.trans (modes.symm.trans matched.asked))
  · rintro other later finished
    exact absurd (head _ later finished) (by simp [PtpStep.precedes])
  · rintro other later finished
    exact absurd (head _ later finished) (by simp [PtpStep.precedes])
  · refine List.forall_mem_append.mpr ⟨inv.older, List.forall_mem_singleton.mpr ?_⟩
    intro capture' same
    obtain rfl : capture = capture' := Option.some.inj (low.symm.trans same)
    exact matched.past
  · refine List.forall_mem_append.mpr ⟨inv.attributed.own, List.forall_mem_singleton.mpr ?_⟩
    exact ⟨capture, high, low, matched.slot⟩
  · rw [List.map_append, List.nodup_append]
    refine ⟨inv.attributed.once, by simp, fun earlier member last here => ?_⟩
    obtain ⟨report, old, rfl⟩ := List.mem_map.mp member
    obtain rfl : last = s.low := by simpa using here
    rw [low]
    exact matched.unreported report old

/-- While a timestamp is due, no other frame that asks for the same registers
has been accepted. -/
theorem sent_not_due (s : Stamping) (inv : StampInvariant s) (skb : Skb × Nat)
    (accepted : s.driver.accepted[s.sent]? = some skb) (slot : IsSlot (skb.2 % 4)) :
    ¬ s.Due (skb.2 % 4) := by
  intro due
  obtain ⟨capture, earlier, matched⟩ := inv.due _ slot due
  obtain ⟨inside, here⟩ := List.getElem?_eq_some_iff.mp accepted
  obtain ⟨before, there⟩ := List.getElem?_eq_some_iff.mp matched.accepted
  have waits := inv.queued skb (here ▸ List.mem_drop_iff_getElem.mpr ⟨0, by simpa, by simp⟩) slot
  have same : earlier.1.id = skb.1.id :=
    matched.frame.trans (Option.some.inj (matched.slot.symm.trans waits))
  have position : capture.serial = s.sent :=
    (@List.Nodup.getElem_inj_iff _ _ inv.distinct capture.serial (by simpa using before) s.sent
      (by simpa using inside)).mp (by simpa [here, there] using same)
  exact absurd matched.past (by omega)

/-- A frame goes out that asks for no timestamp. -/
theorem stamp_unasked (s : Stamping) (inv : StampInvariant s) :
    StampInvariant { s with sent := s.sent + 1 } := by
  refine ⟨inv.tracked, inv.round, inv.distinct, inv.fresh, inv.carried, ?_, ?_, inv.highRead,
    inv.bothRead, fun report member capture low => ?_,
    ⟨inv.attributed.own, inv.attributed.once⟩⟩
  · intro skb member slot
    exact inv.queued skb (List.drop_subset_drop_left _ (Nat.le_succ _) member) slot
  · intro id slot due
    obtain ⟨capture, skb, matched⟩ := inv.due id slot due
    exact ⟨capture, skb, matched.held, matched.slot, Nat.lt_succ_of_lt matched.past,
      matched.accepted, matched.frame, matched.asked, matched.unreported⟩
  · exact Nat.lt_succ_of_lt (inv.older report member capture low)

theorem stamp_bit_set (status : BitVec 32) (id other : Nat) (apart : other ≠ id) :
    (status ||| BitVec.twoPow 32 (stampBit id)).getLsbD (stampBit other) =
      status.getLsbD (stampBit other) := by
  have bits : ¬ stampBit id = stampBit other := fun same => apart (stamp_bit_inj same).symm
  simp [BitVec.getLsbD_or, BitVec.getLsbD_twoPow, bits]

/-- A frame goes out and its send time is captured. -/
theorem stamp_asked (s : Stamping) (inv : StampInvariant s) (skb : Skb × Nat)
    (accepted : s.driver.accepted[s.sent]? = some skb) :
    StampInvariant (s.capture (skb.2 % 4) skb.1.id) := by
  have unasked := stamp_unasked s inv
  -- The capture overwrites no registers that are due: those are of the other id.
  have register : ∀ id, IsSlot id → s.Due id →
      Function.update s.register (skb.2 % 4) (some ⟨skb.1.id, s.sent⟩) id = s.register id := by
    intro id slot due
    refine Function.update_of_ne ?_ _ _
    rintro rfl
    exact sent_not_due s inv skb accepted slot due
  refine ⟨unasked.tracked, unasked.round, unasked.distinct, unasked.fresh, unasked.carried,
    unasked.queued, ?_, ?_, ?_, unasked.older, ⟨inv.attributed.own, inv.attributed.once⟩⟩
  · intro id slot due
    by_cases here : id = skb.2 % 4
    · subst here
      obtain ⟨inside, found⟩ := List.getElem?_eq_some_iff.mp accepted
      refine ⟨⟨skb.1.id, s.sent⟩, skb, Function.update_self _ _ _, ?_, Nat.lt_succ_self _,
        accepted, rfl, rfl, fun report member low => ?_⟩
      · exact inv.queued skb (found ▸ List.mem_drop_iff_getElem.mpr ⟨0, by simpa, by simp⟩) slot
      · exact absurd (inv.older report member _ low) (Nat.lt_irrefl _)
    · have before : s.Due id := by
        rcases due with pending | ⟨set, waits⟩
        · exact Or.inl pending
        · refine Or.inr ⟨?_, waits⟩
          rw [← stamp_bit_set s.status0 (skb.2 % 4) id here]
          exact set
      obtain ⟨capture, other, matched⟩ := unasked.due id slot before
      exact ⟨capture, other, (Function.update_of_ne here _ _).trans matched.held, matched.slot,
        matched.past, matched.accepted, matched.frame, matched.asked, matched.unreported⟩
  · intro id rest next ahead
    have pending : .report id ∈ s.todo := by
      rw [show s.todo = _ from next]
      exact List.mem_cons_of_mem _ ahead
    exact (inv.highRead id rest next ahead).trans
      (register id (inv.round.found id pending).1 (Or.inl pending)).symm
  · intro id rest next
    have pending : .report id ∈ s.todo := by
      rw [show s.todo = _ from next]
      exact List.mem_cons_self
    have kept := register id (inv.round.found id pending).1 (Or.inl pending)
    exact ⟨(inv.bothRead id rest next).1.trans kept.symm,
      (inv.bothRead id rest next).2.trans kept.symm⟩

theorem stamp_frame_sent (s after : Stamping) (inv : StampInvariant s)
    (moved : s.frameSent = some after) : StampInvariant after := by
  obtain ⟨assembly, decoded, moved⟩ := Option.bind_eq_some_iff.mp moved
  obtain ⟨frame, sent, moved⟩ := Option.bind_eq_some_iff.mp moved
  obtain ⟨skb, accepted, rfl⟩ := Option.map_eq_some_iff.mp moved
  rw [sent_frame s.driver inv.tracked.firstSent assembly decoded s.sent frame skb sent accepted]
  split
  · exact stamp_unasked s inv
  · exact stamp_asked s inv skb accepted

/-- A new skb enters `oa_tc6_start_xmit`, with its clone in the slot it asks for. -/
theorem stamp_offer (s : Stamping) (inv : StampInvariant s) (driver : Driver) (skb : Skb)
    (tsCaptureMode : Nat) (moved : s.driver.Moves (.offer skb tsCaptureMode) driver)
    (fresh : ∀ other ∈ s.driver.accepted, other.1.id ≠ skb.id) (priv : Lan865xPriv)
    (keeps : ∀ id, s.Awaited id → ∀ frame, s.priv.waitsFor id = some frame →
      priv.waitsFor id = some frame)
    (own : IsSlot (tsCaptureMode % 256 % 4) →
      priv.waitsFor (tsCaptureMode % 256 % 4) = some skb.id) :
    StampInvariant { s with driver := driver, priv := priv } := by
  have tracked := tracked_moves 255 (by decide) (by decide) _ _ _ inv.tracked moved
  cases moved with
  | offer skb tsCaptureMode pc =>
      refine ⟨tracked, inv.round, inv.distinct, ?_, ?_, ?_, ?_, inv.highRead, inv.bothRead,
        inv.older, ⟨inv.attributed.own, inv.attributed.once⟩⟩
      · intro held carries
        obtain rfl : (skb, tsCaptureMode % 256) = held := by simpa [XmitPc.carries] using carries
        exact fresh
      · intro held carries
        obtain rfl : (skb, tsCaptureMode % 256) = held := by simpa [XmitPc.carries] using carries
        exact own
      · intro other member slot
        exact keeps _ (Or.inl ⟨other, member, rfl⟩) _ (inv.queued other member slot)
      · intro id slot due
        obtain ⟨capture, other, matched⟩ := inv.due id slot due
        exact ⟨capture, other, matched.held, keeps id (Or.inr due) _ matched.slot, matched.past,
          matched.accepted, matched.frame, matched.asked, matched.unreported⟩

/-- A clone is kept in a slot in which nothing is awaited. -/
theorem stamp_kept (s : Stamping) (inv : StampInvariant s) (driver : Driver) (skb : Skb) (id : Nat)
    (slot : IsSlot id) (moved : s.driver.Moves (.offer skb id) driver)
    (fresh : ∀ other ∈ s.driver.accepted, other.1.id ≠ skb.id) (alone : ¬ s.Awaited id) :
    StampInvariant { s with
      driver := driver
      priv := keepClone (skbClone s.priv skb.id).2 id (skbClone s.priv skb.id).1 } := by
  have small : id % 256 % 4 = id := by rcases slot with rfl | rfl <;> rfl
  refine stamp_offer s inv driver skb id moved fresh _ (fun other awaited frame waits => ?_) ?_
  · refine kept_waits_for_other s.priv skb.id id other frame ?_ waits
    rintro rfl
    exact alone awaited
  · intro _
    rw [small]
    exact kept_waits_for s.priv skb.id id

theorem stamp_send (s after : Stamping) (inv : StampInvariant s) (call : SendCall)
    (unshared : Unshared s (.send call)) (moved : s.send call = some after) :
    StampInvariant after := by
  simp only [Stamping.send, Option.ite_none_right_eq_some] at moved
  obtain ⟨⟨on, fresh⟩, moved⟩ := moved
  simp only [lan865xSendPacket, on, ne_eq, not_true_eq_false, if_false] at moved
  cases asked : call.hwTstamp with
  | false =>
      simp only [asked, Bool.false_eq_true, if_false] at moved
      obtain ⟨driver, stepped, rfl⟩ := Option.map_eq_some_iff.mp moved
      have mode : call.stack % 4 = timestampIdNone ∨ call.stack % 4 = timestampIdReserved := by
        simpa [Unshared, asked] using unshared
      refine stamp_offer s inv driver call.skb call.stack (driver_moves _ _ _ stepped) fresh s.priv
        (fun _ _ _ => id) fun slot => ?_
      simp only [IsSlot, timestampIdNone, timestampIdReserved, timestampIdGptp,
        timestampIdNormal] at mode slot
      omega
  | true =>
      cases cloned : call.cloned with
      | false =>
          simp only [asked, cloned, Bool.false_eq_true, if_true, if_false, Option.some.injEq]
            at moved
          exact moved ▸ inv
      | true =>
          have alone := unshared
          simp only [Unshared, asked, cloned, if_true, true_imp_iff] at alone
          simp only [asked, cloned, if_true] at moved
          cases gptp : isGptpPacket call.skb with
          | true =>
              simp only [gptp, if_true] at moved alone
              obtain ⟨driver, stepped, rfl⟩ := Option.map_eq_some_iff.mp moved
              exact stamp_kept s inv driver call.skb timestampIdGptp (Or.inl rfl)
                (driver_moves _ _ _ stepped) fresh alone
          | false =>
              simp only [gptp, Bool.false_eq_true, if_false] at moved alone
              obtain ⟨driver, stepped, rfl⟩ := Option.map_eq_some_iff.mp moved
              exact stamp_kept s inv driver call.skb timestampIdNormal (Or.inr rfl)
                (driver_moves _ _ _ stepped) fresh alone

theorem stamp_ptp_next (s after : Stamping) (inv : StampInvariant s)
    (moved : s.ptpNext = some after) : StampInvariant after := by
  cases next : s.todo with
  | nil => simp [Stamping.ptpNext, next] at moved
  | cons step rest =>
      cases step with
      | high id =>
          simp only [Stamping.ptpNext, next, Option.some.injEq] at moved
          exact moved ▸ stamp_ptp_high s inv id rest next
      | low id =>
          simp only [Stamping.ptpNext, next, Option.some.injEq] at moved
          exact moved ▸ stamp_ptp_low s inv id rest next
      | report id =>
          simp only [Stamping.ptpNext, next, Option.some.injEq] at moved
          exact moved ▸ stamp_ptp_report s inv id rest next
      | writeBack =>
          simp only [Stamping.ptpNext, next, Option.some.injEq] at moved
          exact moved ▸ stamp_write_back s inv rest next

theorem stamp_invariant_next (s after : Stamping) (act : StampAct) (inv : StampInvariant s)
    (unshared : Unshared s act) (moved : s.next act = some after) : StampInvariant after := by
  cases act with
  | driver act =>
      cases act with
      | offer skb tsCaptureMode => simp [Stamping.next] at moved
      | _ =>
          obtain ⟨driver, stepped, rfl⟩ := Option.map_eq_some_iff.mp moved
          exact stamp_driver s inv driver _ (driver_moves _ _ _ stepped) (by simp)
  | send call => exact stamp_send s after inv call unshared moved
  | frameSent => exact stamp_frame_sent s after inv moved
  | spiClears value =>
      simp only [Stamping.next, Option.some.injEq] at moved
      exact moved ▸ stamp_spi_clears s inv value
  | ptpRead =>
      simp only [Stamping.next, Option.ite_none_right_eq_some, Option.some.injEq] at moved
      exact moved.2 ▸ stamp_ptp_read s inv moved.1
  | ptpNext => exact stamp_ptp_next s after inv moved

/-- In a run in which no slot is shared, every timestamp is reported for its own
frame, and once. -/
theorem timestamps_attributed {s : Stamping} (reached : Reaches stampMachine Unshared s) :
    Attributed s := by
  have inv : StampInvariant s := by
    refine reached.invariant StampInvariant ?_ fun before act after inv unshared moved =>
      stamp_invariant_next before after act inv unshared moved
    rintro s ⟨driver, starts, rfl⟩
    exact stamp_invariant_start driver starts
  exact inv.attributed

section Samples

def stampStart : Stamping := startStamping (sampleStart 0x100#32)

theorem stamp_start : stampMachine.start stampStart :=
  ⟨_, sample_start _ _ (by decide) (by decide), rfl⟩

/-- A gPTP frame is accepted and sent to the MAC-PHY. -/
def firstFrameSent : List StampAct :=
  .send (gptpCall 1) :: List.replicate 4 (.driver (.xmit true)) ++
    List.replicate 9 (.driver .spi) ++ [.driver (.exchange [answer 0x20000002#32])]

/-- Another gPTP frame is offered before the first is captured and reported. -/
def slotTakenOver : Stamping :=
  stampMachine.after stampStart
    (firstFrameSent ++ [.send (gptpCall 2), .frameSent, .ptpRead, .ptpNext, .ptpNext, .ptpNext])

theorem timestamp_misattributed :
    ¬ ∀ s, Reaches stampMachine anyStep s → Attributed s := by
  intro claimed
  have attributed := claimed slotTakenOver (reaches_after stamp_start _ (allowed_any _ _ _))
  have report : ⟨some ⟨1, 0⟩, some ⟨1, 0⟩, some 2⟩ ∈ slotTakenOver.reports := by decide +kernel
  obtain ⟨capture, high, _, clone⟩ := attributed.own _ report
  obtain rfl : ⟨1, 0⟩ = capture := Option.some.inj high
  exact absurd clone (by decide)

/-- The second frame is offered after the report of the first. -/
def slotHandedOn : Stamping :=
  stampMachine.after stampStart
    (firstFrameSent ++ [.frameSent, .ptpRead] ++ List.replicate 4 .ptpNext ++
      [.driver (.process fun _ => default), .send (gptpCall 2)] ++
      List.replicate 4 (.driver (.xmit true)) ++ List.replicate 6 (.driver .spi) ++
      [.driver (.exchange [answer 0x20000002#32]), .frameSent, .ptpRead] ++
      List.replicate 4 .ptpNext)

theorem timestamps_attributed_sample : Attributed slotHandedOn :=
  timestamps_attributed (reaches_after stamp_start _ (by decide +kernel))

example : slotHandedOn.reports.map StampReport.clone = [some 1, some 2] := by decide +kernel

end Samples

end Lan865x.OaTc6
