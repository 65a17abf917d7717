import Lan865x.TimestampRuns

/-!
What the chunks of a frame ask the MAC-PHY to capture, and what the caller of
`lan865x_send_packet` asked for. Every call comes with the configured `tx_type`
of its moment; the calls whose skb was accepted are kept in their order.
-/

namespace Lan865x.OaTc6
open Framing Transition

/-- The non-zero TSC fields among the chunks of a frame. -/
def requests (frame : List TxPiece) : List Nat := (frame.map TxPiece.tsc).filter (· ≠ 0)

/-- The TSC fields of a frame with this mode: one, or none at all. -/
def request (mode : Nat) : List Nat := if mode = timestampIdNone then [] else [mode]

/-- The mode that a call asks for. -/
def SendCall.wanted (call : SendCall) : Nat :=
  if call.hwTstamp ∧ call.txType = hwtstampTxOn then
    if isGptpPacket call.skb then timestampIdGptp else timestampIdNormal
  else timestampIdNone

/-- The mode that `oa_tc6_start_xmit` is called with, when it is. -/
def SendCall.mode (call : SendCall) : Nat := if call.hwTstamp then call.wanted else call.stack

/-- A call that assigns `ts_capture_mode`, or finds a value in it whose two low
bits, which are all that TSC takes, are clear. -/
def SendCall.Harmless (call : SendCall) : Prop := call.hwTstamp = true ∨ call.stack % 4 = 0

instance (call : SendCall) : Decidable call.Harmless :=
  inferInstanceAs (Decidable (_ ∨ _))

/-- The driver with `lan865x_send_packet` in front of it: the call that
`oa_tc6_start_xmit` works for, and the calls whose skb it has accepted. -/
structure Sending where
  driver : Driver
  priv : Lan865xPriv
  current : Option SendCall
  calls : List SendCall

inductive SendAct where
  | driver (act : DriverAct)
  | send (call : SendCall)

def Sending.send (s : Sending) (call : SendCall) : Option Sending :=
  match lan865xSendPacket s.priv call with
  | (none, priv) => some { s with priv := priv }
  | (some tsCaptureMode, priv) =>
      (s.driver.next (.offer call.skb tsCaptureMode)).map fun driver =>
        { s with driver := driver, priv := priv, current := some call }

def Sending.next (s : Sending) : SendAct → Option Sending
  | .driver (.offer _ _) => none
  | .driver act => (s.driver.next act).map fun driver =>
      { s with
        driver := driver
        calls := s.calls ++
          if driver.accepted.length = s.driver.accepted.length then [] else s.current.toList }
  | .send call => s.send call

def startSending (driver : Driver) : Sending := ⟨driver, initPriv, none, []⟩

def sendMachine : Machine Sending SendAct where
  start s := ∃ driver, (driverMachine 255).start driver ∧ s = startSending driver
  next := Sending.next

/-- The frames on the wire, completed or not. -/
def Sending.CaptureExact (s : Sending) : Prop :=
  ∃ assembly, decodeTx s.driver.wire = some assembly ∧
    assembly.done.length ≤ s.calls.length ∧ requests (assembly.current.getD []) = [] ∧
    ∀ (i : Nat) (frame : List TxPiece) (call : SendCall), assembly.done[i]? = some frame →
      s.calls[i]? = some call →
        frameBytes frame = call.skb.data ∧ requests frame = request call.wanted

/-- The calls whose frames are completely on the wire. -/
def Sending.sentCalls (s : Sending) : List SendCall :=
  s.calls.take (((decodeTx s.driver.wire).map fun assembly => assembly.done.length).getD 0)

theorem requests_quiet (pieces : List TxPiece) (quiet : ∀ piece ∈ pieces, piece.tsc = 0) :
    requests pieces = [] := by
  simpa [requests] using quiet

theorem requests_carries (frame : List TxPiece) (sent : Skb × Nat) (carries : Carries frame sent) :
    requests frame = request (sent.2 % 4) := by
  obtain ⟨first, last, rfl, quiet, capture⟩ := carries.capture
  have silent := requests_quiet first quiet
  unfold requests at silent
  rw [requests, List.map_append, List.filter_append, silent, List.nil_append, request]
  by_cases none_ : sent.2 % 4 = 0 <;> simp [capture, none_, timestampIdNone]

theorem wanted_small (call : SendCall) : call.wanted < 4 := by
  unfold SendCall.wanted
  split
  · split <;> decide
  · decide

/-- A call passes its mode on, unless the clone cannot be made. -/
theorem send_packet_mode (priv : Lan865xPriv) (call : SendCall) :
    (lan865xSendPacket priv call).1 =
      if call.hwTstamp = true ∧ call.cloned = false then none else some call.mode := by
  cases asked : call.hwTstamp with
  | false => simp [lan865xSendPacket, SendCall.mode, asked]
  | true =>
      cases cloned : call.cloned with
      | false => simp [lan865xSendPacket, asked, cloned]
      | true =>
          by_cases on : call.txType = hwtstampTxOn
          · cases gptp : isGptpPacket call.skb <;>
              simp [lan865xSendPacket, SendCall.mode, SendCall.wanted, asked, cloned, on, gptp]
          · simp [lan865xSendPacket, SendCall.mode, SendCall.wanted, asked, cloned, on]

/-- The frame of a call carries what was asked for just when the call is harmless. -/
theorem request_mode_iff (call : SendCall) :
    request (call.mode % 256 % 4) = request call.wanted ↔ call.Harmless := by
  have small := wanted_small call
  cases asked : call.hwTstamp with
  | true =>
      have same : call.wanted % 256 % 4 = call.wanted := by omega
      simp [SendCall.mode, SendCall.Harmless, asked, same]
  | false =>
      have unwanted : call.wanted = timestampIdNone := by simp [SendCall.wanted, asked]
      have narrow : call.stack % 256 % 4 = call.stack % 4 := by omega
      simp [SendCall.mode, SendCall.Harmless, asked, unwanted, narrow, request, timestampIdNone]

/-- The skb and its mode are those of the call. -/
def PassedBy (held : Skb × Nat) (call : SendCall) : Prop :=
  held.1 = call.skb ∧ held.2 = call.mode % 256

/-- The chunks on the wire that belong to no complete frame ask for nothing. -/
def QuietTail (d : Driver) : Prop :=
  ∀ assembly, decodeTx d.wire = some assembly → requests (assembly.current.getD []) = []

structure SendInvariant (s : Sending) : Prop where
  tracked : Tracked 255 s.driver
  quiet : QuietTail s.driver
  accepted : List.Forall₂ PassedBy s.driver.accepted s.calls
  carried : ∀ held, s.driver.xmit.carries = some held →
    ∃ call, s.current = some call ∧ PassedBy held call

theorem quiet_tail_moves (d after : Driver) (act : DriverAct) (tracked : Tracked 255 after)
    (quiet : QuietTail d) (moved : d.Moves act after) : QuietTail after := by
  intro assembly decoded
  cases act with
  | exchange received =>
      cases moved with
      | exchange len pc received whole =>
          -- What has just been sent stops where the thread has got to in its skb.
          obtain ⟨same, read, laid⟩ := tracked.segmented.laid (running_at _ _ rfl (by simp))
          rw [emitted_none _ rfl] at read
          obtain rfl : assembly = same := Option.some.inj (decoded.symm.trans read)
          exact requests_quiet _ laid.underWay.quiet
  | _ =>
      obtain ⟨wire, _⟩ := wire_moves d after _ moved (by simp)
      exact quiet assembly (wire ▸ decoded)

theorem send_invariant_start (driver : Driver) (starts : (driverMachine 255).start driver) :
    SendInvariant (startSending driver) := by
  have tracked := tracked_init 255 driver starts
  obtain ⟨bufferStatus, mtu, rxFilter, rxBuffer, txBuffer, _, _, rfl⟩ := starts
  constructor
  · exact tracked
  · intro assembly decoded
    obtain rfl : Assembly.empty = assembly := Option.some.inj decoded
    rfl
  · exact .nil
  · simp [startSending, initDriver, XmitPc.carries]

/-- A step of the driver: an skb that is accepted is that of the current call. -/
theorem send_driver (s : Sending) (inv : SendInvariant s) (act : DriverAct) (driver : Driver)
    (moved : s.driver.Moves act driver)
    (notOffer : ∀ skb tsCaptureMode, act ≠ .offer skb tsCaptureMode) :
    SendInvariant { s with
      driver := driver
      calls := s.calls ++
        if driver.accepted.length = s.driver.accepted.length then [] else s.current.toList } := by
  have tracked := tracked_moves 255 (by decide) (by decide) _ _ act inv.tracked moved
  have quiet := quiet_tail_moves _ _ act tracked inv.quiet moved
  rcases xmit_moves s.driver driver act moved notOffer with
    ⟨accepted, carries⟩ | ⟨held, carries, accepted, idle⟩
  · constructor
    · exact tracked
    · exact quiet
    · rw [accepted, if_pos rfl, List.append_nil]
      exact inv.accepted
    · intro held holds
      exact inv.carried held (carries held holds)
  · obtain ⟨call, current, passed⟩ := inv.carried held carries
    have longer : ¬ driver.accepted.length = s.driver.accepted.length := by simp [accepted]
    constructor
    · exact tracked
    · exact quiet
    · rw [if_neg longer, accepted, current, Option.toList_some]
      exact List.rel_append inv.accepted (.cons passed .nil)
    · simp [idle]

theorem send_send (s after : Sending) (inv : SendInvariant s) (call : SendCall)
    (moved : s.send call = some after) : SendInvariant after := by
  have mode := send_packet_mode s.priv call
  unfold Sending.send at moved
  rcases out : lan865xSendPacket s.priv call with ⟨tsCaptureMode, priv⟩
  rw [out] at mode moved
  dsimp only at mode moved
  cases tsCaptureMode with
  | none =>
      obtain rfl := Option.some.inj moved
      exact ⟨inv.tracked, inv.quiet, inv.accepted, inv.carried⟩
  | some tsCaptureMode =>
      obtain ⟨driver, stepped, rfl⟩ := Option.map_eq_some_iff.mp moved
      have passes : tsCaptureMode = call.mode := by
        split at mode
        · simp at mode
        · exact Option.some.inj mode
      have moves := driver_moves _ _ _ stepped
      have tracked := tracked_moves 255 (by decide) (by decide) _ _ _ inv.tracked moves
      have quiet := quiet_tail_moves _ _ _ tracked inv.quiet moves
      cases moves with
      | offer skb tsCaptureMode pc =>
          constructor
          · exact tracked
          · exact quiet
          · exact inv.accepted
          · intro held carries
            obtain rfl : (call.skb, tsCaptureMode % 256) = held := by
              simpa [XmitPc.carries] using carries
            exact ⟨call, rfl, rfl, by rw [passes]⟩

theorem send_invariant_next (s after : Sending) (act : SendAct) (inv : SendInvariant s)
    (moved : s.next act = some after) : SendInvariant after := by
  cases act with
  | send call => exact send_send s after inv call moved
  | driver act =>
      cases act with
      | offer skb tsCaptureMode => simp [Sending.next] at moved
      | _ =>
          obtain ⟨driver, stepped, rfl⟩ := Option.map_eq_some_iff.mp moved
          exact send_driver s inv _ driver (driver_moves _ _ _ stepped) (by simp)

theorem send_reached {s : Sending} (reached : Reaches sendMachine anyStep s) : SendInvariant s := by
  apply reached.invariant SendInvariant
  · rintro s ⟨driver, starts, rfl⟩
    exact send_invariant_start driver starts
  · intro before act after inv _ moved
    exact send_invariant_next before after act inv moved

/-- The frames on the wire are those of the first calls, one by one, each with
the mode that its own call passed on. -/
theorem frames_of_calls (s : Sending) (inv : SendInvariant s) :
    ∃ assembly, decodeTx s.driver.wire = some assembly ∧
      assembly.done.length ≤ s.calls.length ∧ requests (assembly.current.getD []) = [] ∧
      ∀ (i : Nat) (frame : List TxPiece) (call : SendCall), assembly.done[i]? = some frame →
        s.calls[i]? = some call →
          frameBytes frame = call.skb.data ∧ requests frame = request (call.mode % 256 % 4) := by
  obtain ⟨assembly, sent, rest, decoded, carried, split⟩ := inv.tracked.firstSent
  have together := inv.accepted.length_eq
  have frames := carried.length_eq
  refine ⟨assembly, decoded, ?_, inv.quiet assembly decoded, ?_⟩
  · rw [← together, split, List.length_append]
    omega
  · intro i frame call sentFrame called
    obtain ⟨inside, here⟩ := List.getElem?_eq_some_iff.mp sentFrame
    obtain ⟨among, call_⟩ := List.getElem?_eq_some_iff.mp called
    have within : i < sent.length := frames ▸ inside
    have accepted : i < s.driver.accepted.length := together ▸ among
    have carries := (List.forall₂_iff_get.mp carried).2 i inside within
    have passed := (List.forall₂_iff_get.mp inv.accepted).2 i accepted among
    have same : s.driver.accepted[i] = sent[i] := by
      simp only [split]
      exact List.getElem_append_left within
    rw [List.get_eq_getElem, List.get_eq_getElem, here] at carries
    rw [List.get_eq_getElem, List.get_eq_getElem, same, call_] at passed
    constructor
    · rw [carries.bytes, passed.1]
    · rw [requests_carries frame _ carries, passed.2]

/-- In every run, the chunks sent carry exactly what was asked for if and only if
no frame among them came with a `ts_capture_mode` that nobody had assigned and
whose low bits were set. -/
theorem capture_requests_exact_iff (s : Sending) (reached : Reaches sendMachine anyStep s) :
    s.CaptureExact ↔ ∀ call ∈ s.sentCalls, call.Harmless := by
  obtain ⟨assembly, decoded, fewer, quiet, frames⟩ := frames_of_calls s (send_reached reached)
  constructor
  · rintro ⟨same, read, _, _, exact_⟩ call member
    obtain rfl : assembly = same := Option.some.inj (decoded.symm.trans read)
    rw [Sending.sentCalls, decoded, Option.map_some, Option.getD_some] at member
    obtain ⟨i, inside, here⟩ := List.mem_take_iff_getElem.mp member
    have done : i < assembly.done.length := by omega
    have called : s.calls[i]? = some call := by
      rw [List.getElem?_eq_getElem (by omega), here]
    have sentFrame := List.getElem?_eq_getElem done
    obtain ⟨_, asked⟩ := exact_ i _ call sentFrame called
    obtain ⟨_, passed⟩ := frames i _ call sentFrame called
    exact (request_mode_iff call).mp (passed.symm.trans asked)
  · intro harmless
    refine ⟨assembly, decoded, fewer, quiet, fun i frame call sentFrame called => ?_⟩
    obtain ⟨bytes, passed⟩ := frames i frame call sentFrame called
    obtain ⟨inside, _⟩ := List.getElem?_eq_some_iff.mp sentFrame
    obtain ⟨among, here⟩ := List.getElem?_eq_some_iff.mp called
    have member : call ∈ s.sentCalls := by
      rw [Sending.sentCalls, decoded, Option.map_some, Option.getD_some]
      exact List.mem_take_iff_getElem.mpr ⟨i, by omega, here⟩
    exact ⟨bytes, passed.trans ((request_mode_iff call).mpr (harmless call member))⟩

section Samples

def sendStart : Sending := startSending (sampleStart 0x100#32)

theorem send_start : sendMachine.start sendStart :=
  ⟨_, sample_start _ _ (by decide) (by decide), rfl⟩

/-- A frame of one chunk goes out. -/
def oneFrameSent (call : SendCall) : Sending :=
  sendMachine.after sendStart
    (.send call :: List.replicate 4 (.driver (.xmit true)) ++ List.replicate 9 (.driver .spi) ++
      [.driver (.exchange [answer 0x20000002#32])])

/-- A frame without a timestamp, sent over a stack that holds a 1. -/
def strayCall : SendCall := { gptpCall 1 with hwTstamp := false, stack := 1 }

theorem capture_requested_unasked : ¬ ∀ s, Reaches sendMachine anyStep s → s.CaptureExact := by
  intro claimed
  obtain ⟨assembly, decoded, _, _, frames⟩ :=
    claimed (oneFrameSent strayCall) (reaches_after send_start _ (allowed_any _ _ _))
  have sent : (decodeTx (oneFrameSent strayCall).driver.wire).bind
      (fun assembly => assembly.done[0]?.map requests) = some [1] := by decide +kernel
  have called : (oneFrameSent strayCall).calls[0]?.map SendCall.wanted = some 0 := by decide +kernel
  rw [decoded, Option.bind_some] at sent
  obtain ⟨frame, sentFrame, asks⟩ := Option.map_eq_some_iff.mp sent
  obtain ⟨call, here, wanted⟩ := Option.map_eq_some_iff.mp called
  obtain ⟨_, asked⟩ := frames 0 frame call sentFrame here
  rw [asks, wanted] at asked
  exact absurd asked (by decide)

theorem capture_requests_exact_sample : (oneFrameSent (gptpCall 1)).CaptureExact :=
  (capture_requests_exact_iff _ (reaches_after send_start _ (allowed_any _ _ _))).mpr
    (by decide +kernel)

example : (decodeTx (oneFrameSent (gptpCall 1)).driver.wire).map
    (fun assembly => assembly.done.map requests) = some [[1]] := by decide +kernel

end Samples

end Lan865x.OaTc6
