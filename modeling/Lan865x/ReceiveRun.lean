import Lan865x.Transition
import Lan865x.ReceiveTransfer

/-!
The receive side as a machine that handles one chunk a step, so that the states
between two chunks of a transfer are states of the run as well. Transfers of any
chunks arrive one after another, and the user may change the mtu at any time.
`receive` is what the machine does with a list of transfers.
-/

namespace Lan865x.OaTc6
open BitField Memory Transition

/-- A call of `oa_tc6_prcs_rx_chunk_payload`: the state before it and its arguments. -/
structure PayloadCall where
  rx : RxState
  slot : Nat
  footer : BitVec 32
  io : ChunkIo

/-- The chunks of the transfer in `spi_data_rx_buf` that are not processed yet,
the slot of the first one, whether the thread has ended, and the calls made. -/
structure RxRun where
  rx : RxState
  todo : List Received
  slot : Nat
  ended : Bool
  calls : List PayloadCall

inductive RxAct where
  | transfer (transfer : Transfer)
  | chunk
  | changeMtu (mtu : Nat)

def ethMinMtu : Nat := 68
def ethDataLen : Nat := 1500

/-- The call that processing this chunk makes, if any. -/
def chunkCalls (rx : RxState) (slot : Nat) (io : ChunkIo) : List PayloadCall :=
  let footer := getRxChunkFooter rx (slot * chunkSize + chunkPayloadSize)
  let (ret, rx) := processRxChunkFooter rx footer io
  if ret = 0 ∧ flag dataFooterDataValid footer = true then [⟨rx, slot, footer, io⟩] else []

def RxRun.chunk (run : RxRun) (r : Received) (rest : List Received) : RxRun :=
  let (ret, rx) := processRxChunk run.rx run.slot r.io
  let calls := run.calls ++ chunkCalls run.rx run.slot r.io
  if ret = 0 then ⟨rx, rest, run.slot + 1, run.ended, calls⟩
  -- A retry forgets the chunks behind this one.
  else if ret = -eagain then ⟨rx, [], 0, run.ended, calls⟩
  else ⟨cleanupOngoingRxSkb rx, [], 0, true, calls⟩

def RxRun.next (run : RxRun) : RxAct → Option RxRun
  | .transfer transfer =>
      if run.ended = false ∧ run.todo = [] then
        some { run with
          rx := { run.rx with spiDataRxBuf := load run.rx.spiDataRxBuf transfer.bytes }
          todo := transfer.received
          slot := 0 }
      else none
  | .chunk => match run.todo with
      | [] => none
      | r :: rest => some (run.chunk r rest)
  | .changeMtu mtu =>
      if ethMinMtu ≤ mtu ∧ mtu ≤ ethDataLen then some { run with rx := { run.rx with mtu := mtu } }
      else none

def startRun (mtu : Nat) (rxFilter : Int) (buffer : Nat → UInt8) : RxRun :=
  ⟨initRx mtu rxFilter buffer, [], 0, false, []⟩

def rxMachine : Machine RxRun RxAct where
  start run := ∃ mtu rxFilter buffer, ethMinMtu ≤ mtu ∧ mtu ≤ ethDataLen ∧
    run = startRun mtu rxFilter buffer
  next := RxRun.next

theorem start_run (mtu : Nat) (rxFilter : Int) (buffer : Nat → UInt8) (least : ethMinMtu ≤ mtu)
    (most : mtu ≤ ethDataLen) : rxMachine.start (startRun mtu rxFilter buffer) :=
  ⟨mtu, rxFilter, buffer, least, most, rfl⟩

/-- What a step can be. -/
theorem rx_next_cases (before after : RxRun) (act : RxAct) (moved : before.next act = some after) :
    (∃ transfer, act = .transfer transfer ∧ before.ended = false ∧ before.todo = [] ∧
      after = { before with
        rx := { before.rx with spiDataRxBuf := load before.rx.spiDataRxBuf transfer.bytes }
        todo := transfer.received
        slot := 0 }) ∨
    (∃ r rest, act = .chunk ∧ before.todo = r :: rest ∧ after = before.chunk r rest) ∨
    (∃ mtu, act = .changeMtu mtu ∧ ethMinMtu ≤ mtu ∧ mtu ≤ ethDataLen ∧
      after = { before with rx := { before.rx with mtu := mtu } }) := by
  cases act with
  | transfer transfer =>
      simp only [RxRun.next] at moved
      split at moved
      · rename_i open_
        exact Or.inl ⟨transfer, rfl, open_.1, open_.2, (Option.some.inj moved).symm⟩
      · exact absurd moved (by simp)
  | chunk =>
      cases todo : before.todo with
      | nil => simp [RxRun.next, todo] at moved
      | cons r rest =>
          simp only [RxRun.next, todo, Option.some.injEq] at moved
          exact Or.inr (Or.inl ⟨r, rest, rfl, rfl, moved.symm⟩)
  | changeMtu mtu =>
      simp only [RxRun.next] at moved
      split at moved
      · rename_i range
        exact Or.inr (Or.inr ⟨mtu, rfl, range.1, range.2, (Option.some.inj moved).symm⟩)
      · exact absurd moved (by simp)

/-- Every chunk not yet processed is in its slot of the buffer. -/
theorem run_loaded {ok : RxRun → RxAct → Prop} {run : RxRun}
    (reached : Reaches rxMachine ok run) : Loaded run.rx.spiDataRxBuf run.slot run.todo := by
  apply reached.invariant (fun run => Loaded run.rx.spiDataRxBuf run.slot run.todo)
  · rintro run ⟨mtu, rxFilter, buffer, _, _, rfl⟩
    trivial
  · intro before act after loaded _ moved
    rcases rx_next_cases before after act moved with
      ⟨transfer, _, _, _, rfl⟩ | ⟨r, rest, _, todo, rfl⟩ | ⟨mtu, _, _, _, rfl⟩
    · exact transfer_loaded transfer _ 0 transfer.received rfl
    · rw [todo] at loaded
      simp only [RxRun.chunk]
      split
      · simpa [(chunk_kept before.rx before.slot r.io).buffer] using loaded.2
      · split <;> trivial
    · exact loaded

/-- The chunks of one transfer bring the machine where the loop ends. -/
theorem run_received (run : RxRun) (reached : Reaches rxMachine anyStep run)
    (live : run.ended = false) :
    ∃ later, Reaches rxMachine anyStep later ∧ later.todo = [] ∧
      let (ret, rx) := processReceived run.rx run.slot run.todo
      if ret = 0 ∨ ret = -eagain then later.rx = rx ∧ later.ended = false
      else later.rx = cleanupOngoingRxSkb rx := by
  generalize todo : run.todo = chunks
  induction chunks generalizing run with
  | nil => exact ⟨run, reached, todo, by simp [processReceived, live]⟩
  | cons r rest ih =>
      have moved : rxMachine.next run .chunk = some (run.chunk r rest) := by
        simp [rxMachine, RxRun.next, todo]
      have next := Reaches.step RxAct.chunk reached trivial moved
      by_cases fine : (processRxChunk run.rx run.slot r.io).1 = 0
      · obtain ⟨later, there, empty, same⟩ := ih (run.chunk r rest) next
          (by simp [RxRun.chunk, fine, live]) (by simp [RxRun.chunk, fine])
        refine ⟨later, there, empty, ?_⟩
        simpa [RxRun.chunk, fine, processReceived] using same
      · refine ⟨run.chunk r rest, next, ?_, ?_⟩
        · simp only [RxRun.chunk, fine, if_false]
          split <;> rfl
        · by_cases again : (processRxChunk run.rx run.slot r.io).1 = -eagain
          · simp [RxRun.chunk, processReceived, again, eagain, live]
          · simp [RxRun.chunk, processReceived, again, fine]

/-- `receive` reaches states of the machine only. -/
theorem receive_reached (transfers : List Transfer) (run : RxRun)
    (reached : Reaches rxMachine anyStep run) (live : run.ended = false) (idle : run.todo = []) :
    ∃ later, Reaches rxMachine anyStep later ∧ later.rx = receive run.rx transfers := by
  induction transfers generalizing run with
  | nil => exact ⟨run, reached, rfl⟩
  | cons transfer rest ih =>
      have moved : rxMachine.next run (.transfer transfer) = some { run with
          rx := { run.rx with spiDataRxBuf := load run.rx.spiDataRxBuf transfer.bytes }
          todo := transfer.received
          slot := 0 } := by
        simp [rxMachine, RxRun.next, live, idle]
      obtain ⟨later, there, empty, same⟩ :=
        run_received _ (Reaches.step (RxAct.transfer transfer) reached trivial moved) live
      simp only [receive, receive_transfer_eq]
      simp only at same
      split at same
      · rename_i goesOn
        rw [if_pos goesOn]
        obtain ⟨final, reaches, ends⟩ := ih later there same.2 empty
        exact ⟨final, reaches, by rw [ends, same.1]⟩
      · rename_i stops
        rw [if_neg stops]
        exact ⟨later, there, same⟩

end Lan865x.OaTc6
