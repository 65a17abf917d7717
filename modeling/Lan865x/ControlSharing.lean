import Lan865x.Critical
import Lan865x.SpiBus

/-!
The register accesses of all threads at once. The callers of oa_tc6_read_registers and
oa_tc6_write_registers share the two control buffers and the SPI; the lock is taken
around oa_tc6_perform_ctrl, whose loops are run word by word here. The rest of the
driver and the chip itself may change the chip between any two steps.
-/

namespace Lan865x.OaTc6
open BitField Memory RegisterBus Transition Critical

structure CtrlCall where
  address : BitVec 32
  value : Nat → BitVec 32
  length : Nat
  regOp : RegisterOp

structure CtrlReply where
  ret : Int
  value : Nat → BitVec 32

structure CtrlBuffers where
  txBuf : Nat → UInt8
  rxBuf : Nat → UInt8

def CtrlBuffers.with {World : Type} (buffers : CtrlBuffers) (world : World) : CtrlState World :=
  ⟨buffers.txBuf, buffers.rxBuf, world⟩

def CtrlState.buffers {World : Type} (state : CtrlState World) : CtrlBuffers :=
  ⟨state.txBuf, state.rxBuf⟩

/-- The header is stored first, then one word after another. -/
inductive Filling where
  | header (call : CtrlCall)
  | words (call : CtrlCall) (count : Nat)

inductive Emptying where
  | transferred (call : CtrlCall) (ret : Int)
  | copying (call : CtrlCall) (value : Nat → BitVec 32) (count : Nat)

section Code
variable {World : Type} (spi : Spi World)

def fillCtrl : Filling → Option (CtrlBuffers → Filling × CtrlBuffers)
  | .header call => some fun buffers =>
      (.words call 0, { buffers with
        txBuf := putBe32 buffers.txBuf 0 (prepareCtrlHeader call.address call.length call.regOp) })
  | .words call count =>
      if call.regOp = .write ∧ count < call.length then some fun buffers =>
        (.words call (count + 1), { buffers with
          txBuf := putBe32 buffers.txBuf (ctrlHeaderSize + 4 * count) (call.value count) })
      else none

def Filling.call : Filling → CtrlCall
  | .header call => call
  | .words call _ => call

def transferCtrl (point : Filling) (buffers : CtrlBuffers) (world : World) :
    (Emptying × CtrlBuffers) × World :=
  let after := oaTc6SpiTransfer spi (calculateCtrlBufSize point.call.length) (buffers.with world)
  ((.transferred point.call after.1, after.2.buffers), after.2.world)

def emptyCtrl : Emptying → CtrlBuffers → (Emptying ⊕ CtrlReply) × CtrlBuffers
  | .transferred call ret, buffers =>
      if ret ≠ 0 then (.inr ⟨ret, call.value⟩, buffers)
      else match call.regOp with
        | .write => (.inr ⟨checkCtrlWriteReply (buffers.with ())
            (toU8 (calculateCtrlBufSize call.length)), call.value⟩, buffers)
        | .read =>
            let ret := checkCtrlReadReply (buffers.with ())
            if ret ≠ 0 then (.inr ⟨ret, call.value⟩, buffers)
            else (.inl (.copying call call.value 0), buffers)
  | .copying call value count, buffers =>
      if count < call.length then
        let word := be32At buffers.rxBuf (ctrlIgnoredSize + ctrlHeaderSize + 4 * count)
        (.inl (.copying call (Function.update value count word) (count + 1)), buffers)
      else (.inr ⟨0, value⟩, buffers)

/-- A length that is not valid is refused before the lock is taken. -/
def enterCtrl (call : CtrlCall) : Filling ⊕ CtrlReply :=
  if call.length = 0 ∨ call.length > ctrlMaxRegisters then .inr ⟨-einval, call.value⟩
  else .inl (.header call)

def ctrlCode : Code CtrlCall Filling Emptying CtrlReply CtrlBuffers World where
  enter := enterCtrl
  prepare := fillCtrl
  exchange := transferCtrl spi
  finish := emptyCtrl

/-- The call as one piece. -/
def oaTc6Registers (call : CtrlCall) (state : CtrlState World) : CtrlResult World :=
  match call.regOp with
  | .read => oaTc6ReadRegisters spi call.address call.value call.length state
  | .write => oaTc6WriteRegisters spi call.address call.value call.length state

theorem registers_refused (call : CtrlCall) (state : CtrlState World)
    (invalid : call.length = 0 ∨ call.length > ctrlMaxRegisters) :
    oaTc6Registers spi call state = ⟨-einval, call.value, state⟩ := by
  cases op : call.regOp with
  | read => simp only [oaTc6Registers, op, oaTc6ReadRegisters, if_pos invalid]
  | write => simp only [oaTc6Registers, op, oaTc6WriteRegisters, if_pos invalid]

theorem registers_performed (call : CtrlCall) (state : CtrlState World)
    (valid : ¬ (call.length = 0 ∨ call.length > ctrlMaxRegisters)) :
    oaTc6Registers spi call state =
      oaTc6PerformCtrl spi call.address call.value call.length call.regOp state := by
  cases op : call.regOp with
  | read => simp only [oaTc6Registers, op, oaTc6ReadRegisters, if_neg valid]
  | write => simp only [oaTc6Registers, op, oaTc6WriteRegisters, if_neg valid]

/-- How far the transmit buffer of a call is filled. -/
def Filled (call : CtrlCall) (start : CtrlBuffers) : Filling → CtrlBuffers → Prop
  | .header same, buffers => same = call ∧ buffers = start
  | .words same count, buffers => same = call ∧ buffers.rxBuf = start.rxBuf ∧
      (call.regOp = .read → count = 0) ∧ count ≤ call.length ∧
      buffers.txBuf = putWords
        (putBe32 start.txBuf 0 (prepareCtrlHeader call.address call.length call.regOp))
        ctrlHeaderSize call.value count

theorem filled_step (call : CtrlCall) (start : CtrlBuffers) (point : Filling)
    (buffers : CtrlBuffers) (change : CtrlBuffers → Filling × CtrlBuffers)
    (filled : Filled call start point buffers) (prepared : fillCtrl point = some change) :
    Filled call start (change buffers).1 (change buffers).2 := by
  cases point with
  | header same =>
      obtain ⟨rfl, rfl⟩ := filled
      simp only [fillCtrl, Option.some.injEq] at prepared
      subst change
      exact ⟨rfl, rfl, fun _ => rfl, Nat.zero_le _, rfl⟩
  | words same count =>
      obtain ⟨rfl, received, single, inside, sent⟩ := filled
      by_cases more : same.regOp = .write ∧ count < same.length
      · simp only [fillCtrl, if_pos more, Option.some.injEq] at prepared
        subst change
        refine ⟨rfl, received, ?_, more.2, ?_⟩
        · intro read
          rw [read] at more
          exact absurd more.1 (by decide)
        · rw [put_words_succ, ← sent]
      · simp only [fillCtrl, if_neg more] at prepared
        contradiction

/-- The loop ends with the buffer that is sent. -/
theorem filled_ready (call : CtrlCall) (start : CtrlBuffers) {ready : Filling}
    {buffers : CtrlBuffers} (filled : Filled call start ready buffers)
    (last : fillCtrl ready = none) :
    ready.call = call ∧ buffers = ⟨prepareCtrlSpiBuf start.txBuf call.address call.value
      call.length call.regOp, start.rxBuf⟩ := by
  cases ready with
  | header same => simp [fillCtrl] at last
  | words same count =>
      obtain ⟨rfl, received, single, inside, sent⟩ := filled
      refine ⟨rfl, ?_⟩
      have whole : buffers.txBuf = prepareCtrlSpiBuf start.txBuf same.address same.value
          same.length same.regOp := by
        cases op : same.regOp with
        | read =>
            rw [single op, op] at sent
            exact sent
        | write =>
            have stored : count = same.length := by
              have more : ¬ (same.regOp = .write ∧ count < same.length) := by
                intro more
                simp only [fillCtrl, if_pos more] at last
                contradiction
              have notLess : ¬ count < same.length := fun less => more ⟨op, less⟩
              omega
            rw [stored, op] at sent
            exact sent
      cases buffers
      simp only at received whole
      rw [received, whole]

/-- How much of the reply to a call is taken out of the receive buffer. -/
def EmptiedTo (call : CtrlCall) (ret : Int) (start : CtrlBuffers) : Emptying → CtrlBuffers → Prop
  | .transferred same got, buffers => same = call ∧ got = ret ∧ buffers = start
  | .copying same value count, buffers => same = call ∧ buffers = start ∧ ret = 0 ∧
      call.regOp = .read ∧ checkCtrlReadReply (start.with ()) = 0 ∧ count ≤ call.length ∧
      value = copyCtrlReadData (start.with ()) call.value count

theorem copied_succ (state : CtrlState World) (value : Nat → BitVec 32) (count : Nat) :
    Function.update (copyCtrlReadData state value count) count
        (be32At state.rxBuf (ctrlIgnoredSize + ctrlHeaderSize + 4 * count)) =
      copyCtrlReadData state value (count + 1) := by
  funext i
  by_cases last : i = count
  · subst i
    simp [copyCtrlReadData]
  · have same : i < count + 1 ↔ i < count := by omega
    simp only [Function.update_of_ne last, copyCtrlReadData, same]

theorem emptied_step (call : CtrlCall) (ret : Int) (start : CtrlBuffers) (point : Emptying)
    (buffers : CtrlBuffers) (further : Emptying) (between : CtrlBuffers)
    (emptied : EmptiedTo call ret start point buffers)
    (goes : emptyCtrl point buffers = (.inl further, between)) :
    EmptiedTo call ret start further between := by
  cases point with
  | transferred same got =>
      obtain ⟨rfl, rfl, rfl⟩ := emptied
      simp only [emptyCtrl] at goes
      by_cases failed : got ≠ 0
      · simp [if_pos failed] at goes
      rw [if_neg failed] at goes
      cases op : same.regOp with
      | write => simp [op] at goes
      | read =>
          simp only [op] at goes
          by_cases differs : checkCtrlReadReply (buffers.with ()) ≠ 0
          · simp [if_pos differs] at goes
          rw [if_neg differs] at goes
          simp only [Prod.mk.injEq, Sum.inl.injEq] at goes
          obtain ⟨rfl, rfl⟩ := goes
          exact ⟨rfl, rfl, not_not.mp failed, op, not_not.mp differs, Nat.zero_le _, rfl⟩
  | copying same value count =>
      obtain ⟨rfl, rfl, success, op, echoed, inside, copied⟩ := emptied
      by_cases more : count < same.length
      · simp only [emptyCtrl, if_pos more, Prod.mk.injEq, Sum.inl.injEq] at goes
        obtain ⟨rfl, rfl⟩ := goes
        refine ⟨rfl, rfl, success, op, echoed, more, ?_⟩
        rw [copied]
        exact copied_succ (buffers.with ()) same.value count
      · simp [emptyCtrl, more] at goes

/-- What oa_tc6_perform_ctrl does after its transfer. -/
def afterTransfer (call : CtrlCall) (ret : Int) (state : CtrlState World) : CtrlResult World :=
  if ret ≠ 0 then ⟨ret, call.value, state⟩
  else match call.regOp with
    | .write => ⟨checkCtrlWriteReply state (toU8 (calculateCtrlBufSize call.length)), call.value,
        state⟩
    | .read =>
        let ret := checkCtrlReadReply state
        if ret ≠ 0 then ⟨ret, call.value, state⟩
        else ⟨0, copyCtrlReadData state call.value call.length, state⟩

theorem emptied_reply (call : CtrlCall) (ret : Int) (buffers last : CtrlBuffers)
    (reply : CtrlReply) (world : World)
    (finishes : Finishes (ctrlCode spi) (.transferred call ret) buffers reply last) :
    afterTransfer call ret (buffers.with world) = ⟨reply.ret, reply.value, last.with world⟩ := by
  obtain ⟨point, between, emptied, ended⟩ := finishes.keeps (EmptiedTo call ret buffers)
    (emptied_step call ret buffers) ⟨rfl, rfl, rfl⟩
  change emptyCtrl point between = (.inr reply, last) at ended
  cases point with
  | transferred same got =>
      obtain ⟨rfl, rfl, rfl⟩ := emptied
      simp only [emptyCtrl] at ended
      by_cases failed : got ≠ 0
      · rw [if_pos failed] at ended
        simp only [Prod.mk.injEq, Sum.inr.injEq] at ended
        obtain ⟨rfl, rfl⟩ := ended
        exact if_pos failed
      rw [if_neg failed] at ended
      rw [afterTransfer, if_neg failed]
      cases op : same.regOp with
      | write =>
          simp only [op, Prod.mk.injEq, Sum.inr.injEq] at ended
          obtain ⟨rfl, rfl⟩ := ended
          rfl
      | read =>
          simp only [op] at ended
          by_cases differs : checkCtrlReadReply (between.with ()) ≠ 0
          · rw [if_pos differs] at ended
            simp only [Prod.mk.injEq, Sum.inr.injEq] at ended
            obtain ⟨rfl, rfl⟩ := ended
            exact if_pos differs
          · simp [if_neg differs] at ended
  | copying same value count =>
      obtain ⟨rfl, rfl, success, op, echoed, inside, copied⟩ := emptied
      by_cases more : count < same.length
      · simp [emptyCtrl, more] at ended
      · have whole : count = same.length := by omega
        simp only [emptyCtrl, if_neg more, Prod.mk.injEq, Sum.inr.injEq] at ended
        obtain ⟨rfl, rfl⟩ := ended
        have same' : checkCtrlReadReply (between.with world) = 0 := echoed
        rw [afterTransfer, if_neg (not_not_intro success)]
        simp only [op, if_neg (not_not_intro same'), copied, whole]
        rfl

/-- Step by step and alone, a call does what the function does. -/
theorem ctrl_alone (call : CtrlCall) (buffers last : CtrlBuffers) (world after : World)
    (reply : CtrlReply)
    (alone : Alone (ctrlCode spi) call (buffers, world) reply (last, after)) :
    oaTc6Registers spi call (buffers.with world) =
      ⟨reply.ret, reply.value, last.with after⟩ := by
  cases alone with
  | refused entered =>
      change enterCtrl call = .inr reply at entered
      by_cases invalid : call.length = 0 ∨ call.length > ctrlMaxRegisters
      · rw [enterCtrl, if_pos invalid, Sum.inr.injEq] at entered
        subst reply
        exact registers_refused spi call _ invalid
      · simp [enterCtrl, if_neg invalid] at entered
  | served entered prepares exchanged finishes =>
      change enterCtrl call = .inl _ at entered
      by_cases invalid : call.length = 0 ∨ call.length > ctrlMaxRegisters
      · simp [enterCtrl, if_pos invalid] at entered
      rw [enterCtrl, if_neg invalid, Sum.inl.injEq] at entered
      subst entered
      obtain ⟨filled, ready⟩ := prepares.keeps (Filled call buffers)
        (filled_step call buffers) ⟨rfl, rfl⟩
      obtain ⟨same, sent⟩ := filled_ready call buffers filled ready
      subst sent
      change transferCtrl spi _ _ world = _ at exchanged
      simp only [transferCtrl, same, Prod.mk.injEq] at exchanged
      obtain ⟨⟨rfl, rfl⟩, rfl⟩ := exchanged
      rw [registers_performed spi call _ invalid]
      exact emptied_reply spi call _ _ last reply _ finishes

end Code

/-! The accesses of any number of threads. -/

section Sharing
variable {World Thread : Type}

/-- The events one after another: every call gets the reply that the function gives at
its place. -/
def InTurn (spi : Spi World) :
    List (Event Thread CtrlCall CtrlReply World) → CtrlState World → CtrlState World → Prop
  | [], state, last => last = state
  | .call made :: rest, state, last =>
      let result := oaTc6Registers spi made.request state
      made.result = ⟨result.ret, result.value⟩ ∧ InTurn spi rest result.state last
  | .outside change :: rest, state, last =>
      InTurn spi rest { state with world := change state.world } last

variable (spi : Spi World)

theorem in_turn_snoc (history : List (Event Thread CtrlCall CtrlReply World))
    (event : Event Thread CtrlCall CtrlReply World) (state middle last : CtrlState World)
    (turn : InTurn spi history state middle) (next : InTurn spi [event] middle last) :
    InTurn spi (history ++ [event]) state last := by
  induction history generalizing state with
  | nil =>
      rw [show middle = state from turn] at next
      exact next
  | cons earlier rest ih =>
      cases earlier with
      | call made => exact ⟨turn.1, ih _ turn.2⟩
      | outside change => exact ih _ turn

theorem serial_in_turn {first : CtrlBuffers × World}
    {history : List (Event Thread CtrlCall CtrlReply World)} {last : CtrlBuffers × World}
    (serial : Serial (ctrlCode spi) first history last) :
    InTurn spi history (first.1.with first.2) (last.1.with last.2) := by
  induction serial with
  | none => rfl
  | call made _ alone ih =>
      apply in_turn_snoc spi _ _ _ _ _ ih
      simp only [InTurn, ctrl_alone spi _ _ _ _ _ _ alone, and_self]
  | outside change _ ih => exact in_turn_snoc spi _ _ _ _ _ ih rfl

variable [DecidableEq Thread]

abbrev CtrlSystem (Thread World : Type) : Type :=
  System Thread CtrlCall Filling Emptying CtrlReply CtrlBuffers World

/-- Whatever the order of the steps, at most one call is between lock and unlock, and the
calls that have ended did so as if made one after another. -/
theorem control_calls_in_turn (first : CtrlBuffers × World) (system : CtrlSystem Thread World)
    (reached : Reaches (sharing (ctrlCode spi) first) anyStep system) :
    (∀ thread other, (system.phase thread).inside = true →
        (system.phase other).inside = true → thread = other) ∧
      ∃ history last, history.filterMap Event.call? = system.calls ∧
        history.filterMap Event.change? <+: system.changes ∧
        InTurn spi history (first.1.with first.2) last ∧
        (system.lock = none → history.filterMap Event.change? = system.changes ∧
          last = system.data.with system.world) := by
  have ordered := sharing_ordered reached
  refine ⟨fun thread other => ordered.exclusive, ?_⟩
  cases lock : system.lock with
  | none =>
      obtain ⟨history, calls, changes, serial⟩ := ordered.serializable lock
      exact ⟨history, _, calls, changes ▸ List.prefix_rfl, serial_in_turn spi serial,
        fun _ => ⟨changes, rfl⟩⟩
  | some owner =>
      obtain ⟨history, settled, calls, changes, serial⟩ := ordered.served
      exact ⟨history, _, calls, changes, serial_in_turn spi serial, nofun⟩

end Sharing

/-! With a conforming MAC-PHY behind the SPI. -/

section Device
variable {Thread : Type} (unused : Registers → List UInt8 → Nat → UInt8)

theorem device_writes (address : BitVec 32) (value : Nat → BitVec 32) (length : Nat)
    (state : CtrlState Registers) (valid : ValidAccess address length)
    (compared : length ≠ 62 ∧ length ≠ 126) :
    (oaTc6WriteRegisters (ctrlDevice unused) address value length state).ret = 0 := by
  obtain ⟨transferred, echoed⟩ :=
    device_echoed unused address value length state valid.positive valid.short
  rcases write_registers_ret (ctrlDevice unused) address value length state valid.positive
    valid.short transferred with ⟨_, differs⟩ | ⟨success, _⟩
  · have count := echo_count length valid.positive valid.short
    rw [if_neg (by omega)] at count
    exact absurd echoed (differs_not_echoed _ _ _ _ _ _ (by omega) differs)
  · exact success

/-- Registers that are read and written at once, one access after another; the chip and
the other transfers change them in between. -/
def AtomicRegisters :
    List (Event Thread CtrlCall CtrlReply Registers) → Registers → Registers → Prop
  | [], registers, last => last = registers
  | .call made :: rest, registers, last =>
      let call := made.request
      made.result.ret = 0 ∧ match call.regOp with
        | .read =>
            (∀ i < call.length, made.result.value i = registers (call.address.toNat + i)) ∧
              AtomicRegisters rest registers last
        | .write => AtomicRegisters rest
            (writeEach registers (fun i => call.address.toNat + i) call.value call.length) last
  | .outside change :: rest, registers, last => AtomicRegisters rest (change registers) last

/-- An access within one memory map; a write also of a length whose echo is compared within
bounds. -/
def CtrlCall.Proper (call : CtrlCall) : Prop :=
  ValidAccess call.address call.length ∧
    (call.regOp = .write → call.length ≠ 62 ∧ call.length ≠ 126)

theorem in_turn_atomic (history : List (Event Thread CtrlCall CtrlReply Registers))
    (proper : ∀ made ∈ history.filterMap Event.call?, made.request.Proper)
    (state last : CtrlState Registers) (turn : InTurn (ctrlDevice unused) history state last) :
    AtomicRegisters history state.world last.world := by
  induction history generalizing state with
  | nil => exact congrArg CtrlState.world turn
  | cons event rest ih =>
      cases event with
      | outside change => exact ih proper _ turn
      | call made =>
          obtain ⟨valid, compared⟩ := proper made List.mem_cons_self
          have further := fun other among => proper other (List.mem_cons_of_mem made among)
          obtain ⟨replied, turn⟩ := turn
          cases op : made.request.regOp with
          | read =>
              simp only [oaTc6Registers, op] at replied turn
              obtain ⟨success, values, world⟩ := read_registers unused made.request.address
                made.request.value made.request.length state valid
              have tail := ih further _ turn
              rw [world] at tail
              simp only [AtomicRegisters, op, replied]
              exact ⟨success, values, tail⟩
          | write =>
              simp only [oaTc6Registers, op] at replied turn
              have tail := ih further _ turn
              rw [write_world unused _ _ _ _ valid] at tail
              simp only [AtomicRegisters, op, replied]
              exact ⟨device_writes unused _ _ _ state valid (compared op), tail⟩

variable [DecidableEq Thread]

/-- To its callers the MAC-PHY is a file of registers accessed at once. -/
theorem registers_linearizable (first : CtrlBuffers × Registers)
    (system : CtrlSystem Thread Registers)
    (reached : Reaches (sharing (ctrlCode (ctrlDevice unused)) first) anyStep system)
    (proper : ∀ made ∈ system.calls, made.request.Proper) :
    ∃ history last, history.filterMap Event.call? = system.calls ∧
      history.filterMap Event.change? <+: system.changes ∧
      AtomicRegisters history first.2 last ∧
      (system.lock = none → history.filterMap Event.change? = system.changes ∧
        last = system.world) := by
  have ordered := sharing_ordered reached
  cases lock : system.lock with
  | none =>
      obtain ⟨history, calls, changes, serial⟩ := ordered.serializable lock
      have turn := serial_in_turn (ctrlDevice unused) serial
      exact ⟨history, _, calls, changes ▸ List.prefix_rfl,
        in_turn_atomic unused history (calls ▸ proper) _ _ turn, fun _ => ⟨changes, rfl⟩⟩
  | some owner =>
      obtain ⟨history, settled, calls, changes, serial⟩ := ordered.served
      have turn := serial_in_turn (ctrlDevice unused) serial
      exact ⟨history, _, calls, changes, in_turn_atomic unused history (calls ▸ proper) _ _ turn,
        nofun⟩

end Device

/-! The lock is let go of on every path, so no caller waits for ever. -/

def fillingSteps : Filling → Nat
  | .header call => 2 * call.length + 4
  | .words call count => (call.length - count) + call.length + 3

def emptyingSteps : Emptying → Nat
  | .transferred call _ => call.length + 2
  | .copying call _ count => (call.length - count) + 1

section Progress
variable {World Thread : Type} (spi : Spi World)

theorem ctrl_shortens : Shortens (ctrlCode spi) fillingSteps emptyingSteps where
  prepare point change buffers prepared := by
    change fillCtrl point = some change at prepared
    cases point with
    | header call =>
        simp only [fillCtrl, Option.some.injEq] at prepared
        subst change
        simp only [fillingSteps]
        omega
    | words call count =>
        by_cases more : call.regOp = .write ∧ count < call.length
        · simp only [fillCtrl, if_pos more, Option.some.injEq] at prepared
          subst change
          have less := more.2
          simp only [fillingSteps]
          omega
        · simp [fillCtrl, if_neg more] at prepared
  exchange point buffers world last := by
    change fillCtrl point = none at last
    cases point with
    | header call => simp [fillCtrl] at last
    | words call count =>
        simp only [ctrlCode, transferCtrl, Filling.call, emptyingSteps, fillingSteps]
        omega
  finish point buffers further between goes := by
    change emptyCtrl point buffers = _ at goes
    cases point with
    | transferred call ret =>
        -- Only a read whose echo is right goes on, with the first word.
        have first : further = .copying call call.value 0 := by
          simp only [emptyCtrl] at goes
          split at goes
          · simp at goes
          · split at goes
            · simp at goes
            · split at goes
              · simp at goes
              · simp only [Prod.mk.injEq, Sum.inl.injEq] at goes
                exact goes.1.symm
        subst further
        simp only [emptyingSteps]
        omega
    | copying call value count =>
        by_cases more : count < call.length
        · simp only [emptyCtrl, if_pos more, Prod.mk.injEq, Sum.inl.injEq] at goes
          obtain ⟨rfl, rfl⟩ := goes
          simp only [emptyingSteps]
          omega
        · simp [emptyCtrl, more] at goes

variable [DecidableEq Thread] [Fintype Thread]

/-- Without new calls the threads take a bounded number of steps, and where they can take
no more all calls are over and the lock is free. -/
theorem control_calls_drain (first : CtrlBuffers × World) (system last : CtrlSystem Thread World)
    (acts : List (Act Thread CtrlCall World))
    (reached : Reaches (sharing (ctrlCode spi) first) anyStep system)
    (inner : ∀ act ∈ acts, act.inner = true)
    (ran : (sharing (ctrlCode spi) first).run system acts = some last) :
    acts.length + totalOwed fillingSteps emptyingSteps last ≤
        totalOwed fillingSteps emptyingSteps system ∧
      ((∀ act, act.inner = true → next (ctrlCode spi) last act = none) →
        last.lock = none ∧ ∀ thread, last.phase thread = .idle) := by
  have ordered := sharing_ordered (reached.run acts (allowed_any _ _ acts) ran)
  refine ⟨inner_run_bounded (ctrl_shortens spi) acts inner ran, ?_⟩
  intro stuck
  have idle : ∀ thread, last.phase thread = .idle := by
    intro thread
    by_contra busy
    obtain ⟨act, inner, moves⟩ := ordered.unstuck busy
    rw [stuck act inner] at moves
    contradiction
  refine ⟨?_, idle⟩
  cases lock : last.lock with
  | none => rfl
  | some owner =>
      have inside := (ordered.owner owner).mpr lock
      rw [idle owner] at inside
      contradiction

end Progress

/-! A write and a read of one register by two threads, the chip cleared in between. -/

def sampleWrite : CtrlCall := ⟨0x10022#32, fun _ => 7#32, 1, .write⟩
def sampleRead : CtrlCall := ⟨0x10022#32, fun _ => 0#32, 1, .read⟩

def clearedDevice : Spi Registers := ctrlDevice fun _ _ _ => 0

def sampleQuiet : CtrlSystem Bool Registers where
  lock := none
  phase := fun _ => .idle
  data := ⟨fun _ => 0, fun _ => 0⟩
  world := fun _ => 0#32
  calls := []
  changes := []

def sampleActs : List (Act Bool CtrlCall Registers) :=
  [.call false sampleWrite, .call true sampleRead, .take false, .step false, .step false,
    .step false, .outside fun _ _ => 0#32, .step false, .release false, .take true, .step true,
    .step true]

def sampleRest : List (Act Bool CtrlCall Registers) :=
  [.step true, .step true, .step true, .release true]

def sampleSharing : Machine (CtrlSystem Bool Registers) (Act Bool CtrlCall Registers) :=
  sharing (ctrlCode clearedDevice) (sampleQuiet.data, sampleQuiet.world)

def sampleShared : CtrlSystem Bool Registers := sampleSharing.after sampleQuiet sampleActs

def sampleDone : CtrlSystem Bool Registers := sampleSharing.after sampleShared sampleRest

theorem sample_starts : sampleSharing.start sampleQuiet :=
  ⟨rfl, fun _ => rfl, rfl, rfl, rfl⟩

theorem sample_shared_reached : Reaches sampleSharing anyStep sampleShared :=
  reaches_after sample_starts sampleActs (allowed_any _ _ _)

theorem sample_ran : sampleSharing.run sampleShared sampleRest = some sampleDone :=
  run_after (by decide +kernel)

theorem sample_done_reached : Reaches sampleSharing anyStep sampleDone :=
  sample_shared_reached.run sampleRest (allowed_any _ _ _) sample_ran

theorem sample_proper : ∀ made ∈ sampleDone.calls, made.request.Proper := by
  have requests : sampleDone.calls.map (fun made => (made.request.address, made.request.length)) =
      [(0x10022#32, 1), (0x10022#32, 1)] := by
    decide +kernel
  intro made among
  have listed := List.mem_map_of_mem
    (f := fun made : Call Bool CtrlCall CtrlReply => (made.request.address, made.request.length))
    among
  rw [requests] at listed
  obtain ⟨address, length⟩ : made.request.address = 0x10022#32 ∧ made.request.length = 1 := by
    simpa using listed
  rw [CtrlCall.Proper, address, length]
  exact ⟨⟨by decide, by decide, by decide, by decide⟩, fun _ => by decide⟩

theorem control_calls_in_turn_sample :
    (∀ thread other, (sampleShared.phase thread).inside = true →
        (sampleShared.phase other).inside = true → thread = other) ∧
      ∃ history last, history.filterMap Event.call? = sampleShared.calls ∧
        history.filterMap Event.change? <+: sampleShared.changes ∧
        InTurn clearedDevice history (sampleQuiet.data.with sampleQuiet.world) last ∧
        (sampleShared.lock = none → history.filterMap Event.change? = sampleShared.changes ∧
          last = sampleShared.data.with sampleShared.world) :=
  control_calls_in_turn clearedDevice (sampleQuiet.data, sampleQuiet.world) sampleShared
    sample_shared_reached

theorem registers_linearizable_sample :
    ∃ history last, history.filterMap Event.call? = sampleDone.calls ∧
      history.filterMap Event.change? <+: sampleDone.changes ∧
      AtomicRegisters history sampleQuiet.world last ∧
      (sampleDone.lock = none → history.filterMap Event.change? = sampleDone.changes ∧
        last = sampleDone.world) :=
  registers_linearizable (fun _ _ _ => 0) (sampleQuiet.data, sampleQuiet.world) sampleDone
    sample_done_reached sample_proper

theorem control_calls_drain_sample :
    sampleRest.length + totalOwed fillingSteps emptyingSteps sampleDone ≤
        totalOwed fillingSteps emptyingSteps sampleShared ∧
      ((∀ act, act.inner = true → next (ctrlCode clearedDevice) sampleDone act = none) →
        sampleDone.lock = none ∧ ∀ thread, sampleDone.phase thread = .idle) :=
  control_calls_drain clearedDevice (sampleQuiet.data, sampleQuiet.world) sampleShared sampleDone
    sampleRest sample_shared_reached (by decide) sample_ran

end Lan865x.OaTc6
