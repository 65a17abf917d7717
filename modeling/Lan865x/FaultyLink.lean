import Lan865x.SpiBus

/-!
Control transactions over a line that fails. Behind it is the conforming device; the
SPI controller may report an error, the echo may come back changed, and the device may
or may not have seen a command that failed.
-/

namespace Lan865x.OaTc6
open BitField Memory RegisterBus

/-- How a control transaction ends. The noise of a mismatch is in the echo of the header or,
for a write, of the value. -/
inductive CtrlOutcome where
  | success
  | spiError (errno : Nat) (executed : Bool)
  | echoMismatch (noise : Nat → UInt8) (inEcho : ∃ j < 8, noise (4 + j) ≠ 0) (executed : Bool)

namespace CtrlOutcome

def succeeds : CtrlOutcome → Bool
  | .success => true
  | .spiError _ _ => false
  | .echoMismatch _ _ _ => false

def executed : CtrlOutcome → Bool
  | .success => true
  | .spiError _ executed => executed
  | .echoMismatch _ _ executed => executed

def noise : CtrlOutcome → Nat → UInt8
  | .success => fun _ => 0
  | .spiError _ _ => fun _ => 0
  | .echoMismatch noise _ _ => noise

/-- A mismatch is in the four bytes of the header, the only ones that are echoed by a read. -/
def InHeader : CtrlOutcome → Prop
  | .success => True
  | .spiError _ _ => True
  | .echoMismatch noise _ _ => ∃ j < 4, noise (4 + j) ≠ 0

/-- What `spi_sync` returns. -/
def spiRet : CtrlOutcome → Int
  | .success => 0
  | .spiError errno _ => -(errno + 1 : Nat)
  | .echoMismatch _ _ _ => 0

/-- The error that the driver is to report. -/
def ret : CtrlOutcome → Int
  | .success => 0
  | .spiError errno _ => -(errno + 1 : Nat)
  | .echoMismatch _ _ _ => -eproto

theorem ret_zero_iff (outcome : CtrlOutcome) : outcome.ret = 0 ↔ outcome.succeeds = true := by
  cases outcome with
  | success => exact ⟨fun _ => rfl, fun _ => rfl⟩
  | spiError errno _ => simp [ret, succeeds]; omega
  | echoMismatch _ _ _ => simp [ret, succeeds, eproto]

theorem ret_nonpos (outcome : CtrlOutcome) : outcome.ret ≤ 0 := by
  cases outcome with
  | success => exact Int.le_refl 0
  | spiError errno _ => simp only [ret]; omega
  | echoMismatch _ _ _ => simp [ret, eproto]

end CtrlOutcome

/-- The device, how the next transaction ends, and how many there were. -/
structure Line where
  registers : Registers
  outcome : CtrlOutcome
  transfers : Nat

/-- One more transfer, after which the device has these registers. -/
def Line.pass (line : Line) (registers : Registers) : Line :=
  { line with
    registers := registers
    transfers := line.transfers + 1 }

def faultySpi (unused : Registers → List UInt8 → Nat → UInt8) : Spi Line := fun mosi line =>
  let ((_, miso), after) := ctrlDevice unused mosi line.registers
  ((line.outcome.spiRet, fun j => miso j ^^^ line.outcome.noise j),
    line.pass (if line.outcome.executed then after else line.registers))

section Access
variable (unused : Registers → List UInt8 → Nat → UInt8) (address : BitVec 32)
  (value : Nat → BitVec 32) (state : CtrlState Line)

/-- The device's reply to a command of one register, before the noise. -/
def cleanReply (regOp : RegisterOp) : Nat → UInt8 :=
  let mosi := cellsAt (prepareCtrlSpiBuf state.txBuf address value 1 regOp) 0 12
  (driverCommand address 1 regOp).reply (fun j => mosi.getD j 0)
    (unused state.world.registers mosi) state.world.registers

def linkAfter (regOp : RegisterOp) : Line :=
  let mosi := cellsAt (prepareCtrlSpiBuf state.txBuf address value 1 regOp) 0 12
  state.world.pass (if state.world.outcome.executed then
      (driverCommand address 1 regOp).execute (fun j => mosi.getD j 0) state.world.registers
    else state.world.registers)

def noisyState (regOp : RegisterOp) : CtrlState Line where
  txBuf := prepareCtrlSpiBuf state.txBuf address value 1 regOp
  rxBuf := fun j => if j < 12 then
      cleanReply unused address value state regOp j ^^^ state.world.outcome.noise j
    else state.rxBuf j
  world := linkAfter address value state regOp

theorem faulty_transfer (regOp : RegisterOp) :
    oaTc6SpiTransfer (faultySpi unused) (calculateCtrlBufSize 1)
      { state with txBuf := prepareCtrlSpiBuf state.txBuf address value 1 regOp } =
        (state.world.outcome.spiRet, noisyState unused address value state regOp) := by
  have run := device_run address 1 regOp unused state.txBuf value state.world.registers
    (by decide) (by decide)
  have size : calculateCtrlBufSize 1 = 8 + 4 * 1 := by decide
  simp only [oaTc6SpiTransfer, faultySpi, size]
  rw [run]
  rfl

/-- Without noise the header of every command comes back, and all of a write. -/
theorem clean_echo (regOp : RegisterOp) (j : Nat) (inside : j < 8)
    (echoed : regOp = .write ∨ j < 4) :
    cleanReply unused address value state regOp (4 + j) =
      prepareCtrlSpiBuf state.txBuf address value 1 regOp j := by
  simp only [cleanReply]
  rw [reply_echo]
  · exact cellsAt_get _ _ _ _ (by omega)
  · exact inside
  · exact echoed.imp_left fun write => by subst write; rfl

theorem noisy_echo (regOp : RegisterOp) (j : Nat) (inside : j < 8)
    (echoed : regOp = .write ∨ j < 4) :
    (noisyState unused address value state regOp).rxBuf (4 + j) =
      (noisyState unused address value state regOp).txBuf j ^^^
        state.world.outcome.noise (4 + j) := by
  have sent : 4 + j < 12 := by omega
  simp only [noisyState, if_pos sent]
  rw [clean_echo unused address value state regOp j inside echoed]

theorem read_keeps :
    linkAfter address value state .read = state.world.pass state.world.registers := by
  have same : ∀ mosi, (driverCommand address 1 .read).execute mosi state.world.registers =
      state.world.registers := fun _ => rfl
  simp only [linkAfter, same, ite_self]

theorem faulty_read_run (valid : ValidAccess address 1) :
    let after := noisyState unused address value state .read
    oaTc6ReadRegisters (faultySpi unused) address value 1 state =
      if state.world.outcome.spiRet ≠ 0 then ⟨state.world.outcome.spiRet, value, after⟩
      else if checkCtrlReadReply after ≠ 0 then ⟨checkCtrlReadReply after, value, after⟩
      else ⟨0, copyCtrlReadData after value 1, after⟩ := by
  simp only [oaTc6ReadRegisters, if_neg valid.accepted, oaTc6PerformCtrl, faulty_transfer]

theorem faulty_write_run (valid : ValidAccess address 1) :
    let after := noisyState unused address value state .write
    oaTc6WriteRegisters (faultySpi unused) address value 1 state =
      if state.world.outcome.spiRet ≠ 0 then ⟨state.world.outcome.spiRet, value, after⟩
      else ⟨checkCtrlWriteReply after 12, value, after⟩ := by
  have size : toU8 (calculateCtrlBufSize 1) = 12 := by decide
  simp only [oaTc6WriteRegisters, if_neg valid.accepted, oaTc6PerformCtrl, faulty_transfer, size]

theorem noise_seen (byte noise : UInt8) (same : byte = byte ^^^ noise) : noise = 0 := by
  have kept : byte ^^^ 0 = byte ^^^ noise := UInt8.xor_zero.trans same
  exact ((UInt8.xor_right_inj byte).mp kept).symm

/-- The comparison of the echo sees noise in its first `count` bytes, and nothing else. -/
theorem echo_differs_iff (regOp : RegisterOp) (j : Nat) (inside : j < 8)
    (echoed : regOp = .write ∨ j < 4) :
    (noisyState unused address value state regOp).txBuf j ≠
        (noisyState unused address value state regOp).rxBuf (4 + j) ↔
      state.world.outcome.noise (4 + j) ≠ 0 := by
  rw [noisy_echo unused address value state regOp j inside echoed]
  refine not_congr ⟨noise_seen _ _, fun silent => ?_⟩
  rw [silent, UInt8.xor_zero]

theorem read_checked :
    checkCtrlReadReply (noisyState unused address value state .read) =
      if ∃ j < 4, state.world.outcome.noise (4 + j) ≠ 0 then -eproto else 0 := by
  by_cases noisy : ∃ j < 4, state.world.outcome.noise (4 + j) ≠ 0
  · rw [if_pos noisy]
    obtain ⟨j, short, differs⟩ := noisy
    apply if_pos
    intro same
    have byte := be32At_inj _ _ _ _ same j short
    rw [Nat.zero_add, ctrlIgnoredSize] at byte
    exact (echo_differs_iff unused address value state .read j (by omega) (Or.inr short)).mpr
      differs byte
  · rw [if_neg noisy]
    apply if_neg
    rw [not_not]
    have bytes (j : Nat) (short : j < 4) :
        (noisyState unused address value state .read).txBuf j =
          (noisyState unused address value state .read).rxBuf (4 + j) := by
      by_contra differs
      exact noisy ⟨j, short, (echo_differs_iff unused address value state .read j (by omega)
        (Or.inr short)).mp differs⟩
    simp only [be32At, ctrlIgnoredSize, Nat.zero_add, bytes 0 (by decide), bytes 1 (by decide),
      bytes 2 (by decide), bytes 3 (by decide)]

theorem write_checked :
    checkCtrlWriteReply (noisyState unused address value state .write) 12 =
      if ∃ j < 8, state.world.outcome.noise (4 + j) ≠ 0 then -eproto else 0 := by
  have count : ctrlWriteReplyCount 12 = 8 := by decide
  have seen : memcmp (noisyState unused address value state .write).txBuf
      (fun j => (noisyState unused address value state .write).rxBuf (4 + j)) 8 = true ↔
      ∃ j < 8, state.world.outcome.noise (4 + j) ≠ 0 := by
    rw [memcmp, decide_eq_true_iff]
    refine exists_congr fun j => and_congr_right fun inside => ?_
    exact echo_differs_iff unused address value state .write j inside (Or.inl rfl)
  rw [checkCtrlWriteReply, count]
  exact ite_congr (propext seen) (fun _ => rfl) (fun _ => rfl)

theorem clean_value (valid : ValidAccess address 1)
    (silent : state.world.outcome.noise = fun _ => 0) :
    copyCtrlReadData (noisyState unused address value state .read) value 1 0 =
      state.world.registers address.toNat := by
  apply be32At_bytes
  intro j short
  have sent : 8 + 4 * 0 + j < 12 := by omega
  have register : (driverCommand address 1 .read).register 0 = address.toNat :=
    driver_register address 1 .read valid 0 (by decide)
  calc (noisyState unused address value state .read).rxBuf (8 + 4 * 0 + j)
      = cleanReply unused address value state .read (8 + 4 * 0 + j) ^^^
          state.world.outcome.noise (8 + 4 * 0 + j) := if_pos sent
    _ = cleanReply unused address value state .read (8 + 4 * 0 + j) := by
        rw [silent, UInt8.xor_zero]
    _ = (cpuToBe32 (state.world.registers ((driverCommand address 1 .read).register 0))).getD
          j 0 := by
        simp only [cleanReply]
        exact reply_value (driverCommand address 1 .read) _ _ _ 0 j Nat.zero_lt_one short rfl
    _ = (cpuToBe32 (state.world.registers address.toNat)).getD j 0 := by rw [register]

/-- A register read over the line reports how the transaction ended. -/
theorem faulty_read (valid : ValidAccess address 1) (inHeader : state.world.outcome.InHeader) :
    let result := oaTc6ReadRegisters (faultySpi unused) address value 1 state
    result.ret = state.world.outcome.ret ∧
      (state.world.outcome.succeeds = true →
        result.value 0 = state.world.registers address.toNat) ∧
      result.state.world = state.world.pass state.world.registers := by
  intro result
  have run : result = _ := faulty_read_run unused address value state valid
  have world : (noisyState unused address value state .read).world = _ :=
    read_keeps address value state
  have checked := read_checked unused address value state
  cases ends : state.world.outcome with
  | spiError errno executed =>
      have failed : state.world.outcome.spiRet = -(errno + 1 : Nat) := by rw [ends]; rfl
      rw [failed, if_pos (by omega)] at run
      rw [run]
      exact ⟨rfl, (nomatch ·), world⟩
  | echoMismatch noise inEcho executed =>
      have transferred : state.world.outcome.spiRet = 0 := by rw [ends]; rfl
      have noisy : ∃ j < 4, state.world.outcome.noise (4 + j) ≠ 0 := by
        rw [ends] at inHeader ⊢
        exact inHeader
      rw [if_pos noisy] at checked
      rw [transferred, checked, if_neg (by decide), if_pos (by decide)] at run
      rw [run]
      exact ⟨rfl, (nomatch ·), world⟩
  | success =>
      have transferred : state.world.outcome.spiRet = 0 := by rw [ends]; rfl
      have silent : state.world.outcome.noise = fun _ => 0 := by rw [ends]; rfl
      have clean : ¬ ∃ j < 4, state.world.outcome.noise (4 + j) ≠ 0 := by simp [silent]
      rw [if_neg clean] at checked
      rw [transferred, checked, if_neg (by decide), if_neg (by decide)] at run
      rw [run]
      exact ⟨rfl, fun _ => clean_value unused address value state valid silent, world⟩

theorem write_puts (valid : ValidAccess address 1) :
    linkAfter address value state .write = state.world.pass (if state.world.outcome.executed then
        Function.update state.world.registers address.toNat (value 0)
      else state.world.registers) := by
  let bare : CtrlState Registers := ⟨state.txBuf, state.rxBuf, state.world.registers⟩
  have executed : (driverCommand address 1 .write).execute
      (sentBytes address value 1 bare .write) state.world.registers =
        Function.update state.world.registers address.toNat (value 0) := by
    calc (driverCommand address 1 .write).execute
          (sentBytes address value 1 bare .write) state.world.registers
        = writeEach state.world.registers (fun i => address.toNat + i) value 1 := by
          apply write_each_congr
          · exact driver_register address 1 .write valid
          · intro i (below : i < 1)
            rw [← prepared_value state.txBuf address value 1 i below]
            apply be32At_congr
            intro j small
            exact sent_bytes address value 1 bare .write _ (by omega)
      _ = Function.update state.world.registers address.toNat (value 0) := by
          rw [write_each_succ]
          rfl
  simp only [linkAfter]
  rw [← executed]
  rfl

/-- So does a register write, which the device may have executed all the same. -/
theorem faulty_write (valid : ValidAccess address 1) :
    let result := oaTc6WriteRegisters (faultySpi unused) address value 1 state
    result.ret = state.world.outcome.ret ∧
      result.state.world = linkAfter address value state .write := by
  intro result
  have run : result = _ := faulty_write_run unused address value state valid
  have world : (noisyState unused address value state .write).world =
      linkAfter address value state .write := rfl
  have checked := write_checked unused address value state
  cases ends : state.world.outcome with
  | spiError errno executed =>
      have failed : state.world.outcome.spiRet = -(errno + 1 : Nat) := by rw [ends]; rfl
      rw [failed, if_pos (by omega)] at run
      rw [run]
      exact ⟨rfl, world⟩
  | echoMismatch noise inEcho executed =>
      have transferred : state.world.outcome.spiRet = 0 := by rw [ends]; rfl
      have noisy : ∃ j < 8, state.world.outcome.noise (4 + j) ≠ 0 := by
        rw [ends]
        exact inEcho
      rw [transferred, if_neg (by decide), checked, if_pos noisy] at run
      rw [run]
      exact ⟨rfl, world⟩
  | success =>
      have transferred : state.world.outcome.spiRet = 0 := by rw [ends]; rfl
      have clean : ¬ ∃ j < 8, state.world.outcome.noise (4 + j) ≠ 0 := by
        simp [ends, CtrlOutcome.noise]
      rw [transferred, if_neg (by decide), checked, if_neg clean] at run
      rw [run]
      exact ⟨rfl, world⟩

end Access

section Link
variable (unused : Registers → List UInt8 → Nat → UInt8) (address : Nat)
  (addressed : address < 2 ^ 20) (state : CtrlState Line)
include addressed

theorem link_read (inHeader : state.world.outcome.InHeader) :
    let result := (spiBus (faultySpi unused)).read address state
    result.1 = (if state.world.outcome.succeeds = true then .ok (state.world.registers address)
        else .error state.world.outcome.ret) ∧
      result.2.world = state.world.pass state.world.registers := by
  obtain ⟨valid, place⟩ := single_access address addressed
  obtain ⟨ret, value, world⟩ := faulty_read unused _ (fun _ => 0#32) state valid inHeader
  refine ⟨?_, world⟩
  simp only [spiBus, oaTc6ReadRegister, ret, CtrlOutcome.ret_zero_iff]
  refine ite_congr rfl (fun succeeds => ?_) (fun _ => rfl)
  rw [value succeeds, place]

theorem link_write (value : BitVec 32) :
    let result := (spiBus (faultySpi unused)).write address value state
    result.1 = state.world.outcome.ret ∧
      result.2.world = state.world.pass (if state.world.outcome.executed = true then
          Function.update state.world.registers address value
        else state.world.registers) := by
  obtain ⟨valid, place⟩ := single_access address addressed
  obtain ⟨ret, world⟩ := faulty_write unused _ (fun _ => value) state valid
  rw [write_puts _ _ _ valid, place] at world
  exact ⟨ret, world⟩

end Link

end Lan865x.OaTc6
