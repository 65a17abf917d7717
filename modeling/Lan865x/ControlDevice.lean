import Lan865x.ControlCommand

/-!
A MAC-PHY at the other end of the SPI, written from the control transaction chapter
of oa-tc6-framework.rst: it decodes a command, writes or reads its registers and echoes
the command. The driver's register accesses are then related to its registers.
-/

namespace Lan865x.OaTc6
open BitField Memory RegisterBus

structure Command where
  write : Bool
  noIncrement : Bool
  mms : Nat
  addr : Nat
  count : Nat

/-- The documented fields DNC, P, WNR, AID, MMS, ADDR and LEN. -/
def decodeCommand (header : BitVec 32) : Option Command :=
  if flag (bit 31) header = true ∨ parity header = false then none
  else some {
    write := flag (bit 29) header
    noIncrement := flag (bit 28) header
    mms := number ⟨27, 24⟩ header
    addr := number ⟨23, 8⟩ header
    count := number ⟨7, 1⟩ header + 1 }

/-- The register that the command accesses after `i` others. -/
def Command.register (command : Command) (i : Nat) : Nat :=
  command.mms * 2 ^ 16 +
    if command.noIncrement then command.addr else (command.addr + i) % 2 ^ 16

abbrev Registers : Type := Nat → BitVec 32

def Command.execute (command : Command) (mosi : Nat → UInt8) (registers : Registers) : Registers :=
  if command.write then
    writeEach registers command.register (fun i => be32At mosi (4 + 4 * i)) command.count
  else registers

/-- The echo, from byte 4 on; a read has the registers in it. -/
def Command.reply (command : Command) (mosi unused : Nat → UInt8) (registers : Registers)
    (j : Nat) : UInt8 :=
  if j < 4 ∨ 8 + 4 * command.count ≤ j then unused j
  else if command.write ∨ j < 8 then mosi (j - 4)
  else (cpuToBe32 (registers (command.register ((j - 8) / 4)))).getD ((j - 8) % 4) 0

/-- `unused` are the bytes the text leaves open. A header with bad parity is rejected. -/
def ctrlDevice (unused : Registers → List UInt8 → Nat → UInt8) : Spi Registers :=
  fun mosi registers =>
    let bytes := fun j => mosi.getD j 0
    match decodeCommand (be32At bytes 0) with
    | none => ((0, unused registers mosi), registers)
    | some command =>
        if mosi.length < 8 + 4 * command.count then ((0, unused registers mosi), registers)
        else ((0, command.reply bytes (unused registers mosi) registers),
          command.execute bytes registers)

section Reply
variable (command : Command) (mosi unused : Nat → UInt8) (registers : Registers)

/-- All of a write is echoed, and the header of a read. -/
theorem reply_echo (j : Nat) (inside : j < 4 + 4 * command.count)
    (echoed : command.write = true ∨ j < 4) :
    command.reply mosi unused registers (4 + j) = mosi j := by
  have known : ¬ (4 + j < 4 ∨ 8 + 4 * command.count ≤ 4 + j) := by omega
  have echoes : command.write = true ∨ 4 + j < 8 := echoed.imp_right fun header => by omega
  rw [Command.reply, if_neg known, if_pos echoes, Nat.add_sub_cancel_left]

/-- After the header of a read come the registers. -/
theorem reply_value (i j : Nat) (below : i < command.count) (small : j < 4)
    (read : command.write = false) :
    command.reply mosi unused registers (8 + 4 * i + j) =
      (cpuToBe32 (registers (command.register i))).getD j 0 := by
  have known : ¬ (8 + 4 * i + j < 4 ∨ 8 + 4 * command.count ≤ 8 + 4 * i + j) := by omega
  have data : ¬ (command.write = true ∨ 8 + 4 * i + j < 8) := by
    rw [read]
    simp
    omega
  have which : (8 + 4 * i + j - 8) / 4 = i := by omega
  have byte : (8 + 4 * i + j - 8) % 4 = j := by omega
  rw [Command.reply, if_neg known, if_neg data, which, byte]

end Reply

/-- Registers that one command can access: a memory map is not left. -/
structure ValidAccess (address : BitVec 32) (length : Nat) : Prop where
  positive : 0 < length
  short : length ≤ ctrlMaxRegisters
  addressed : address.toNat < 2 ^ 20
  inside : address.toNat % 2 ^ 16 + length ≤ 2 ^ 16

theorem ValidAccess.accepted {address : BitVec 32} {length : Nat}
    (valid : ValidAccess address length) : ¬ (length = 0 ∨ length > ctrlMaxRegisters) := by
  have positive := valid.positive
  have short := valid.short
  omega

section Transaction
variable (address : BitVec 32) (length : Nat) (regOp : RegisterOp)

/-- The command that the driver means. -/
def driverCommand : Command where
  write := regOp == .write
  noIncrement := false
  mms := address.toNat / 2 ^ 16 % 2 ^ 4
  addr := address.toNat % 2 ^ 16
  count := length

theorem decode_prepared (positive : 0 < length) (short : length ≤ ctrlMaxRegisters) :
    decodeCommand (prepareCtrlHeader address length regOp) =
      some (driverCommand address length regOp) := by
  have control : flag (bit 31) (prepareCtrlHeader address length regOp) = false :=
    ctrl_header_control address length regOp
  have write : flag (bit 29) (prepareCtrlHeader address length regOp) = (regOp == .write) :=
    ctrl_header_write address length regOp
  have mms : number ⟨27, 24⟩ (prepareCtrlHeader address length regOp) =
      address.toNat / 2 ^ 16 % 2 ^ 4 := ctrl_header_mms address length regOp
  have addr : number ⟨23, 8⟩ (prepareCtrlHeader address length regOp) =
      address.toNat % 2 ^ 16 := ctrl_header_addr address length regOp
  have count : number ⟨7, 1⟩ (prepareCtrlHeader address length regOp) = length - 1 :=
    ctrl_header_length address length regOp positive short
  have whole : length - 1 + 1 = length := by omega
  rw [decodeCommand, if_neg]
  · rw [write, ctrl_header_increment, mms, addr, count, whole]
    rfl
  · simp [control, ctrl_header_parity]

theorem driver_register (valid : ValidAccess address length) (i : Nat) (below : i < length) :
    (driverCommand address length regOp).register i = address.toNat + i := by
  have addressed := valid.addressed
  have inside := valid.inside
  simp [Command.register, driverCommand]
  omega

variable (unused : Registers → List UInt8 → Nat → UInt8) (txBuf : Nat → UInt8)
  (value : Nat → BitVec 32) (registers : Registers)

/-- What the driver sends is taken for the command it means. -/
theorem device_run (positive : 0 < length) (short : length ≤ ctrlMaxRegisters) :
    let mosi := cellsAt (prepareCtrlSpiBuf txBuf address value length regOp) 0 (8 + 4 * length)
    let bytes := fun j => mosi.getD j 0
    ctrlDevice unused mosi registers =
      ((0, (driverCommand address length regOp).reply bytes (unused registers mosi) registers),
        (driverCommand address length regOp).execute bytes registers) := by
  intro mosi bytes
  have header : be32At bytes 0 = prepareCtrlHeader address length regOp := by
    rw [← prepared_header txBuf address value length regOp]
    apply be32At_congr
    intro j small
    exact cellsAt_get _ _ _ _ (by omega)
  have full : ¬ mosi.length < 8 + 4 * (driverCommand address length regOp).count := by
    simp [mosi, driverCommand]
  simp only [ctrlDevice]
  rw [header, decode_prepared address length regOp positive short]
  exact if_neg full

end Transaction

section Registers
variable (unused : Registers → List UInt8 → Nat → UInt8) (address : BitVec 32)
  (value : Nat → BitVec 32) (length : Nat) (state : CtrlState Registers)

/-- The SPI buffer that is sent, and what it holds at the device. -/
def sentBuf (regOp : RegisterOp) : Nat → UInt8 :=
  prepareCtrlSpiBuf state.txBuf address value length regOp

def sentBytes (regOp : RegisterOp) : Nat → UInt8 := fun j =>
  (cellsAt (sentBuf address value length state regOp) 0 (8 + 4 * length)).getD j 0

theorem sent_bytes (regOp : RegisterOp) (j : Nat) (inside : j < 8 + 4 * length) :
    sentBytes address value length state regOp j = sentBuf address value length state regOp j :=
  cellsAt_get _ _ _ _ inside

/-- A register write sets the registers addressed, one after another. -/
theorem write_world (valid : ValidAccess address length) :
    (oaTc6WriteRegisters (ctrlDevice unused) address value length state).state.world =
      writeEach state.world (fun i => address.toNat + i) value length := by
  have run := device_run address length .write unused state.txBuf value state.world
    valid.positive valid.short
  calc (oaTc6WriteRegisters (ctrlDevice unused) address value length state).state.world
      = (driverCommand address length .write).execute
          (sentBytes address value length state .write) state.world := by
        simp only [oaTc6WriteRegisters, if_neg valid.accepted, oaTc6PerformCtrl, oaTc6SpiTransfer,
          ctrl_buf_size length valid.short]
        rw [run]
        rfl
    _ = writeEach state.world (fun i => address.toNat + i) value length := by
        apply write_each_congr
        · exact driver_register address length .write valid
        · intro i (below : i < length)
          rw [← prepared_value state.txBuf address value length i below]
          apply be32At_congr
          intro j small
          exact sent_bytes address value length state .write _ (by omega)

theorem written_inside (valid : ValidAccess address length) (i : Nat) (below : i < length) :
    (oaTc6WriteRegisters (ctrlDevice unused) address value length state).state.world
      (address.toNat + i) = value i := by
  rw [write_world unused address value length state valid]
  apply write_each_same _ (fun i => address.toNat + i) _ _ _ below
  intro first _ second _ same
  omega

theorem written_outside (valid : ValidAccess address length) (register : Nat)
    (apart : ∀ i < length, register ≠ address.toNat + i) :
    (oaTc6WriteRegisters (ctrlDevice unused) address value length state).state.world register =
      state.world register := by
  rw [write_world unused address value length state valid]
  exact write_each_apart _ _ _ _ _ apart

/-- The state after the transfer of a register read. -/
def readState : CtrlState Registers :=
  let mosi := cellsAt (sentBuf address value length state .read) 0 (8 + 4 * length)
  let reply := (driverCommand address length .read).reply
    (sentBytes address value length state .read) (unused state.world mosi) state.world
  { txBuf := sentBuf address value length state .read
    rxBuf := fun j => if j < 8 + 4 * length then reply j else state.rxBuf j
    world := state.world }

theorem read_echo :
    be32At (readState unused address value length state).rxBuf 4 =
      be32At (readState unused address value length state).txBuf 0 := by
  have shifted : ∀ j < 4, (readState unused address value length state).rxBuf (4 + j) =
      (readState unused address value length state).txBuf j := by
    intro j small
    have sent : 4 + j < 8 + 4 * length := by omega
    simp only [readState, if_pos sent]
    rw [reply_echo]
    · exact sent_bytes address value length state .read j (by omega)
    · exact Nat.lt_of_lt_of_le small (Nat.le_add_right _ _)
    · exact Or.inr small
  simp [be32At, shifted 0, shifted 1, shifted 2, shifted 3]

theorem read_value (valid : ValidAccess address length) (i : Nat) (below : i < length) :
    be32At (readState unused address value length state).rxBuf (8 + 4 * i) =
      state.world (address.toNat + i) := by
  apply be32At_bytes
  intro j small
  have sent : 8 + 4 * i + j < 8 + 4 * length := by omega
  simp only [readState, if_pos sent]
  rw [reply_value _ _ _ _ i j below small rfl, driver_register address length .read valid i below]

/-- A register read leaves the reply of the device in the receive buffer. -/
theorem read_run (valid : ValidAccess address length) :
    oaTc6ReadRegisters (ctrlDevice unused) address value length state =
      ⟨0, copyCtrlReadData (readState unused address value length state) value length,
        readState unused address value length state⟩ := by
  have run := device_run address length .read unused state.txBuf value state.world
    valid.positive valid.short
  have checked : checkCtrlReadReply (readState unused address value length state) = 0 := by
    apply if_neg
    exact not_not_intro (read_echo unused address value length state).symm
  simp only [oaTc6ReadRegisters, if_neg valid.accepted, oaTc6PerformCtrl, oaTc6SpiTransfer,
    ctrl_buf_size length valid.short]
  rw [run]
  exact if_neg (not_not_intro checked)

/-- The registers are read, and stay what they are. -/
theorem read_registers (valid : ValidAccess address length) :
    let read := oaTc6ReadRegisters (ctrlDevice unused) address value length state
    read.ret = 0 ∧ (∀ i < length, read.value i = state.world (address.toNat + i)) ∧
      read.state.world = state.world := by
  intro read
  have run : read = _ := read_run unused address value length state valid
  rw [run]
  refine ⟨rfl, ?_, rfl⟩
  intro i below
  exact (if_pos below).trans (read_value unused address value length state valid i below)

/-- A write sets the registers addressed and no other, a read returns them and changes
none, and a read after a write returns what was written. -/
theorem control_transactions_act (valid : ValidAccess address length) :
    let written := (oaTc6WriteRegisters (ctrlDevice unused) address value length state).state
    (∀ i < length, written.world (address.toNat + i) = value i) ∧
      (∀ register, (∀ i < length, register ≠ address.toNat + i) →
        written.world register = state.world register) ∧
      (∀ array, let read := oaTc6ReadRegisters (ctrlDevice unused) address array length state
        read.ret = 0 ∧ (∀ i < length, read.value i = state.world (address.toNat + i)) ∧
          read.state.world = state.world) ∧
      (∀ array, let read := oaTc6ReadRegisters (ctrlDevice unused) address array length written
        read.ret = 0 ∧ ∀ i < length, read.value i = value i) := by
  intro written
  have inside := written_inside unused address value length state valid
  refine ⟨inside, written_outside unused address value length state valid, ?_, ?_⟩
  · intro array
    exact read_registers unused address array length state valid
  · intro array
    obtain ⟨success, values, _⟩ := read_registers unused address array length written valid
    constructor
    · exact success
    · intro i below
      rw [values i below, inside i below]

end Registers

/-- The two MAC address registers, written with 1 and 2 and read back. -/
theorem control_transactions_sample :
    let device := ctrlDevice fun _ _ _ => 0
    let written := (oaTc6WriteRegisters device 0x10022#32 (fun i => BitVec.ofNat 32 (i + 1)) 2
      ⟨fun _ => 0xff, fun _ => 0xff, fun _ => 0⟩).state
    ∀ i < 2, (oaTc6ReadRegisters device 0x10022#32 (fun _ => 0) 2 written).value i =
      BitVec.ofNat 32 (i + 1) := by
  have valid : ValidAccess 0x10022#32 2 :=
    ⟨by decide, by decide, by decide, by decide⟩
  exact ((control_transactions_act (fun _ _ _ => 0) 0x10022#32 (fun i => BitVec.ofNat 32 (i + 1)) 2
    ⟨fun _ => 0xff, fun _ => 0xff, fun _ => 0⟩ valid).2.2.2 fun _ => 0).2

end Lan865x.OaTc6
