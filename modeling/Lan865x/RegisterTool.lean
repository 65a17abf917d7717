import Lan865x.ControlPlane
import Lan865x.TimestampConfig

/-!
The registers from user space. `lan865x_ioctl` takes any 32-bit address, and the control
header has room for 20 bits of it: four of the memory map and sixteen of the address.
-/

namespace Lan865x.OaTc6
open BitField Memory RegisterBus RegisterProgram RegisterProgram.Prog

def enotty : Int := 25

structure Lan865xReg where
  addr : BitVec 32
  value : BitVec 32
  deriving DecidableEq

inductive IoctlCmd where
  | readReg
  | writeReg
  | other
  deriving DecidableEq

/-- A call, with what is at its argument. `faultsIn`: `copy_from_user` fails. `torn`:
`copy_to_user` fails, and leaves that. -/
structure IoctlCall where
  cmd : IoctlCmd
  reg : Lan865xReg
  faultsIn : Bool
  torn : Option Lan865xReg

/-- The return value, and what is at the argument then. -/
def IoctlCall.copyOut (call : IoctlCall) (ret : Int) (reg : Lan865xReg) : Int × Lan865xReg :=
  match call.torn with
  | some left => (-efault, left)
  | none => (ret, reg)

def lan865xIoctl (call : IoctlCall) : Prog (Int × Lan865xReg) :=
  match call.cmd with
  | .readReg =>
      if call.faultsIn then return (-efault, call.reg)
      else do
        match ← readRegister call.reg.addr.toNat with
        | .error ret => return if ret < 0 then (ret, call.reg) else call.copyOut ret call.reg
        | .ok value => return call.copyOut 0 { call.reg with value := value }
  | .writeReg =>
      if call.faultsIn then return (-efault, call.reg)
      else do
        let ret ← writeRegister call.reg.addr.toNat call.reg.value
        return (ret, call.reg)
  | .other => return (-enotty, call.reg)

/-! What the header keeps of an address. -/

def place (address : Nat) : Nat := address % 2 ^ 20

theorem prep_congr (field : Field) (value other : BitVec 32)
    (same : ∀ i < field.width, value.getLsbD i = other.getLsbD i) :
    fieldPrep field value = fieldPrep field other := by
  apply BitVec.eq_of_getLsbD_eq
  intro i _
  rw [field_prep_bit, field_prep_bit]
  by_cases low : field.lo ≤ i ∧ i < field.lo + field.width
  · rw [same (i - field.lo) (by omega)]
  · rcases not_and_or.mp low with below | above
    · simp [below]
    · simp [above]

theorem place_bit (address i : Nat) (low : i < 20) :
    (BitVec.ofNat 32 (place address)).getLsbD i = (BitVec.ofNat 32 address).getLsbD i := by
  rw [BitVec.getLsbD_ofNat, BitVec.getLsbD_ofNat, place, Nat.testBit_mod_two_pow]
  simp only [low, decide_true, Bool.true_and]

theorem ctrl_header_place (address length : Nat) (regOp : RegisterOp) :
    prepareCtrlHeader (BitVec.ofNat 32 address) length regOp =
      prepareCtrlHeader (BitVec.ofNat 32 (place address)) length regOp := by
  have selector : fieldPrep ctrlHeaderMemMapSelector (BitVec.ofNat 32 address >>> 16) =
      fieldPrep ctrlHeaderMemMapSelector (BitVec.ofNat 32 (place address) >>> 16) := by
    apply prep_congr
    intro i low
    rw [BitVec.getLsbD_ushiftRight, BitVec.getLsbD_ushiftRight, place_bit]
    simp only [ctrlHeaderMemMapSelector, Field.width] at low
    omega
  have addr : fieldPrep ctrlHeaderAddr (BitVec.ofNat 32 address) =
      fieldPrep ctrlHeaderAddr (BitVec.ofNat 32 (place address)) := by
    apply prep_congr
    intro i low
    rw [place_bit]
    simp only [ctrlHeaderAddr, Field.width] at low
    omega
  rw [prepareCtrlHeader, selector, addr, prepareCtrlHeader]

section Wire
variable {World : Type} (spi : Spi World)

theorem perform_ctrl_place (address : Nat) (value : Nat → BitVec 32) (length : Nat)
    (regOp : RegisterOp) (state : CtrlState World) :
    oaTc6PerformCtrl spi (BitVec.ofNat 32 address) value length regOp state =
      oaTc6PerformCtrl spi (BitVec.ofNat 32 (place address)) value length regOp state := by
  have sent : prepareCtrlSpiBuf state.txBuf (BitVec.ofNat 32 address) value length regOp =
      prepareCtrlSpiBuf state.txBuf (BitVec.ofNat 32 (place address)) value length regOp := by
    simp only [prepareCtrlSpiBuf]
    rw [ctrl_header_place]
  rw [oaTc6PerformCtrl, sent, oaTc6PerformCtrl]

theorem spi_read_place (address : Nat) :
    (spiBus spi).read address = (spiBus spi).read (place address) := by
  funext state
  have same : oaTc6ReadRegister spi (BitVec.ofNat 32 address) 0#32 state =
      oaTc6ReadRegister spi (BitVec.ofNat 32 (place address)) 0#32 state := by
    rw [oaTc6ReadRegister, oaTc6ReadRegisters, perform_ctrl_place, oaTc6ReadRegister,
      oaTc6ReadRegisters]
  simp only [spiBus, same]

theorem spi_write_place (address : Nat) (value : BitVec 32) :
    (spiBus spi).write address value = (spiBus spi).write (place address) value := by
  funext state
  have same : oaTc6WriteRegister spi (BitVec.ofNat 32 address) value state =
      oaTc6WriteRegister spi (BitVec.ofNat 32 (place address)) value state := by
    rw [oaTc6WriteRegister, oaTc6WriteRegisters, perform_ctrl_place, oaTc6WriteRegister,
      oaTc6WriteRegisters]
  simp only [spiBus, same]
end Wire

/-! The commands on the wire. Noting them changes nothing else. -/

/-- What is behind the SPI, and what was sent there. -/
structure Noted (World : Type) where
  world : World
  sent : List (List UInt8)

def notedSpi {World : Type} (spi : Spi World) : Spi (Noted World) := fun mosi noted =>
  let (reply, after) := spi mosi noted.world
  (reply, ⟨after, noted.sent ++ [mosi]⟩)

def CtrlState.unnoted {World : Type} (state : CtrlState (Noted World)) : CtrlState World :=
  ⟨state.txBuf, state.rxBuf, state.world.world⟩

/-- The header of a command. -/
def headerOf (mosi : List UInt8) : BitVec 32 := be32At (fun j => mosi.getD j 0) 0

/-- The header of the command that makes an access. -/
def accessHeader : Access → BitVec 32
  | .read address => prepareCtrlHeader (BitVec.ofNat 32 address) 1 .read
  | .write address _ => prepareCtrlHeader (BitVec.ofNat 32 address) 1 .write

section Noting
variable {World : Type} (spi : Spi World) (address : BitVec 32) (value : Nat → BitVec 32)
  (regOp : RegisterOp) (state : CtrlState (Noted World))

/-- The command of an access to one register. -/
def commandOf : List UInt8 :=
  cellsAt (prepareCtrlSpiBuf state.txBuf address value 1 regOp) 0 (calculateCtrlBufSize 1)

theorem command_header :
    headerOf (commandOf address value regOp state) = prepareCtrlHeader address 1 regOp := by
  rw [← prepared_header state.txBuf address value 1 regOp]
  apply be32At_congr
  intro j short
  have size : calculateCtrlBufSize 1 = 12 := by decide
  rw [Nat.zero_add, commandOf, size]
  exact cellsAt_get _ _ _ _ (by omega)

theorem perform_noted :
    let noted := oaTc6PerformCtrl (notedSpi spi) address value 1 regOp state
    let plain := oaTc6PerformCtrl spi address value 1 regOp state.unnoted
    noted.ret = plain.ret ∧ noted.value = plain.value ∧ noted.state.unnoted = plain.state ∧
      noted.state.world.sent = state.world.sent ++ [commandOf address value regOp state] := by
  intro noted plain
  cases transfer : oaTc6SpiTransfer spi (calculateCtrlBufSize 1) { state.unnoted with
    txBuf := prepareCtrlSpiBuf state.unnoted.txBuf address value 1 regOp } with
  | mk ret after =>
      have same : oaTc6SpiTransfer (notedSpi spi) (calculateCtrlBufSize 1)
          { state with txBuf := prepareCtrlSpiBuf state.txBuf address value 1 regOp } =
            (ret, ⟨after.txBuf, after.rxBuf, after.world,
              state.world.sent ++ [commandOf address value regOp state]⟩) := by
        obtain ⟨rfl, rfl⟩ := Prod.mk.inj transfer
        rfl
      simp only [noted, plain, oaTc6PerformCtrl, same, transfer]
      by_cases failed : ret ≠ 0
      · simp [failed, CtrlState.unnoted]
      · cases regOp with
        | write =>
            simp only [if_neg failed]
            exact ⟨rfl, trivial, rfl, trivial⟩
        | read =>
            have checked : checkCtrlReadReply (⟨after.txBuf, after.rxBuf, after.world,
                state.world.sent ++ [commandOf address value .read state]⟩ :
                  CtrlState (Noted World)) = checkCtrlReadReply after := rfl
            simp only [if_neg failed, checked]
            split
            · exact ⟨rfl, rfl, rfl, rfl⟩
            · exact ⟨rfl, rfl, rfl, rfl⟩

end Noting

section NotedBus
variable {World : Type} (spi : Spi World) (address : Nat) (state : CtrlState (Noted World))

theorem spi_read_noted :
    let noted := (spiBus (notedSpi spi)).read address state
    let plain := (spiBus spi).read address state.unnoted
    noted.1 = plain.1 ∧ noted.2.unnoted = plain.2 ∧
      ∃ mosi, noted.2.world.sent = state.world.sent ++ [mosi] ∧
        headerOf mosi = accessHeader (.read address) := by
  obtain ⟨ret, value, kept, sent⟩ :=
    perform_noted spi (BitVec.ofNat 32 address) (fun _ => 0#32) .read state
  refine ⟨?_, kept, _, sent, command_header _ _ _ _⟩
  simp only [spiBus, oaTc6ReadRegister, oaTc6ReadRegisters, if_neg (by decide : ¬ (1 = 0 ∨
    1 > ctrlMaxRegisters)), ret, value]

theorem spi_write_noted (value : BitVec 32) :
    let noted := (spiBus (notedSpi spi)).write address value state
    let plain := (spiBus spi).write address value state.unnoted
    noted.1 = plain.1 ∧ noted.2.unnoted = plain.2 ∧
      ∃ mosi, noted.2.world.sent = state.world.sent ++ [mosi] ∧
        headerOf mosi = accessHeader (.write address value) := by
  obtain ⟨ret, _, kept, sent⟩ :=
    perform_noted spi (BitVec.ofNat 32 address) (fun _ => value) .write state
  exact ⟨ret, kept, _, sent, command_header _ _ _ _⟩

end NotedBus

/-- Registers that take 20 bits of an address. -/
def placedBus : Bus Storage where
  read address := storageBus.read (place address)
  write address value := storageBus.write (place address) value

/-- Over the wire every address is good. -/
theorem spi_bus_placed (unused : Registers → List UInt8 → Nat → UInt8) :
    Refines (spiBus (ctrlDevice unused)) placedBus SameRegisters fun _ => True where
  read address _ := by
    rw [spi_read_place]
    exact (spi_bus_refines unused).read _ (Nat.mod_lt _ (by decide))
  write address value _ := by
    rw [spi_write_place]
    exact (spi_bus_refines unused).write _ value (Nat.mod_lt _ (by decide))

/-- The same registers, and for each access noted there one more command sent than `before`. -/
def SameAccesses (before : List (List UInt8)) (state : CtrlState (Noted Registers))
    (noted : Storage × List Access) : Prop :=
  SameRegisters state.unnoted noted.1 ∧
    ∃ sent, state.world.sent = before ++ sent ∧ sent.map headerOf = noted.2.map accessHeader

theorem same_accesses_noted {before : List (List UInt8)} {state after : CtrlState (Noted Registers)}
    {noted : Storage × List Access} {storage : Storage} {access : Access} {mosi : List UInt8}
    (same : SameAccesses before state noted) (registers : SameRegisters after.unnoted storage)
    (sent : after.world.sent = state.world.sent ++ [mosi])
    (command : headerOf mosi = accessHeader access) :
    SameAccesses before after (storage, noted.2 ++ [access]) := by
  obtain ⟨_, earlier, split, headers⟩ := same
  refine ⟨registers, earlier ++ [mosi], ?_, ?_⟩
  · rw [sent, split, List.append_assoc]
  · simp [headers, command]

theorem noted_bus_placed (unused : Registers → List UInt8 → Nat → UInt8)
    (before : List (List UInt8)) :
    Refines (spiBus (notedSpi (ctrlDevice unused))) (notedBus placedBus) (SameAccesses before)
      fun _ => True where
  read address _ state noted same := by
    obtain ⟨answer, kept, mosi, sent, command⟩ := spi_read_noted (ctrlDevice unused) address state
    obtain ⟨alike, registers⟩ :=
      (spi_bus_placed unused).read address trivial state.unnoted noted.1 same.1
    exact ⟨answer.trans alike, same_accesses_noted same (kept ▸ registers) sent command⟩
  write address value _ state noted same := by
    obtain ⟨answer, kept, mosi, sent, command⟩ :=
      spi_write_noted (ctrlDevice unused) address state value
    obtain ⟨alike, registers⟩ :=
      (spi_bus_placed unused).write address value trivial state.unnoted noted.1 same.1
    exact ⟨answer.trans alike, same_accesses_noted same (kept ▸ registers) sent command⟩

theorem within_any {α : Type} (prog : Prog α) : prog.Within fun _ => True := by
  induction prog with
  | done result => trivial
  | read address next ih => exact ⟨trivial, fun answer => ih answer⟩
  | write address value next ih => exact ⟨trivial, fun ret => ih ret⟩

/-! The tool as its users see it. -/

/-- What a call does to registers that answer. -/
def toolCall (cells : Registers) (call : IoctlCall) : (Int × Lan865xReg) × Registers :=
  match call.cmd, call.faultsIn with
  | .other, _ => ((-enotty, call.reg), cells)
  | _, true => ((-efault, call.reg), cells)
  | .readReg, false =>
      (call.copyOut 0 { call.reg with value := cells (place call.reg.addr.toNat) }, cells)
  | .writeReg, false =>
      ((0, call.reg), Function.update cells (place call.reg.addr.toNat) call.reg.value)

def toolCalls : Registers → List IoctlCall → List (Int × Lan865xReg) × Registers
  | cells, [] => ([], cells)
  | cells, call :: rest =>
      let (result, cells) := toolCall cells call
      let (results, cells) := toolCalls cells rest
      (result :: results, cells)

/-- The access that a call makes; a fault on the way out comes after it. -/
def IoctlCall.access (call : IoctlCall) : Option Access :=
  match call.cmd, call.faultsIn with
  | .readReg, false => some (.read call.reg.addr.toNat)
  | .writeReg, false => some (.write call.reg.addr.toNat call.reg.value)
  | _, _ => none

theorem ioctl_run (call : IoctlCall) (cells : Registers) (accesses : List Access) :
    (lan865xIoctl call).run (notedBus placedBus) (⟨cells, []⟩, accesses) =
      ((toolCall cells call).1, ⟨(toolCall cells call).2, []⟩,
        accesses ++ call.access.toList) := by
  obtain ⟨cmd, reg, faultsIn, torn⟩ := call
  cases cmd with
  | other => simp [lan865xIoctl, toolCall, IoctlCall.access]
  | readReg =>
      cases faultsIn with
      | true => simp [lan865xIoctl, toolCall, IoctlCall.access]
      | false =>
          simp [lan865xIoctl, toolCall, IoctlCall.access, placedBus, storageBus, Storage.outcome,
            Storage.skip]
  | writeReg =>
      cases faultsIn with
      | true => simp [lan865xIoctl, toolCall, IoctlCall.access]
      | false =>
          simp [lan865xIoctl, toolCall, IoctlCall.access, placedBus, storageBus, Storage.outcome,
            Storage.skip, Storage.put]

theorem ioctls_run (calls : List IoctlCall) (cells : Registers) (accesses : List Access) :
    (inTurn (calls.map lan865xIoctl)).run (notedBus placedBus) (⟨cells, []⟩, accesses) =
      ((toolCalls cells calls).1, ⟨(toolCalls cells calls).2, []⟩,
        accesses ++ calls.filterMap IoctlCall.access) := by
  induction calls generalizing cells accesses with
  | nil => simp [inTurn, toolCalls]
  | cons call rest ih =>
      have first : (call :: rest).filterMap IoctlCall.access =
          call.access.toList ++ rest.filterMap IoctlCall.access := by
        cases made : call.access <;> simp [made]
      simp only [List.map_cons, inTurn, run_bind, bind_run, ioctl_run, ih, toolCalls, first,
        List.append_assoc]
      rfl

/-- Over the wire, with whatever addresses, commands and faults, the users of the tool see one
set of registers, named by the low 20 bits of an address. Each call that gets to the registers
sends one command, whatever becomes of its result. -/
theorem register_tool_over_wire (unused : Registers → List UInt8 → Nat → UInt8)
    (calls : List IoctlCall) (state : CtrlState (Noted Registers)) :
    let wire := (inTurn (calls.map lan865xIoctl)).run (spiBus (notedSpi (ctrlDevice unused))) state
    let tool := toolCalls state.world.world calls
    wire.1 = tool.1 ∧ (∀ address < 2 ^ 20, wire.2.world.world address = tool.2 address) ∧
      ∃ sent, wire.2.world.sent = state.world.sent ++ sent ∧
        sent.map headerOf = (calls.filterMap IoctlCall.access).map accessHeader := by
  have simulates := run_simulates (noted_bus_placed unused state.world.sent)
    (within_any (inTurn (calls.map lan865xIoctl)))
  obtain ⟨same, ⟨_, cells⟩, sent⟩ := simulates state (⟨state.world.world, []⟩, [])
    ⟨⟨rfl, fun _ _ => rfl⟩, [], by simp, rfl⟩
  rw [ioctls_run] at same cells sent
  exact ⟨same, fun address below => (cells address below).symm, sent⟩

end Lan865x.OaTc6
