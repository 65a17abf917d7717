import Lan865x.ControlEcho
import Lan865x.MacAddress

/-!
The register bus that control commands make of the SPI. Behind it a conforming device
is plain storage, so what is proved of the driver's functions over storage holds over
the wire.
-/

namespace Lan865x.OaTc6
open BitField Memory RegisterBus

def spiBus {World : Type} (spi : Spi World) : Bus (CtrlState World) where
  read address := fun state =>
    let result := oaTc6ReadRegister spi (BitVec.ofNat 32 address) 0#32 state
    (if result.ret = 0 then .ok (result.value 0) else .error result.ret, result.state)
  write address value := fun state =>
    let result := oaTc6WriteRegister spi (BitVec.ofNat 32 address) value state
    (result.ret, result.state)

section Device
variable (unused : Registers → List UInt8 → Nat → UInt8)

/-- A conforming device echoes the whole command. -/
theorem device_echoed (address : BitVec 32) (value : Nat → BitVec 32) (length : Nat)
    (state : CtrlState Registers) (positive : 0 < length) (short : length ≤ ctrlMaxRegisters) :
    (echoTransfer (ctrlDevice unused) address value length state).1 = 0 ∧
      Echoed (ctrlDevice unused) address value length state := by
  have run := device_run address length .write unused state.txBuf value state.world positive short
  constructor
  · simp only [echoTransfer, oaTc6SpiTransfer]
    rw [run]
  · intro j inside
    have received : 4 + j < 8 + 4 * length := by omega
    simp only [echoTransfer, oaTc6SpiTransfer]
    rw [run]
    simp only [if_pos received]
    rw [reply_echo _ _ _ _ j inside (Or.inl rfl)]
    exact cellsAt_get _ _ _ _ (by omega)

theorem device_write (address : BitVec 32) (value : BitVec 32) (state : CtrlState Registers) :
    (oaTc6WriteRegister (ctrlDevice unused) address value state).ret = 0 := by
  obtain ⟨transferred, echoed⟩ := device_echoed unused address (fun _ => value) 1 state
    (by decide) (by decide)
  rcases write_registers_ret (ctrlDevice unused) address (fun _ => value) 1 state (by decide)
    (by decide) transferred with ⟨_, differs⟩ | ⟨success, _⟩
  · have count : echoCount 1 = 8 := echo_count 1 (by decide) (by decide)
    exact absurd echoed (differs_not_echoed _ _ _ _ _ _ (by omega) differs)
  · exact success

/-- The registers at the device are the cells of a storage whose accesses all succeed. -/
def SameRegisters (state : CtrlState Registers) (storage : Storage) : Prop :=
  storage.outcomes = [] ∧ ∀ address < 2 ^ 20, storage.cells address = state.world address

theorem single_access (address : Nat) (addressed : address < 2 ^ 20) :
    ValidAccess (BitVec.ofNat 32 address) 1 ∧ (BitVec.ofNat 32 address).toNat = address := by
  have same : (BitVec.ofNat 32 address).toNat = address := by
    rw [BitVec.toNat_ofNat]
    omega
  refine ⟨⟨by decide, by decide, ?_, ?_⟩, same⟩
  · omega
  · omega

theorem spi_bus_refines :
    Refines (spiBus (ctrlDevice unused)) storageBus SameRegisters (· < 2 ^ 20) where
  read address addressed state storage related := by
    obtain ⟨works, same⟩ := related
    obtain ⟨valid, place⟩ := single_access address addressed
    obtain ⟨success, values, world⟩ :=
      read_registers unused (BitVec.ofNat 32 address) (fun _ => 0#32) 1 state valid
    have value := values 0 (by decide)
    rw [place, Nat.add_zero, ← same address addressed] at value
    have outcome : storage.outcome = 0 := by simp [Storage.outcome, works]
    constructor
    · simp [spiBus, oaTc6ReadRegister, storageBus, success, value, outcome]
    · constructor
      · simp [storageBus, Storage.skip, works]
      · intro other below
        simp only [spiBus, oaTc6ReadRegister, world]
        exact same other below
  write address value addressed state storage related := by
    obtain ⟨works, same⟩ := related
    obtain ⟨valid, place⟩ := single_access address addressed
    have success := device_write unused (BitVec.ofNat 32 address) value state
    have world := write_world unused (BitVec.ofNat 32 address) (fun _ => value) 1 state valid
    have outcome : storage.outcome = 0 := by simp [Storage.outcome, works]
    constructor
    · simp [spiBus, storageBus, success, outcome]
    · constructor
      · simp [storageBus, outcome, Storage.skip, works]
      · intro other below
        simp only [spiBus, oaTc6WriteRegister, world, storage_write, outcome, ↓reduceIte]
        rw [write_each_succ]
        simp [writeEach, place, Function.update_apply, same other below]

end Device

end Lan865x.OaTc6
