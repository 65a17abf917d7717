import Mathlib.Data.Fintype.Basic
import Lan865x.RegisterBus
import Lan865x.BitField

/-!
The hardware MAC address and `netdev->dev_addr`. The address is written to the
MAC-PHY in two registers, low bytes first; each call comes with the outcomes of
the register writes it makes.
-/

namespace Lan865x.OaTc6
open RegisterBus

def regMacLSaddr1 : Nat := 0x00010022
def regMacHSaddr1 : Nat := 0x00010023

abbrev Mac : Type := Fin 6 → UInt8

def macByte (mac : Mac) (i : Fin 6) : BitVec 32 := (mac i).toBitVec.setWidth 32

def macLow (mac : Mac) : BitVec 32 :=
  (macByte mac 3 <<< 24) ||| (macByte mac 2 <<< 16) ||| (macByte mac 1 <<< 8) ||| macByte mac 0

def macHigh (mac : Mac) : BitVec 32 := (macByte mac 5 <<< 8) ||| macByte mac 4

/-- The address that the two registers hold. -/
def hwMac (cells : Nat → BitVec 32) : Mac := fun i =>
  if i.val < 4 then ⟨(cells regMacLSaddr1).extractLsb' (8 * i.val) 8⟩
  else ⟨(cells regMacHSaddr1).extractLsb' (8 * (i.val - 4)) 8⟩

variable {World : Type}

def lan865xSetHwMacaddrLowBytes (bus : Bus World) (mac : Mac) : StateM World Int :=
  bus.write regMacLSaddr1 (macLow mac)

def lan865xSetHwMacaddr (bus : Bus World) (devAddr mac : Mac) : StateM World Int := do
  let ret ← lan865xSetHwMacaddrLowBytes bus mac
  if ret ≠ 0 then return ret
  let ret ← bus.write regMacHSaddr1 (macHigh mac)
  if ret = 0 then return 0
  -- The old low bytes are taken from the netdev, not from the register.
  let restoreRet ← lan865xSetHwMacaddrLowBytes bus devAddr
  if restoreRet ≠ 0 then return restoreRet
  return ret

theorem byte_at (byte : BitVec 8) (k n : Nat) (inside : n < 4) :
    (byte.setWidth 32 <<< (8 * k)).extractLsb' (8 * n) 8 = if k = n then byte else 0#8 := by
  apply BitVec.eq_of_getLsbD_eq
  intro j short
  have past : 8 * n + j < 32 := by omega
  rw [BitVec.getLsbD_extractLsb', BitVec.getLsbD_shiftLeft, BitVec.getLsbD_setWidth]
  by_cases same : k = n
  · subst same
    have here : 8 * k + j - 8 * k = j := by omega
    have wide : j < 32 := by omega
    simp [short, past, here, wide]
  · rw [if_neg same]
    by_cases below : 8 * n + j < 8 * k
    · simp [below]
    · have beyond := BitVec.getLsbD_of_ge byte (8 * n + j - 8 * k) (by omega)
      simp [beyond]

theorem mac_low_byte (mac : Mac) (i : Fin 6) (low : i.val < 4) :
    (macLow mac).extractLsb' (8 * i.val) 8 = (mac i).toBitVec := by
  have bytes := fun k => byte_at (mac k).toBitVec
  have first := bytes 0 0 i.val low
  have second := bytes 1 1 i.val low
  have third := bytes 2 2 i.val low
  have fourth := bytes 3 3 i.val low
  rw [Nat.mul_zero, BitVec.shiftLeft_zero] at first
  simp only [Nat.reduceMul] at second third fourth
  simp only [macLow, macByte, BitVec.extractLsb'_or]
  rw [first, second, third, fourth]
  obtain ⟨i, inside⟩ := i
  have cases : i = 0 ∨ i = 1 ∨ i = 2 ∨ i = 3 := by
    dsimp only at low
    omega
  rcases cases with rfl | rfl | rfl | rfl <;> simp

theorem mac_high_byte (mac : Mac) (i : Fin 6) (high : ¬ i.val < 4) :
    (macHigh mac).extractLsb' (8 * (i.val - 4)) 8 = (mac i).toBitVec := by
  have first := byte_at (mac 4).toBitVec 0 (i.val - 4) (by omega)
  have second := byte_at (mac 5).toBitVec 1 (i.val - 4) (by omega)
  rw [Nat.mul_zero, BitVec.shiftLeft_zero] at first
  simp only [Nat.reduceMul] at second
  simp only [macHigh, macByte, BitVec.extractLsb'_or]
  rw [first, second]
  obtain ⟨i, inside⟩ := i
  have cases : i = 4 ∨ i = 5 := by
    dsimp only at high
    omega
  rcases cases with rfl | rfl <;> simp

/-- Both registers are written: they hold the address. -/
theorem hw_mac_written (cells : Nat → BitVec 32) (mac : Mac)
    (low : cells regMacLSaddr1 = macLow mac) (high : cells regMacHSaddr1 = macHigh mac) :
    hwMac cells = mac := by
  funext i
  by_cases below : i.val < 4
  · rw [hwMac, if_pos below, low, mac_low_byte mac i below]
  · rw [hwMac, if_neg below, high, mac_high_byte mac i below]

/-- The low bytes of the address are put back over others. -/
theorem hw_mac_low_restored (cells : Nat → BitVec 32) (low : BitVec 32) :
    hwMac (Function.update (Function.update cells regMacLSaddr1 low) regMacLSaddr1
      (macLow (hwMac cells))) = hwMac cells := by
  funext i
  by_cases below : i.val < 4
  · rw [hwMac, if_pos below, Function.update_self, mac_low_byte _ i below]
  · rw [hwMac, if_neg below]
    simp [hwMac, below, regMacLSaddr1, regMacHSaddr1]

/-- The high bytes could not be written, nor the old low bytes restored. -/
def RestoreFails (outcomes : List Int) : Prop :=
  outcomes[0]?.getD 0 = 0 ∧ outcomes[1]?.getD 0 ≠ 0 ∧ outcomes[2]?.getD 0 ≠ 0

instance (outcomes : List Int) : Decidable (RestoreFails outcomes) :=
  inferInstanceAs (Decidable (_ ∧ _ ∧ _))

section SetHwMacaddr
variable (storage : Storage) (devAddr mac : Mac)

/-- What becomes of the registers, by the outcomes of the writes. -/
theorem set_hw_macaddr_eq :
    lan865xSetHwMacaddr storageBus devAddr mac storage =
      if storage.outcome ≠ 0 then (storage.outcome, storage.skip 1)
      else
        let low := storage.put regMacLSaddr1 (macLow mac)
        if (storage.skip 1).outcome = 0 then
          (0, (low.put regMacHSaddr1 (macHigh mac)).skip 2)
        else if (storage.skip 2).outcome ≠ 0 then ((storage.skip 2).outcome, low.skip 3)
        else ((storage.skip 1).outcome, (low.put regMacLSaddr1 (macLow devAddr)).skip 3) := by
  by_cases first : storage.outcome = 0
  · by_cases second : storage.outcomes[1]?.getD 0 = 0
    · simp [lan865xSetHwMacaddr, lan865xSetHwMacaddrLowBytes, storage_write, first, second]
    · by_cases third : storage.outcomes[2]?.getD 0 = 0
      · simp [lan865xSetHwMacaddr, lan865xSetHwMacaddrLowBytes, storage_write, first, second, third]
      · simp [lan865xSetHwMacaddr, lan865xSetHwMacaddrLowBytes, storage_write, first, second, third]
  · simp [lan865xSetHwMacaddr, lan865xSetHwMacaddrLowBytes, storage_write, first]

theorem set_hw_macaddr_ret :
    (lan865xSetHwMacaddr storageBus devAddr mac storage).1 =
      if storage.outcomes[0]?.getD 0 ≠ 0 then storage.outcomes[0]?.getD 0
      else if storage.outcomes[1]?.getD 0 = 0 then 0
      else if storage.outcomes[2]?.getD 0 ≠ 0 then storage.outcomes[2]?.getD 0
      else storage.outcomes[1]?.getD 0 := by
  rw [set_hw_macaddr_eq]
  simp only [apply_ite Prod.fst, skip_outcome, storage.outcome_head]

/-- Both writes succeed, and the registers hold the new address. -/
theorem set_hw_macaddr_done (first : storage.outcomes[0]?.getD 0 = 0)
    (second : storage.outcomes[1]?.getD 0 = 0) :
    (lan865xSetHwMacaddr storageBus devAddr mac storage).1 = 0 ∧
      hwMac (lan865xSetHwMacaddr storageBus devAddr mac storage).2.cells = mac := by
  rw [set_hw_macaddr_eq, if_neg (not_not_intro (storage.outcome_head.trans first))]
  simp only [skip_outcome, second, ↓reduceIte, true_and]
  apply hw_mac_written <;> simp [regMacLSaddr1, regMacHSaddr1]

theorem second_fails (failed : storage.outcomes[0]?.getD 0 ≠ 0 ∨ storage.outcomes[1]?.getD 0 ≠ 0)
    (first : storage.outcome = 0) : storage.outcomes[1]?.getD 0 ≠ 0 := by
  apply failed.resolve_left
  exact not_not_intro (storage.outcome_head.symm.trans first)

/-- A write fails. The error is returned, and the registers hold the address of the
netdev if they held it before, unless the restoring write fails as well. -/
theorem set_hw_macaddr_undone
    (failed : storage.outcomes[0]?.getD 0 ≠ 0 ∨ storage.outcomes[1]?.getD 0 ≠ 0)
    (restored : ¬ RestoreFails storage.outcomes) (agree : hwMac storage.cells = devAddr) :
    (lan865xSetHwMacaddr storageBus devAddr mac storage).1 ≠ 0 ∧
      hwMac (lan865xSetHwMacaddr storageBus devAddr mac storage).2.cells = devAddr := by
  rw [set_hw_macaddr_eq]
  by_cases first : storage.outcome = 0
  · have second := second_fails storage failed first
    have third : storage.outcomes[2]?.getD 0 = 0 := by
      by_contra fails
      exact restored ⟨storage.outcome_head.symm.trans first, second, fails⟩
    simp only [first, skip_outcome, second, third, ne_eq, not_true, ↓reduceIte, not_false_eq_true,
      true_and]
    subst agree
    exact hw_mac_low_restored storage.cells _
  · simp [first, agree]

/-- A write fails, and the high bytes stay what they were. -/
theorem set_hw_macaddr_high_kept
    (failed : storage.outcomes[0]?.getD 0 ≠ 0 ∨ storage.outcomes[1]?.getD 0 ≠ 0) :
    (lan865xSetHwMacaddr storageBus devAddr mac storage).2.cells regMacHSaddr1 =
      storage.cells regMacHSaddr1 := by
  rw [set_hw_macaddr_eq]
  by_cases first : storage.outcome = 0
  · have second := second_fails storage failed first
    by_cases third : storage.outcomes[2]?.getD 0 = 0
    · simp [first, second, third, regMacLSaddr1, regMacHSaddr1]
    · simp [first, second, third, regMacLSaddr1, regMacHSaddr1]
  · simp [first]

end SetHwMacaddr

structure MacState where
  cells : Nat → BitVec 32
  devAddr : Mac

/-- One call: `prepared` is the result of `eth_prepare_mac_addr_change`. -/
structure SetMacCall where
  address : Mac
  prepared : Int
  outcomes : List Int

def lan865xSetMacAddress (call : SetMacCall) (state : MacState) : Int × MacState :=
  if call.prepared < 0 then (call.prepared, state)
  else if call.address = state.devAddr then (0, state)
  else
    let after :=
      lan865xSetHwMacaddr storageBus state.devAddr call.address ⟨state.cells, call.outcomes⟩
    if after.1 ≠ 0 then (after.1, { state with cells := after.2.cells })
    else (0, ⟨after.2.cells, call.address⟩)

def Agree (state : MacState) : Prop := hwMac state.cells = state.devAddr

/-- The change is refused, or one of the two writes of the new address fails. -/
def CallFails (call : SetMacCall) (state : MacState) : Prop :=
  call.prepared < 0 ∨ (call.address ≠ state.devAddr ∧
    (call.outcomes[0]?.getD 0 ≠ 0 ∨ call.outcomes[1]?.getD 0 ≠ 0))

/-- The call comes to its restoring write, which fails. -/
def CallLost (call : SetMacCall) (state : MacState) : Prop :=
  0 ≤ call.prepared ∧ call.address ≠ state.devAddr ∧ RestoreFails call.outcomes

/-- The call succeeds and sets the address, or returns an error and changes nothing. -/
def CallHonest (call : SetMacCall) (state : MacState) : Prop :=
  let after := lan865xSetMacAddress call state
  (¬ CallFails call state ∧ after.1 = 0 ∧ after.2.devAddr = call.address) ∨
    (CallFails call state ∧ after.1 ≠ 0 ∧ hwMac after.2.cells = hwMac state.cells ∧
      after.2.devAddr = state.devAddr)

/-- Before and after each call the registers hold the address of the netdev, up to the
first restoring write that fails. -/
def AddressesAgree : MacState → List SetMacCall → Prop
  | state, [] => Agree state
  | state, call :: rest =>
      Agree state ∧ (CallLost call state ∨
        (CallHonest call state ∧ AddressesAgree (lan865xSetMacAddress call state).2 rest))

/-- A call that is not refused and brings another address. -/
theorem set_mac_address_writes (call : SetMacCall) (state : MacState)
    (accepted : ¬ call.prepared < 0) (other : call.address ≠ state.devAddr) :
    lan865xSetMacAddress call state =
      let after :=
        lan865xSetHwMacaddr storageBus state.devAddr call.address ⟨state.cells, call.outcomes⟩
      (after.1, ⟨after.2.cells, if after.1 = 0 then call.address else state.devAddr⟩) := by
  rw [lan865xSetMacAddress, if_neg accepted, if_neg other]
  dsimp only
  by_cases success : (lan865xSetHwMacaddr storageBus state.devAddr call.address
      ⟨state.cells, call.outcomes⟩).1 = 0
  · rw [if_neg (not_not_intro success), if_pos success, success]
  · rw [if_pos success, if_neg success]

theorem set_mac_address_step (call : SetMacCall) (state : MacState) (agree : Agree state)
    (kept : ¬ CallLost call state) :
    CallHonest call state ∧ Agree (lan865xSetMacAddress call state).2 := by
  by_cases refused : call.prepared < 0
  · have fails : CallFails call state := Or.inl refused
    have result : lan865xSetMacAddress call state = (call.prepared, state) := if_pos refused
    rw [CallHonest, result]
    exact ⟨Or.inr ⟨fails, refused.ne, rfl, rfl⟩, agree⟩
  by_cases same : call.address = state.devAddr
  · have works : ¬ CallFails call state := by simp [CallFails, refused, same]
    have result : lan865xSetMacAddress call state = (0, state) := by
      simp [lan865xSetMacAddress, refused, same]
    rw [CallHonest, result]
    exact ⟨Or.inl ⟨works, rfl, same.symm⟩, agree⟩
  rw [CallHonest, set_mac_address_writes call state refused same]
  by_cases failed : call.outcomes[0]?.getD 0 ≠ 0 ∨ call.outcomes[1]?.getD 0 ≠ 0
  · have fails : CallFails call state := Or.inr ⟨same, failed⟩
    have restored : ¬ RestoreFails call.outcomes := fun lost =>
      kept ⟨not_lt.mp refused, same, lost⟩
    obtain ⟨error, back⟩ := set_hw_macaddr_undone ⟨state.cells, call.outcomes⟩ state.devAddr
      call.address failed restored agree
    simp only [Agree, if_neg error]
    exact ⟨Or.inr ⟨fails, error, back.trans agree.symm, trivial⟩, back⟩
  · have works : ¬ CallFails call state := by
      rintro (negative | ⟨_, wrong⟩)
      · exact refused negative
      · exact failed wrong
    obtain ⟨first, second⟩ := not_or.mp failed
    obtain ⟨success, holds⟩ := set_hw_macaddr_done ⟨state.cells, call.outcomes⟩ state.devAddr
      call.address (not_not.mp first) (not_not.mp second)
    simp only [Agree, if_pos success]
    exact ⟨Or.inl ⟨works, success, trivial⟩, holds⟩

theorem addresses_agree_start (state : MacState) (calls : List SetMacCall)
    (holds : AddressesAgree state calls) : Agree state := by
  cases calls with
  | nil => exact holds
  | cons call rest => exact holds.1

theorem addresses_agree (state : MacState) (calls : List SetMacCall) (agree : Agree state) :
    AddressesAgree state calls := by
  induction calls generalizing state with
  | nil => exact agree
  | cons call rest ih =>
      constructor
      · exact agree
      · by_cases kept : CallLost call state
        · exact Or.inl kept
        · have step := set_mac_address_step call state agree kept
          exact Or.inr ⟨step.1, ih _ step.2⟩

end Lan865x.OaTc6
