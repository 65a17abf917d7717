import Lan865x.FaultyLink

/-!
The MDIO bus of oa_tc6.c: Clause 22 registers at a base address, Clause 45 registers
behind the memory map selector of their device. Any sequence of accesses, with any
outcome of each, is compared with a store of 16-bit registers.
-/

namespace Lan865x.OaTc6
open RegisterBus

def eopnotsupp : Int := 95

def phyStdRegAddrBase : Nat := 0xFF00
def phyStdRegAddrMask : Nat := 0x1F

def mdioMmdPmapmd : Int := 1
def mdioMmdPcs : Int := 3
def mdioMmdAn : Int := 7
def mdioMmdPowerUnit : Int := 13
def mdioMmdVend2 : Int := 31

def phyC45PcsMms2 : Int := 2
def phyC45PmaPmdMms3 : Int := 3
def phyC45VsPlcaMms4 : Int := 4
def phyC45AutoNegMms5 : Int := 5
def phyC45PowerUnitMms6 : Int := 6

section Driver
variable {World : Type} (bus : Bus World)

/-- What an `int` is after it has been stored in a `bool`. -/
def throughBool (ret : Int) : Int := if ret ≠ 0 then 1 else 0

def oaTc6MdiobusRead (regnum : Nat) : StateM World Int := do
  match ← bus.read (phyStdRegAddrBase ||| (regnum &&& phyStdRegAddrMask)) with
  -- `ret` is a `bool` in this function alone.
  | .error ret => pure (throughBool ret)
  | .ok regval => pure regval.toInt

def oaTc6MdiobusWrite (regnum : Nat) (val : BitVec 16) : StateM World Int :=
  bus.write (phyStdRegAddrBase ||| (regnum &&& phyStdRegAddrMask)) (val.setWidth 32)

def oaTc6GetPhyC45Mms (devnum : Int) : Int :=
  if devnum = mdioMmdPcs then phyC45PcsMms2
  else if devnum = mdioMmdPmapmd then phyC45PmaPmdMms3
  else if devnum = mdioMmdVend2 then phyC45VsPlcaMms4
  else if devnum = mdioMmdAn then phyC45AutoNegMms5
  else if devnum = mdioMmdPowerUnit then phyC45PowerUnitMms6
  else -eopnotsupp

def oaTc6MdiobusReadC45 (devnum : Int) (regnum : Nat) : StateM World Int := do
  let ret := oaTc6GetPhyC45Mms devnum
  if ret < 0 then pure ret
  else
    match ← bus.read (ret.toNat <<< 16 ||| regnum) with
    | .error ret => pure ret
    | .ok regval => pure regval.toInt

def oaTc6MdiobusWriteC45 (devnum : Int) (regnum : Nat) (val : BitVec 16) : StateM World Int := do
  let ret := oaTc6GetPhyC45Mms devnum
  if ret < 0 then pure ret else bus.write (ret.toNat <<< 16 ||| regnum) (val.setWidth 32)

end Driver

/-- A register as a PHY driver names it, on either protocol. -/
inductive MdioRegister where
  | c22 (regnum : Fin 32)
  | c45 (devnum : Int) (regnum : Fin 65536)
  deriving DecidableEq

/-- Its address in the MAC-PHY; none where the device number is not supported. -/
def MdioRegister.address : MdioRegister → Option Nat
  | .c22 regnum => some (phyStdRegAddrBase ||| (regnum.val &&& phyStdRegAddrMask))
  | .c45 devnum regnum =>
      if oaTc6GetPhyC45Mms devnum < 0 then none
      else some ((oaTc6GetPhyC45Mms devnum).toNat <<< 16 ||| regnum.val)

/-- The device numbers that have a memory map, each its own. -/
def Selects (mms : Nat) (devnum : Int) : Prop :=
  (mms = 2 ∧ devnum = 3) ∨ (mms = 3 ∧ devnum = 1) ∨ (mms = 4 ∧ devnum = 31) ∨
    (mms = 5 ∧ devnum = 7) ∨ (mms = 6 ∧ devnum = 13)

theorem selects_range {mms : Nat} {devnum : Int} (selects : Selects mms devnum) :
    2 ≤ mms ∧ mms ≤ 6 := by
  simp only [Selects] at selects
  omega

theorem selects_inj {mms : Nat} {first second : Int} (one : Selects mms first)
    (other : Selects mms second) : first = second := by
  rcases one with ⟨rfl, rfl⟩ | ⟨rfl, rfl⟩ | ⟨rfl, rfl⟩ | ⟨rfl, rfl⟩ | ⟨rfl, rfl⟩ <;>
    simp [Selects] at other <;>
    exact other.symm

theorem mms_cases (devnum : Int) :
    oaTc6GetPhyC45Mms devnum = -eopnotsupp ∨
      Selects (oaTc6GetPhyC45Mms devnum).toNat devnum := by
  unfold oaTc6GetPhyC45Mms
  by_cases pcs : devnum = mdioMmdPcs
  · rw [if_pos pcs]
    exact .inr (.inl ⟨rfl, pcs⟩)
  rw [if_neg pcs]
  by_cases pmapmd : devnum = mdioMmdPmapmd
  · rw [if_pos pmapmd]
    exact .inr (.inr (.inl ⟨rfl, pmapmd⟩))
  rw [if_neg pmapmd]
  by_cases vend2 : devnum = mdioMmdVend2
  · rw [if_pos vend2]
    exact .inr (.inr (.inr (.inl ⟨rfl, vend2⟩)))
  rw [if_neg vend2]
  by_cases an : devnum = mdioMmdAn
  · rw [if_pos an]
    exact .inr (.inr (.inr (.inr (.inl ⟨rfl, an⟩))))
  rw [if_neg an]
  by_cases powerUnit : devnum = mdioMmdPowerUnit
  · rw [if_pos powerUnit]
    exact .inr (.inr (.inr (.inr (.inr ⟨rfl, powerUnit⟩))))
  · rw [if_neg powerUnit]
    exact .inl rfl

theorem c22_address (regnum : Fin 32) :
    (MdioRegister.c22 regnum).address = some (0xFF00 + regnum.val) := by
  have low : regnum.val &&& phyStdRegAddrMask = regnum.val := by
    rw [phyStdRegAddrMask, show 0x1F = 2 ^ 5 - 1 from rfl, Nat.and_two_pow_sub_one_eq_mod]
    omega
  have joined : 0xFF <<< 8 + regnum.val = 0xFF <<< 8 ||| regnum.val :=
    Nat.shiftLeft_add_eq_or_of_lt (by omega) 0xFF
  simp only [MdioRegister.address, low]
  exact congrArg some joined.symm

theorem c45_mapped (devnum : Int) (regnum : Fin 65536) (address : Nat)
    (mapped : (MdioRegister.c45 devnum regnum).address = some address) :
    ¬ oaTc6GetPhyC45Mms devnum < 0 ∧
      address = (oaTc6GetPhyC45Mms devnum).toNat <<< 16 ||| regnum.val := by
  by_cases unsupported : oaTc6GetPhyC45Mms devnum < 0
  · rw [MdioRegister.address, if_pos unsupported] at mapped
    exact nomatch mapped
  · rw [MdioRegister.address, if_neg unsupported, Option.some.injEq] at mapped
    exact ⟨unsupported, mapped.symm⟩

theorem c45_address (devnum : Int) (regnum : Fin 65536) (address : Nat)
    (mapped : (MdioRegister.c45 devnum regnum).address = some address) :
    ∃ mms, Selects mms devnum ∧ address = mms * 65536 + regnum.val := by
  obtain ⟨supported, same⟩ := c45_mapped devnum regnum address mapped
  have joined := Nat.shiftLeft_add_eq_or_of_lt (i := 16) (b := regnum.val) (by omega)
    (oaTc6GetPhyC45Mms devnum).toNat
  refine ⟨(oaTc6GetPhyC45Mms devnum).toNat, (mms_cases devnum).resolve_left ?_, ?_⟩
  · intro refused
    rw [refused] at supported
    exact supported (by decide)
  · rw [same, ← joined, Nat.shiftLeft_eq]

/-- No two registers share an address. -/
theorem mdio_address_inj (first second : MdioRegister) (address : Nat)
    (one : first.address = some address) (other : second.address = some address) :
    first = second := by
  cases first with
  | c22 regnum =>
      rw [c22_address, Option.some.injEq] at one
      cases second with
      | c22 regnum' =>
          rw [c22_address, Option.some.injEq] at other
          have same : regnum = regnum' := by omega
          rw [same]
      | c45 devnum' regnum' =>
          obtain ⟨mms', selects', place'⟩ := c45_address devnum' regnum' address other
          have range := selects_range selects'
          omega
  | c45 devnum regnum =>
      obtain ⟨mms, selects, place⟩ := c45_address devnum regnum address one
      cases second with
      | c22 regnum' =>
          rw [c22_address, Option.some.injEq] at other
          have range := selects_range selects
          omega
      | c45 devnum' regnum' =>
          obtain ⟨mms', selects', place'⟩ := c45_address devnum' regnum' address other
          have selector : mms = mms' := by omega
          have register : regnum = regnum' := by omega
          subst selector
          rw [selects_inj selects selects', register]

theorem mdio_addressed (register : MdioRegister) (address : Nat)
    (mapped : register.address = some address) : address < 2 ^ 20 := by
  cases register with
  | c22 regnum =>
      rw [c22_address, Option.some.injEq] at mapped
      omega
  | c45 devnum regnum =>
      obtain ⟨mms, selects, place⟩ := c45_address devnum regnum address mapped
      have range := selects_range selects
      omega

/-- A read, or the write of a value, and how its transaction ends if it makes one. -/
structure MdioOp where
  register : MdioRegister
  write : Option (BitVec 16)
  outcome : CtrlOutcome
  /-- A read has no more than the header to be compared. -/
  compared : write = none → outcome.InHeader

/-- The driver's function for the access. -/
def MdioOp.call {World : Type} (op : MdioOp) (bus : Bus World) : StateM World Int :=
  match op.register, op.write with
  | .c22 regnum, none => oaTc6MdiobusRead bus regnum
  | .c22 regnum, some val => oaTc6MdiobusWrite bus regnum val
  | .c45 devnum regnum, none => oaTc6MdiobusReadC45 bus devnum regnum
  | .c45 devnum regnum, some val => oaTc6MdiobusWriteC45 bus devnum regnum val

/-- An unsupported device is refused without an access to the bus. -/
theorem call_unsupported {World : Type} (op : MdioOp) (bus : Bus World) (world : World)
    (unmapped : op.register.address = none) : op.call bus world = (-eopnotsupp, world) := by
  obtain ⟨register, write, outcome, compared⟩ := op
  cases register with
  | c22 regnum => exact nomatch unmapped
  | c45 devnum regnum =>
      have unsupported : oaTc6GetPhyC45Mms devnum < 0 := by
        by_contra supported
        rw [MdioRegister.address, if_neg supported] at unmapped
        exact nomatch unmapped
      have ret : oaTc6GetPhyC45Mms devnum = -eopnotsupp := by
        refine (mms_cases devnum).resolve_right fun selects => ?_
        have range := selects_range selects
        omega
      cases write with
      | none =>
          simp only [MdioOp.call, oaTc6MdiobusReadC45, if_pos unsupported]
          rw [ret]
          rfl
      | some val =>
          simp only [MdioOp.call, oaTc6MdiobusWriteC45, if_pos unsupported]
          rw [ret]
          rfl

/-- What a caller sees of an error of the bus. -/
def MdioRegister.errorSeen (register : MdioRegister) (ret : Int) : Int :=
  match register with
  | .c22 _ => throughBool ret
  | .c45 _ _ => ret

theorem call_read {World : Type} (register : MdioRegister) (outcome : CtrlOutcome)
    (inHeader : none = none → outcome.InHeader) (bus : Bus World) (world : World) (address : Nat)
    (mapped : register.address = some address) :
    (MdioOp.mk register none outcome inHeader).call bus world =
      (match (bus.read address world).1 with
        | .error ret => register.errorSeen ret
        | .ok regval => regval.toInt, (bus.read address world).2) := by
  cases register with
  | c22 regnum =>
      obtain rfl : _ = address := Option.some.inj mapped
      simp only [MdioOp.call, oaTc6MdiobusRead, bind_run]
      cases (bus.read (phyStdRegAddrBase ||| (regnum.val &&& phyStdRegAddrMask)) world).1 with
      | error ret => rfl
      | ok regval => rfl
  | c45 devnum regnum =>
      obtain ⟨supported, rfl⟩ := c45_mapped devnum regnum address mapped
      simp only [MdioOp.call, oaTc6MdiobusReadC45, if_neg supported, bind_run]
      cases (bus.read ((oaTc6GetPhyC45Mms devnum).toNat <<< 16 ||| regnum.val) world).1 with
      | error ret => rfl
      | ok regval => rfl

theorem call_write {World : Type} (register : MdioRegister) (val : BitVec 16)
    (outcome : CtrlOutcome) (compared : some val = none → outcome.InHeader) (bus : Bus World)
    (world : World) (address : Nat) (mapped : register.address = some address) :
    (MdioOp.mk register (some val) outcome compared).call bus world =
      bus.write address (val.setWidth 32) world := by
  cases register with
  | c22 regnum =>
      obtain rfl : _ = address := Option.some.inj mapped
      rfl
  | c45 devnum regnum =>
      obtain ⟨supported, rfl⟩ := c45_mapped devnum regnum address mapped
      simp only [MdioOp.call, oaTc6MdiobusWriteC45, if_neg supported]

/-! A store of 16-bit registers, and what its accesses return. -/

abbrev MdioMap : Type := MdioRegister → BitVec 16

/-- What a PHY driver is told, and how many transfers it took. -/
structure MdioResult where
  ret : Int
  transfers : Nat
  deriving DecidableEq

def MdioOp.spec (op : MdioOp) (map : MdioMap) : MdioResult × MdioMap :=
  match op.register.address, op.write with
  | none, _ => (⟨-eopnotsupp, 0⟩, map)
  | some _, none =>
      (⟨if op.outcome.succeeds then (map op.register).toNat else op.outcome.ret, 1⟩, map)
  | some _, some val => (⟨op.outcome.ret, 1⟩,
      if op.outcome.executed then Function.update map op.register val else map)

def mdioSpec : List MdioOp → MdioMap → List MdioResult
  | [], _ => []
  | op :: rest, map => (op.spec map).1 :: mdioSpec rest (op.spec map).2

section Runs
variable (unused : Registers → List UInt8 → Nat → UInt8)

/-- The state in which the next transaction ends as given. -/
def readyState (outcome : CtrlOutcome) (state : CtrlState Line) : CtrlState Line :=
  { state with world := { state.world with outcome := outcome } }

def mdioStep (op : MdioOp) (state : CtrlState Line) : MdioResult × CtrlState Line :=
  let after := op.call (spiBus (faultySpi unused)) (readyState op.outcome state)
  (⟨after.1, after.2.world.transfers - state.world.transfers⟩, after.2)

def mdioRun : List MdioOp → CtrlState Line → List MdioResult
  | [], _ => []
  | op :: rest, state =>
      (mdioStep unused op state).1 :: mdioRun rest (mdioStep unused op state).2

/-- The device has the registers of the store at their addresses. -/
def Stores (state : CtrlState Line) (map : MdioMap) : Prop :=
  ∀ register address, register.address = some address →
    state.world.registers address = (map register).setWidth 32

/-- The one access whose error is lost. -/
def MdioOp.Garbles (op : MdioOp) : Prop :=
  (∃ regnum, op.register = .c22 regnum) ∧ op.write = none ∧ op.outcome.succeeds = false

theorem stores_update (registers : Registers) (map : MdioMap) (register : MdioRegister)
    (address : Nat) (val : BitVec 16) (mapped : register.address = some address)
    (stores : ∀ register address, register.address = some address →
      registers address = (map register).setWidth 32) (other : MdioRegister) (place : Nat)
    (otherMapped : other.address = some place) :
    Function.update registers address (val.setWidth 32) place =
      (Function.update map register val other).setWidth 32 := by
  by_cases same : other = register
  · subst same
    obtain rfl : place = address := Option.some.inj (otherMapped.symm.trans mapped)
    rw [Function.update_self, Function.update_self]
  · have apart : place ≠ address := by
      intro shared
      subst shared
      exact same (mdio_address_inj other register place otherMapped mapped)
    rw [Function.update_of_ne apart, Function.update_of_ne same]
    exact stores other place otherMapped

theorem error_seen_iff (register : MdioRegister) (outcome : CtrlOutcome)
    (failed : outcome.succeeds = false) :
    register.errorSeen outcome.ret = outcome.ret ↔ ¬ ∃ regnum, register = .c22 regnum := by
  cases register with
  | c22 regnum =>
      have nonzero : outcome.ret ≠ 0 := by
        intro zero
        rw [CtrlOutcome.ret_zero_iff, failed] at zero
        exact Bool.false_ne_true zero
      have nonpos := outcome.ret_nonpos
      simp only [MdioRegister.errorSeen, throughBool, if_pos nonzero]
      refine ⟨fun one => by omega, fun other => absurd ⟨regnum, rfl⟩ other⟩
  | c45 devnum regnum =>
      simp [MdioRegister.errorSeen]

theorem word_int (val : BitVec 16) : (val.setWidth 32).toInt = val.toNat := by
  have small := val.isLt
  rw [BitVec.toInt_eq_toNat_of_lt]
  · simp [BitVec.toNat_setWidth]
    omega
  · rw [BitVec.toNat_setWidth]
    omega

theorem unsupported_step (op : MdioOp) (state : CtrlState Line)
    (unmapped : op.register.address = none) :
    mdioStep unused op state = (⟨-eopnotsupp, 0⟩, readyState op.outcome state) := by
  have called := call_unsupported op (spiBus (faultySpi unused)) (readyState op.outcome state)
    unmapped
  rw [mdioStep, called]
  simp only [readyState, Nat.sub_self]

theorem read_step (register : MdioRegister) (outcome : CtrlOutcome)
    (inHeader : none = none → outcome.InHeader) (state : CtrlState Line) (map : MdioMap)
    (stores : Stores state map) (address : Nat) (mapped : register.address = some address) :
    (mdioStep unused ⟨register, none, outcome, inHeader⟩ state).1 =
        ⟨if outcome.succeeds then (map register).toNat else register.errorSeen outcome.ret, 1⟩ ∧
      (mdioStep unused ⟨register, none, outcome, inHeader⟩ state).2.world.registers =
        state.world.registers := by
  have addressed := mdio_addressed register address mapped
  have called := call_read register outcome inHeader (spiBus (faultySpi unused))
    (readyState outcome state) address mapped
  obtain ⟨got, world⟩ := link_read unused address addressed (readyState outcome state)
    (inHeader rfl)
  have held : (readyState outcome state).world.registers address = (map register).setWidth 32 :=
    stores register address mapped
  have ends : (readyState outcome state).world.outcome = outcome := rfl
  rw [held, ends] at got
  rw [mdioStep, called, world]
  refine ⟨congrArg₂ MdioResult.mk ?_ (Nat.add_sub_cancel_left _ 1), rfl⟩
  by_cases succeeds : outcome.succeeds = true
  · rw [got, if_pos succeeds, if_pos succeeds]
    exact word_int (map register)
  · rw [got, if_neg succeeds, if_neg succeeds]

theorem write_step (register : MdioRegister) (val : BitVec 16) (outcome : CtrlOutcome)
    (compared : some val = none → outcome.InHeader) (state : CtrlState Line) (address : Nat)
    (mapped : register.address = some address) :
    (mdioStep unused ⟨register, some val, outcome, compared⟩ state).1 = ⟨outcome.ret, 1⟩ ∧
      (mdioStep unused ⟨register, some val, outcome, compared⟩ state).2.world.registers =
        if outcome.executed then
          Function.update state.world.registers address (val.setWidth 32)
        else state.world.registers := by
  have addressed := mdio_addressed register address mapped
  have called := call_write register val outcome compared (spiBus (faultySpi unused))
    (readyState outcome state) address mapped
  obtain ⟨ret, world⟩ := link_write unused address addressed (readyState outcome state)
    (val.setWidth 32)
  rw [mdioStep, called, ret, world]
  simp only [readyState, Line.pass, Nat.add_sub_cancel_left]
  exact ⟨trivial, rfl⟩

/-- One access keeps the store, and is told wrong only where its error is lost. -/
theorem mdio_step (op : MdioOp) (state : CtrlState Line) (map : MdioMap)
    (stores : Stores state map) :
    Stores (mdioStep unused op state).2 (op.spec map).2 ∧
      ((mdioStep unused op state).1 = (op.spec map).1 ↔ ¬ op.Garbles) := by
  obtain ⟨register, write, outcome, compared⟩ := op
  cases mapped : register.address with
  | none =>
      have spec : (MdioOp.mk register write outcome compared).spec map =
          (⟨-eopnotsupp, 0⟩, map) := by
        simp only [MdioOp.spec, mapped]
      have other : ¬ (MdioOp.mk register write outcome compared).Garbles := by
        rintro ⟨⟨regnum, same⟩, _⟩
        rw [show register = .c22 regnum from same] at mapped
        exact nomatch mapped
      rw [unsupported_step unused _ state mapped, spec]
      exact ⟨stores, iff_of_true rfl other⟩
  | some address =>
      cases write with
      | none =>
          obtain ⟨told, kept⟩ :=
            read_step unused register outcome compared state map stores address mapped
          rw [told]
          simp only [MdioOp.spec, mapped]
          constructor
          · intro other place otherMapped
            rw [kept]
            exact stores other place otherMapped
          · cases ends : outcome.succeeds with
            | true => simp [MdioOp.Garbles, ends]
            | false =>
                have seen := error_seen_iff register outcome ends
                simp [MdioOp.Garbles, ends, seen]
      | some val =>
          obtain ⟨told, put⟩ := write_step unused register val outcome compared state address mapped
          rw [told]
          simp only [MdioOp.spec, mapped]
          constructor
          · intro other place otherMapped
            rw [put]
            split
            · exact stores_update _ map register address val mapped stores other place otherMapped
            · exact stores other place otherMapped
          · exact iff_of_true trivial fun garbles => nomatch garbles.2.1

/-- A run is told what the store says exactly if none of its errors is lost. -/
theorem mdio_run (ops : List MdioOp) (state : CtrlState Line) (map : MdioMap)
    (stores : Stores state map) :
    mdioRun unused ops state = mdioSpec ops map ↔ ∀ op ∈ ops, ¬ op.Garbles := by
  induction ops generalizing state map with
  | nil => simp [mdioRun, mdioSpec]
  | cons op rest ih =>
      obtain ⟨kept, told⟩ := mdio_step unused op state map stores
      rw [mdioRun, mdioSpec, List.cons_eq_cons, told, ih _ _ kept, List.forall_mem_cons]

/-- The store that the registers of the MAC-PHY make. -/
def mapOf (contents : Nat → BitVec 16) : MdioMap := fun register =>
  match register.address with
  | some address => contents address
  | none => 0

/-- The state of the driver and of a device with these contents. -/
def mdioStart (txBuf rxBuf : Nat → UInt8) (contents : Nat → BitVec 16) (transfers : Nat) :
    CtrlState Line :=
  ⟨txBuf, rxBuf, ⟨fun address => (contents address).setWidth 32, .success, transfers⟩⟩

theorem start_stores (txBuf rxBuf : Nat → UInt8) (contents : Nat → BitVec 16) (transfers : Nat) :
    Stores (mdioStart txBuf rxBuf contents transfers) (mapOf contents) := by
  intro register address mapped
  simp only [mdioStart, mapOf, mapped]

/-- Accesses are told what a store with a register at each address says. -/
def MdioFaithful (ops : List MdioOp) (txBuf rxBuf : Nat → UInt8) (contents : Nat → BitVec 16)
    (transfers : Nat) : Prop :=
  (∀ first second : MdioRegister, ∀ address, first.address = some address →
      second.address = some address → first = second) ∧
    mdioRun unused ops (mdioStart txBuf rxBuf contents transfers) = mdioSpec ops (mapOf contents)

theorem mdio_faithful_iff (ops : List MdioOp) (txBuf rxBuf : Nat → UInt8)
    (contents : Nat → BitVec 16) (transfers : Nat) :
    MdioFaithful unused ops txBuf rxBuf contents transfers ↔ ∀ op ∈ ops, ¬ op.Garbles := by
  have runs := mdio_run unused ops (mdioStart txBuf rxBuf contents transfers) (mapOf contents)
    (start_stores txBuf rxBuf contents transfers)
  rw [MdioFaithful, runs]
  exact and_iff_right mdio_address_inj

end Runs

/-- A read of the first PHY identifier, with -EIO from the SPI. -/
def failingRead : MdioOp := ⟨.c22 2, none, .spiError 4 false, fun _ => trivial⟩

/-- The caller is told that the register holds 1. -/
theorem mdio_error_as_value :
    ¬ MdioFaithful (fun _ _ _ => 0) [failingRead] (fun _ => 0) (fun _ => 0) (fun _ => 0) 0 := by
  rintro ⟨_, told⟩
  have runs := mdio_run (fun _ _ _ => 0) [failingRead] _ _
    (start_stores (fun _ => 0) (fun _ => 0) (fun _ => 0) 0)
  exact runs.mp told failingRead (List.mem_singleton.mpr rfl) ⟨⟨2, rfl⟩, rfl, rfl⟩

end Lan865x.OaTc6
