import Lan865x.RegisterProgram
import Lan865x.SpiBus
import Lan865x.MulticastFilter
import Lan865x.FrequencyAdjust
import Lan865x.MdioBus

/-!
The parts of the driver that configure the MAC-PHY: the state of the MAC, its address, the
multicast filter, the clock, and the PHY. They are called from different contexts, and
only a single register access is protected against the others. STATUS0, which two threads
clear, is left out.
-/

namespace Lan865x.OaTc6
open RegisterBus RegisterProgram RegisterProgram.Prog Transition

def regMacNetCtl : Nat := 0x00010000
def macNetCtlTxen : BitVec 32 := 1#32 <<< 3
def macNetCtlRxen : BitVec 32 := 1#32 <<< 2

def regPlcaCtrl1 : Nat := 0x0004ca02
def nodeMaxCount : BitVec 32 := 8#32
def nodeIdBitsWidth : Nat := 8
def nodeIdMask : BitVec 32 := 0xFF#32

def lan865xHwEnable : Prog Int := do
  let .ok regval ← readRegister regMacNetCtl | return -enodev
  let ret ← writeRegister regMacNetCtl (regval ||| (macNetCtlTxen ||| macNetCtlRxen))
  if ret ≠ 0 then return -enodev
  return 0

def lan865xHwDisable : Prog Int := do
  let .ok regval ← readRegister regMacNetCtl | return -enodev
  let ret ← writeRegister regMacNetCtl (regval &&& ~~~(macNetCtlTxen ||| macNetCtlRxen))
  if ret ≠ 0 then return -enodev
  return 0

def lan865xSetNodeid (nodeId : BitVec 32) : Prog Int :=
  writeRegister regPlcaCtrl1 ((nodeMaxCount <<< nodeIdBitsWidth) ||| (nodeId &&& nodeIdMask))

inductive ControlCall where
  | hwEnable
  | hwDisable
  | setHwMacaddr (devAddr mac : Mac)
  | multicastWork (flags : BitVec 32) (addrs : List Mac)
  | getSysClock
  | setSysClock (timestamp : Nat)
  | setSysClockTi (subnanoB24 : Nat)
  | setNodeid (nodeId : BitVec 32)
  | mdio (register : MdioRegister) (value : Option (BitVec 16))

/-- The driver's function for the call. -/
def ControlCall.run {World : Type} (bus : Bus World) : ControlCall → StateM World Int
  | .hwEnable => lan865xHwEnable.run bus
  | .hwDisable => lan865xHwDisable.run bus
  | .setHwMacaddr devAddr mac => lan865xSetHwMacaddr bus devAddr mac
  | .multicastWork flags addrs => do
      lan865xMulticastWorkHandler bus flags addrs
      return 0
  | .getSysClock => do
      let timestamp ← lan865xGetSysClock bus
      return timestamp
  | .setSysClock timestamp => lan865xSetSysClock bus timestamp
  | .setSysClockTi subnanoB24 => do
      lan865xSetSysClockTi bus subnanoB24
      return 0
  | .setNodeid nodeId => (lan865xSetNodeid nodeId).run bus
  | .mdio register value => MdioOp.call ⟨register, value, .success, fun _ => trivial⟩ bus

/-! The functions of other modules as programs. -/

def setHwMacaddrProg (devAddr mac : Mac) : Prog Int := do
  let ret ← writeRegister regMacLSaddr1 (macLow mac)
  if ret ≠ 0 then return ret
  let ret ← writeRegister regMacHSaddr1 (macHigh mac)
  if ret = 0 then return 0
  let restoreRet ← writeRegister regMacLSaddr1 (macLow devAddr)
  if restoreRet ≠ 0 then return restoreRet
  return ret

def writeHashProg (hashHi hashLo : BitVec 32) : Prog Int := do
  let ret ← writeRegister regMacHHash hashHi
  if ret ≠ 0 then return ret
  writeRegister regMacLHash hashLo

/-- The filter words that are written first, if any, and the mode. -/
def filterPlan (flags : BitVec 32) (addrs : List Mac) : Option HashWords × BitVec 32 :=
  if flags &&& iffPromisc ≠ 0#32 then (none, macNetCfgPromiscuousMode)
  else if flags &&& iffAllmulti ≠ 0#32 then
    (some (registerMacMask, registerMacMask), macNetCfgMulticastMode)
  else if addrs ≠ [] then (some (hashWords addrs), macNetCfgMulticastMode)
  else (some (0#32, 0#32), 0#32)

def multicastWorkProg (flags : BitVec 32) (addrs : List Mac) : Prog Int := do
  let (words, regval) := filterPlan flags addrs
  if let some (hashHi, hashLo) := words then
    if (← writeHashProg hashHi hashLo) ≠ 0 then return 0
  let _ ← writeRegister regMacNetCfg regval
  return 0

def getSysClockProg : Prog Int := do
  let .ok nsec ← readRegister mms1MacTn | return toU64 (-enodev)
  let .ok sec ← readRegister mms1MacTsl | return toU64 (-enodev)
  let .ok _ ← readRegister mms1MacTsh | return toU64 (-enodev)
  return toU64 (sec.toNat * nsIn1s + (nsec &&& 0x3FFFFFFF#32).toNat)

def setSysClockProg (timestamp : Nat) : Prog Int := do
  let sec := timestamp / nsIn1s
  if (← writeRegister mms1MacTn (BitVec.ofNat 32 (timestamp % nsIn1s) &&& 0x3FFFFFFF#32)) ≠ 0 then
    return -enodev
  if (← writeRegister mms1MacTsl (BitVec.ofNat 32 sec)) ≠ 0 then return -enodev
  if (← writeRegister mms1MacTsh (BitVec.ofNat 32 (sec >>> 32) &&& 0x0000FFFF#32)) ≠ 0 then
    return -enodev
  return 0

def setSysClockTiProg (subnanoB24 : Nat) : Prog Int := do
  let subnano := BitVec.ofNat 32 subnanoB24 &&& 0x00FFFFFF#32
  let _ ← writeRegister mms1MacTi (BitVec.ofNat 32 (subnanoB24 >>> 24) &&& 0xFF#32)
  let _ ← writeRegister mms1MacTisubn
    (((subnano &&& 0xFFFF00#32) >>> 8) ||| ((subnano &&& 0x0000FF#32) <<< 24))
  return 0

/-- One access to the register, if the device number is supported. -/
def mdioProg (register : MdioRegister) (value : Option (BitVec 16)) : Prog Int :=
  match register.address, value with
  | none, _ => return -eopnotsupp
  | some address, none => do
      match ← readRegister address with
      | .error ret => return register.errorSeen ret
      | .ok regval => return regval.toInt
  | some address, some value => writeRegister address (value.setWidth 32)

def ControlCall.prog : ControlCall → Prog Int
  | .hwEnable => lan865xHwEnable
  | .hwDisable => lan865xHwDisable
  | .setHwMacaddr devAddr mac => setHwMacaddrProg devAddr mac
  | .multicastWork flags addrs => multicastWorkProg flags addrs
  | .getSysClock => getSysClockProg
  | .setSysClock timestamp => setSysClockProg timestamp
  | .setSysClockTi subnanoB24 => setSysClockTiProg subnanoB24
  | .setNodeid nodeId => lan865xSetNodeid nodeId
  | .mdio register value => mdioProg register value

section Runs
variable {World : Type} (bus : Bus World)

theorem set_hw_macaddr_run (devAddr mac : Mac) :
    (setHwMacaddrProg devAddr mac).run bus = lan865xSetHwMacaddr bus devAddr mac := by
  simp [setHwMacaddrProg, lan865xSetHwMacaddr, lan865xSetHwMacaddrLowBytes]

theorem write_hash_run (hashHi hashLo : BitVec 32) :
    (writeHashProg hashHi hashLo).run bus = writeHash bus hashHi hashLo := by
  simp [writeHashProg, writeHash]

theorem multicast_work_run (flags : BitVec 32) (addrs : List Mac) :
    (multicastWorkProg flags addrs).run bus = ControlCall.run bus (.multicastWork flags addrs) := by
  have several : macNetCfgMulticastMode &&& ~~~macNetCfgUnicastMode = macNetCfgMulticastMode := by
    decide
  have every : macNetCfgPromiscuousMode &&& ~~~macNetCfgMulticastMode &&&
      ~~~macNetCfgUnicastMode = macNetCfgPromiscuousMode := by decide
  funext world
  by_cases promisc : flags &&& iffPromisc = 0#32
  · by_cases allmulti : flags &&& iffAllmulti = 0#32
    · by_cases empty : addrs = []
      · simp [multicastWorkProg, filterPlan, ControlCall.run, lan865xMulticastWorkHandler, promisc,
          allmulti, empty, write_hash_run, lan865xClearAllMulticastAddr]
        split <;> rfl
      · simp [multicastWorkProg, filterPlan, ControlCall.run, lan865xMulticastWorkHandler, promisc,
          allmulti, empty, write_hash_run, lan865xSetSpecificMulticastAddr, several]
        split <;> rfl
    · simp [multicastWorkProg, filterPlan, ControlCall.run, lan865xMulticastWorkHandler, promisc,
        allmulti, write_hash_run, lan865xSetAllMulticastAddr, several]
      split <;> rfl
  · simp [multicastWorkProg, filterPlan, ControlCall.run, lan865xMulticastWorkHandler, promisc,
      every]

theorem get_sys_clock_run :
    getSysClockProg.run bus = ControlCall.run bus .getSysClock := by
  funext world
  simp only [getSysClockProg, ControlCall.run, lan865xGetSysClock, run_bind, run_read, bind_run]
  cases (bus.read mms1MacTn world).1 with
  | error ret => rfl
  | ok nsec =>
      simp only [run_bind, run_read, bind_run]
      cases (bus.read mms1MacTsl (bus.read mms1MacTn world).2).1 with
      | error ret => rfl
      | ok sec =>
          simp only [run_bind, run_read, bind_run]
          cases (bus.read mms1MacTsh
            (bus.read mms1MacTsl (bus.read mms1MacTn world).2).2).1 with
          | error ret => rfl
          | ok secH => rfl

theorem mdio_call_run (register : MdioRegister) (value : Option (BitVec 16)) :
    (mdioProg register value).run bus =
      MdioOp.call ⟨register, value, .success, fun _ => trivial⟩ bus := by
  funext world
  cases mapped : register.address with
  | none =>
      rw [call_unsupported ⟨register, value, .success, fun _ => trivial⟩ bus world mapped]
      simp [mdioProg, mapped]
  | some address =>
      cases value with
      | none =>
          rw [call_read register .success (fun _ => trivial) bus world address mapped]
          simp only [mdioProg, mapped, run_bind, run_read, bind_run]
          cases (bus.read address world).1 with
          | error ret => rfl
          | ok regval => rfl
      | some val =>
          rw [call_write register val .success (fun _ => trivial) bus world address mapped]
          simp [mdioProg, mapped]

/-- A call is its program, over any bus. -/
theorem control_call_run (call : ControlCall) : call.prog.run bus = call.run bus := by
  cases call with
  | hwEnable | hwDisable | setNodeid nodeId => rfl
  | setHwMacaddr devAddr mac => exact set_hw_macaddr_run bus devAddr mac
  | multicastWork flags addrs => exact multicast_work_run bus flags addrs
  | getSysClock => exact get_sys_clock_run bus
  | setSysClock timestamp =>
      simp [ControlCall.prog, ControlCall.run, setSysClockProg, lan865xSetSysClock]
  | setSysClockTi subnanoB24 =>
      simp [ControlCall.prog, ControlCall.run, setSysClockTiProg, lan865xSetSysClockTi]
  | mdio register value => exact mdio_call_run bus register value
end Runs

/-! Who writes which register. -/

/-- The parts of the driver that run on their own. -/
inductive Component where
  | macState
  | macAddress
  | filter
  | clock
  | phy
  deriving DecidableEq

def Component.owns : Component → Nat → Prop
  | .macState, address => address = regMacNetCtl
  | .macAddress, address => address = regMacLSaddr1 ∨ address = regMacHSaddr1
  | .filter, address => address = regMacHHash ∨ address = regMacLHash ∨ address = regMacNetCfg
  | .clock, address => address = mms1MacTn ∨ address = mms1MacTsl ∨ address = mms1MacTsh ∨
      address = mms1MacTi ∨ address = mms1MacTisubn
  -- Clause 22 registers, and those of memory maps 2 to 6.
  | .phy, address => (0xFF00 ≤ address ∧ address ≤ 0xFF1F) ∨
      (0x20000 ≤ address ∧ address < 0x70000)

def ControlCall.component : ControlCall → Component
  | .hwEnable | .hwDisable => .macState
  | .setHwMacaddr _ _ => .macAddress
  | .multicastWork _ _ => .filter
  | .getSysClock | .setSysClock _ | .setSysClockTi _ => .clock
  -- PLCA_CTRL1 is a register of the PHY.
  | .setNodeid _ | .mdio _ _ => .phy

theorem components_disjoint (component other : Component) (address : Nat)
    (owns : component.owns address) (also : other.owns address) : component = other := by
  cases component <;> cases other <;> first
    | rfl
    | (simp only [Component.owns, regMacNetCtl, regMacLSaddr1, regMacHSaddr1, regMacHHash,
        regMacLHash, regMacNetCfg, mms1MacTn, mms1MacTsl, mms1MacTsh, mms1MacTi,
        mms1MacTisubn] at owns also
       omega)

theorem owned_addressed (component : Component) (address : Nat) (owns : component.owns address) :
    address < 2 ^ 20 := by
  cases component <;>
    (simp only [Component.owns, regMacNetCtl, regMacLSaddr1, regMacHSaddr1, regMacHHash,
      regMacLHash, regMacNetCfg, mms1MacTn, mms1MacTsl, mms1MacTsh, mms1MacTi,
      mms1MacTisubn] at owns
     omega)

theorem mdio_owned (register : MdioRegister) (address : Nat)
    (mapped : register.address = some address) : Component.phy.owns address := by
  cases register with
  | c22 regnum =>
      rw [c22_address, Option.some.injEq] at mapped
      left
      omega
  | c45 devnum regnum =>
      obtain ⟨mms, selects, place⟩ := c45_address devnum regnum address mapped
      have range := selects_range selects
      right
      omega

theorem hw_enable_within : lan865xHwEnable.Within Component.macState.owns := by
  refine within_bind (within_read rfl) fun answer => ?_
  cases answer with
  | error ret => trivial
  | ok regval => exact within_bind (within_write _ rfl) fun ret => within_ite trivial trivial

theorem hw_disable_within : lan865xHwDisable.Within Component.macState.owns := by
  refine within_bind (within_read rfl) fun answer => ?_
  cases answer with
  | error ret => trivial
  | ok regval => exact within_bind (within_write _ rfl) fun ret => within_ite trivial trivial

theorem set_hw_macaddr_within (devAddr mac : Mac) :
    (setHwMacaddrProg devAddr mac).Within Component.macAddress.owns := by
  refine within_bind (within_write _ (.inl rfl)) fun ret => within_ite trivial ?_
  refine within_bind (within_write _ (.inr rfl)) fun ret => within_ite trivial ?_
  exact within_bind (within_write _ (.inl rfl)) fun ret => within_ite trivial trivial

theorem write_hash_within (hashHi hashLo : BitVec 32) :
    (writeHashProg hashHi hashLo).Within Component.filter.owns :=
  within_bind (within_write _ (.inl rfl)) fun _ =>
    within_ite trivial (within_write _ (.inr (.inl rfl)))

theorem multicast_work_within (flags : BitVec 32) (addrs : List Mac) :
    (multicastWorkProg flags addrs).Within Component.filter.owns := by
  have mode : ∀ regval, (do
      let _ ← writeRegister regMacNetCfg regval
      return 0 : Prog Int).Within Component.filter.owns := fun regval =>
    within_bind (within_write _ (.inr (.inr rfl))) fun _ => trivial
  unfold multicastWorkProg
  cases plan : filterPlan flags addrs with
  | mk words regval =>
      cases words with
      | none => exact mode regval
      | some words =>
          exact within_bind (write_hash_within _ _) fun ret => within_ite trivial (mode regval)

theorem get_sys_clock_within : getSysClockProg.Within Component.clock.owns := by
  refine within_bind (within_read (.inl rfl)) fun nsec => ?_
  cases nsec with
  | error ret => trivial
  | ok nsec =>
      refine within_bind (within_read (.inr (.inl rfl))) fun sec => ?_
      cases sec with
      | error ret => trivial
      | ok sec =>
          refine within_bind (within_read (.inr (.inr (.inl rfl)))) fun secH => ?_
          cases secH <;> trivial

theorem set_sys_clock_within (timestamp : Nat) :
    (setSysClockProg timestamp).Within Component.clock.owns := by
  refine within_bind (within_write _ (.inl rfl)) fun ret => within_ite trivial ?_
  refine within_bind (within_write _ (.inr (.inl rfl))) fun ret => within_ite trivial ?_
  exact within_bind (within_write _ (.inr (.inr (.inl rfl)))) fun ret => within_ite trivial trivial

theorem set_sys_clock_ti_within (subnanoB24 : Nat) :
    (setSysClockTiProg subnanoB24).Within Component.clock.owns :=
  within_bind (within_write _ (.inr (.inr (.inr (.inl rfl))))) fun _ =>
    within_bind (within_write _ (.inr (.inr (.inr (.inr rfl))))) fun _ => trivial

theorem mdio_within (register : MdioRegister) (value : Option (BitVec 16)) :
    (mdioProg register value).Within Component.phy.owns := by
  unfold mdioProg
  cases mapped : register.address with
  | none => trivial
  | some address =>
      have owned := mdio_owned register address mapped
      cases value with
      | none =>
          refine within_bind (within_read owned) fun answer => ?_
          cases answer <;> trivial
      | some val => exact within_write _ owned

theorem call_within (call : ControlCall) : call.prog.Within call.component.owns := by
  cases call with
  | hwEnable => exact hw_enable_within
  | hwDisable => exact hw_disable_within
  | setHwMacaddr devAddr mac => exact set_hw_macaddr_within devAddr mac
  | multicastWork flags addrs => exact multicast_work_within flags addrs
  | getSysClock => exact get_sys_clock_within
  | setSysClock timestamp => exact set_sys_clock_within timestamp
  | setSysClockTi subnanoB24 => exact set_sys_clock_ti_within subnanoB24
  | setNodeid nodeId => exact within_write _ (.inr (by decide))
  | mdio register value => exact mdio_within register value

/-! Sequences of calls. -/

/-- The calls, one after the other, with what they return. -/
def callAll {World : Type} (bus : Bus World) : List ControlCall → StateM World (List Int)
  | [] => return []
  | call :: rest => do
      let ret ← call.run bus
      let rets ← callAll bus rest
      return ret :: rets

def callsProg (calls : List ControlCall) : Prog (List Int) := inTurn (calls.map ControlCall.prog)

theorem calls_prog_cons (call : ControlCall) (rest : List ControlCall) :
    callsProg (call :: rest) = (do
      let ret ← call.prog
      let rets ← callsProg rest
      pure (ret :: rets)) := rfl

theorem calls_run {World : Type} (bus : Bus World) (calls : List ControlCall) :
    (callsProg calls).run bus = callAll bus calls := by
  induction calls with
  | nil => rfl
  | cons call rest ih =>
      rw [calls_prog_cons, run_bind, control_call_run]
      simp only [run_bind, ih, run_pure]
      rfl

theorem calls_within (own : Nat → Prop) (calls : List ControlCall)
    (mine : ∀ call ∈ calls, ∀ address, call.component.owns address → own address) :
    (callsProg calls).Within own := by
  apply within_in_turn
  intro prog member
  obtain ⟨call, among, rfl⟩ := List.mem_map.mp member
  exact (call_within call).wider (mine call among)

/-- Over the wire to a conforming device any sequence of calls returns what it returns over
plain registers, and leaves the same contents. -/
theorem control_calls_over_wire (unused : Registers → List UInt8 → Nat → UInt8)
    (calls : List ControlCall) (state : CtrlState Registers) :
    let wire := callAll (spiBus (ctrlDevice unused)) calls state
    let plain := callAll storageBus calls ⟨state.world, []⟩
    wire.1 = plain.1 ∧ ∀ address < 2 ^ 20, wire.2.world address = plain.2.cells address := by
  have addressed : (callsProg calls).Within (· < 2 ^ 20) :=
    calls_within _ calls fun call _ => owned_addressed call.component
  have simulates := run_simulates (spi_bus_refines unused) addressed
  rw [calls_run, calls_run] at simulates
  obtain ⟨same, _, cells⟩ := simulates state ⟨state.world, []⟩ ⟨rfl, fun _ _ => rfl⟩
  exact ⟨same, fun address below => (cells address below).symm⟩

/-- Whatever the order of the register accesses of the components, and whichever of them
fail, each component gets the results and leaves the registers that its calls would have
alone; no other register changes. -/
theorem control_calls_isolated (plans : Component → List ControlCall)
    (mine : ∀ component, ∀ call ∈ plans component, call.component = component)
    (cells : Nat → BitVec 32) (acts : List (Component × Int))
    (last : Shared Component (List Int))
    (ran : parallel.run ⟨cells, fun component => callsProg (plans component)⟩ acts = some last) :
    (∀ component rets, last.programs component = .done rets →
      let alone := callAll storageBus (plans component) ⟨cells, outcomesOf component acts⟩
      alone.1 = rets ∧ ∀ address, component.owns address →
        last.cells address = alone.2.cells address) ∧
    ∀ address, (∀ component : Component, ¬ component.owns address) →
      last.cells address = cells address := by
  have within : ∀ component, (callsProg (plans component)).Within component.owns :=
    fun component => calls_within _ _ fun call among address owns =>
      mine component call among ▸ owns
  constructor
  · intro component rets ended
    have alone := parallel_ended components_disjoint within ran component rets ended
    simp only [calls_run] at alone
    exact alone
  · exact parallel_frame within ran

section Samples

/-- The interface is opened while its address and its filter are set. -/
def samplePlans : Component → List ControlCall
  | .macState => [.hwEnable]
  | .macAddress => [.setHwMacaddr (fun _ => 0) fun _ => 2]
  | .filter => [.multicastWork iffPromisc []]
  | .clock | .phy => []

def sampleSchedule : List (Component × Int) :=
  [(.macState, 0), (.macAddress, 0), (.filter, 0), (.macState, 0), (.macAddress, -5),
    (.macAddress, 0)]

def sampleControl : Shared Component (List Int) :=
  parallel.after ⟨fun _ => 0#32, fun component => callsProg (samplePlans component)⟩
    sampleSchedule

theorem control_calls_isolated_sample :
    (∀ component rets, sampleControl.programs component = .done rets →
      let alone := callAll storageBus (samplePlans component)
        ⟨fun _ => 0#32, outcomesOf component sampleSchedule⟩
      alone.1 = rets ∧ ∀ address, component.owns address →
        sampleControl.cells address = alone.2.cells address) ∧
    ∀ address, (∀ component : Component, ¬ component.owns address) →
      sampleControl.cells address = 0#32 := by
  refine control_calls_isolated samplePlans ?_ (fun _ => 0#32) sampleSchedule sampleControl
    (run_after (by decide +kernel))
  intro component call among
  cases component <;> simp_all [samplePlans, ControlCall.component]

/-- The interface is up, and the address is put back. -/
example : sampleControl.cells regMacNetCtl = 0xC#32 ∧ sampleControl.cells regMacLSaddr1 = 0#32 := by
  decide +kernel

end Samples

end Lan865x.OaTc6
