import Lan865x.Custody
import Lan865x.MacAddress
import Lan865x.Wire

/-!
`lan865x_probe` and `lan865x_remove`, with the functions that acquire and release
for them. At most one step fails; what is acquired and released is recorded in
order. Of the registers only those of the MAC address are kept.
-/

namespace Lan865x.OaTc6
open RegisterBus Custody

/-- The steps that can fail, in the order of the code. -/
inductive ProbeStep where
  | allocEtherdev
  | allocTc6 | allocCtrlTxBuf | allocCtrlRxBuf | allocDataTxBuf | allocDataRxBuf
  | swResetMacphy | unmaskErrorInterrupts
  | checkDirectAccess | mdiobusAlloc | mdiobusRegister | phyFindFirst | phyConnectDirect
  | initLan865x | enableDataTransfer | updateBufferStatus | runSpiThread | requestIrq
  | zeroAlignReceive | getNodeidGpios | setMacLow | setMacHigh | registerNetdev | setNodeid
  | allocPtpDevice | ptpClockRegister | runPtpThread | miscRegister
  deriving DecidableEq

inductive Resource where
  | netdev | mdiobus | phy | spiThread | registration | ptpClock | ptpThread | miscDevice
  deriving DecidableEq

/-- The first makes use of the second as long as it is held. -/
def uses : Resource → Resource → Bool
  | .phy, .mdiobus => true
  | .phy, .netdev => true
  | .spiThread, .netdev => true
  | .registration, .netdev => true
  | .ptpClock, .netdev => true
  | .ptpThread, .netdev => true
  | _, _ => false

/-- What a probe meets: the step that fails with its error, the addresses, the node
id, the result of the write that restores the low bytes in the first configuration of
the address, and the outcomes of the writes of the second one. -/
structure ProbeEnv where
  fail : Option ProbeStep
  error : Int
  negative : error < 0
  deviceTreeMac : Option Mac
  randomMac : Mac
  nodeId : UInt32
  restore : Int
  restoreError : restore ≤ 0
  again : List Int

def ProbeEnv.ret (env : ProbeEnv) (step : ProbeStep) : Int :=
  if env.fail = some step then env.error else 0

structure ProbeState where
  events : List (Event Resource)
  mac : MacState

def ProbeState.log (state : ProbeState) (trace : List (Event Resource)) : ProbeState :=
  { state with events := state.events ++ trace }

abbrev Probe : Type → Type := StateM ProbeState

def acquire (resource : Resource) : Probe Unit := fun state =>
  ((), state.log [.acquire resource])

def release (resource : Resource) : Probe Unit := fun state =>
  ((), state.log [.release resource])

def oaTc6MdiobusRegister (env : ProbeEnv) : Probe Int := do
  if env.ret .mdiobusAlloc ≠ 0 then return -enomem
  acquire .mdiobus
  let ret := env.ret .mdiobusRegister
  if ret ≠ 0 then
    release .mdiobus
    return ret
  return 0

def oaTc6MdiobusUnregister : Probe Unit := release .mdiobus

def oaTc6PhyInit (env : ProbeEnv) : Probe Int := do
  let ret := env.ret .checkDirectAccess
  if ret ≠ 0 then return ret
  let ret ← oaTc6MdiobusRegister env
  if ret ≠ 0 then return ret
  if env.ret .phyFindFirst ≠ 0 then
    oaTc6MdiobusUnregister
    return -enodev
  let ret := env.ret .phyConnectDirect
  if ret ≠ 0 then
    oaTc6MdiobusUnregister
    return ret
  acquire .phy
  return 0

def oaTc6PhyExit : Probe Unit := do
  release .phy
  oaTc6MdiobusUnregister

/-- False is the null pointer. -/
def oaTc6Init (env : ProbeEnv) : Probe Bool := do
  if env.ret .allocTc6 ≠ 0 then return false
  if env.ret .allocCtrlTxBuf ≠ 0 then return false
  if env.ret .allocCtrlRxBuf ≠ 0 then return false
  if env.ret .allocDataTxBuf ≠ 0 then return false
  if env.ret .allocDataRxBuf ≠ 0 then return false
  if env.ret .swResetMacphy ≠ 0 then return false
  if env.ret .unmaskErrorInterrupts ≠ 0 then return false
  let ret ← oaTc6PhyInit env
  if ret ≠ 0 then return false
  if env.ret .initLan865x ≠ 0 then
    oaTc6PhyExit
    return false
  if env.ret .enableDataTransfer ≠ 0 then
    oaTc6PhyExit
    return false
  if env.ret .updateBufferStatus ≠ 0 then
    oaTc6PhyExit
    return false
  if env.ret .runSpiThread ≠ 0 then
    oaTc6PhyExit
    return false
  acquire .spiThread
  if env.ret .requestIrq ≠ 0 then
    release .spiThread
    oaTc6PhyExit
    return false
  return true

def oaTc6Exit : Probe Unit := do
  oaTc6PhyExit
  release .spiThread

def ptpDeviceInit (env : ProbeEnv) : Probe Bool := do
  if env.ret .allocPtpDevice ≠ 0 then return false
  if env.ret .ptpClockRegister ≠ 0 then return false
  acquire .ptpClock
  -- The clock stays registered when its thread cannot be created.
  if env.ret .runPtpThread ≠ 0 then return false
  acquire .ptpThread
  return true

def ethHwAddrSet (mac : Mac) : Probe Unit := fun state =>
  ((), { state with mac := { state.mac with devAddr := mac } })

def configureMac (outcomes : List Int) (mac : Mac) : Probe Int := fun state =>
  let after := lan865xSetHwMacaddr storageBus state.mac.devAddr mac ⟨state.mac.cells, outcomes⟩
  (after.1, { state with mac := { state.mac with cells := after.2.cells } })

def macOfNode (mac : Mac) (nodeId : UInt32) : Mac :=
  Function.update mac (Fin.last 5) nodeId.toUInt8

/-- The second configuration, after `register_netdev`; its result is not looked at. -/
def configureNodeMac (env : ProbeEnv) : Probe Unit :=
  match env.deviceTreeMac with
  | none => return
  | some mac => do
      ethHwAddrSet (macOfNode mac env.nodeId)
      let _ ← configureMac env.again (macOfNode mac env.nodeId)

/-- The labels `oa_tc6_exit` and `free_netdev`. -/
def probeExit (ret : Int) : Probe Int := do
  oaTc6Exit
  release .netdev
  return ret

def lan865xProbe (env : ProbeEnv) : Probe Int := do
  if env.ret .allocEtherdev ≠ 0 then return -enomem
  acquire .netdev
  let tc6 ← oaTc6Init env
  if tc6 = false then
    release .netdev
    return -enodev
  let ret := env.ret .zeroAlignReceive
  if ret ≠ 0 then return ← probeExit ret
  let ret := env.ret .getNodeidGpios
  if ret ≠ 0 then return ret
  let mac := env.deviceTreeMac.getD env.randomMac
  ethHwAddrSet mac
  let ret ← configureMac [env.ret .setMacLow, env.ret .setMacHigh, env.restore] mac
  if ret ≠ 0 then return ← probeExit ret
  let ret := env.ret .registerNetdev
  if ret ≠ 0 then return ← probeExit ret
  acquire .registration
  configureNodeMac env
  let ret := env.ret .setNodeid
  if ret ≠ 0 then return ← probeExit ret
  let ptpdev ← ptpDeviceInit env
  -- Here `ret` is 0.
  if ptpdev = false then return ← probeExit ret
  let ret := env.ret .miscRegister
  if ret = 0 then acquire .miscDevice
  return ret

def lan865xRemove : Probe Unit := do
  release .registration
  oaTc6Exit
  release .netdev
  release .miscDevice

section Runs
variable (state : ProbeState)

@[simp] theorem log_log (first second : List (Event Resource)) :
    (state.log first).log second = state.log (first ++ second) := by
  simp [ProbeState.log]

@[simp] theorem log_nil : state.log [] = state := by
  simp [ProbeState.log]

@[simp] theorem log_mac (trace : List (Event Resource)) : (state.log trace).mac = state.mac := rfl

@[simp] theorem log_events (trace : List (Event Resource)) :
    (state.log trace).events = state.events ++ trace := rfl

@[simp] theorem acquire_run (resource : Resource) :
    acquire resource state = ((), state.log [.acquire resource]) := rfl

@[simp] theorem release_run (resource : Resource) :
    release resource state = ((), state.log [.release resource]) := rfl

@[simp] theorem phy_exit_run :
    oaTc6PhyExit state = ((), state.log [.release .phy, .release .mdiobus]) := by
  simp [oaTc6PhyExit, oaTc6MdiobusUnregister]

@[simp] theorem tc6_exit_run : oaTc6Exit state =
    ((), state.log [.release .phy, .release .mdiobus, .release .spiThread]) := by
  simp [oaTc6Exit]

@[simp] theorem probe_exit_run (ret : Int) : probeExit ret state =
    (ret, state.log [.release .phy, .release .mdiobus, .release .spiThread,
      .release .netdev]) := by
  simp [probeExit]

end Runs

/-- The steps of `oa_tc6_phy_init`. -/
def phySteps : List ProbeStep :=
  [.checkDirectAccess, .mdiobusAlloc, .mdiobusRegister, .phyFindFirst, .phyConnectDirect]

/-- A trace that starts with nothing but the netdev held, and leaves it so. -/
def Undone (trace : List (Event Resource)) : Prop :=
  replay uses [.netdev] trace = some [.netdev]

theorem ret_other (env : ProbeEnv) (step other : ProbeStep) (failing : env.fail = some step)
    (apart : other ≠ step) : env.ret other = 0 := by
  apply if_neg
  rw [failing]
  exact fun same => apart (Option.some.inj same).symm

theorem phy_init_undone (env : ProbeEnv) (state : ProbeState) (step : ProbeStep)
    (among : step ∈ phySteps) (failing : env.fail = some step) :
    ∃ ret trace, oaTc6PhyInit env state = (ret, state.log trace) ∧ ret < 0 ∧ Undone trace := by
  have error := env.negative.ne
  have negative := env.negative
  simp only [phySteps, List.mem_cons, List.not_mem_nil, or_false] at among
  rcases among with rfl | rfl | rfl | rfl | rfl
  · use env.error, []
    simp [oaTc6PhyInit, ProbeEnv.ret, failing, error, negative, Undone, replay]
  · use -enomem, []
    simp [oaTc6PhyInit, oaTc6MdiobusRegister, ProbeEnv.ret, failing, error, Undone, replay, enomem]
  · use env.error, [.acquire .mdiobus, .release .mdiobus]
    simp [oaTc6PhyInit, oaTc6MdiobusRegister, ProbeEnv.ret, failing, error, negative, Undone]
    rfl
  · use -enodev, [.acquire .mdiobus, .release .mdiobus]
    simp [oaTc6PhyInit, oaTc6MdiobusRegister, oaTc6MdiobusUnregister, ProbeEnv.ret, failing, error,
      Undone, enodev]
    rfl
  · use env.error, [.acquire .mdiobus, .release .mdiobus]
    simp [oaTc6PhyInit, oaTc6MdiobusRegister, oaTc6MdiobusUnregister, ProbeEnv.ret, failing, error,
      negative, Undone]
    rfl

theorem phy_init_done (env : ProbeEnv) (state : ProbeState)
    (works : ∀ step ∈ phySteps, env.ret step = 0) :
    oaTc6PhyInit env state = (0, state.log [.acquire .mdiobus, .acquire .phy]) := by
  simp [phySteps] at works
  simp [oaTc6PhyInit, oaTc6MdiobusRegister, works]

/-- The steps of `oa_tc6_init` before `oa_tc6_phy_init`, and those after it up to the
start of the thread. -/
def tc6Steps : List ProbeStep :=
  [.allocTc6, .allocCtrlTxBuf, .allocCtrlRxBuf, .allocDataTxBuf, .allocDataRxBuf, .swResetMacphy,
    .unmaskErrorInterrupts]

def threadSteps : List ProbeStep :=
  [.initLan865x, .enableDataTransfer, .updateBufferStatus, .runSpiThread]

def initSteps : List ProbeStep := tc6Steps ++ phySteps ++ threadSteps ++ [.requestIrq]

/-- Where the failing step is not among them, the others succeed. -/
theorem ret_steps (env : ProbeEnv) (step : ProbeStep) (failing : env.fail = some step)
    (steps : List ProbeStep) (apart : step ∉ steps) : ∀ other ∈ steps, env.ret other = 0 := by
  intro other member
  apply ret_other env step other failing
  rintro rfl
  exact apart member

theorem init_undone (env : ProbeEnv) (state : ProbeState) (step : ProbeStep)
    (among : step ∈ initSteps) (failing : env.fail = some step) :
    ∃ trace, oaTc6Init env state = (false, state.log trace) ∧ Undone trace := by
  have error := env.negative.ne
  have phyWorks : step ∉ phySteps → oaTc6PhyInit env state =
      (0, state.log [.acquire .mdiobus, .acquire .phy]) := fun apart =>
    phy_init_done env state (ret_steps env step failing phySteps apart)
  simp only [initSteps, List.mem_append, List.mem_singleton] at among
  rcases among with ((among | among) | among) | rfl
  · use []
    simp only [tc6Steps, List.mem_cons, List.not_mem_nil, or_false] at among
    rcases among with rfl | rfl | rfl | rfl | rfl | rfl | rfl <;>
      simp [oaTc6Init, ProbeEnv.ret, failing, error, Undone, replay]
  · obtain ⟨ret, trace, run, negative, undone⟩ := phy_init_undone env state step among failing
    have before : ∀ other ∈ tc6Steps, env.ret other = 0 := by
      apply ret_steps env step failing
      revert among
      cases step <;> decide
    use trace
    simp [tc6Steps] at before
    simp [oaTc6Init, before, run, negative.ne, undone]
  · use [.acquire .mdiobus, .acquire .phy, .release .phy, .release .mdiobus]
    simp only [threadSteps, List.mem_cons, List.not_mem_nil, or_false] at among
    rcases among with rfl | rfl | rfl | rfl
    all_goals
      have run := phyWorks (by decide)
      simp [oaTc6Init, ProbeEnv.ret, failing, error, run, Undone]
      rfl
  · use [.acquire .mdiobus, .acquire .phy, .acquire .spiThread, .release .spiThread,
      .release .phy, .release .mdiobus]
    have run := phyWorks (by decide)
    simp [oaTc6Init, ProbeEnv.ret, failing, error, run, Undone]
    rfl

theorem init_done (env : ProbeEnv) (state : ProbeState)
    (works : ∀ step ∈ initSteps, env.ret step = 0) :
    oaTc6Init env state =
      (true, state.log [.acquire .mdiobus, .acquire .phy, .acquire .spiThread]) := by
  have run := phy_init_done env state fun step member => works step (by simp [initSteps, member])
  simp [initSteps, tc6Steps, threadSteps] at works
  simp [oaTc6Init, works, run]

theorem init_apart (env : ProbeEnv) (step : ProbeStep) (failing : env.fail = some step)
    (apart : step ∉ initSteps) (state : ProbeState) :
    oaTc6Init env state =
      (true, state.log [.acquire .mdiobus, .acquire .phy, .acquire .spiThread]) := by
  apply init_done
  exact ret_steps env step failing initSteps apart

section Configure
variable (outcomes : List Int) (mac : Mac) (state : ProbeState)

@[simp] theorem configure_events :
    (configureMac outcomes mac state).2.events = state.events := rfl

@[simp] theorem set_addr_run : ethHwAddrSet mac state =
    ((), { state with mac := { state.mac with devAddr := mac } }) := rfl

@[simp] theorem configure_node_events (env : ProbeEnv) :
    (configureNodeMac env state).2.events = state.events := by
  rw [configureNodeMac]
  cases env.deviceTreeMac with
  | none => rfl
  | some mac => rfl

end Configure

/-- The result of the first configuration, by the outcomes of its writes. -/
theorem configure_ret (low high restore : Int) (mac : Mac) (state : ProbeState) :
    (configureMac [low, high, restore] mac state).1 =
      if low ≠ 0 then low else if high = 0 then 0 else if restore ≠ 0 then restore else high := by
  simp [configureMac, set_hw_macaddr_ret]

/-- Everything is released again, and a negative error returned. -/
def Unwound (env : ProbeEnv) (mac : MacState) : Prop :=
  (lan865xProbe env ⟨[], mac⟩).1 < 0 ∧
    replay uses [] (lan865xProbe env ⟨[], mac⟩).2.events = some []

def exitSteps : List ProbeStep := [.zeroAlignReceive, .setMacLow, .setMacHigh, .registerNetdev]

theorem probe_unwound_init (env : ProbeEnv) (mac : MacState) (step : ProbeStep)
    (among : step ∈ initSteps) (failing : env.fail = some step) : Unwound env mac := by
  have alloc : env.ret .allocEtherdev = 0 := by
    apply ret_other env step _ failing
    rintro rfl
    exact absurd among (by decide)
  obtain ⟨trace, run, undone⟩ := init_undone env ⟨[.acquire .netdev], mac⟩ step among failing
  have start : ProbeState.log ⟨[], mac⟩ [.acquire .netdev] = ⟨[.acquire .netdev], mac⟩ := rfl
  constructor
  · simp [lan865xProbe, alloc, start, run, enodev]
  · have events : (lan865xProbe env ⟨[], mac⟩).2.events =
        [.acquire .netdev] ++ (trace ++ [.release .netdev]) := by
      simp [lan865xProbe, alloc, start, run]
    calc replay uses [] (lan865xProbe env ⟨[], mac⟩).2.events
        = replay uses [.netdev] (trace ++ [.release .netdev]) := by
          rw [events]
          rfl
      _ = some [] := by
          rw [replay_append, undone]
          rfl

theorem probe_unwound_exit (env : ProbeEnv) (mac : MacState) (step : ProbeStep)
    (among : step ∈ exitSteps) (failing : env.fail = some step) : Unwound env mac := by
  have error := env.negative.ne
  have negative := env.negative
  have run := init_apart env step failing (by revert among; cases step <;> decide)
  simp only [exitSteps, List.mem_cons, List.not_mem_nil, or_false] at among
  rcases among with rfl | rfl | rfl | rfl
  · simp [Unwound, lan865xProbe, ProbeEnv.ret, failing, error, run, negative]
    rfl
  · simp [Unwound, lan865xProbe, ProbeEnv.ret, failing, error, run, negative, configure_ret]
    rfl
  · have wrong : (if env.restore = 0 then env.error else env.restore) < 0 := by
      have bound := env.restoreError
      split <;> omega
    simp [Unwound, lan865xProbe, ProbeEnv.ret, failing, error, run, configure_ret, wrong, wrong.ne]
    rfl
  · simp [Unwound, lan865xProbe, ProbeEnv.ret, failing, error, run, negative, configure_ret]
    rfl

/-- Steps whose failure is followed by all the cleanup that is due. -/
def unwoundSteps : List ProbeStep := .allocEtherdev :: (initSteps ++ exitSteps)

theorem probe_unwound (env : ProbeEnv) (mac : MacState) (step : ProbeStep)
    (among : step ∈ unwoundSteps) (failing : env.fail = some step) : Unwound env mac := by
  simp only [unwoundSteps, List.mem_cons, List.mem_append] at among
  rcases among with rfl | among | among
  · simp [Unwound, lan865xProbe, ProbeEnv.ret, failing, env.negative.ne, enomem, replay]
  · exact probe_unwound_init env mac step among failing
  · exact probe_unwound_exit env mac step among failing

/-- A failing probe returns a negative error and leaves nothing held. A probe that
returns 0 holds everything, and `lan865x_remove` leaves nothing held. No event is
unsound: nothing is acquired twice, nothing is released that is not held, and no netdev
is freed that is registered or referred to. -/
def ProbeBalanced (env : ProbeEnv) (mac : MacState) : Prop :=
  let probed := lan865xProbe env ⟨[], mac⟩
  (env.fail ≠ none → Unwound env mac) ∧
    (probed.1 = 0 → ∃ held, replay uses [] probed.2.events = some held ∧
      (∀ resource, resource ∈ held) ∧
      replay uses [] (lan865xRemove probed.2).2.events = some [])

/-- Steps whose failure is reported, with resources left behind. -/
def unreleasedSteps : List ProbeStep := [.getNodeidGpios, .setNodeid, .miscRegister]

/-- The steps of `ptp_device_init`, whose failure is not reported. -/
def ptpSteps : List ProbeStep := [.allocPtpDevice, .ptpClockRegister, .runPtpThread]

theorem probe_unreleased (env : ProbeEnv) (mac : MacState) (step : ProbeStep)
    (among : step ∈ unreleasedSteps) (failing : env.fail = some step) :
    (lan865xProbe env ⟨[], mac⟩).1 = env.error ∧
      replay uses [] (lan865xProbe env ⟨[], mac⟩).2.events ≠ some [] := by
  have error := env.negative.ne
  have run := init_apart env step failing (by revert among; cases step <;> decide)
  simp only [unreleasedSteps, List.mem_cons, List.not_mem_nil, or_false] at among
  rcases among with rfl | rfl | rfl
  all_goals
    simp [lan865xProbe, ptpDeviceInit, ProbeEnv.ret, failing, error, run, configure_ret]
    exact fun held => absurd held (by decide)

theorem probe_unreported (env : ProbeEnv) (mac : MacState) (step : ProbeStep)
    (among : step ∈ ptpSteps) (failing : env.fail = some step) :
    (lan865xProbe env ⟨[], mac⟩).1 = 0 := by
  have error := env.negative.ne
  have run := init_apart env step failing (by revert among; cases step <;> decide)
  simp only [ptpSteps, List.mem_cons, List.not_mem_nil, or_false] at among
  rcases among with rfl | rfl | rfl
  all_goals
    simp [lan865xProbe, ptpDeviceInit, ProbeEnv.ret, failing, error, run, configure_ret]

theorem steps_covered (step : ProbeStep) :
    step ∈ unwoundSteps ∨ step ∈ unreleasedSteps ∨ step ∈ ptpSteps := by
  cases step <;> decide

/-- No step fails, and everything is held. -/
theorem probe_success (env : ProbeEnv) (mac : MacState) (works : env.fail = none) :
    (lan865xProbe env ⟨[], mac⟩).1 = 0 ∧
      (lan865xProbe env ⟨[], mac⟩).2.events =
        [.acquire .netdev, .acquire .mdiobus, .acquire .phy, .acquire .spiThread,
          .acquire .registration, .acquire .ptpClock, .acquire .ptpThread,
          .acquire .miscDevice] := by
  have run : ∀ state, oaTc6Init env state =
      (true, state.log [.acquire .mdiobus, .acquire .phy, .acquire .spiThread]) := by
    intro state
    apply init_done
    intro step _
    simp [ProbeEnv.ret, works]
  constructor <;>
    simp [lan865xProbe, ptpDeviceInit, ProbeEnv.ret, works, run, configure_ret]

/-- The PTP clock and its thread outlive the netdev. -/
theorem remove_leaves_ptp (env : ProbeEnv) (mac : MacState) (works : env.fail = none) :
    replay uses [] (lan865xRemove (lan865xProbe env ⟨[], mac⟩).2).2.events ≠ some [] := by
  have events := (probe_success env mac works).2
  simp [lan865xRemove, events]
  decide

theorem probe_balanced_iff (env : ProbeEnv) (mac : MacState) :
    ProbeBalanced env mac ↔ ∃ step ∈ unwoundSteps, env.fail = some step := by
  constructor
  · rintro ⟨failed, succeeded⟩
    cases works : env.fail with
    | none =>
        obtain ⟨held, _, _, gone⟩ := succeeded (probe_success env mac works).1
        exact absurd gone (remove_leaves_ptp env mac works)
    | some step =>
        have unwound := failed (by simp [works])
        rcases steps_covered step with among | among | among
        · exact ⟨step, among, rfl⟩
        · exact absurd unwound.2 (probe_unreleased env mac step among works).2
        · exact absurd (probe_unreported env mac step among works) unwound.1.ne
  · rintro ⟨step, among, failing⟩
    have unwound := probe_unwound env mac step among failing
    constructor
    · exact fun _ => unwound
    · intro success
      exact absurd success unwound.1.ne

/-- A probe with node id 5 where the device tree has the address 02:02:02:02:02:02. -/
def sampleProbe (fail : Option ProbeStep) (again : List Int) : ProbeEnv where
  fail := fail
  error := -5
  negative := by decide
  deviceTreeMac := some fun _ => 2
  randomMac := fun _ => 0
  nodeId := 5
  restore := 0
  restoreError := le_refl 0
  again := again

def sampleMac : MacState := ⟨fun _ => 0, fun _ => 0⟩

/-- The PTP thread cannot be created: the probe returns 0, with the netdev freed while it
is registered. -/
theorem probe_balanced_not : ¬ ProbeBalanced (sampleProbe (some .runPtpThread) []) sampleMac := by
  intro balanced
  have unwound := balanced.1 (by decide)
  exact absurd (probe_unreported _ _ .runPtpThread (by decide) rfl) unwound.1.ne

end Lan865x.OaTc6
