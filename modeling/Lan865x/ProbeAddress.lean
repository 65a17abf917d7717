import Lan865x.Probe

/-!
The MAC address from the probe on. The probe configures it twice: once before
`register_netdev`, where a failure ends the probe, and once more with the node id in
the last byte, where the result is not looked at.
-/

namespace Lan865x.OaTc6
open RegisterBus Custody

/-- After the probe the second configuration lost the address at its restoring write,
or the registers hold the address of the netdev from there on. -/
def ProbeAgrees (env : ProbeEnv) (mac : MacState) (calls : List SetMacCall) : Prop :=
  (env.deviceTreeMac ≠ none ∧ RestoreFails env.again) ∨
    AddressesAgree (lan865xProbe env ⟨[], mac⟩).2.mac calls

/-- The second configuration has nothing to change, succeeds, or loses the address. -/
def SecondHarmless (env : ProbeEnv) : Prop :=
  ∀ mac, env.deviceTreeMac = some mac →
    mac (Fin.last 5) = env.nodeId.toUInt8 ∨
      (env.again[0]?.getD 0 = 0 ∧ env.again[1]?.getD 0 = 0) ∨ RestoreFails env.again

/-- The addresses after the first configuration. -/
def firstMac (env : ProbeEnv) (mac : MacState) : MacState :=
  let address := env.deviceTreeMac.getD env.randomMac
  let after := lan865xSetHwMacaddr storageBus address address
    ⟨mac.cells, [env.ret .setMacLow, env.ret .setMacHigh, env.restore]⟩
  ⟨after.2.cells, address⟩

theorem success_rets (env : ProbeEnv) (mac : MacState)
    (success : (lan865xProbe env ⟨[], mac⟩).1 = 0) (step : ProbeStep) (apart : step ∉ ptpSteps) :
    env.ret step = 0 := by
  rw [ProbeEnv.ret, ite_eq_right_iff]
  intro failing
  rcases steps_covered step with among | among | among
  · exact absurd success (probe_unwound env mac step among failing).1.ne
  · rw [(probe_unreleased env mac step among failing).1] at success
    exact success
  · exact absurd among apart

@[simp] theorem ptp_device_mac (env : ProbeEnv) (state : ProbeState) :
    (ptpDeviceInit env state).2.mac = state.mac := by
  simp only [ptpDeviceInit, bind_run, ite_run, pure_run, acquire_run]
  split
  · rfl
  · split
    · rfl
    · split <;> rfl

/-- The addresses after the second configuration. -/
def secondMac (env : ProbeEnv) (mac : MacState) : MacState :=
  match env.deviceTreeMac with
  | none => mac
  | some address =>
      let address := macOfNode address env.nodeId
      let after := lan865xSetHwMacaddr storageBus address address ⟨mac.cells, env.again⟩
      ⟨after.2.cells, address⟩

@[simp] theorem configure_node_mac (env : ProbeEnv) (state : ProbeState) :
    (configureNodeMac env state).2.mac = secondMac env state.mac := by
  rw [configureNodeMac, secondMac]
  cases env.deviceTreeMac with
  | none => rfl
  | some address => rfl

theorem probe_mac (env : ProbeEnv) (mac : MacState)
    (success : (lan865xProbe env ⟨[], mac⟩).1 = 0) :
    (lan865xProbe env ⟨[], mac⟩).2.mac = secondMac env (firstMac env mac) := by
  have works := success_rets env mac success
  have run : ∀ state, oaTc6Init env state =
      (true, state.log [.acquire .mdiobus, .acquire .phy, .acquire .spiThread]) := by
    intro state
    apply init_done
    intro step among
    apply works step
    revert among
    cases step <;> decide
  have alloc := works .allocEtherdev (by decide)
  have zarfe := works .zeroAlignReceive (by decide)
  have gpios := works .getNodeidGpios (by decide)
  have low := works .setMacLow (by decide)
  have high := works .setMacHigh (by decide)
  have register := works .registerNetdev (by decide)
  have nodeid := works .setNodeid (by decide)
  have misc := works .miscRegister (by decide)
  simp [lan865xProbe, run, alloc, zarfe, gpios, low, high, register, nodeid, misc, configure_ret]
  split <;> simp [configureMac, firstMac, low, high]

theorem first_agree (env : ProbeEnv) (mac : MacState) (low : env.ret .setMacLow = 0)
    (high : env.ret .setMacHigh = 0) : Agree (firstMac env mac) := by
  apply (set_hw_macaddr_done _ _ _ _ _).2
  · simp [low]
  · simp [high]

theorem mac_of_node_same (mac : Mac) (nodeId : UInt32) (same : mac (Fin.last 5) = nodeId.toUInt8) :
    macOfNode mac nodeId = mac := by
  rw [macOfNode, ← same, Function.update_eq_self]

theorem hw_mac_last (cells : Nat → BitVec 32) :
    hwMac cells (Fin.last 5) = ⟨(cells regMacHSaddr1).extractLsb' 8 8⟩ := rfl

theorem second_agree (env : ProbeEnv) (mac : MacState) (agree : Agree (firstMac env mac))
    (harmless : SecondHarmless env) (kept : ¬ (env.deviceTreeMac ≠ none ∧ RestoreFails env.again)) :
    Agree (secondMac env (firstMac env mac)) := by
  cases tree : env.deviceTreeMac with
  | none =>
      simp only [secondMac, tree]
      exact agree
  | some address =>
      have restored : ¬ RestoreFails env.again := fun lost => kept ⟨by simp [tree], lost⟩
      simp only [secondMac, tree]
      by_cases works : env.again[0]?.getD 0 = 0 ∧ env.again[1]?.getD 0 = 0
      · exact (set_hw_macaddr_done _ _ _ works.1 works.2).2
      · have same : address (Fin.last 5) = env.nodeId.toUInt8 := by
          rcases harmless address tree with same | written | lost
          · exact same
          · exact absurd written works
          · exact absurd lost restored
        have unchanged := mac_of_node_same address env.nodeId same
        apply (set_hw_macaddr_undone _ _ _ (not_and_or.mp works) restored _).2
        rw [unchanged]
        simpa [Agree, firstMac, tree] using agree

theorem second_apart (env : ProbeEnv) (mac : MacState) (agree : Agree (firstMac env mac))
    (address : Mac) (tree : env.deviceTreeMac = some address)
    (differs : address (Fin.last 5) ≠ env.nodeId.toUInt8)
    (failed : env.again[0]?.getD 0 ≠ 0 ∨ env.again[1]?.getD 0 ≠ 0) :
    ¬ Agree (secondMac env (firstMac env mac)) := by
  intro still
  have holds : hwMac (firstMac env mac).cells = address := by
    simpa [Agree, firstMac, tree] using agree
  apply differs
  calc address (Fin.last 5)
      = hwMac (firstMac env mac).cells (Fin.last 5) := by rw [holds]
    _ = hwMac (secondMac env (firstMac env mac)).cells (Fin.last 5) := by
        simp only [secondMac, tree, hw_mac_last]
        rw [set_hw_macaddr_high_kept _ _ _ failed]
    _ = macOfNode address env.nodeId (Fin.last 5) := by
        rw [still]
        simp only [secondMac, tree]
    _ = env.nodeId.toUInt8 := by
        rw [macOfNode, Function.update_self]

/-- A write of the second configuration fails, and the new last byte is in the netdev
only. -/
theorem probe_disagrees (env : ProbeEnv) (mac : MacState) (calls : List SetMacCall)
    (success : (lan865xProbe env ⟨[], mac⟩).1 = 0) (harmful : ¬ SecondHarmless env) :
    ¬ ProbeAgrees env mac calls := by
  have works := success_rets env mac success
  have agree := first_agree env mac (works .setMacLow (by decide)) (works .setMacHigh (by decide))
  simp only [SecondHarmless, not_forall, not_or] at harmful
  obtain ⟨address, tree, differs, unwritten, kept⟩ := harmful
  rintro (⟨_, lost⟩ | still)
  · exact kept lost
  · rw [probe_mac env mac success] at still
    apply second_apart env mac agree address tree differs (not_and_or.mp unwritten)
    exact addresses_agree_start _ calls still

theorem probe_agrees_iff (env : ProbeEnv) (mac : MacState) (calls : List SetMacCall)
    (success : (lan865xProbe env ⟨[], mac⟩).1 = 0) :
    ProbeAgrees env mac calls ↔ SecondHarmless env := by
  have works := success_rets env mac success
  have agree := first_agree env mac (works .setMacLow (by decide)) (works .setMacHigh (by decide))
  constructor
  · intro holds
    by_contra harmful
    exact probe_disagrees env mac calls success harmful holds
  · intro harmless
    by_cases lost : env.deviceTreeMac ≠ none ∧ RestoreFails env.again
    · exact Or.inl lost
    · right
      rw [probe_mac env mac success]
      apply addresses_agree
      exact second_agree env mac agree harmless lost

/-- All writes succeed: a call that fails in its first write follows the probe. -/
theorem probe_agrees_sample :
    (lan865xProbe (sampleProbe none []) ⟨[], sampleMac⟩).1 = 0 ∧
      ProbeAgrees (sampleProbe none []) sampleMac [⟨fun _ => 6, 0, [-5]⟩] := by
  have success := (probe_success (sampleProbe none []) sampleMac rfl).1
  constructor
  · exact success
  · apply (probe_agrees_iff _ _ _ success).mpr
    intro address _
    exact Or.inr (Or.inl ⟨rfl, rfl⟩)

/-- The low bytes cannot be written a second time. -/
theorem probe_agrees_not :
    (lan865xProbe (sampleProbe none [-5]) ⟨[], sampleMac⟩).1 = 0 ∧
      ¬ ProbeAgrees (sampleProbe none [-5]) sampleMac [] := by
  have success := (probe_success (sampleProbe none [-5]) sampleMac rfl).1
  constructor
  · exact success
  · apply probe_disagrees _ _ _ success
    intro harmless
    exact absurd (harmless (fun _ => 2) rfl) (by decide)

end Lan865x.OaTc6
