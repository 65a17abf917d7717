import Lan865x.DeferredWork
import Lan865x.MulticastFilter

/-!
The multicast work: `lan865x_set_multicast_list` only schedules it, and the handler looks at the
flags and the list of the network device while the stack may be changing them.
-/

namespace Lan865x.OaTc6
open RegisterBus DeferredWork Transition

/-- What the handler looks at. `version` counts the changes of the list. -/
structure Listening where
  flags : BitVec 32
  addrs : List Mac
  version : Nat

inductive ListenChange where
  | flags (value : BitVec 32)
  | addrs (list : List Mac)

def ListenChange.apply : ListenChange → Listening → Listening
  | .flags value, listening => { listening with flags := value }
  | .addrs list, listening => { listening with addrs := list, version := listening.version + 1 }

/-- What the handler does next. `walking`: it goes through the list, of the version that it
began with. -/
inductive WorkPc where
  | promisc
  | allmulti
  | empty
  | walk
  | walking (version : Nat)
  | writeHi (words : HashWords) (regval : BitVec 32)
  | writeLo (words : HashWords) (regval : BitVec 32)
  | writeCfg (regval : BitVec 32)

/-- `seen`: what a walk finds on a list that changes under it. A write returns `ret`; one that
fails may have been executed. -/
structure WorkInput where
  seen : List Mac
  ret : Int
  executed : Bool
  succeeds : ret = 0 → executed = true

instance : Inhabited WorkInput := ⟨⟨[], 0, true, fun _ => rfl⟩⟩

def WorkInput.write (input : WorkInput) (address : Nat) (value : BitVec 32)
    (cells : Nat → BitVec 32) : Nat → BitVec 32 :=
  if input.executed = true then Function.update cells address value else cells

/-- `lan865x_multicast_work_handler`, one look or one write at a time. -/
def multicastStep (pc : WorkPc) (listening : Listening) (input : WorkInput)
    (cells : Nat → BitVec 32) : (WorkPc ⊕ Int) × (Nat → BitVec 32) :=
  match pc with
  | .promisc =>
      if listening.flags &&& iffPromisc ≠ 0#32 then
        (.inl (.writeCfg macNetCfgPromiscuousMode), cells)
      else (.inl .allmulti, cells)
  | .allmulti =>
      if listening.flags &&& iffAllmulti ≠ 0#32 then
        (.inl (.writeHi (registerMacMask, registerMacMask) macNetCfgMulticastMode), cells)
      else (.inl .empty, cells)
  | .empty =>
      if listening.addrs ≠ [] then (.inl .walk, cells)
      else (.inl (.writeHi (0#32, 0#32) 0#32), cells)
  | .walk => (.inl (.walking listening.version), cells)
  | .walking version =>
      let found := if listening.version = version then listening.addrs else input.seen
      (.inl (.writeHi (hashWords found) macNetCfgMulticastMode), cells)
  | .writeHi words regval =>
      (if input.ret ≠ 0 then .inr input.ret else .inl (.writeLo words regval),
        input.write regMacHHash words.1 cells)
  | .writeLo words regval =>
      (if input.ret ≠ 0 then .inr input.ret else .inl (.writeCfg regval),
        input.write regMacLHash words.2 cells)
  | .writeCfg regval => (.inr input.ret, input.write regMacNetCfg regval cells)

/-- Its steps, one rule for each branch. -/
inductive WorkMoves (listening : Listening) (input : WorkInput) (cells : Nat → BitVec 32) :
    WorkPc → (WorkPc ⊕ Int) × (Nat → BitVec 32) → Prop where
  | promisc (on : listening.flags &&& iffPromisc ≠ 0#32) :
      WorkMoves listening input cells .promisc (.inl (.writeCfg macNetCfgPromiscuousMode), cells)
  | unpromisc (off : listening.flags &&& iffPromisc = 0#32) :
      WorkMoves listening input cells .promisc (.inl .allmulti, cells)
  | allmulti (on : listening.flags &&& iffAllmulti ≠ 0#32) :
      WorkMoves listening input cells .allmulti
        (.inl (.writeHi (registerMacMask, registerMacMask) macNetCfgMulticastMode), cells)
  | unallmulti (off : listening.flags &&& iffAllmulti = 0#32) :
      WorkMoves listening input cells .allmulti (.inl .empty, cells)
  | listed (members : listening.addrs ≠ []) :
      WorkMoves listening input cells .empty (.inl .walk, cells)
  | unlisted (nobody : listening.addrs = []) :
      WorkMoves listening input cells .empty (.inl (.writeHi (0#32, 0#32) 0#32), cells)
  | walk : WorkMoves listening input cells .walk (.inl (.walking listening.version), cells)
  | walked (version : Nat) (same : listening.version = version) :
      WorkMoves listening input cells (.walking version)
        (.inl (.writeHi (hashWords listening.addrs) macNetCfgMulticastMode), cells)
  | walkedChanging (version : Nat) (changed : listening.version ≠ version) :
      WorkMoves listening input cells (.walking version)
        (.inl (.writeHi (hashWords input.seen) macNetCfgMulticastMode), cells)
  | high (words : HashWords) (regval : BitVec 32) (written : input.ret = 0) :
      WorkMoves listening input cells (.writeHi words regval)
        (.inl (.writeLo words regval), input.write regMacHHash words.1 cells)
  | highFails (words : HashWords) (regval : BitVec 32) (failed : input.ret ≠ 0) :
      WorkMoves listening input cells (.writeHi words regval)
        (.inr input.ret, input.write regMacHHash words.1 cells)
  | low (words : HashWords) (regval : BitVec 32) (written : input.ret = 0) :
      WorkMoves listening input cells (.writeLo words regval)
        (.inl (.writeCfg regval), input.write regMacLHash words.2 cells)
  | lowFails (words : HashWords) (regval : BitVec 32) (failed : input.ret ≠ 0) :
      WorkMoves listening input cells (.writeLo words regval)
        (.inr input.ret, input.write regMacLHash words.2 cells)
  | cfg (regval : BitVec 32) :
      WorkMoves listening input cells (.writeCfg regval)
        (.inr input.ret, input.write regMacNetCfg regval cells)

theorem work_moves (pc : WorkPc) (listening : Listening) (input : WorkInput)
    (cells : Nat → BitVec 32) :
    WorkMoves listening input cells pc (multicastStep pc listening input cells) := by
  cases pc with
  | promisc =>
      rw [multicastStep]
      split
      · exact .promisc ‹_›
      · exact .unpromisc (not_not.mp ‹_›)
  | allmulti =>
      rw [multicastStep]
      split
      · exact .allmulti ‹_›
      · exact .unallmulti (not_not.mp ‹_›)
  | empty =>
      rw [multicastStep]
      split
      · exact .listed ‹_›
      · exact .unlisted (not_not.mp ‹_›)
  | walk => exact .walk
  | walking version =>
      by_cases same : listening.version = version
      · simpa only [multicastStep, if_pos same] using .walked version same
      · simpa only [multicastStep, if_neg same] using .walkedChanging version same
  | writeHi words regval =>
      by_cases written : input.ret = 0
      · simpa only [multicastStep, if_neg (not_not.mpr written)] using .high words regval written
      · simpa only [multicastStep, if_pos written] using .highFails words regval written
  | writeLo words regval =>
      by_cases written : input.ret = 0
      · simpa only [multicastStep, if_neg (not_not.mpr written)] using .low words regval written
      · simpa only [multicastStep, if_pos written] using .lowFails words regval written
  | writeCfg regval => exact .cfg regval

def multicastWork : Worker Listening WorkPc WorkInput Int (Nat → BitVec 32) where
  first := .promisc
  step := multicastStep

abbrev MulticastSystem : Type := System Listening WorkPc Int (Nat → BitVec 32)
abbrev MulticastAct : Type := Act ListenChange WorkInput

def multicastMachine : Machine MulticastSystem MulticastAct :=
  deferring ListenChange.apply multicastWork

/-! Alone, with the outcomes of the storage, the steps make the handler. -/

/-- What the storage answers the next write. -/
def WorkInput.alone (storage : Storage) : WorkInput where
  seen := []
  ret := storage.outcome
  executed := decide (storage.outcome = 0)
  succeeds := decide_eq_true

def WorkPc.writes : WorkPc → Nat
  | .writeHi _ _ | .writeLo _ _ | .writeCfg _ => 1
  | _ => 0

def runAlone (listening : Listening) : Nat → WorkPc → Storage → Option Storage
  | 0, _, _ => none
  | fuel + 1, pc, storage =>
      let (next, cells) := multicastStep pc listening (.alone storage) storage.cells
      let storage := Storage.skip ⟨cells, storage.outcomes⟩ pc.writes
      match next with
      | .inl pc => runAlone listening fuel pc storage
      | .inr _ => some storage

theorem write_alone (storage : Storage) (address : Nat) (value : BitVec 32) :
    storageBus.write address value storage =
      (storage.outcome, Storage.skip
        ⟨(WorkInput.alone storage).write address value storage.cells, storage.outcomes⟩ 1) := by
  by_cases works : storage.outcome = 0 <;>
    simp [storage_write, WorkInput.write, WorkInput.alone, works, Storage.put, Storage.skip]

section Alone
variable (listening : Listening) (fuel : Nat) (storage : Storage)

theorem alone_look (pc next : WorkPc) (quiet : pc.writes = 0)
    (looks : ∀ input cells, multicastStep pc listening input cells = (.inl next, cells)) :
    runAlone listening (fuel + 1) pc storage = runAlone listening fuel next storage := by
  rw [runAlone, looks, quiet]
  rfl

theorem alone_cfg (regval : BitVec 32) :
    runAlone listening (fuel + 1) (.writeCfg regval) storage =
      some (storageBus.write regMacNetCfg regval storage).2 := by
  rw [write_alone]
  rfl

theorem alone_write (pc next : WorkPc) (address : Nat) (value : BitVec 32) (one : pc.writes = 1)
    (steps : ∀ input cells, multicastStep pc listening input cells =
      (if input.ret ≠ 0 then .inr input.ret else .inl next, input.write address value cells)) :
    runAlone listening (fuel + 1) pc storage =
      if (storageBus.write address value storage).1 ≠ 0 then
        some (storageBus.write address value storage).2
      else runAlone listening fuel next (storageBus.write address value storage).2 := by
  have ret : (WorkInput.alone storage).ret = (storageBus.write address value storage).1 := rfl
  rw [runAlone, steps, one, ret, write_alone]
  by_cases failed : storage.outcome ≠ 0
  · rw [if_pos failed, if_pos failed]
  · rw [if_neg failed, if_neg failed]

theorem alone_hash (words : HashWords) (regval : BitVec 32) :
    runAlone listening (fuel + 3) (.writeHi words regval) storage =
      some ((do
        if (← writeHash storageBus words.1 words.2) ≠ 0 then return
        let _ ← storageBus.write regMacNetCfg regval : StateM Storage Unit) storage).2 := by
  rw [alone_write listening (fuel + 2) storage (.writeHi words regval) (.writeLo words regval)
    regMacHHash words.1 rfl fun input cells => rfl]
  simp only [writeHash, bind_run, ite_run, pure_run]
  by_cases high : (storageBus.write regMacHHash words.1 storage).1 ≠ 0
  · simp only [if_pos high]
  · simp only [if_neg high]
    rw [alone_write listening (fuel + 1) _ (.writeLo words regval) (.writeCfg regval)
      regMacLHash words.2 rfl fun input cells => rfl, alone_cfg]
    split
    · rfl
    · rfl

theorem alone_handles :
    runAlone listening 8 .promisc storage =
      some (lan865xMulticastWorkHandler storageBus listening.flags listening.addrs storage).2 := by
  by_cases promisc : listening.flags &&& iffPromisc = 0#32
  · rw [alone_look listening 7 storage .promisc .allmulti rfl fun input cells => by
      simp [multicastStep, promisc]]
    by_cases allmulti : listening.flags &&& iffAllmulti = 0#32
    · rw [alone_look listening 6 storage .allmulti .empty rfl fun input cells => by
        simp [multicastStep, allmulti]]
      by_cases empty : listening.addrs = []
      · rw [alone_look listening 5 storage .empty (.writeHi (0#32, 0#32) 0#32) rfl
          fun input cells => by simp [multicastStep, empty], alone_hash]
        simp only [lan865xMulticastWorkHandler, promisc, allmulti, empty, ne_eq, not_true,
          if_false]
        rfl
      · rw [alone_look listening 5 storage .empty .walk rfl fun input cells => by
            simp [multicastStep, empty],
          alone_look listening 4 storage .walk (.walking listening.version) rfl
            fun input cells => rfl,
          alone_look listening 3 storage (.walking listening.version)
            (.writeHi (hashWords listening.addrs) macNetCfgMulticastMode) rfl
            fun input cells => by simp [multicastStep], alone_hash]
        simp only [lan865xMulticastWorkHandler, promisc, allmulti, empty, ne_eq, not_true,
          if_false, not_false_eq_true, if_true]
        rfl
    · rw [alone_look listening 6 storage .allmulti
        (.writeHi (registerMacMask, registerMacMask) macNetCfgMulticastMode) rfl
        fun input cells => by simp [multicastStep, allmulti], alone_hash]
      simp only [lan865xMulticastWorkHandler, promisc, allmulti, ne_eq, not_true, if_false,
        not_false_eq_true, if_true]
      rfl
  · rw [alone_look listening 7 storage .promisc (.writeCfg macNetCfgPromiscuousMode) rfl
      fun input cells => by simp [multicastStep, promisc], alone_cfg]
    simp only [lan865xMulticastWorkHandler, promisc, ne_eq, not_false_eq_true, if_true]
    rfl

end Alone

/-! What a run makes of the filter when nothing changes under it. -/

theorem filter_cells_again (flags : BitVec 32) (addrs : List Mac) (cells : Nat → BitVec 32) :
    filterCells flags addrs (filterCells flags addrs cells) = filterCells flags addrs cells := by
  funext address
  simp only [filterCells]
  split_ifs <;> simp only [Function.update_apply] <;> split_ifs <;> rfl

/-- The MAC takes what is sent to the address. -/
def Passes (cells : Nat → BitVec 32) (addr : Mac) : Prop :=
  promiscuous cells = true ∨ PassesHash cells addr

theorem filter_passes (flags : BitVec 32) (addrs : List Mac) (cells : Nat → BitVec 32) (addr : Mac)
    (listed : addr ∈ addrs) : Passes (filterCells flags addrs cells) addr := by
  by_cases promisc : flags &&& iffPromisc = 0#32
  · by_cases allmulti : flags &&& iffAllmulti = 0#32
    · obtain ⟨k, known⟩ := hashes_somewhere addr
      exact .inr ⟨(specific_mode addrs cells promisc allmulti).mpr (List.ne_nil_of_mem listed), k,
        known, (specific_filter addrs cells promisc allmulti k).mpr ⟨addr, listed, known⟩⟩
    · exact .inr (all_pass addrs cells promisc allmulti addr)
  · left
    rw [promiscuous, filter_mode, if_pos promisc]
    decide

/-- The registers that are written on the way to `regval`. -/
def putFilter (words : HashWords) (regval : BitVec 32) (cells : Nat → BitVec 32) :
    Nat → BitVec 32 :=
  Function.update (Function.update (Function.update cells regMacHHash words.1) regMacLHash words.2)
    regMacNetCfg regval

/-- What a run has found out, and written, of the flags and the list as they are. -/
def OnCourse (listening : Listening) (pc : WorkPc) (cells : Nat → BitVec 32) : Prop :=
  let filtered := filterCells listening.flags listening.addrs
  match pc with
  | .promisc => True
  | .allmulti => listening.flags &&& iffPromisc = 0#32
  | .empty =>
      listening.flags &&& iffPromisc = 0#32 ∧ listening.flags &&& iffAllmulti = 0#32
  | .walk => (listening.flags &&& iffPromisc = 0#32 ∧ listening.flags &&& iffAllmulti = 0#32) ∧
      listening.addrs ≠ []
  | .walking version =>
      ((listening.flags &&& iffPromisc = 0#32 ∧ listening.flags &&& iffAllmulti = 0#32) ∧
        listening.addrs ≠ []) ∧ listening.version = version
  | .writeHi words regval => filtered = putFilter words regval
  | .writeLo words regval => filtered = putFilter words regval ∧ cells regMacHHash = words.1
  | .writeCfg regval => filtered cells = Function.update cells regMacNetCfg regval

/-- The filter is as the handler would set it. -/
def Filtered (listening : Listening) (ret : Int) (cells : Nat → BitVec 32) : Prop :=
  ret = 0 → filterCells listening.flags listening.addrs cells = cells

theorem put_filter_high (words : HashWords) (regval : BitVec 32) (cells : Nat → BitVec 32)
    (high : cells regMacHHash = words.1) :
    putFilter words regval (Function.update cells regMacLHash words.2) =
      Function.update (Function.update cells regMacLHash words.2) regMacNetCfg regval := by
  have kept : Function.update cells regMacLHash words.2 regMacHHash = words.1 := by
    rw [Function.update_of_ne (by decide), high]
  rw [putFilter, ← kept, Function.update_eq_self, Function.update_idem]

theorem multicast_follows : Follows multicastWork OnCourse Filtered where
  first _ _ := trivial
  goesOn listening pc input cells pcAfter after course steps := by
    have moved := work_moves pc listening input cells
    rw [show multicastStep pc listening input cells = _ from steps] at moved
    cases moved with
    | promisc on => simp [OnCourse, filterCells, on]
    | unpromisc off => exact off
    | allmulti on =>
        have promisc : listening.flags &&& iffPromisc = 0#32 := course
        funext cells
        simp [filterCells, putFilter, promisc, on]
    | unallmulti off => exact ⟨course, off⟩
    | listed members => exact ⟨course, members⟩
    | unlisted nobody =>
        obtain ⟨promisc, allmulti⟩ : listening.flags &&& iffPromisc = 0#32 ∧
          listening.flags &&& iffAllmulti = 0#32 := course
        funext cells
        simp [filterCells, putFilter, promisc, allmulti, nobody]
    | walk => exact ⟨course, rfl⟩
    | walked version same =>
        obtain ⟨⟨⟨promisc, allmulti⟩, members⟩, _⟩ := course
        funext cells
        simp [filterCells, putFilter, promisc, allmulti, members]
    | walkedChanging version changed => exact absurd course.2 changed
    | high words regval written =>
        exact ⟨course, by rw [WorkInput.write, if_pos (input.succeeds written),
          Function.update_self]⟩
    | low words regval written =>
        obtain ⟨filtered, high⟩ := course
        rw [WorkInput.write, if_pos (input.succeeds written)]
        exact (congrFun filtered _).trans (put_filter_high words regval cells high)
  ends listening pc input cells result after course steps := by
    have moved := work_moves pc listening input cells
    rw [show multicastStep pc listening input cells = _ from steps] at moved
    intro success
    cases moved with
    | highFails words regval failed => exact absurd success failed
    | lowFails words regval failed => exact absurd success failed
    | cfg regval =>
        have filtered : filterCells listening.flags listening.addrs cells =
            Function.update cells regMacNetCfg regval := course
        rw [WorkInput.write, if_pos (input.succeeds success), ← filtered, filter_cells_again]

/-- How many steps a run still takes. -/
def WorkPc.rank : WorkPc → Nat
  | .promisc => 7
  | .allmulti => 6
  | .empty => 5
  | .walk => 4
  | .walking _ => 3
  | .writeHi _ _ => 2
  | .writeLo _ _ => 1
  | .writeCfg _ => 0

theorem work_shrinks (listening : Listening) (pc : WorkPc) (input : WorkInput)
    (cells : Nat → BitVec 32) (pcAfter : WorkPc) (after : Nat → BitVec 32)
    (steps : multicastWork.step pc listening input cells = (.inl pcAfter, after)) :
    pcAfter.rank < pc.rank := by
  have moved := work_moves pc listening input cells
  rw [show multicastStep pc listening input cells = _ from steps] at moved
  cases moved <;> simp [WorkPc.rank]

theorem work_steps_left (s : MulticastSystem) :
    stepsLeft WorkPc.rank multicastWork s ≤ 27 := by
  have here : (s.pc.elim 0 fun pc => pc.rank + 1) ≤ 8 := by
    rcases s.pc with _ | pc
    · simp
    · cases pc <;> simp [WorkPc.rank]
  have owed := Bool.toNat_le s.owed
  have pending := Bool.toNat_le s.pending
  have first : WorkPc.rank multicastWork.first = 7 := rfl
  simp only [stepsLeft, first]
  omega

/-- Whatever changes while the handler runs, and whichever writes fail: at rest behind a run that
succeeded the filter is the one of the flags and the list as they are. Once nothing changes any
more, it is 27 steps to rest at most. -/
theorem multicast_work_settles {s : MulticastSystem}
    (reached : Reaches multicastMachine anyStep s) :
    (AtRest s → s.last = some 0 →
      (lan865xMulticastWorkHandler storageBus s.source.flags s.source.addrs
        ⟨s.world, []⟩).2.cells = s.world ∧
      ∀ addr ∈ s.source.addrs, Passes s.world addr) ∧
    (∀ storage, runAlone s.source 8 .promisc storage =
      some (lan865xMulticastWorkHandler storageBus s.source.flags s.source.addrs storage).2) ∧
    ∀ acts after, multicastMachine.Allowed Settling s acts →
      multicastMachine.run s acts = some after →
        acts.length ≤ 27 ∧
          (AtRest after ∨
            ∃ act, Settling after act ∧ (multicastMachine.next after act).isSome) := by
  refine ⟨fun rest last => ?_, alone_handles s.source, fun acts after allowed ran => ⟨?_, ?_⟩⟩
  · have filtered := rest_done multicast_follows reached rest last rfl
    refine ⟨?_, fun addr listed => ?_⟩
    · rw [work_handler_stored]
      exact filtered
    · rw [← filtered]
      exact filter_passes _ _ s.world addr listed
  · have bounded := settling_bounded WorkPc.rank work_shrinks acts allowed ran
    have left := work_steps_left s
    omega
  · by_cases rest : AtRest after
    · exact .inl rest
    · obtain ⟨act, settling, later, moved⟩ :=
        settling_goes_on ListenChange.apply multicastWork rest
      exact .inr ⟨act, settling, Option.isSome_iff_exists.mpr ⟨later, moved⟩⟩

/-! An address that stays on the list is not lost on the way. -/

/-- The address stays on the list, and a walk over a list that changes under it meets it. -/
def Keeps (addr : Mac) (s : MulticastSystem) : MulticastAct → Prop
  | .change (.addrs list) => addr ∈ list
  | .change (.flags _) => True
  | .schedule => True
  | .start => True
  | .step input => ∀ version, s.pc = some (.walking version) → s.source.version ≠ version →
      addr ∈ input.seen

/-- The bit of the address in the two words. -/
def InWords (addr : Mac) (words : HashWords) : Prop :=
  (words.1 ++ words.2).getLsbD (lan865xHash addr).toNat = true

/-- What a run is about to write lets the address pass. -/
def Admits (addr : Mac) (pc : WorkPc) (cells : Nat → BitVec 32) : Prop :=
  match pc with
  | .writeHi words regval => regval = macNetCfgMulticastMode ∧ InWords addr words
  | .writeLo words regval =>
      (regval = macNetCfgMulticastMode ∧ InWords addr words) ∧ cells regMacHHash = words.1
  | .writeCfg regval => regval = macNetCfgPromiscuousMode ∨
      (regval = macNetCfgMulticastMode ∧ filterBit cells (lan865xHash addr).toNat = true)
  | _ => True

theorem passes_iff (cells : Nat → BitVec 32) (addr : Mac) :
    Passes cells addr ↔ promiscuous cells = true ∨
      (multicast cells = true ∧ filterBit cells (lan865xHash addr).toNat = true) := by
  simp only [Passes, PassesHash, hashes_to_iff, exists_eq_left']

theorem in_words_mem (addrs : List Mac) (addr : Mac) (listed : addr ∈ addrs) :
    InWords addr (hashWords addrs) :=
  (hash_words_bit addrs _).mpr ⟨addr, listed, (hashes_to_iff addr _).mpr rfl⟩

theorem in_words_all (addr : Mac) : InWords addr (registerMacMask, registerMacMask) := by
  have ones : registerMacMask ++ registerMacMask = BitVec.allOnes 64 := by decide
  rw [InWords, ones, BitVec.getLsbD_allOnes]
  exact decide_eq_true (hash_lt addr)

/-- A word with the bit of the address does not take it out of the filter. -/
theorem filter_bit_high (words : HashWords) (cells : Nat → BitVec 32) (k : Nat)
    (inWords : (words.1 ++ words.2).getLsbD k = true) (was : filterBit cells k = true) :
    filterBit (Function.update cells regMacHHash words.1) k = true := by
  rw [filterBit, Function.update_self, Function.update_of_ne (by decide)]
  rw [filterBit] at was
  rw [BitVec.getLsbD_append] at *
  by_cases low : k < 32
  · simpa [low] using was
  · simpa [low] using inWords

theorem filter_bit_low (words : HashWords) (cells : Nat → BitVec 32) (k : Nat)
    (inWords : (words.1 ++ words.2).getLsbD k = true)
    (high : cells regMacHHash = words.1) :
    filterBit (Function.update cells regMacLHash words.2) k = true := by
  rw [filterBit, Function.update_self, Function.update_of_ne (by decide), high]
  exact inWords

section Writes
variable {addr : Mac} {cells : Nat → BitVec 32} (input : WorkInput)

theorem passes_high (words : HashWords) (passes : Passes cells addr)
    (inWords : InWords addr words) : Passes (input.write regMacHHash words.1 cells) addr := by
  rw [WorkInput.write]
  split
  · rw [passes_iff, promiscuous, multicast, Function.update_of_ne (by decide)] at *
    exact passes.imp_right (And.imp_right (filter_bit_high words cells _ inWords))
  · exact passes

theorem passes_low (words : HashWords) (passes : Passes cells addr)
    (inWords : InWords addr words) (high : cells regMacHHash = words.1) :
    Passes (input.write regMacLHash words.2 cells) addr := by
  rw [WorkInput.write]
  split
  · rw [passes_iff, promiscuous, multicast, Function.update_of_ne (by decide)] at *
    exact passes.imp_right
      (And.imp_right fun _ => filter_bit_low words cells _ inWords high)
  · exact passes

theorem passes_cfg (regval : BitVec 32) (passes : Passes cells addr)
    (admits : Admits addr (.writeCfg regval) cells) :
    Passes (input.write regMacNetCfg regval cells) addr := by
  rw [WorkInput.write]
  split
  · rw [passes_iff, promiscuous, multicast, Function.update_self]
    rcases admits with rfl | ⟨rfl, bit⟩
    · exact .inl (by decide)
    · refine .inr ⟨by decide, ?_⟩
      rw [filterBit, Function.update_of_ne (by decide), Function.update_of_ne (by decide)]
      exact bit
  · exact passes

theorem work_admits {listening : Listening} {input : WorkInput} {pc : WorkPc}
    {outcome : (WorkPc ⊕ Int) × (Nat → BitVec 32)}
    (moved : WorkMoves listening input cells pc outcome) (listed : addr ∈ listening.addrs)
    (sees : ∀ version, pc = .walking version → listening.version ≠ version → addr ∈ input.seen)
    (passes : Passes cells addr) (admits : Admits addr pc cells) :
    Passes outcome.2 addr ∧ ∀ next, outcome.1 = .inl next → Admits addr next outcome.2 := by
  cases moved with
  | promisc on => exact ⟨passes, by rintro _ ⟨⟩; exact .inl rfl⟩
  | unpromisc off => exact ⟨passes, by rintro _ ⟨⟩; trivial⟩
  | allmulti on => exact ⟨passes, by rintro _ ⟨⟩; exact ⟨rfl, in_words_all addr⟩⟩
  | unallmulti off => exact ⟨passes, by rintro _ ⟨⟩; trivial⟩
  | listed members => exact ⟨passes, by rintro _ ⟨⟩; trivial⟩
  | unlisted nobody =>
      rw [nobody] at listed
      exact absurd listed List.not_mem_nil
  | walk => exact ⟨passes, by rintro _ ⟨⟩; trivial⟩
  | walked version same =>
      exact ⟨passes, by rintro _ ⟨⟩; exact ⟨rfl, in_words_mem _ addr listed⟩⟩
  | walkedChanging version changed =>
      exact ⟨passes, by rintro _ ⟨⟩; exact ⟨rfl, in_words_mem _ addr (sees version rfl changed)⟩⟩
  | high words regval written =>
      refine ⟨passes_high input words passes admits.2, ?_⟩
      rintro _ ⟨⟩
      exact ⟨admits, by simp [WorkInput.write, input.succeeds written]⟩
  | highFails words regval failed => exact ⟨passes_high input words passes admits.2, by simp⟩
  | low words regval written =>
      obtain ⟨⟨mode, inWords⟩, high⟩ := admits
      refine ⟨passes_low input words passes inWords high, ?_⟩
      rintro _ ⟨⟩
      refine .inr ⟨mode, ?_⟩
      rw [WorkInput.write, if_pos (input.succeeds written)]
      exact filter_bit_low words cells _ inWords high
  | lowFails words regval failed =>
      exact ⟨passes_low input words passes admits.1.2 admits.2, by simp⟩
  | cfg regval => exact ⟨passes_cfg input regval passes admits, by simp⟩

end Writes

structure Admitted (addr : Mac) (s : MulticastSystem) : Prop where
  listed : addr ∈ s.source.addrs
  passes : Passes s.world addr
  admits : ∀ pc, s.pc = some pc → Admits addr pc s.world

theorem admitted_step {addr : Mac} {s after : MulticastSystem} {act : MulticastAct}
    (admitted : Admitted addr s) (keeps : Keeps addr s act)
    (moved : s.Moves ListenChange.apply multicastWork act after) : Admitted addr after := by
  cases moved with
  | change change =>
      cases change with
      | flags value => exact ⟨admitted.listed, admitted.passes, admitted.admits⟩
      | addrs list => exact ⟨keeps, admitted.passes, admitted.admits⟩
  | schedule => exact ⟨admitted.listed, admitted.passes, admitted.admits⟩
  | start pending idle =>
      refine ⟨admitted.listed, admitted.passes, ?_⟩
      rintro _ ⟨⟩
      trivial
  | goesOn input pc pcAfter world here steps =>
      have moved := work_moves pc s.source input s.world
      rw [show multicastStep pc s.source input s.world = _ from steps] at moved
      obtain ⟨passes, admits⟩ := work_admits moved admitted.listed
        (fun version same => keeps version (same ▸ here)) admitted.passes (admitted.admits pc here)
      refine ⟨admitted.listed, passes, ?_⟩
      rintro _ ⟨⟩
      exact admits pcAfter rfl
  | ends input pc result world here steps =>
      have moved := work_moves pc s.source input s.world
      rw [show multicastStep pc s.source input s.world = _ from steps] at moved
      obtain ⟨passes, _⟩ := work_admits moved admitted.listed
        (fun version same => keeps version (same ▸ here)) admitted.passes (admitted.admits pc here)
      exact ⟨admitted.listed, passes, by simp⟩

theorem admitted_run {addr : Mac} {s after : MulticastSystem} (acts : List MulticastAct)
    (admitted : Admitted addr s) (keeps : multicastMachine.Allowed (Keeps addr) s acts)
    (ran : multicastMachine.run s acts = some after) : Admitted addr after := by
  induction acts generalizing s with
  | nil =>
      simp only [Machine.run, Option.some.injEq] at ran
      exact ran ▸ admitted
  | cons act rest ih =>
      obtain ⟨middle, moved, tail⟩ := Option.bind_eq_some_iff.mp ran
      exact ih (admitted_step admitted keeps.1 (moves moved)) (keeps.2 middle moved) tail

/-- An address that is on the list at rest, behind a run that succeeded, and stays on it passes in
every state from then on, however flags and list change, and whichever writes fail. -/
theorem kept_address_passes {addr : Mac} {s after : MulticastSystem}
    (reached : Reaches multicastMachine anyStep s) (rest : AtRest s) (last : s.last = some 0)
    (listed : addr ∈ s.source.addrs) (acts : List MulticastAct)
    (keeps : multicastMachine.Allowed (Keeps addr) s acts)
    (ran : multicastMachine.run s acts = some after) : Passes after.world addr := by
  have filtered := rest_done multicast_follows reached rest last rfl
  have passes : Passes s.world addr := by
    rw [← filtered]
    exact filter_passes _ _ s.world addr listed
  exact (admitted_run acts ⟨listed, passes, by simp [rest.2.2]⟩ keeps ran).passes

section Samples

/-- A group of which the network device becomes a member, and another one. -/
def sampleGroup : Mac := fun i => [0x01, 0x00, 0x5E, 0x00, 0x00, 0xFB].getD i 0
def otherGroup : Mac := fun i => [0x33, 0x33, 0x00, 0x00, 0x00, 0x01].getD i 0

def listeningStart : MulticastSystem where
  source := ⟨0#32, [], 0⟩
  owed := false
  pending := false
  pc := none
  last := none
  world := fun _ => 0#32

def meets (ret : Int) (executed : Bool) (succeeds : ret = 0 → executed = true) : MulticastAct :=
  .step ⟨[sampleGroup], ret, executed, succeeds⟩

def stepWritten : MulticastAct := meets 0 true fun _ => rfl
def stepLost : MulticastAct := meets (-5) false (by decide)

def joins : List MulticastAct :=
  [.change (.addrs [sampleGroup]), .schedule, .start] ++ List.replicate 8 stepWritten

def groupJoined : MulticastSystem := multicastMachine.after listeningStart joins

theorem group_joined : Reaches multicastMachine anyStep groupJoined :=
  have starts : multicastMachine.start listeningStart := ⟨rfl, rfl⟩
  reaches_after starts joins (allowed_any multicastMachine listeningStart joins)

theorem group_joined_rest : AtRest groupJoined :=
  ⟨by decide +kernel, by decide +kernel, Option.isNone_iff_eq_none.mp (by decide +kernel)⟩

theorem multicast_work_settles_sample :
    (AtRest groupJoined → groupJoined.last = some 0 →
      (lan865xMulticastWorkHandler storageBus groupJoined.source.flags groupJoined.source.addrs
        ⟨groupJoined.world, []⟩).2.cells = groupJoined.world ∧
      ∀ addr ∈ groupJoined.source.addrs, Passes groupJoined.world addr) ∧
    (∀ storage, runAlone groupJoined.source 8 .promisc storage =
      some (lan865xMulticastWorkHandler storageBus groupJoined.source.flags
        groupJoined.source.addrs storage).2) ∧
    ∀ acts after, multicastMachine.Allowed Settling groupJoined acts →
      multicastMachine.run groupJoined acts = some after →
        acts.length ≤ 27 ∧
          (AtRest after ∨
            ∃ act, Settling after act ∧ (multicastMachine.next after act).isSome) :=
  multicast_work_settles group_joined

/-- The other group is joined while the walk is under way, and then a write is lost. -/
def joinsOther : List MulticastAct :=
  [.schedule, .start] ++ List.replicate 4 stepWritten ++
    [.change (.addrs [otherGroup, sampleGroup]), stepWritten, stepWritten, stepLost]

def otherHalfJoined : MulticastSystem := multicastMachine.after groupJoined joinsOther

theorem meets_keeps (ret : Int) (executed : Bool) (succeeds : ret = 0 → executed = true)
    (s : MulticastSystem) : Keeps sampleGroup s (meets ret executed succeeds) :=
  fun _ _ _ => List.mem_cons_self

theorem joins_other_keeps :
    multicastMachine.Allowed (Keeps sampleGroup) groupJoined joinsOther := by
  refine allowed_every joinsOther (fun act inside s => ?_) groupJoined
  simp only [joinsOther, List.mem_append, List.mem_replicate, List.mem_cons, List.not_mem_nil,
    or_false] at inside
  rcases inside with ((rfl | rfl) | ⟨_, rfl⟩) | rfl | rfl | rfl | rfl
  · trivial
  · trivial
  · exact meets_keeps 0 true (fun _ => rfl) s
  · exact List.mem_cons_of_mem otherGroup List.mem_cons_self
  · exact meets_keeps 0 true (fun _ => rfl) s
  · exact meets_keeps 0 true (fun _ => rfl) s
  · exact meets_keeps (-5) false (by decide) s

theorem kept_address_passes_sample : Passes otherHalfJoined.world sampleGroup :=
  kept_address_passes group_joined group_joined_rest (by decide +kernel) (by decide +kernel)
    joinsOther joins_other_keeps (run_after (by decide +kernel))

end Samples

end Lan865x.OaTc6
