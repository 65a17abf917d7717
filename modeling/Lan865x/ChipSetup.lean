import Lan865x.LossyBus
import Lan865x.ControlPlane

/-!
Setting up the MAC-PHY: the software reset and its polling, the register table of
`init_lan865x` with the trim values read through the indirect registers, and the checked
accesses of `oa_tc6_init` and `lan865x_probe`. Most of the table is written without a look at
the result.
-/

namespace Lan865x.OaTc6
open RegisterBus RegisterProgram RegisterProgram.Prog LossyBus

def oaTc6RegStdcap : Nat := 0x0002
def stdcapDirectPhyRegAccess : BitVec 32 := 1#32 <<< 8
def oaTc6RegReset : Nat := 0x0003
def resetSwreset : BitVec 32 := 1#32
def oaTc6RegConfig0 : Nat := 0x0004
def config0Sync : BitVec 32 := 1#32 <<< 15
def config0ZarfeEnable : BitVec 32 := 1#32 <<< 12
def config0Ftse : BitVec 32 := 1#32 <<< 7
def config0Ftss : BitVec 32 := 1#32 <<< 6
def oaTc6RegStatus0 : Nat := 0x0008
def status0Resetc : BitVec 32 := 1#32 <<< 6
def oaTc6RegBufferStatus : Nat := 0x000B
def oaTc6RegIntMask0 : Nat := 0x000C

def regMms4Cdctl0 : Nat := 0x00040087
def mms4Cdctl0Cden : BitVec 32 := 1#32 <<< 15
def regMms4IndirRdAddr : Nat := 0x000400d8
def regMms4IndirRdVal : Nat := 0x000400d9
def regMms4IndirRdWidth : Nat := 0x000400da
def value1Addr : Nat := 0x04
def value2Addr : Nat := 0x08

def oaTc6ReadStatus0 : Prog (BitVec 32) := do
  let .ok regval ← readRegister oaTc6RegStatus0 | return 0
  return regval

/-- The value that the polling of STATUS0 ends with. `left` is how often the clock still shows
time left; behind the timeout STATUS0 is read once more. -/
def readxPollTimeout : Nat → Prog (BitVec 32)
  | 0 => do
      let regval ← oaTc6ReadStatus0
      if regval &&& status0Resetc ≠ 0 then return regval
      oaTc6ReadStatus0
  | left + 1 => do
      let regval ← oaTc6ReadStatus0
      if regval &&& status0Resetc ≠ 0 then return regval
      readxPollTimeout left

def oaTc6SwResetMacphy (left : Nat) : Prog Int := do
  let ret ← writeRegister oaTc6RegReset resetSwreset
  if ret ≠ 0 then return ret
  let regval ← readxPollTimeout left
  if regval &&& status0Resetc = 0 then return -enodev
  writeRegister oaTc6RegStatus0 regval

/-- Reads a register, sets bits of it, and writes it back. -/
def setBits (address : Nat) (bits : BitVec 32) : Prog Int := do
  match ← readRegister address with
  | .error ret => return ret
  | .ok regval => writeRegister address (regval ||| bits)

/-- The mask is written back as it is read. -/
def oaTc6UnmaskMacphyErrorInterrupts : Prog Int := setBits oaTc6RegIntMask0 0

def oaTc6EnableDataTransfer : Prog Int := setBits oaTc6RegConfig0 config0Sync

def oaTc6ZeroAlignReceiveFrameEnable : Prog Int := setBits oaTc6RegConfig0 config0ZarfeEnable

def oaTc6CheckPhyRegDirectAccessCapability : Prog Int := do
  match ← readRegister oaTc6RegStdcap with
  | .error ret => return ret
  | .ok regval => return if regval &&& stdcapDirectPhyRegAccess = 0 then -enodev else 0

def oaTc6UpdateBufferStatusFromRegister : Prog (Except Int (BitVec 32)) :=
  readRegister oaTc6RegBufferStatus

/-- What the language leaves open: the sign of `char`, and what the variable of each call of
`indirect_read` holds before it is set. -/
structure Unspecified where
  charSigned : Bool
  first : BitVec 32
  second : BitVec 32

/-- The register, or the variable as it was if the read fails. -/
def readKeeping (variable_ : BitVec 32) (address : Nat) : Prog (BitVec 32) := do
  let .ok regval ← readRegister address | return variable_
  return regval

def indirectRead (unset : BitVec 32) (addr : Nat) (mask : BitVec 8) : Prog (BitVec 8) := do
  let _ ← writeRegister regMms4IndirRdAddr (BitVec.ofNat 32 addr)
  let _ ← writeRegister regMms4IndirRdWidth 0x2
  let regval ← readKeeping unset regMms4IndirRdVal
  return regval.setWidth 8 &&& mask

def toChar (signed : Bool) (value : Int) : Int := if signed then value else value % 256

/-- A number of five bits. -/
def signedOffset (charSigned : Bool) (value : BitVec 8) : Int :=
  toChar charSigned (if value &&& 0x10 ≠ 0 then value.toNat - 0x20 else value.toNat)

/-- `(base + offset) & VALUE_OFFSET_MASK` -/
def offsetField (base offset : Int) : Nat := ((base + offset) % 64).toNat

def cfgparam1 (offset1 : Int) : BitVec 32 :=
  BitVec.ofNat 32 (offsetField 9 offset1 <<< 10 ||| offsetField 14 offset1 <<< 4 ||| 0x03)

def cfgparam2 (offset2 : Int) : BitVec 32 := BitVec.ofNat 32 (offsetField 40 offset2 <<< 10)

def macphyTable (offset1 offset2 : Int) : Table :=
  [(0x000400d0, 0x3F31), (0x000400e0, 0xC000), (0x00040084, cfgparam1 offset1),
    (0x0004008a, cfgparam2 offset2), (0x000400e9, 0x9E50), (0x000400f5, 0x1CF8),
    (0x000400f4, 0xC020), (0x000400f8, 0xB900), (0x000400f9, 0x4E53), (0x00040081, 0x0080),
    (0x00040091, 0x9660), (0x00040077, 0x0028), (0x00040043, 0x00FF), (0x00040044, 0xFFFF),
    (0x00040045, 0x0000), (0x00040053, 0x00FF), (0x00040054, 0xFFFF), (0x00040055, 0x0000),
    (0x00040040, 0x0002), (0x00040050, 0x0002)]

def setMacphyRegister (open_ : Unspecified) : Prog Unit := do
  let value1 ← indirectRead open_.first value1Addr 0x1F
  let value2 ← indirectRead open_.second value2Addr 0x1F
  writeAll (macphyTable (signedOffset open_.charSigned value1)
    (signedOffset open_.charSigned value2))

/-- PLCA, unicast and multicast, transmission and reception, and the timer increment. -/
def macTable : Table :=
  [(0x0004CA01, 0x00008000), (regMacNetCfg, 0x000000C0), (regMacNetCtl, 0x0000000C),
    (mms1MacTi, 0x28)]

def clearResetc (config0 : BitVec 32) : Prog Unit := do
  let status0 ← readKeeping config0 oaTc6RegStatus0
  let _ ← writeRegister oaTc6RegStatus0 (status0 &&& ~~~status0Resetc)

/-- One variable holds CDCTL0, then CONFIG0, then STATUS0: a read that fails leaves what was
in it. -/
def initConfig (cdctl0 : BitVec 32) : Prog Unit := do
  let regval ← readKeeping cdctl0 oaTc6RegConfig0
  let config0 := regval ||| config0Sync ||| config0Ftse ||| config0Ftss
  let _ ← writeRegister oaTc6RegConfig0 config0
  clearResetc config0

/-- What `init_lan865x` does behind its checked accesses. -/
def initUnchecked (open_ : Unspecified) (cdctl0 : BitVec 32) : Prog Unit := do
  setMacphyRegister open_
  writeAll macTable
  initConfig cdctl0

def initLan865x (open_ : Unspecified) : Prog Int := do
  let ret ← setBits oaTc6RegStatus0 status0Resetc
  if ret ≠ 0 then return ret
  match ← readRegister regMms4Cdctl0 with
  | .error ret => return ret
  | .ok regval =>
      let cdctl0 := regval ||| mms4Cdctl0Cden
      let ret ← writeRegister regMms4Cdctl0 cdctl0
      if ret ≠ 0 then return ret
      initUnchecked open_ cdctl0
      return 0

/-- The register accesses of `oa_tc6_init`, and the first of `lan865x_probe` behind it. `phy`
are those of the PHY library between them. -/
def bringUp (open_ : Unspecified) (left : Nat) (phy : Prog Int) : Prog Int := do
  let ret ← oaTc6SwResetMacphy left
  if ret ≠ 0 then return ret
  let ret ← oaTc6UnmaskMacphyErrorInterrupts
  if ret ≠ 0 then return ret
  let ret ← oaTc6CheckPhyRegDirectAccessCapability
  if ret ≠ 0 then return ret
  let ret ← phy
  if ret ≠ 0 then return ret
  let ret ← initLan865x open_
  if ret ≠ 0 then return ret
  let ret ← oaTc6EnableDataTransfer
  if ret ≠ 0 then return ret
  match ← oaTc6UpdateBufferStatusFromRegister with
  | .error ret => return ret
  | .ok _ => oaTc6ZeroAlignReceiveFrameEnable

/-! A register that shows what another one points to. -/

def indirectView (memory : BitVec 32 → BitVec 32) (cells : Cells) : Cells := fun address =>
  if address = regMms4IndirRdVal then memory (cells regMms4IndirRdAddr) else cells address

def indirectRegisters : List Nat := [regMms4IndirRdAddr, regMms4IndirRdWidth, regMms4IndirRdVal]

/-- No access to the indirect registers is lost. -/
def IndirectKept (lost : List Access) : Prop :=
  ∀ access ∈ lost, Access.address access ∉ indirectRegisters

section Programs
variable (memory : BitVec 32 → BitVec 32)

theorem view_other (cells : Cells) (address : Nat) (other : address ≠ regMms4IndirRdVal) :
    indirectView memory cells address = cells address := if_neg other

/-- A checked read-modify-write that returns 0 has set the bits, and lost nothing. -/
theorem set_bits_ensures {pre post : Chip → Prop} (address : Nat) (bits : BitVec 32)
    (other : address ≠ regMms4IndirRdVal)
    (sets : ∀ chip after, pre chip → after.lost = chip.lost →
      after.cells = Function.update chip.cells address (chip.cells address ||| bits) →
        post after) :
    Ensures (indirectView memory) pre (setBits address bits) post := by
  have reads : ∀ regval, Ensures (indirectView memory)
      (fun chip => ∃ before, pre before ∧ chip.cells = before.cells ∧ chip.lost = before.lost ∧
        before.cells address = regval) (writeRegister address (regval ||| bits)) post := by
    refine fun regval => Ensures.writes ?_
    rintro chip ⟨before, start, cells, lost, rfl⟩ made
    refine sets before _ start ((step_made made).trans lost) ?_
    rw [step_write_cells, if_pos made, cells]
  refine Ensures.reads (fun _ => rfl) (fun chip start made => ?_) reads
  exact ⟨chip, start, step_read_cells chip address, step_made made,
    (view_other memory _ _ other).symm⟩

theorem kept_outcome {chip : Chip} {access : Access}
    (owned : Access.address access ∈ indirectRegisters)
    (kept : IndirectKept (chip.step access).lost) : chip.outcome = 0 :=
  made_of_kept fun lost => kept _ lost owned

theorem kept_step {chip : Chip} {access : Access} (kept : IndirectKept (chip.step access).lost) :
    IndirectKept chip.lost :=
  fun access lost => kept access ((step_lost_extends _ _).subset lost)

/-- The pointer is where it was put, and the read shows what it points to. -/
theorem indirect_read_run (unset : BitVec 32) (addr : Nat) (mask value : BitVec 8)
    (chip after : Chip) (ran : (indirectRead unset addr mask).run
      (lossyBus (indirectView memory)) chip = (value, after)) (kept : IndirectKept after.lost) :
    value = (memory (BitVec.ofNat 32 addr)).setWidth 8 &&& mask := by
  let pointed := chip.step (.write regMms4IndirRdAddr (BitVec.ofNat 32 addr))
  let ready := pointed.step (.write regMms4IndirRdWidth 0x2)
  have ends : after = ready.step (.read regMms4IndirRdVal) := by
    refine (congrArg Prod.snd ran).symm.trans ?_
    simp only [indirectRead, readKeeping, run_bind, bind_run, run_write, run_read, lossy_write,
      lossy_read]
    split <;> rfl
  rw [ends] at kept
  have reads : ready.outcome = 0 :=
    kept_outcome (by simp [indirectRegisters, Access.address]) kept
  have points : chip.outcome = 0 :=
    kept_outcome (by simp [indirectRegisters, Access.address]) (kept_step (kept_step kept))
  have pointer : ready.cells regMms4IndirRdAddr = BitVec.ofNat 32 addr := by
    have apart : regMms4IndirRdAddr ≠ regMms4IndirRdWidth := by decide
    simp only [ready, pointed, step_write_cells, points, if_true]
    split <;> simp [Function.update_of_ne apart]
  have shown : indirectView memory ready.cells regMms4IndirRdVal =
      memory (BitVec.ofNat 32 addr) := by
    rw [indirectView, if_pos rfl, pointer]
  refine (congrArg Prod.fst ran).symm.trans ?_
  simp only [indirectRead, readKeeping, run_bind, bind_run, run_write, run_read, lossy_write,
    lossy_read]
  rw [if_pos reads, shown]
  rfl

theorem indirect_read_within (unset : BitVec 32) (addr : Nat) (mask : BitVec 8) :
    (indirectRead unset addr mask).Within (· ∈ indirectRegisters) := by
  refine within_bind (within_write _ (by simp [indirectRegisters])) fun _ =>
    within_bind (within_write _ (by simp [indirectRegisters])) fun _ =>
      within_bind ?_ fun _ => trivial
  refine within_bind (within_read (by simp [indirectRegisters])) fun answer => ?_
  cases answer <;> trivial

theorem read_keeping_run (variable_ : BitVec 32) (address : Nat) (chip : Chip) :
    ((readKeeping variable_ address).run (lossyBus (indirectView memory)) chip).2 =
      chip.step (.read address) := by
  simp only [readKeeping, run_bind, bind_run, run_read, lossy_read]
  split <;> rfl

theorem read_keeping_within {own : Nat → Prop} (variable_ : BitVec 32) {address : Nat}
    (owned : own address) : (readKeeping variable_ address).Within own := by
  refine within_bind (within_read owned) fun answer => ?_
  cases answer <;> trivial

/-- The signed number in the low five bits of an entry of the trim memory. -/
def trim (addr : Nat) : Int := ((memory (BitVec.ofNat 32 addr)).setWidth 5).toInt

theorem low_five_bits (word : BitVec 32) :
    word.setWidth 8 &&& 0x1F = (word.setWidth 5).setWidth 8 := by
  ext i inside
  simp only [BitVec.getElem_and, BitVec.getElem_setWidth, BitVec.getLsbD_setWidth]
  have mask : ∀ i : Nat, (inside : i < 8) → (0x1F : BitVec 8)[i] = decide (i < 5) := by decide
  rw [mask i inside, Bool.and_comm]

theorem signed_offset_five (value : BitVec 5) :
    signedOffset true (value.setWidth 8) = value.toInt := by
  revert value
  decide

/-- Whether `char` is signed makes no difference under the mask. -/
theorem offset_field_char (charSigned : Bool) (base : Int) (value : BitVec 8) :
    offsetField base (signedOffset charSigned value) =
      offsetField base (signedOffset true value) := by
  cases charSigned with
  | true => rfl
  | false =>
      simp only [offsetField, signedOffset, toChar, Bool.false_eq_true, if_false, if_true]
      omega

theorem macphy_table_trims (charSigned : Bool) (word1 word2 : BitVec 32) :
    macphyTable (signedOffset charSigned (word1.setWidth 8 &&& 0x1F))
        (signedOffset charSigned (word2.setWidth 8 &&& 0x1F)) =
      macphyTable (word1.setWidth 5).toInt (word2.setWidth 5).toInt := by
  simp only [macphyTable, cfgparam1, cfgparam2, offset_field_char, low_five_bits,
    signed_offset_five]

theorem macphy_distinct (offset1 offset2 : Int) :
    ((macphyTable offset1 offset2).map Prod.fst).Nodup := by
  simp only [macphyTable, List.map]
  decide

theorem kept_run {α : Type} {prog : Prog α} {chip after : Chip}
    (ran : (prog.run (lossyBus (indirectView memory)) chip).2 = after)
    (kept : IndirectKept after.lost) : IndirectKept chip.lost :=
  fun access lost => kept access (ran ▸ (run_lost_extends prog chip).subset lost)

/-- What of the table is not lost is set, the trims with it if the indirect reads are not. -/
theorem set_macphy_table (open_ : Unspecified) (chip after : Chip)
    (ran : ((setMacphyRegister open_).run (lossyBus (indirectView memory)) chip).2 = after) :
    ∃ offset1 offset2,
      (IndirectKept after.lost → macphyTable offset1 offset2 =
        macphyTable (trim memory value1Addr) (trim memory value2Addr)) ∧
      ∀ entry ∈ macphyTable offset1 offset2, .write entry.1 entry.2 ∉ after.lost →
        after.cells entry.1 = entry.2 := by
  obtain ⟨value1, chip1, read1⟩ : ∃ value1 chip1, (indirectRead open_.first value1Addr 0x1F).run
      (lossyBus (indirectView memory)) chip = (value1, chip1) := ⟨_, _, rfl⟩
  obtain ⟨value2, chip2, read2⟩ : ∃ value2 chip2, (indirectRead open_.second value2Addr 0x1F).run
      (lossyBus (indirectView memory)) chip1 = (value2, chip2) := ⟨_, _, rfl⟩
  simp only [setMacphyRegister, run_bind, bind_run, read1, read2] at ran
  subst after
  refine ⟨signedOffset open_.charSigned value1, signedOffset open_.charSigned value2, ?_, ?_⟩
  · intro kept
    have second : IndirectKept chip2.lost := kept_run memory rfl kept
    have first : IndirectKept chip1.lost := kept_run memory (congrArg Prod.snd read2) second
    rw [indirect_read_run memory _ _ _ _ _ _ read1 first,
      indirect_read_run memory _ _ _ _ _ _ read2 second]
    exact macphy_table_trims _ _ _
  · intro entry member kept
    exact write_all_settles _ (macphy_distinct _ _) entry member _ kept

def macphyAddresses : List Nat := (macphyTable 0 0).map Prod.fst

def macAddresses : List Nat := macTable.map Prod.fst

theorem macphy_address {offset1 offset2 : Int} {entry : Nat × BitVec 32}
    (member : entry ∈ macphyTable offset1 offset2) : entry.1 ∈ macphyAddresses := by
  have same : (macphyTable offset1 offset2).map Prod.fst = macphyAddresses := rfl
  exact same ▸ List.mem_map_of_mem member

theorem set_macphy_within (open_ : Unspecified) :
    (setMacphyRegister open_).Within (· ∈ indirectRegisters ++ macphyAddresses) := by
  have indirect : ∀ unset addr mask, (indirectRead unset addr mask).Within
      (· ∈ indirectRegisters ++ macphyAddresses) := fun unset addr mask =>
    (indirect_read_within unset addr mask).wider fun _ => List.mem_append_left _
  exact within_bind (indirect _ _ _) fun _ => within_bind (indirect _ _ _) fun _ =>
    write_all_within _ fun _ member => List.mem_append_right _ (macphy_address member)

theorem clear_resetc_within (config0 : BitVec 32) :
    (clearResetc config0).Within (· = oaTc6RegStatus0) :=
  within_bind (read_keeping_within _ rfl) fun _ => within_bind (within_write _ rfl) fun _ => trivial

theorem init_config_within (cdctl0 : BitVec 32) :
    (initConfig cdctl0).Within (· ∈ [oaTc6RegConfig0, oaTc6RegStatus0]) :=
  within_bind (read_keeping_within _ (by simp)) fun _ => within_bind (within_write _ (by simp))
    fun _ => (clear_resetc_within _).wider fun _ same => by simp [same]

/-- The bits that `init_lan865x` sets are set exactly if its write of CONFIG0 is not lost, or
they were before. -/
theorem init_config_stamps (cdctl0 : BitVec 32) (chip after : Chip) (bit : Nat)
    (stamps : bit = 6 ∨ bit = 7) (intact : Intact oaTc6RegConfig0 chip.lost)
    (ran : ((initConfig cdctl0).run (lossyBus (indirectView memory)) chip).2 = after) :
    (after.cells oaTc6RegConfig0).getLsbD bit = true ↔
      (chip.cells oaTc6RegConfig0).getLsbD bit = true ∨ Intact oaTc6RegConfig0 after.lost := by
  obtain ⟨regval, reads⟩ : ∃ regval, (readKeeping cdctl0 oaTc6RegConfig0).run
      (lossyBus (indirectView memory)) chip = (regval, chip.step (.read oaTc6RegConfig0)) :=
    ⟨_, Prod.ext rfl (read_keeping_run memory _ _ _)⟩
  obtain ⟨config0, made⟩ : ∃ config0, regval ||| config0Sync ||| config0Ftse ||| config0Ftss =
      config0 := ⟨_, rfl⟩
  simp only [initConfig, run_bind, bind_run, reads, made, run_write, lossy_write] at ran
  -- Behind the write CONFIG0 is left alone.
  obtain ⟨cells, lost⟩ := run_apart (indirectView memory) (clear_resetc_within config0)
    ((chip.step (.read oaTc6RegConfig0)).step (.write oaTc6RegConfig0 config0))
    oaTc6RegConfig0 (by decide)
  rw [← ran, cells, lost, step_write_cells, step_lost, step_read_cells]
  have still : Intact oaTc6RegConfig0 (chip.step (.read oaTc6RegConfig0)).lost := by
    intro other lost
    rw [step_lost] at lost
    split at lost
    · exact intact other lost
    · simpa using (List.mem_append.mp lost).resolve_left (intact other)
  by_cases written : (chip.step (.read oaTc6RegConfig0)).outcome = 0
  · have set : config0.getLsbD bit = true := by
      rw [← made]
      rcases stamps with rfl | rfl <;> simp [config0Sync, config0Ftse, config0Ftss]
    simp [written, set, still]
  · have gone : ¬ Intact oaTc6RegConfig0 ((chip.step (.read oaTc6RegConfig0)).lost ++
        [.write oaTc6RegConfig0 config0]) :=
      fun intact => intact config0 (List.mem_append_right _ (List.mem_singleton.mpr rfl))
    simp [written, gone]

/-- The chip behind a successful `init_lan865x`, if `config0` was in CONFIG0 before. -/
structure SetUp (config0 : BitVec 32) (chip : Chip) : Prop where
  stamps : ∀ bit, bit = 6 ∨ bit = 7 → ((chip.cells oaTc6RegConfig0).getLsbD bit = true ↔
    config0.getLsbD bit = true ∨ Intact oaTc6RegConfig0 chip.lost)
  collision : (chip.cells regMms4Cdctl0).getLsbD 15 = true
  mac : ∀ entry ∈ macTable, .write entry.1 entry.2 ∉ chip.lost → chip.cells entry.1 = entry.2
  macphy : ∃ offset1 offset2,
    (IndirectKept chip.lost → macphyTable offset1 offset2 =
      macphyTable (trim memory value1Addr) (trim memory value2Addr)) ∧
    ∀ entry ∈ macphyTable offset1 offset2, .write entry.1 entry.2 ∉ chip.lost →
      chip.cells entry.1 = entry.2

theorem init_unchecked_sets_up (open_ : Unspecified) (cdctl0 : BitVec 32) (chip : Chip)
    (intact : Intact oaTc6RegConfig0 chip.lost)
    (collision : (chip.cells regMms4Cdctl0).getLsbD 15 = true) :
    SetUp memory (chip.cells oaTc6RegConfig0)
      ((initUnchecked open_ cdctl0).run (lossyBus (indirectView memory)) chip).2 := by
  obtain ⟨first, ran1⟩ : ∃ first, ((setMacphyRegister open_).run
      (lossyBus (indirectView memory)) chip).2 = first := ⟨_, rfl⟩
  obtain ⟨second, ran2⟩ : ∃ second, ((writeAll macTable).run
      (lossyBus (indirectView memory)) first).2 = second := ⟨_, rfl⟩
  obtain ⟨last, ran3⟩ : ∃ last, ((initConfig cdctl0).run
      (lossyBus (indirectView memory)) second).2 = last := ⟨_, rfl⟩
  have macWithin : (writeAll macTable).Within (· ∈ macAddresses) :=
    write_all_within _ fun _ => List.mem_map_of_mem
  -- What each part does to a register that is not its own.
  have apart1 : ∀ address ∉ indirectRegisters ++ macphyAddresses,
      first.cells address = chip.cells address ∧
        (Intact address first.lost ↔ Intact address chip.lost) := fun address foreign =>
    ran1 ▸ run_apart _ (set_macphy_within open_) chip address foreign
  have apart2 : ∀ address ∉ macAddresses, second.cells address = first.cells address ∧
      (Intact address second.lost ↔ Intact address first.lost) := fun address foreign =>
    ran2 ▸ run_apart _ macWithin first address foreign
  have apart3 : ∀ address ∉ [oaTc6RegConfig0, oaTc6RegStatus0],
      last.cells address = second.cells address := fun address foreign =>
    ran3 ▸ (run_apart _ (init_config_within cdctl0) second address foreign).1
  have lost2 : first.lost <+: second.lost := ran2 ▸ run_lost_extends _ _
  have lost3 : second.lost <+: last.lost := ran3 ▸ run_lost_extends _ _
  have ends : ((initUnchecked open_ cdctl0).run (lossyBus (indirectView memory)) chip).2 =
      last := by
    simp only [initUnchecked, run_bind, bind_run, ran1, ran2, ran3]
  rw [ends]
  constructor
  · intro bit stamps
    obtain ⟨cells1, same1⟩ := apart1 oaTc6RegConfig0 (by decide)
    obtain ⟨cells2, same2⟩ := apart2 oaTc6RegConfig0 (by decide)
    rw [← cells1, ← cells2]
    exact init_config_stamps memory cdctl0 second last bit stamps
      (same2.mpr (same1.mpr intact)) ran3
  · rw [apart3 _ (by decide), (apart2 _ (by decide)).1, (apart1 _ (by decide)).1]
    exact collision
  · intro entry member kept
    have foreign : ∀ address ∈ macAddresses, address ∉ [oaTc6RegConfig0, oaTc6RegStatus0] := by
      decide
    rw [apart3 _ (foreign _ (List.mem_map_of_mem member)), ← ran2]
    refine write_all_settles macTable (by decide) entry member first fun lost => kept ?_
    exact lost3.subset (ran2 ▸ lost)
  · obtain ⟨offset1, offset2, trims, settles⟩ := set_macphy_table memory open_ chip first ran1
    have more := (lost2.trans lost3).subset
    refine ⟨offset1, offset2, fun kept => trims fun access lost => kept access (more lost), ?_⟩
    intro entry member kept
    have foreign : ∀ address ∈ macphyAddresses, address ∉ macAddresses ∧
        address ∉ [oaTc6RegConfig0, oaTc6RegStatus0] := by decide
    obtain ⟨mac, config⟩ := foreign _ (macphy_address member)
    rw [apart3 _ config, (apart2 _ mac).1]
    exact settles entry member fun lost => kept (more lost)

/-! The checked accesses. -/

/-- CONFIG0 is as it was, and no write of it is lost. -/
structure Unconfigured (config0 : BitVec 32) (chip : Chip) : Prop where
  cells : chip.cells oaTc6RegConfig0 = config0
  intact : Intact oaTc6RegConfig0 chip.lost

theorem ensures_apart {own : Nat → Prop} {prog : Prog Int} (config0 : BitVec 32)
    (within : prog.Within own) (foreign : ¬ own oaTc6RegConfig0) :
    Ensures (indirectView memory) (Unconfigured config0) prog (Unconfigured config0) := by
  intro chip start _
  obtain ⟨cells, lost⟩ := run_apart (indirectView memory) within chip oaTc6RegConfig0 foreign
  exact ⟨cells.trans start.cells, lost.mpr start.intact⟩

theorem set_bits_within (address : Nat) (bits : BitVec 32) :
    (setBits address bits).Within (· = address) := by
  refine within_bind (within_read rfl) fun answer => ?_
  cases answer with
  | error ret => trivial
  | ok regval => exact within_write _ rfl

theorem init_lan865x_ensures (open_ : Unspecified) (config0 : BitVec 32) :
    Ensures (indirectView memory) (Unconfigured config0) (initLan865x open_)
      (SetUp memory config0) := by
  let collides : Chip → Prop := fun chip => (chip.cells regMms4Cdctl0).getLsbD 15 = true
  have write_ : ∀ cdctl0 : BitVec 32, cdctl0.getLsbD 15 = true →
      Ensures (indirectView memory) (Unconfigured config0) (writeRegister regMms4Cdctl0 cdctl0)
        fun chip => Unconfigured config0 chip ∧ collides chip := by
    refine fun cdctl0 set => Ensures.writes fun chip start made => ?_
    have cells : (chip.step (.write regMms4Cdctl0 cdctl0)).cells =
        Function.update chip.cells regMms4Cdctl0 cdctl0 := by rw [step_write_cells, if_pos made]
    refine ⟨⟨?_, (step_made made).symm ▸ start.intact⟩, ?_⟩
    · rw [cells, Function.update_of_ne (by decide), start.cells]
    · simpa only [collides, cells, Function.update_self] using set
  have rest : ∀ cdctl0, Ensures (indirectView memory)
      (fun chip => Unconfigured config0 chip ∧ collides chip)
      (initUnchecked open_ cdctl0 >>= fun _ => pure 0) (SetUp memory config0) := by
    refine fun cdctl0 => Ensures.unchecked ?_
    rintro chip ⟨start, collision⟩
    rw [← start.cells]
    exact init_unchecked_sets_up memory open_ cdctl0 chip start.intact collision
  have goes : ∀ regval, Ensures (indirectView memory) (Unconfigured config0)
      (writeRegister regMms4Cdctl0 (regval ||| mms4Cdctl0Cden) >>= fun ret =>
        if ret ≠ 0 then pure ret else
          initUnchecked open_ (regval ||| mms4Cdctl0Cden) >>= fun _ => pure 0)
      (SetUp memory config0) := fun regval =>
    (write_ _ (by simp [mms4Cdctl0Cden])).checked (rest _)
  refine (ensures_apart memory config0 (set_bits_within _ _) (by decide)).checked ?_
  refine Ensures.reads (fun _ => rfl) (fun chip start made => ?_) goes
  exact ⟨(congrFun (step_read_cells chip _) _).trans start.cells,
    (step_made made).symm ▸ start.intact⟩

theorem SetUp.same {config0 : BitVec 32} {chip after : Chip}
    (setUp : SetUp memory config0 chip) (cells : after.cells = chip.cells)
    (lost : after.lost = chip.lost) : SetUp memory config0 after :=
  ⟨by rw [cells, lost]; exact setUp.stamps, by rw [cells]; exact setUp.collision,
    by rw [cells, lost]; exact setUp.mac, by rw [cells, lost]; exact setUp.macphy⟩

/-- Setting another bit of CONFIG0 keeps the setup. -/
theorem set_up_bits (config0 bits : BitVec 32) (chip after : Chip)
    (setUp : SetUp memory config0 chip) (lost : after.lost = chip.lost)
    (cells : after.cells = Function.update chip.cells oaTc6RegConfig0
      (chip.cells oaTc6RegConfig0 ||| bits))
    (apart : ∀ bit, bit = 6 ∨ bit = 7 → bits.getLsbD bit = false) :
    SetUp memory config0 after := by
  have mac : ∀ address ∈ macAddresses, address ≠ oaTc6RegConfig0 := by decide
  have macphy : ∀ address ∈ macphyAddresses, address ≠ oaTc6RegConfig0 := by decide
  constructor
  · intro bit stamps
    rw [lost, cells, Function.update_self, BitVec.getLsbD_or, apart bit stamps, Bool.or_false]
    exact setUp.stamps bit stamps
  · rw [cells, Function.update_of_ne (by decide)]
    exact setUp.collision
  · intro entry member kept
    rw [cells, Function.update_of_ne (mac _ (List.mem_map_of_mem member))]
    exact setUp.mac entry member (lost ▸ kept)
  · obtain ⟨offset1, offset2, trims, settles⟩ := setUp.macphy
    refine ⟨offset1, offset2, lost ▸ trims, fun entry member kept => ?_⟩
    rw [cells, Function.update_of_ne (macphy _ (macphy_address member))]
    exact settles entry member (lost ▸ kept)

/-- The chip behind a successful bring-up. -/
structure BroughtUp (config0 : BitVec 32) (chip : Chip) : Prop extends
    SetUp memory config0 chip where
  sync : (chip.cells oaTc6RegConfig0).getLsbD 15 = true
  zeroAlign : (chip.cells oaTc6RegConfig0).getLsbD 12 = true

theorem enable_data_transfer_ensures (config0 : BitVec 32) :
    Ensures (indirectView memory) (SetUp memory config0) oaTc6EnableDataTransfer
      fun chip => SetUp memory config0 chip ∧
        (chip.cells oaTc6RegConfig0).getLsbD 15 = true := by
  refine set_bits_ensures memory _ _ (by decide) fun chip after setUp lost cells => ⟨?_, ?_⟩
  · exact set_up_bits memory config0 _ chip after setUp lost cells (by rintro _ (rfl | rfl) <;> rfl)
  · rw [cells, Function.update_self]
    simp [config0Sync]

theorem zero_align_ensures (config0 : BitVec 32) :
    Ensures (indirectView memory) (fun chip => SetUp memory config0 chip ∧
        (chip.cells oaTc6RegConfig0).getLsbD 15 = true) oaTc6ZeroAlignReceiveFrameEnable
      (BroughtUp memory config0) := by
  refine set_bits_ensures memory _ _ (by decide) fun chip after start lost cells =>
    ⟨set_up_bits memory config0 _ chip after start.1 lost cells
      (by rintro _ (rfl | rfl) <;> rfl), ?_, ?_⟩
  · rw [cells, Function.update_self, BitVec.getLsbD_or, start.2, Bool.true_or]
  · rw [cells, Function.update_self]
    simp [config0ZarfeEnable]

theorem read_status0_within : oaTc6ReadStatus0.Within (· = oaTc6RegStatus0) := by
  refine within_bind (within_read rfl) fun answer => ?_
  cases answer <;> trivial

theorem poll_within (left : Nat) : (readxPollTimeout left).Within (· = oaTc6RegStatus0) := by
  induction left with
  | zero =>
      exact within_bind read_status0_within fun _ => within_ite trivial read_status0_within
  | succ left ih => exact within_bind read_status0_within fun _ => within_ite trivial ih

theorem sw_reset_within (left : Nat) :
    (oaTc6SwResetMacphy left).Within (· ∈ [oaTc6RegReset, oaTc6RegStatus0]) :=
  within_bind (within_write _ (by simp)) fun _ => within_ite trivial
    (within_bind ((poll_within left).wider fun _ same => by simp [same]) fun _ =>
      within_ite trivial (within_write _ (by simp)))

theorem capability_within :
    oaTc6CheckPhyRegDirectAccessCapability.Within (· = oaTc6RegStdcap) := by
  refine within_bind (within_read rfl) fun answer => ?_
  cases answer <;> trivial

/-- What a successful bring-up guarantees, whatever accesses are lost on the way: SYNC and
zero-aligned frames, and whatever its own write did not lose. Frame timestamps are on exactly
if the one unchecked write of CONFIG0 is not lost, or they were on before. -/
theorem bring_up_guarantees (open_ : Unspecified) (left : Nat) (phy : Prog Int)
    (own : phy.Within Component.phy.owns) (chip : Chip) (fresh : chip.lost = [])
    (done : ((bringUp open_ left phy).run (lossyBus (indirectView memory)) chip).1 = 0) :
    BroughtUp memory (chip.cells oaTc6RegConfig0)
      ((bringUp open_ left phy).run (lossyBus (indirectView memory)) chip).2 := by
  have phyApart : ¬ Component.phy.owns oaTc6RegConfig0 := by
    simp [Component.owns, oaTc6RegConfig0]
  have ends : Ensures (indirectView memory) (fun chip' => SetUp memory
      (chip.cells oaTc6RegConfig0) chip' ∧ (chip'.cells oaTc6RegConfig0).getLsbD 15 = true)
      (oaTc6UpdateBufferStatusFromRegister >>= fun answer => match answer with
        | .error ret => pure ret
        | .ok _ => oaTc6ZeroAlignReceiveFrameEnable)
      (BroughtUp memory (chip.cells oaTc6RegConfig0)) := by
    refine Ensures.reads (fun _ => rfl) (fun before start made => ?_)
      fun _ => zero_align_ensures memory _
    have cells := step_read_cells before oaTc6RegBufferStatus
    exact ⟨start.1.same memory cells (step_made made), cells ▸ start.2⟩
  have all : Ensures (indirectView memory) (Unconfigured (chip.cells oaTc6RegConfig0))
      (bringUp open_ left phy) (BroughtUp memory (chip.cells oaTc6RegConfig0)) :=
    (ensures_apart memory _ (sw_reset_within left) (by decide)).checked
      ((ensures_apart memory _ (set_bits_within _ _) (by decide)).checked
        ((ensures_apart memory _ capability_within (by decide)).checked
          ((ensures_apart memory _ own phyApart).checked
            ((init_lan865x_ensures memory open_ _).checked
              ((enable_data_transfer_ensures memory _).checked ends)))))
  exact all chip ⟨rfl, by simp [Intact, fresh]⟩ done
end Programs

/-! The reset, whatever the accesses are answered. -/

/-- What the driver takes STATUS0 to hold. -/
def polled (answers : Nat → Answer) (access : Nat) : BitVec 32 :=
  if (answers access).ret = 0 then (answers access).value else 0

def Completes (answers : Nat → Answer) (access : Nat) : Prop :=
  polled answers access &&& status0Resetc ≠ 0

instance (answers : Nat → Answer) (access : Nat) : Decidable (Completes answers access) :=
  inferInstanceAs (Decidable (_ ≠ _))

/-- Access `access` is the first from `first` on to show the reset complete. -/
structure FirstComplete (answers : Nat → Answer) (first access : Nat) : Prop where
  after : first ≤ access
  completes : Completes answers access
  before : ∀ earlier, first ≤ earlier → earlier < access → ¬ Completes answers earlier

theorem read_status0_run (answers : Nat → Answer) (accesses : List Access) :
    oaTc6ReadStatus0.run scriptBus ⟨answers, accesses⟩ =
      (polled answers accesses.length, ⟨answers, accesses ++ [.read oaTc6RegStatus0]⟩) := by
  simp only [oaTc6ReadStatus0, run_bind, bind_run, run_read, script_read, polled]
  by_cases fine : (answers accesses.length).ret = 0
  · rw [if_pos fine, if_pos fine]
    rfl
  · rw [if_neg fine, if_neg fine]
    rfl

/-- The polling ends with the first value that shows the reset complete, or with the last one
that it reads. -/
theorem poll_run (answers : Nat → Answer) (left : Nat) (accesses : List Access) :
    ∃ reads ≤ left + 1, (readxPollTimeout left).run scriptBus ⟨answers, accesses⟩ =
        (polled answers (accesses.length + reads),
          ⟨answers, accesses ++ List.replicate (reads + 1) (.read oaTc6RegStatus0)⟩) ∧
      (∀ read < reads, ¬ Completes answers (accesses.length + read)) ∧
      (reads < left + 1 → Completes answers (accesses.length + reads)) := by
  induction left generalizing accesses with
  | zero =>
      simp only [readxPollTimeout, run_bind, bind_run, read_status0_run, run_ite, ite_run]
      by_cases complete : polled answers accesses.length &&& status0Resetc ≠ 0
      · exact ⟨0, by omega, by rw [if_pos complete]; rfl, by omega, fun _ => complete⟩
      · refine ⟨1, by omega, ?_, ?_, by omega⟩
        · rw [if_neg complete]
          simp [List.replicate]
        · intro read one
          obtain rfl : read = 0 := by omega
          exact complete
  | succ left ih =>
      simp only [readxPollTimeout, run_bind, bind_run, read_status0_run, run_ite, ite_run]
      by_cases complete : polled answers accesses.length &&& status0Resetc ≠ 0
      · exact ⟨0, by omega, by rw [if_pos complete]; rfl, by omega, fun _ => complete⟩
      · obtain ⟨reads, few, ran, before, last⟩ := ih (accesses ++ [.read oaTc6RegStatus0])
        rw [List.length_append, List.length_singleton, Nat.add_assoc, Nat.add_comm 1] at ran last
        refine ⟨reads + 1, by omega, ?_, ?_, fun more => last (by omega)⟩
        · rw [if_neg complete, ran]
          simp [List.replicate_succ]
        · intro read inside
          cases read with
          | zero => exact complete
          | succ read =>
              have later := before read (by omega)
              rwa [List.length_append, List.length_singleton, Nat.add_assoc, Nat.add_comm 1]
                at later

theorem first_complete_unique {answers : Nat → Answer} {first access other : Nat}
    (one : FirstComplete answers first access) (two : FirstComplete answers first other) :
    access = other := by
  rcases Nat.lt_trichotomy access other with less | same | more
  · exact absurd one.completes (two.before access one.after less)
  · exact same
  · exact absurd two.completes (one.before other two.after more)

/-- The run of a reset that is written: what its last poll shows decides. -/
theorem sw_reset_run (answers : Nat → Answer) (left : Nat) (written : (answers 0).ret = 0) :
    ∃ access, 1 ≤ access ∧ access ≤ left + 2 ∧
      (∀ earlier, 1 ≤ earlier → earlier < access → ¬ Completes answers earlier) ∧
      (access < left + 2 → Completes answers access) ∧
      (oaTc6SwResetMacphy left).run scriptBus ⟨answers, []⟩ =
        let accesses := .write oaTc6RegReset resetSwreset ::
          List.replicate access (.read oaTc6RegStatus0)
        if Completes answers access then ((answers (access + 1)).ret,
          ⟨answers, accesses ++ [.write oaTc6RegStatus0 (polled answers access)]⟩)
        else (-enodev, ⟨answers, accesses⟩) := by
  obtain ⟨reads, few, ran, before, last⟩ :=
    poll_run answers left [.write oaTc6RegReset resetSwreset]
  rw [List.length_singleton] at ran before last
  refine ⟨1 + reads, by omega, by omega, ?_, fun more => last (by omega), ?_⟩
  · intro earlier some_ less
    have none_ := before (earlier - 1) (by omega)
    rwa [Nat.add_sub_cancel' some_] at none_
  · simp only [oaTc6SwResetMacphy, run_bind, bind_run, run_write, script_write, List.length_nil,
      List.nil_append, written, ne_eq, not_true_eq_false, if_false, ran]
    by_cases complete : Completes answers (1 + reads)
    · rw [if_pos complete, if_neg complete, run_write, script_write]
      simp [Nat.add_comm]
    · rw [if_neg complete, if_pos (not_not.mp complete)]
      simp [Nat.add_comm]

/-- The reset succeeds exactly if it is written, one of the polls shows it complete, and what
that poll shows is written back; nothing else is ever written to STATUS0. -/
theorem sw_reset_iff (answers : Nat → Answer) (left : Nat) :
    let run := (oaTc6SwResetMacphy left).run scriptBus ⟨answers, []⟩
    (run.1 = 0 ↔ (answers 0).ret = 0 ∧ ∃ access ≤ left + 2, FirstComplete answers 1 access ∧
        (answers (access + 1)).ret = 0) ∧
      ∀ value, .write oaTc6RegStatus0 value ∈ run.2.accesses →
        ∃ access ≤ left + 2, FirstComplete answers 1 access ∧ value = polled answers access := by
  intro run
  by_cases written : (answers 0).ret = 0
  · obtain ⟨access, after, few, before, last, ran⟩ := sw_reset_run answers left written
    have runs : run = _ := ran
    by_cases complete : Completes answers access
    · have first : FirstComplete answers 1 access := ⟨after, complete, before⟩
      rw [runs]
      simp only [complete, if_true]
      refine ⟨⟨fun fine => ⟨written, access, few, first, fine⟩, ?_⟩, ?_⟩
      · rintro ⟨_, other, _, also, fine⟩
        exact first_complete_unique also first ▸ fine
      · intro value made
        refine ⟨access, few, first, ?_⟩
        simpa [oaTc6RegReset, oaTc6RegStatus0, List.mem_replicate] using made
    · -- The last poll is the one behind the timeout.
      obtain rfl : access = left + 2 := by
        by_contra more
        exact complete (last (by omega))
      rw [runs]
      simp only [complete, if_false]
      refine ⟨⟨fun fine => absurd fine (by decide), ?_⟩, ?_⟩
      · rintro ⟨_, other, inside, also, _⟩
        rcases Nat.lt_or_eq_of_le inside with less | rfl
        · exact absurd also.completes (before other also.after less)
        · exact absurd also.completes complete
      · intro value made
        simp [oaTc6RegReset, oaTc6RegStatus0, List.mem_replicate] at made
  · have runs : run = ((answers 0).ret, ⟨answers, [.write oaTc6RegReset resetSwreset]⟩) := by
      simp only [run, oaTc6SwResetMacphy, run_bind, bind_run, run_write, script_write,
        List.length_nil, List.nil_append, written, ne_eq, not_false_eq_true, if_true]
      rfl
    rw [runs]
    refine ⟨⟨fun fine => absurd fine written, fun fine => absurd fine.1 written⟩, ?_⟩
    intro value made
    simp [oaTc6RegReset, oaTc6RegStatus0] at made

section Samples

/-- The chip is out of its reset and reads the trims 3 and -2. -/
def resetChip : Chip where
  cells address := if address = oaTc6RegStatus0 then status0Resetc
    else if address = oaTc6RegStdcap then stdcapDirectPhyRegAccess else 0
  outcomes := []
  lost := []

def sampleTrims (entry : BitVec 32) : BitVec 32 := if entry = 4#32 then 3#32 else 30#32

/-- The PHY library reads the identifier of the PHY. -/
def phyIdRead : Prog Int := do
  let .ok _ ← readRegister 0xFF02 | return -enodev
  return 0

theorem phy_id_within : phyIdRead.Within Component.phy.owns := by
  refine within_bind (within_read (by simp [Component.owns])) fun answer => ?_
  cases answer <;> trivial

/-- Of the accesses that nothing checks the write of CONFIG0 is lost. -/
def stampsLost : Chip := { resetChip with outcomes := List.replicate 42 0 ++ [-5] }

def broughtUp : Int × Chip :=
  (bringUp ⟨true, 0, 0⟩ 3 phyIdRead).run (lossyBus (indirectView sampleTrims)) stampsLost

theorem bring_up_guarantees_sample :
    BroughtUp sampleTrims (stampsLost.cells oaTc6RegConfig0) broughtUp.2 :=
  bring_up_guarantees sampleTrims ⟨true, 0, 0⟩ 3 phyIdRead phy_id_within stampsLost rfl
    (by decide +kernel)

example : (broughtUp.2.cells oaTc6RegConfig0).getLsbD 7 = false := by decide +kernel

end Samples

end Lan865x.OaTc6
