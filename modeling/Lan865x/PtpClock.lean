import Lan865x.RegisterBus
import Lan865x.ReceivePath

/-!
The clock operations of lan865x_ptp.c, over the register accesses of
lan865x_arch.c. The registers may answer in any way. An operation that finds
`ptpdev->lock` taken never returns.
-/

namespace Lan865x.OaTc6
open RegisterBus

variable {World : Type}

def mms1MacTisubn : Nat := 0x0001006F
def mms1MacTsh : Nat := 0x00010070
def mms1MacTsl : Nat := 0x00010074
def mms1MacTn : Nat := 0x00010075
def mms1MacTi : Nat := 0x00010077

def ticksScale : Nat := 40

def toU64 (value : Int) : Nat := (value % 2 ^ 64).toNat

def lan865xGetSysClock (bus : Bus World) : StateM World Nat := do
  let .ok nsec ← bus.read mms1MacTn | return toU64 (-enodev)
  let .ok sec ← bus.read mms1MacTsl | return toU64 (-enodev)
  -- The upper half of the seconds is read, but not used.
  let .ok _ ← bus.read mms1MacTsh | return toU64 (-enodev)
  return toU64 (sec.toNat * nsIn1s + (nsec &&& 0x3FFFFFFF#32).toNat)

def lan865xSetSysClock (bus : Bus World) (timestamp : Nat) : StateM World Int := do
  let sec := timestamp / nsIn1s
  let secH := BitVec.ofNat 32 (sec >>> 32) &&& 0x0000FFFF#32
  let nsec := BitVec.ofNat 32 (timestamp % nsIn1s) &&& 0x3FFFFFFF#32
  if (← bus.write mms1MacTn nsec) ≠ 0 then return -enodev
  if (← bus.write mms1MacTsl (BitVec.ofNat 32 sec)) ≠ 0 then return -enodev
  if (← bus.write mms1MacTsh secH) ≠ 0 then return -enodev
  return 0

/-- The mask drops nothing of a number of nanoseconds. -/
theorem masked_nsec {nsec : Nat} (small : nsec < nsIn1s) :
    (BitVec.ofNat 32 nsec &&& 0x3FFFFFFF#32).toNat = nsec := by
  have inMask : nsec < 2 ^ 30 := Nat.lt_trans small (by decide)
  have inWord : nsec < 2 ^ 32 := Nat.lt_trans inMask (by decide)
  rw [BitVec.toNat_and, BitVec.toNat_ofNat, Nat.mod_eq_of_lt inWord]
  exact (Nat.and_two_pow_sub_one_eq_mod nsec 30).trans (Nat.mod_eq_of_lt inMask)

theorem to_u64_nonneg {value : Int} (nonneg : 0 ≤ value) (small : value < 2 ^ 64) :
    (toU64 value : Int) = value := by
  simp only [toU64]
  omega

theorem to_u64_small {value : Nat} (small : value < 2 ^ 64) : toU64 value = value :=
  Int.ofNat.inj (to_u64_nonneg (by omega) (by omega))

/-- Neither write is checked. -/
def lan865xSetSysClockTi (bus : Bus World) (subnanoB24 : Nat) : StateM World Unit := do
  let nano := BitVec.ofNat 32 (subnanoB24 >>> 24)
  let _ ← bus.write mms1MacTi (nano &&& 0xFF#32)
  let subnano := BitVec.ofNat 32 subnanoB24 &&& 0x00FFFFFF#32
  let _ ← bus.write mms1MacTisubn
    (((subnano &&& 0xFFFF00#32) >>> 8) ||| ((subnano &&& 0x0000FF#32) <<< 24))

/-- `struct ptp_device`, with what lies behind its register accesses. -/
structure PtpDevice (World : Type) where
  locked : Bool
  tiSubnanoB24 : Nat
  world : World

/-- A call of one of the operations in `ptp_clock_info`, with its arguments. -/
inductive PtpCall where
  | adjfine (scaledPpm : Int)
  | adjtime (deltaNs : Int)
  | gettimex64
  | settime64 (tvSec tvNsec : Int)
  deriving DecidableEq

/-- What a call returns, with the time that `gettimex64` reports. -/
structure PtpReply where
  ret : Int
  time : Option (Nat × Nat)

/-- There is no way past a lock that is held. -/
def spinLock (ptpdev : PtpDevice World) : Option (PtpDevice World) :=
  if ptpdev.locked then none else some { ptpdev with locked := true }

def spinUnlock (ptpdev : PtpDevice World) : PtpDevice World := { ptpdev with locked := false }

def lan865xPtpAdjfine (bus : Bus World) (scaledPpm : Int) (ptpdev : PtpDevice World) :
    Option (PtpReply × PtpDevice World) := do
  let ptpdev ← spinLock ptpdev
  if scaledPpm = 0 then return (⟨0, none⟩, spinUnlock ptpdev)
  let diffB24 : Nat := ticksScale * 2 ^ 8 * scaledPpm.natAbs / 1000000
  let ticks := toU64 ((ticksScale * 2 ^ 24 : Nat) +
    if scaledPpm < 0 then -(diffB24 : Int) else diffB24)
  let ((), world) := lan865xSetSysClockTi bus ticks ptpdev.world
  return (⟨0, none⟩,
    spinUnlock { ptpdev with world := world, tiSubnanoB24 := ticks % 2 ^ 32 })

def lan865xPtpAdjtime (bus : Bus World) (deltaNs : Int) (ptpdev : PtpDevice World) :
    Option (PtpReply × PtpDevice World) := do
  let ptpdev ← spinLock ptpdev
  -- This return leaves the lock held.
  if deltaNs = 0 then return (⟨0, none⟩, ptpdev)
  let (hwTimestamp, world) := lan865xGetSysClock bus ptpdev.world
  let (_, world) := lan865xSetSysClock bus (toU64 (hwTimestamp + deltaNs)) world
  let (_, world) := lan865xGetSysClock bus world
  return (⟨0, none⟩, spinUnlock { ptpdev with world := world })

def lan865xPtpGettimex64 (bus : Bus World) (ptpdev : PtpDevice World) :
    Option (PtpReply × PtpDevice World) := do
  let ptpdev ← spinLock ptpdev
  let (timestamp, world) := lan865xGetSysClock bus ptpdev.world
  return (⟨0, some (timestamp / nsIn1s, timestamp % nsIn1s)⟩,
    spinUnlock { ptpdev with world := world })

def lan865xPtpSettime64 (bus : Bus World) (tvSec tvNsec : Int) (ptpdev : PtpDevice World) :
    Option (PtpReply × PtpDevice World) := do
  let ptpdev ← spinLock ptpdev
  let (_, world) := lan865xSetSysClock bus (toU64 (tvSec * nsIn1s + tvNsec)) ptpdev.world
  return (⟨0, none⟩, spinUnlock { ptpdev with world := world })

def PtpCall.run (bus : Bus World) (ptpdev : PtpDevice World) :
    PtpCall → Option (PtpReply × PtpDevice World)
  | .adjfine scaledPpm => lan865xPtpAdjfine bus scaledPpm ptpdev
  | .adjtime deltaNs => lan865xPtpAdjtime bus deltaNs ptpdev
  | .gettimex64 => lan865xPtpGettimex64 bus ptpdev
  | .settime64 tvSec tvNsec => lan865xPtpSettime64 bus tvSec tvNsec ptpdev

/-- Each call of the sequence finds the lock free, returns, and leaves it free. -/
def LockFree (bus : Bus World) : PtpDevice World → List PtpCall → Prop
  | ptpdev, [] => ptpdev.locked = false
  | ptpdev, call :: rest => ptpdev.locked = false ∧
      ∃ reply after, call.run bus ptpdev = some (reply, after) ∧ LockFree bus after rest

/-- A call returns whenever the lock is free, and gives it back but for one argument. -/
theorem ptp_call_returns (bus : Bus World) (ptpdev : PtpDevice World) (call : PtpCall)
    (free : ptpdev.locked = false) :
    ∃ reply after, call.run bus ptpdev = some (reply, after) ∧
      (after.locked = true ↔ call = .adjtime 0) := by
  have taken : spinLock ptpdev = some { ptpdev with locked := true } := by simp [spinLock, free]
  cases call with
  | adjfine scaledPpm =>
      simp only [PtpCall.run, lan865xPtpAdjfine, taken, Option.bind_eq_bind, Option.bind_some]
      by_cases none_ : scaledPpm = 0
      · rw [if_pos none_]
        exact ⟨_, _, rfl, by simp [spinUnlock]⟩
      · rw [if_neg none_]
        exact ⟨_, _, rfl, by simp [spinUnlock]⟩
  | adjtime deltaNs =>
      simp only [PtpCall.run, lan865xPtpAdjtime, taken, Option.bind_eq_bind, Option.bind_some]
      by_cases none_ : deltaNs = 0
      · rw [if_pos none_]
        exact ⟨_, _, rfl, by simp [none_]⟩
      · rw [if_neg none_]
        exact ⟨_, _, rfl, by simp [spinUnlock, none_]⟩
  | gettimex64 =>
      simp only [PtpCall.run, lan865xPtpGettimex64, taken, Option.bind_eq_bind, Option.bind_some]
      exact ⟨_, _, rfl, by simp [spinUnlock]⟩
  | settime64 tvSec tvNsec =>
      simp only [PtpCall.run, lan865xPtpSettime64, taken, Option.bind_eq_bind, Option.bind_some]
      exact ⟨_, _, rfl, by simp [spinUnlock]⟩

/-- The clock operations can be called for ever if and only if none of them is an
adjustment by nothing. -/
theorem ptp_lock_free_iff (bus : Bus World) (ptpdev : PtpDevice World) (calls : List PtpCall)
    (free : ptpdev.locked = false) :
    LockFree bus ptpdev calls ↔ ∀ call ∈ calls, call ≠ .adjtime 0 := by
  induction calls generalizing ptpdev with
  | nil => simp [LockFree, free]
  | cons call rest ih =>
      obtain ⟨reply, after, ran, held⟩ := ptp_call_returns bus ptpdev call free
      rw [List.forall_mem_cons]
      constructor
      · rintro ⟨_, _, next, same, later⟩
        obtain rfl : after = next := congrArg Prod.snd (Option.some.inj (ran.symm.trans same))
        have released : after.locked = false := by
          cases rest with
          | nil => exact later
          | cons _ _ => exact later.1
        refine ⟨fun nothing => ?_, (ih after released).mp later⟩
        rw [held.mpr nothing] at released
        simp at released
      · rintro ⟨something, others⟩
        have released : after.locked = false := by
          simpa using fun left => something (held.mp left)
        exact ⟨free, reply, after, ran, (ih after released).mpr others⟩

section Samples

def sampleDevice : PtpDevice Storage := ⟨false, 0, ⟨fun _ => 0#32, []⟩⟩

/-- After an adjustment by nothing the next call never returns. -/
theorem ptp_lock_left_held :
    ¬ ∀ (World : Type) (bus : Bus World) (ptpdev : PtpDevice World) (calls : List PtpCall),
      ptpdev.locked = false → LockFree bus ptpdev calls := by
  intro claimed
  obtain ⟨_, reply, after, ran, free, _⟩ :=
    claimed Storage storageBus sampleDevice [.adjtime 0, .gettimex64] rfl
  obtain rfl : { sampleDevice with locked := true } = after :=
    congrArg Prod.snd (Option.some.inj ran)
  exact absurd free (by decide)

theorem ptp_lock_free_sample :
    LockFree storageBus sampleDevice [.settime64 1 0, .adjtime (-5), .adjfine 0, .gettimex64] :=
  (ptp_lock_free_iff storageBus sampleDevice _ rfl).mpr (by decide)

end Samples

end Lan865x.OaTc6
