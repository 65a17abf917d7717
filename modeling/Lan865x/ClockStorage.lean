import Lan865x.PtpClock

/-!
The clock registers as plain storage: what is read back of what was written. The
half of the seconds in TSH is written, and lost on the way back.
-/

namespace Lan865x.OaTc6
open RegisterBus

/-- What the lower half of the seconds can count. -/
def clockHorizon : Nat := 2 ^ 32 * nsIn1s

def clockValue (cells : Nat → BitVec 32) : Nat :=
  (cells mms1MacTsl).toNat * nsIn1s + (cells mms1MacTn &&& 0x3FFFFFFF#32).toNat

/-- The registers after the three writes. -/
def clockCells (cells : Nat → BitVec 32) (timestamp : Nat) : Nat → BitVec 32 :=
  let sec := timestamp / nsIn1s
  Function.update (Function.update (Function.update cells
    mms1MacTn (BitVec.ofNat 32 (timestamp % nsIn1s) &&& 0x3FFFFFFF#32))
    mms1MacTsl (BitVec.ofNat 32 sec))
    mms1MacTsh (BitVec.ofNat 32 (sec >>> 32) &&& 0x0000FFFF#32)

theorem get_stored_clock (cells : Nat → BitVec 32) :
    lan865xGetSysClock storageBus ⟨cells, []⟩ = (clockValue cells, ⟨cells, []⟩) := by
  have read : lan865xGetSysClock storageBus ⟨cells, []⟩ =
      (toU64 (clockValue cells), ⟨cells, []⟩) := rfl
  have seconds := (cells mms1MacTsl).isLt
  have masked : (cells mms1MacTn &&& 0x3FFFFFFF#32).toNat ≤ 2 ^ 30 - 1 := by
    rw [BitVec.toNat_and]
    exact Nat.and_le_right
  rw [read, to_u64_small]
  simp only [clockValue, nsIn1s]
  omega

theorem set_stored_clock (cells : Nat → BitVec 32) (timestamp : Nat) :
    lan865xSetSysClock storageBus timestamp ⟨cells, []⟩ = (0, ⟨clockCells cells timestamp, []⟩) :=
  rfl

/-- Whole turns of the lower half of the seconds are lost. -/
theorem clock_value_set (cells : Nat → BitVec 32) (timestamp : Nat) :
    clockValue (clockCells cells timestamp) = timestamp % clockHorizon := by
  have low : clockCells cells timestamp mms1MacTn =
      BitVec.ofNat 32 (timestamp % nsIn1s) &&& 0x3FFFFFFF#32 := by
    simp [clockCells, mms1MacTn, mms1MacTsl, mms1MacTsh]
  have seconds : clockCells cells timestamp mms1MacTsl = BitVec.ofNat 32 (timestamp / nsIn1s) := by
    simp [clockCells, mms1MacTsl, mms1MacTsh]
  have small := Nat.mod_lt timestamp (show 0 < nsIn1s by decide)
  have again : BitVec.ofNat 32 (timestamp % nsIn1s) &&& 0x3FFFFFFF#32 &&& 0x3FFFFFFF#32 =
      BitVec.ofNat 32 (timestamp % nsIn1s) &&& 0x3FFFFFFF#32 := by
    rw [BitVec.and_assoc, BitVec.and_self]
  rw [clockValue, low, seconds, again, masked_nsec small, BitVec.toNat_ofNat, clockHorizon]
  simp only [nsIn1s]
  omega

/-- The time that a last `gettimex64` reports after the calls. -/
def timeAfter {World : Type} (bus : Bus World) :
    List PtpCall → PtpDevice World → Option (Nat × Nat)
  | [], ptpdev => (lan865xPtpGettimex64 bus ptpdev).bind fun done => done.1.time
  | call :: rest, ptpdev => (call.run bus ptpdev).bind fun done => timeAfter bus rest done.2

theorem gettimex64_stored (cells : Nat → BitVec 32) (ti : Nat) :
    timeAfter storageBus [] ⟨false, ti, ⟨cells, []⟩⟩ =
      some (clockValue cells / nsIn1s, clockValue cells % nsIn1s) := by
  simp [timeAfter, lan865xPtpGettimex64, spinLock, get_stored_clock]

theorem settime64_stored (cells : Nat → BitVec 32) (ti : Nat) (tvSec tvNsec : Int) :
    lan865xPtpSettime64 storageBus tvSec tvNsec ⟨false, ti, ⟨cells, []⟩⟩ =
      some (⟨0, none⟩, ⟨false, ti, ⟨clockCells cells (toU64 (tvSec * nsIn1s + tvNsec)), []⟩⟩) := by
  simp [lan865xPtpSettime64, spinLock, spinUnlock, set_stored_clock]

theorem adjtime_stored (cells : Nat → BitVec 32) (ti : Nat) (deltaNs : Int) (moves : deltaNs ≠ 0) :
    lan865xPtpAdjtime storageBus deltaNs ⟨false, ti, ⟨cells, []⟩⟩ =
      some (⟨0, none⟩,
        ⟨false, ti, ⟨clockCells cells (toU64 (clockValue cells + deltaNs)), []⟩⟩) := by
  simp [lan865xPtpAdjtime, spinLock, spinUnlock, moves, get_stored_clock, set_stored_clock]

theorem read_back_iff (cells : Nat → BitVec 32) (timestamp : Nat) :
    (lan865xGetSysClock storageBus
      (lan865xSetSysClock storageBus timestamp ⟨cells, []⟩).2).1 = timestamp ↔
        timestamp < clockHorizon := by
  rw [set_stored_clock, get_stored_clock, clock_value_set]
  exact Nat.mod_eq_iff_lt (by decide)

theorem settime64_back_iff (cells : Nat → BitVec 32) (ti : Nat) (tvSec tvNsec : Int)
    (nonneg : 0 ≤ tvNsec) (below : tvNsec < nsIn1s)
    (range : tvSec * nsIn1s + tvNsec < 2 ^ 64) :
    (∃ time, timeAfter storageBus [.settime64 tvSec tvNsec] ⟨false, ti, ⟨cells, []⟩⟩ =
        some time ∧ time.1 = tvSec ∧ time.2 = tvNsec) ↔
      0 ≤ tvSec ∧ tvSec < 2 ^ 32 := by
  have back : timeAfter storageBus [.settime64 tvSec tvNsec] ⟨false, ti, ⟨cells, []⟩⟩ =
      some (toU64 (tvSec * nsIn1s + tvNsec) % clockHorizon / nsIn1s,
        toU64 (tvSec * nsIn1s + tvNsec) % clockHorizon % nsIn1s) := by
    rw [timeAfter, PtpCall.run, settime64_stored, Option.bind_some, gettimex64_stored,
      clock_value_set]
  rw [back]
  simp only [Option.some.injEq, exists_eq_left']
  constructor
  · rintro ⟨seconds, _⟩
    have turn := Nat.mod_lt (toU64 (tvSec * nsIn1s + tvNsec)) (show 0 < clockHorizon by decide)
    generalize toU64 (tvSec * nsIn1s + tvNsec) % clockHorizon = shown at seconds turn
    simp only [clockHorizon, nsIn1s] at *
    omega
  · rintro ⟨positive, half⟩
    have exact' : (toU64 (tvSec * nsIn1s + tvNsec) : Int) = tvSec * nsIn1s + tvNsec :=
      to_u64_nonneg (Int.add_nonneg (Int.mul_nonneg positive (by decide)) nonneg) range
    generalize toU64 (tvSec * nsIn1s + tvNsec) = shown at exact' ⊢
    simp only [clockHorizon, nsIn1s] at *
    omega

/-- A clock that had lost a turn does not come to the right time by going back over it. -/
theorem lost_turn {timestamp : Nat} {deltaNs : Int} (start : timestamp < 2 ^ 64)
    (beyond : clockHorizon ≤ timestamp) (nonneg : 0 ≤ timestamp + deltaNs)
    (back : timestamp + deltaNs < clockHorizon) :
    (↑(toU64 (↑(timestamp % clockHorizon) + deltaNs) % clockHorizon) : Int) ≠
      timestamp + deltaNs := by
  have parts := Nat.mod_add_div timestamp clockHorizon
  have once : 1 ≤ timestamp / clockHorizon := (Nat.one_le_div_iff (by decide)).mpr beyond
  generalize timestamp % clockHorizon = rest at parts ⊢
  generalize timestamp / clockHorizon = turns at parts once
  have wrapped : (toU64 (↑rest + deltaNs) : Int) = rest + deltaNs + 2 ^ 64 := by
    simp only [toU64, clockHorizon, nsIn1s] at *
    omega
  generalize toU64 (↑rest + deltaNs) = shown at wrapped ⊢
  simp only [clockHorizon, nsIn1s] at *
  omega

theorem adjtime_back_iff (cells : Nat → BitVec 32) (ti timestamp : Nat) (deltaNs : Int)
    (start : timestamp < 2 ^ 64) (moves : deltaNs ≠ 0) (nonneg : 0 ≤ timestamp + deltaNs)
    (range : timestamp + deltaNs < 2 ^ 64) :
    (∃ time, timeAfter storageBus [.adjtime deltaNs]
        ⟨false, ti, (lan865xSetSysClock storageBus timestamp ⟨cells, []⟩).2⟩ = some time ∧
          (time.1 * nsIn1s + time.2 : Int) = timestamp + deltaNs) ↔
      timestamp < clockHorizon ∧ timestamp + deltaNs < clockHorizon := by
  have back : timeAfter storageBus [.adjtime deltaNs]
      ⟨false, ti, (lan865xSetSysClock storageBus timestamp ⟨cells, []⟩).2⟩ =
      some (toU64 (↑(timestamp % clockHorizon) + deltaNs) % clockHorizon / nsIn1s,
        toU64 (↑(timestamp % clockHorizon) + deltaNs) % clockHorizon % nsIn1s) := by
    rw [set_stored_clock, timeAfter, PtpCall.run, adjtime_stored _ _ _ moves, Option.bind_some,
      gettimex64_stored, clock_value_set, clock_value_set]
  have joined (shown : Nat) : ((↑(shown / nsIn1s) : Int) * nsIn1s + ↑(shown % nsIn1s)) = shown := by
    simp only [nsIn1s]
    omega
  rw [back]
  simp only [Option.some.injEq, exists_eq_left', joined]
  constructor
  · intro same
    have turn := Nat.mod_lt (toU64 (↑(timestamp % clockHorizon) + deltaNs))
      (show 0 < clockHorizon by decide)
    refine ⟨?_, by omega⟩
    by_contra beyond
    exact lost_turn start (by omega) nonneg (by omega) same
  · rintro ⟨before, after⟩
    rw [Nat.mod_eq_of_lt before, Nat.mod_eq_of_lt]
    · exact to_u64_nonneg nonneg range
    · have exact' := to_u64_nonneg nonneg range
      omega

theorem clock_round_trip_iff (cells : Nat → BitVec 32) (ti : Nat) :
    (∀ timestamp < 2 ^ 64,
      ((lan865xGetSysClock storageBus
        (lan865xSetSysClock storageBus timestamp ⟨cells, []⟩).2).1 = timestamp ↔
          timestamp < clockHorizon)) ∧
    (∀ tvSec tvNsec : Int, 0 ≤ tvNsec → tvNsec < nsIn1s → tvSec * nsIn1s + tvNsec < 2 ^ 64 →
      ((∃ time, timeAfter storageBus [.settime64 tvSec tvNsec] ⟨false, ti, ⟨cells, []⟩⟩ =
          some time ∧ time.1 = tvSec ∧ time.2 = tvNsec) ↔
        0 ≤ tvSec ∧ tvSec < 2 ^ 32)) ∧
    (∀ (timestamp : Nat) (deltaNs : Int), timestamp < 2 ^ 64 → deltaNs ≠ 0 →
      0 ≤ timestamp + deltaNs → timestamp + deltaNs < 2 ^ 64 →
      ((∃ time, timeAfter storageBus [.adjtime deltaNs]
          ⟨false, ti, (lan865xSetSysClock storageBus timestamp ⟨cells, []⟩).2⟩ = some time ∧
            (time.1 * nsIn1s + time.2 : Int) = timestamp + deltaNs) ↔
        timestamp < clockHorizon ∧ timestamp + deltaNs < clockHorizon)) := by
  refine ⟨fun timestamp _ => read_back_iff cells timestamp, ?_, ?_⟩
  · intro tvSec tvNsec nonneg below range
    exact settime64_back_iff cells ti tvSec tvNsec nonneg below range
  · intro timestamp deltaNs start moves nonneg range
    exact adjtime_back_iff cells ti timestamp deltaNs start moves nonneg range

section Samples

/-- The seconds above 32 bits are written, and not read back. -/
theorem clock_round_trip_lost :
    ¬ ∀ (cells : Nat → BitVec 32) (timestamp : Nat), timestamp < 2 ^ 64 →
      (lan865xGetSysClock storageBus
        (lan865xSetSysClock storageBus timestamp ⟨cells, []⟩).2).1 = timestamp := by
  intro claimed
  have back := claimed (fun _ => 0#32) clockHorizon (by decide)
  exact absurd back (by decide)

end Samples

end Lan865x.OaTc6
