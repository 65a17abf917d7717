import Lan865x.PtpClock
import Lan865x.SplitCounter

/-!
The clock of the MAC-PHY while it runs: its value is read from, and written to,
three registers one after the other, and any time may pass between two accesses.
-/

namespace Lan865x.OaTc6
open RegisterBus SplitCounter

/-- The clock of the MAC-PHY; the registers TSH and TSL share the seconds. -/
structure RunningClock where
  seconds : BitVec 48
  nanoseconds : Fin nsIn1s

namespace RunningClock

def period : Nat := 2 ^ 48 * nsIn1s

def ns (clock : RunningClock) : Nat := clock.seconds.toNat * nsIn1s + clock.nanoseconds

def advance (clock : RunningClock) (passed : Nat) : RunningClock :=
  ⟨clock.seconds + BitVec.ofNat 48 (carries nsIn1s clock.nanoseconds passed),
    ⟨(clock.nanoseconds + passed) % nsIn1s, Nat.mod_lt _ (by decide)⟩⟩

def register (clock : RunningClock) (address : Nat) : BitVec 32 :=
  if address = mms1MacTn then BitVec.ofNat 32 clock.nanoseconds
  else if address = mms1MacTsl then clock.seconds.setWidth 32
  else if address = mms1MacTsh then (clock.seconds >>> 32).setWidth 32
  else 0#32

def store (clock : RunningClock) (address : Nat) (value : BitVec 32) : RunningClock :=
  if address = mms1MacTn then
    { clock with nanoseconds := ⟨value.toNat % nsIn1s, Nat.mod_lt _ (by decide)⟩ }
  else if address = mms1MacTsl then
    { clock with seconds := clock.seconds.extractLsb' 32 16 ++ value }
  else if address = mms1MacTsh then
    { clock with seconds := value.setWidth 16 ++ clock.seconds.setWidth 32 }
  else clock

theorem ns_advance (clock : RunningClock) (passed : Nat) :
    (clock.advance passed).ns = (clock.ns + passed) % period := by
  have bound := clock.seconds.isLt
  have small := clock.nanoseconds.isLt
  simp only [ns, advance, BitVec.toNat_add, BitVec.toNat_ofNat, carries, period, nsIn1s] at *
  omega

end RunningClock

/-- The clock, and how long it runs before each of the next accesses. -/
structure ClockWorld where
  clock : RunningClock
  pauses : List Nat

def ClockWorld.wait (world : ClockWorld) : ClockWorld :=
  ⟨world.clock.advance (world.pauses.headD 0), world.pauses.tail⟩

/-- Every access succeeds. -/
def clockBus : Bus ClockWorld where
  read address := fun world => (.ok (world.wait.clock.register address), world.wait)
  write address value := fun world =>
    (0, { world.wait with clock := world.wait.clock.store address value })

/-- The clock shows this value at some moment of that time. -/
def ShowsWithin (clock : RunningClock) (elapsed value : Nat) : Prop :=
  ∃ passed ≤ elapsed, (clock.advance passed).ns = value

/-- While the clock does not wrap, this is the order of the numbers. -/
theorem shows_within_iff (clock : RunningClock) (elapsed value : Nat)
    (unwrapped : clock.ns + elapsed < RunningClock.period) :
    ShowsWithin clock elapsed value ↔
      clock.ns ≤ value ∧ value ≤ (clock.advance elapsed).ns := by
  have shown : ∀ passed ≤ elapsed, (clock.advance passed).ns = clock.ns + passed :=
    fun passed within => (clock.ns_advance passed).trans (Nat.mod_eq_of_lt (by omega))
  rw [shown elapsed (Nat.le_refl _)]
  constructor
  · rintro ⟨passed, within, rfl⟩
    rw [shown passed within]
    omega
  · rintro ⟨late, early⟩
    exact ⟨value - clock.ns, by omega, (shown _ (by omega)).trans (by omega)⟩

/-- What is read: the nanoseconds of one moment and the lower seconds of a later one. -/
theorem get_running_clock (clock : RunningClock) (idle first second : Nat) (rest : List Nat) :
    (lan865xGetSysClock clockBus ⟨clock, idle :: first :: second :: rest⟩).1 =
      (((clock.advance idle).advance first).seconds.toNat % 2 ^ 32) * nsIn1s +
        (clock.advance idle).nanoseconds := by
  have small := (clock.advance idle).nanoseconds.isLt
  have value : (lan865xGetSysClock clockBus ⟨clock, idle :: first :: second :: rest⟩).1 =
      toU64 ↑((((clock.advance idle).advance first).register mms1MacTsl).toNat * nsIn1s +
        (((clock.advance idle).register mms1MacTn) &&& 0x3FFFFFFF#32).toNat) := rfl
  have lower : (((clock.advance idle).advance first).register mms1MacTsl).toNat =
      ((clock.advance idle).advance first).seconds.toNat % 2 ^ 32 := by
    simp [RunningClock.register, mms1MacTsl, mms1MacTn]
  have low : (clock.advance idle).register mms1MacTn =
      BitVec.ofNat 32 (clock.advance idle).nanoseconds := by
    simp [RunningClock.register]
  rw [value, lower, low, masked_nsec small]
  apply to_u64_small
  simp only [nsIn1s] at *
  omega

/-- By how many seconds the value read is ahead of the clock at the first access,
around the clock: the carries until TSL is read, less what TSH holds by then. -/
def secondsAhead (clock : RunningClock) (gap : Nat) : BitVec 48 :=
  BitVec.ofNat 48 (carries nsIn1s clock.nanoseconds gap) -
    ((clock.advance gap).register mms1MacTsh).setWidth 48 <<< 32

theorem upper_seconds (clock : RunningClock) :
    (clock.register mms1MacTsh).toNat = clock.seconds.toNat / 2 ^ 32 := by
  have bound := clock.seconds.isLt
  simp only [RunningClock.register, mms1MacTsh, mms1MacTsl, mms1MacTn]
  simp [Nat.shiftRight_eq_div_pow]
  omega

theorem seconds_ahead (clock : RunningClock) (gap : Nat) :
    (secondsAhead clock gap).toNat =
      ((clock.advance gap).seconds.toNat % 2 ^ 32 + (2 ^ 48 - clock.seconds.toNat)) % 2 ^ 48 := by
  have bound := clock.seconds.isLt
  have late : (clock.advance gap).seconds.toNat =
      (clock.seconds.toNat + carries nsIn1s clock.nanoseconds gap) % 2 ^ 48 := by
    simp [RunningClock.advance]
  have upper := upper_seconds (clock.advance gap)
  simp only [secondsAhead, BitVec.toNat_sub, BitVec.toNat_shiftLeft, BitVec.toNat_setWidth,
    BitVec.toNat_ofNat, upper, late, Nat.shiftLeft_eq]
  omega

/-- A prompt read is right only before the first 136 years are over, and without a carry. -/
theorem seconds_ahead_zero (clock : RunningClock) (gap : Nat) (prompt : gap < nsIn1s) :
    (secondsAhead clock gap).toNat = 0 ↔
      carries nsIn1s clock.nanoseconds gap = 0 ∧
        (clock.advance gap).register mms1MacTsh = 0#32 := by
  have small := clock.nanoseconds.isLt
  have once : carries nsIn1s clock.nanoseconds gap ≤ 1 := by
    have below := carries_below small gap
    rwa [Nat.div_eq_of_lt prompt] at below
  have upper : ((clock.advance gap).register mms1MacTsh).toNat < 2 ^ 16 := by
    have high := (clock.advance gap).seconds.isLt
    rw [upper_seconds]
    omega
  have shown : (secondsAhead clock gap).toNat =
      (2 ^ 48 - ((clock.advance gap).register mms1MacTsh).toNat * 2 ^ 32 +
        carries nsIn1s clock.nanoseconds gap) % 2 ^ 48 := by
    simp only [secondsAhead, BitVec.toNat_sub, BitVec.toNat_shiftLeft, BitVec.toNat_setWidth,
      BitVec.toNat_ofNat, Nat.shiftLeft_eq]
    omega
  rw [shown, ← BitVec.toNat_inj]
  simp only [BitVec.toNat_ofNat]
  omega

theorem sys_clock_read_iff (clock : RunningClock) (idle first second : Nat) (rest : List Nat) :
    ShowsWithin (clock.advance idle) (first + second)
        (lan865xGetSysClock clockBus ⟨clock, idle :: first :: second :: rest⟩).1 ↔
      (secondsAhead (clock.advance idle) first).toNat ≤ (first + second) / nsIn1s := by
  rw [get_running_clock, seconds_ahead]
  generalize clock.advance idle = start
  have bound := start.seconds.isLt
  have small := start.nanoseconds.isLt
  simp only [ShowsWithin, RunningClock.ns_advance]
  have half : (start.advance first).seconds.toNat % 2 ^ 32 < 2 ^ 32 := Nat.mod_lt _ (by decide)
  generalize (start.advance first).seconds.toNat % 2 ^ 32 = lower at half ⊢
  simp only [RunningClock.ns, RunningClock.period, nsIn1s] at *
  constructor
  · rintro ⟨passed, within, same⟩
    omega
  · intro covered
    refine ⟨(lower + (2 ^ 48 - start.seconds.toNat)) % 2 ^ 48 * 1000000000, by omega, ?_⟩
    omega

/-- How many seconds of carries the later writes undo: those from the nanoseconds before
TSL is written, and those from TSL before TSH is written. -/
def secondsUndone (timestamp first second : Nat) : Nat :=
  let nsec := timestamp % nsIn1s
  let secL := timestamp / nsIn1s % 2 ^ 32
  carries nsIn1s nsec first +
    carries (2 ^ 32) secL (carries nsIn1s ((nsec + first) % nsIn1s) second) * 2 ^ 32

theorem halves_to_nat (high : BitVec 16) (low : BitVec 32) :
    (high ++ low).toNat = high.toNat * 2 ^ 32 + low.toNat := by
  rw [BitVec.toNat_append, ← Nat.shiftLeft_add_eq_or_of_lt low.isLt, Nat.shiftLeft_eq]

/-- The seconds written in two halves, while the clock runs. -/
theorem stored_seconds (clock : RunningClock) (secL secH : BitVec 32) (passed : Nat) :
    (((clock.store mms1MacTsl secL).advance passed).store mms1MacTsh secH).ns =
      (secH.toNat % 2 ^ 16 * 2 ^ 32 +
        (secL.toNat + carries nsIn1s clock.nanoseconds passed) % 2 ^ 32) * nsIn1s +
          (clock.nanoseconds + passed) % nsIn1s := by
  have shown : (((clock.store mms1MacTsl secL).advance passed).store mms1MacTsh secH).ns =
      (secH.setWidth 16 ++ ((clock.seconds.extractLsb' 32 16 ++ secL) +
        BitVec.ofNat 48 (carries nsIn1s clock.nanoseconds passed)).setWidth 32 : BitVec 48).toNat *
          nsIn1s + (clock.nanoseconds + passed) % nsIn1s := by
    simp [RunningClock.store, RunningClock.advance, RunningClock.ns, mms1MacTsl, mms1MacTsh,
      mms1MacTn]
  have lower : ((clock.seconds.extractLsb' 32 16 ++ secL) +
      BitVec.ofNat 48 (carries nsIn1s clock.nanoseconds passed) : BitVec 48).toNat % 2 ^ 32 =
        (secL.toNat + carries nsIn1s clock.nanoseconds passed) % 2 ^ 32 := by
    rw [BitVec.toNat_add, BitVec.toNat_ofNat, halves_to_nat]
    omega
  rw [shown, halves_to_nat, BitVec.toNat_setWidth, BitVec.toNat_setWidth, lower]

/-- The clock right after the last write, with the time that the writes undo. -/
theorem set_running_clock (clock : RunningClock) (timestamp idle first second : Nat)
    (rest : List Nat) (range : timestamp < 2 ^ 64) :
    (lan865xSetSysClock clockBus timestamp ⟨clock, idle :: first :: second :: rest⟩).2.clock.ns +
      secondsUndone timestamp first second * nsIn1s = timestamp + (first + second) := by
  have nsec := masked_nsec (Nat.mod_lt timestamp (show 0 < nsIn1s by decide))
  have seconds : timestamp / nsIn1s < 2 ^ 48 := by
    simp only [nsIn1s]
    omega
  have upper : ((BitVec.ofNat 32 ((timestamp / nsIn1s) >>> 32)) &&& 0x0000FFFF#32).toNat =
      timestamp / nsIn1s / 2 ^ 32 := by
    rw [BitVec.toNat_and, BitVec.toNat_ofNat, Nat.shiftRight_eq_div_pow]
    generalize timestamp / nsIn1s = sec at seconds
    refine (Nat.and_two_pow_sub_one_eq_mod _ 16).trans ?_
    omega
  set started := (clock.advance idle).store mms1MacTn
    (BitVec.ofNat 32 (timestamp % nsIn1s) &&& 0x3FFFFFFF#32) with start
  have from' : (started.nanoseconds : Nat) = timestamp % nsIn1s := by
    simp only [start, RunningClock.store, if_true, nsec]
    exact Nat.mod_mod _ _
  have after : (lan865xSetSysClock clockBus timestamp
      ⟨clock, idle :: first :: second :: rest⟩).2.clock =
        (((started.advance first).store mms1MacTsl (BitVec.ofNat 32 (timestamp / nsIn1s))).advance
          second).store mms1MacTsh
            (BitVec.ofNat 32 ((timestamp / nsIn1s) >>> 32) &&& 0x0000FFFF#32) := rfl
  have running : ((started.advance first).nanoseconds : Nat) =
      (timestamp % nsIn1s + first) % nsIn1s := by
    simp only [RunningClock.advance, from']
  -- The high part is stored twice, each time behind by the carries since the low part.
  have one := late_store nsIn1s timestamp first
  have two := carries_spent nsIn1s ((timestamp % nsIn1s + first) % nsIn1s) second
  rw [after, stored_seconds, upper, running, BitVec.toNat_ofNat]
  simp only [secondsUndone]
  generalize carries nsIn1s ((timestamp % nsIn1s + first) % nsIn1s) second = late at two ⊢
  generalize carries nsIn1s (timestamp % nsIn1s) first = early at one ⊢
  generalize timestamp / nsIn1s = sec at seconds one ⊢
  have three := late_store (2 ^ 32) sec late
  generalize carries (2 ^ 32) (sec % 2 ^ 32) late = above at three ⊢
  have half : sec / 2 ^ 32 % 2 ^ 16 = sec / 2 ^ 32 := Nat.mod_eq_of_lt (by omega)
  rw [half]
  calc (sec / 2 ^ 32 * 2 ^ 32 + (sec % 2 ^ 32 + late) % 2 ^ 32) * nsIn1s +
        ((timestamp % nsIn1s + first) % nsIn1s + second) % nsIn1s +
          (early + above * 2 ^ 32) * nsIn1s
      = (sec / 2 ^ 32 * 2 ^ 32 + (sec % 2 ^ 32 + late) % 2 ^ 32 + above * 2 ^ 32) * nsIn1s +
          early * nsIn1s + ((timestamp % nsIn1s + first) % nsIn1s + second) % nsIn1s := by
        simp only [Nat.add_mul]
        omega
    _ = sec * nsIn1s + early * nsIn1s + (late * nsIn1s +
          ((timestamp % nsIn1s + first) % nsIn1s + second) % nsIn1s) := by
        rw [three, Nat.add_mul]
        omega
    _ = timestamp + (first + second) := by omega

theorem sys_clock_write_iff (clock : RunningClock) (timestamp idle first second : Nat)
    (rest : List Nat) (range : timestamp < 2 ^ 64) :
    let after := (lan865xSetSysClock clockBus timestamp
      ⟨clock, idle :: first :: second :: rest⟩).2.clock.ns
    (timestamp ≤ after ∧ after ≤ timestamp + (first + second)) ↔
      secondsUndone timestamp first second * nsIn1s ≤ first + second := by
  have balance := set_running_clock clock timestamp idle first second rest range
  dsimp only
  omega

section Samples

/-- One nanosecond before its first second is over. -/
def nearlyOne : RunningClock := ⟨0#48, ⟨999999999, by decide⟩⟩

/-- A carry between the first two reads: 1.999999999 s is read at the first second. -/
theorem sys_clock_read_torn :
    ¬ ∀ (clock : RunningClock) (idle first second : Nat) (rest : List Nat),
      ShowsWithin (clock.advance idle) (first + second)
        (lan865xGetSysClock clockBus ⟨clock, idle :: first :: second :: rest⟩).1 := by
  intro claimed
  obtain ⟨passed, within, shown⟩ := claimed nearlyOne 0 1 0 []
  have read : (lan865xGetSysClock clockBus ⟨nearlyOne, [0, 1, 0]⟩).1 = 1999999999 := by decide
  have before : (nearlyOne.advance 0).ns = 999999999 := by decide
  rw [read, RunningClock.ns_advance, before, RunningClock.period, nsIn1s] at shown
  omega

/-- A carry between the first two writes: the clock starts a second too early. -/
theorem sys_clock_write_torn :
    ¬ ∀ (clock : RunningClock) (timestamp idle first second : Nat) (rest : List Nat),
      timestamp < 2 ^ 64 →
      timestamp ≤ (lan865xSetSysClock clockBus timestamp
          ⟨clock, idle :: first :: second :: rest⟩).2.clock.ns ∧
        (lan865xSetSysClock clockBus timestamp
          ⟨clock, idle :: first :: second :: rest⟩).2.clock.ns ≤ timestamp + (first + second) := by
  intro claimed
  have late := (claimed nearlyOne 999999999 0 1 0 [] (by decide)).1
  exact absurd late (by decide)

theorem sys_clock_write_sample :
    let after := (lan865xSetSysClock clockBus 5000000007 ⟨nearlyOne, [3, 10, 20]⟩).2.clock.ns
    (5000000007 ≤ after ∧ after ≤ 5000000007 + (10 + 20)) ↔
      secondsUndone 5000000007 10 20 * nsIn1s ≤ 10 + 20 :=
  sys_clock_write_iff nearlyOne 5000000007 3 10 20 [] (by decide)

end Samples

end Lan865x.OaTc6
