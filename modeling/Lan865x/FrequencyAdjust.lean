import Lan865x.PtpClock

/-!
The rate of the clock after calls of `lan865x_ptp_adjfine`: what is programmed, and
what the registers of the timer increment say.
-/

namespace Lan865x.OaTc6
open RegisterBus

/-- The largest `scaled_ppm`: 25000 ppm. -/
def adjfineLimit : Nat := 25000 * 65536

/-- The timer increment for a rate, in units of 2⁻²⁴ ns. -/
def increment (scaledPpm : Int) : Int :=
  (ticksScale * 2 ^ 24 : Nat) +
    scaledPpm.sign * (ticksScale * 2 ^ 8 * scaledPpm.natAbs / 1000000 : Nat)

/-- The increment in the registers: whole nanoseconds, and the fraction, whose lower
eight bits are the upper ones of TISUBN. -/
def tiDecoded (cells : Nat → BitVec 32) : Nat :=
  ((cells mms1MacTi).extractLsb' 0 8 ++ (cells mms1MacTisubn).extractLsb' 0 16 ++
    (cells mms1MacTisubn).extractLsb' 24 8 : BitVec 32).toNat

/-- The registers after `lan865x_set_sys_clock_ti`. -/
def tiCells (cells : Nat → BitVec 32) (subnanoB24 : Nat) : Nat → BitVec 32 :=
  let subnano := BitVec.ofNat 32 subnanoB24 &&& 0x00FFFFFF#32
  Function.update (Function.update cells
    mms1MacTi (BitVec.ofNat 32 (subnanoB24 >>> 24) &&& 0xFF#32))
    mms1MacTisubn (((subnano &&& 0xFFFF00#32) >>> 8) ||| ((subnano &&& 0x0000FF#32) <<< 24))

/-- The calls, one after the other. -/
def adjfineAll {World : Type} (bus : Bus World) :
    List Int → PtpDevice World → Option (PtpDevice World)
  | [], ptpdev => some ptpdev
  | scaledPpm :: rest, ptpdev =>
      (lan865xPtpAdjfine bus scaledPpm ptpdev).bind fun done => adjfineAll bus rest done.2

/-- The device as `ptp_device_init` leaves it. -/
def initPtpDevice (cells : Nat → BitVec 32) : PtpDevice Storage :=
  ⟨false, ticksScale * 2 ^ 24, ⟨cells, []⟩⟩

theorem ticks_nominal : ticksScale * 2 ^ 24 = 671088640 := by decide

theorem ticks_unit : ticksScale * 2 ^ 8 = 10240 := by decide

/-- The magnitude of a change, which is subtracted for a negative rate. -/
theorem increment_cases (scaledPpm : Int) :
    increment scaledPpm = (ticksScale * 2 ^ 24 : Nat) +
      if scaledPpm < 0 then -((ticksScale * 2 ^ 8 * scaledPpm.natAbs / 1000000 : Nat) : Int)
      else (ticksScale * 2 ^ 8 * scaledPpm.natAbs / 1000000 : Nat) := by
  rcases Int.lt_trichotomy scaledPpm 0 with negative | rfl | positive
  · rw [increment, Int.sign_eq_neg_one_of_neg negative, if_pos negative, Int.neg_one_mul]
  · rfl
  · rw [increment, Int.sign_eq_one_of_pos positive, if_neg (Int.not_lt.mpr (Int.le_of_lt positive)),
      Int.one_mul]

theorem increment_fits {scaledPpm : Int} (bounded : scaledPpm.natAbs ≤ adjfineLimit) :
    ticksScale * 2 ^ 8 * scaledPpm.natAbs < 2 ^ 64 ∧ 0 ≤ increment scaledPpm ∧
      increment scaledPpm < 2 ^ 32 := by
  have limit : adjfineLimit = 1638400000 := by decide
  rw [increment_cases, ticks_nominal, ticks_unit]
  split <;> omega

theorem increment_mono {scaledPpm faster : Int} (le : scaledPpm ≤ faster) :
    increment scaledPpm ≤ increment faster := by
  rw [increment_cases, increment_cases, ticks_nominal, ticks_unit]
  split <;> split <;> omega

theorem fraction_masks : ∀ i < 32,
    (0x00FFFFFF#32).getLsbD i = decide (i < 24) ∧
    (0x00FFFF00#32).getLsbD i = (decide (8 ≤ i) && decide (i < 24)) ∧
    (0x000000FF#32).getLsbD i = decide (i < 8) := by decide

/-- The fields of both registers put together again. -/
theorem ti_fields (word : BitVec 32) :
    let subnano := word &&& 0x00FFFFFF#32
    let fraction := ((subnano &&& 0xFFFF00#32) >>> 8) ||| ((subnano &&& 0x0000FF#32) <<< 24)
    (((word >>> 24) &&& 0xFF#32).extractLsb' 0 8 ++ fraction.extractLsb' 0 16 ++
      fraction.extractLsb' 24 8 : BitVec 32) = word := by
  apply BitVec.eq_of_getLsbD_eq
  intro i inside
  simp only [BitVec.getLsbD_append, BitVec.getLsbD_extractLsb', BitVec.getLsbD_or,
    BitVec.getLsbD_and, BitVec.getLsbD_ushiftRight, BitVec.getLsbD_shiftLeft]
  -- The bit comes from the upper end of TISUBN, from its lower half, or from TI.
  by_cases low : i < 8
  · have masks := fraction_masks i (by omega)
    have beyond : word.getLsbD (8 + (24 + i)) = false := BitVec.getLsbD_of_ge _ _ (by omega)
    simp [low, masks, beyond, show i < 24 by omega, show 24 + i < 32 by omega]
  · by_cases middle : i - 8 < 16
    · have masks := fraction_masks (8 + (i - 8)) (by omega)
      have at' : 8 + (i - 8) = i := by omega
      rw [at'] at masks
      simp [low, middle, at', masks, show i < 24 by omega, show 8 ≤ i by omega]
      omega
    · have masks := fraction_masks (i - 8 - 16) (by omega)
      have at' : 24 + (i - 8 - 16) = i := by omega
      simp [low, middle, at', masks, show i - 8 - 16 < 8 by omega]

theorem ti_decoded (cells : Nat → BitVec 32) (subnanoB24 : Nat) (small : subnanoB24 < 2 ^ 32) :
    tiDecoded (tiCells cells subnanoB24) = subnanoB24 := by
  have shifted : BitVec.ofNat 32 (subnanoB24 >>> 24) = BitVec.ofNat 32 subnanoB24 >>> 24 := by
    apply BitVec.eq_of_toNat_eq
    simp only [BitVec.toNat_ushiftRight, BitVec.toNat_ofNat, Nat.shiftRight_eq_div_pow]
    omega
  have whole : tiCells cells subnanoB24 mms1MacTi =
      (BitVec.ofNat 32 subnanoB24 >>> 24) &&& 0xFF#32 := by
    simp [tiCells, mms1MacTi, mms1MacTisubn, shifted]
  have fraction : tiCells cells subnanoB24 mms1MacTisubn =
      (((BitVec.ofNat 32 subnanoB24 &&& 0x00FFFFFF#32) &&& 0xFFFF00#32) >>> 8) |||
        (((BitVec.ofNat 32 subnanoB24 &&& 0x00FFFFFF#32) &&& 0x0000FF#32) <<< 24) := by
    simp [tiCells]
  rw [tiDecoded, whole, fraction, ti_fields, BitVec.toNat_ofNat, Nat.mod_eq_of_lt small]

theorem adjfine_stored (cells : Nat → BitVec 32) (ti : Nat) {scaledPpm : Int}
    (bounded : scaledPpm.natAbs ≤ adjfineLimit) (moves : scaledPpm ≠ 0) :
    lan865xPtpAdjfine storageBus scaledPpm ⟨false, ti, ⟨cells, []⟩⟩ =
      some (⟨0, none⟩, ⟨false, (increment scaledPpm).toNat,
        ⟨tiCells cells (increment scaledPpm).toNat, []⟩⟩) := by
  obtain ⟨_, nonneg, small⟩ := increment_fits bounded
  have ticks : toU64 ((ticksScale * 2 ^ 24 : Nat) +
      if scaledPpm < 0 then -((ticksScale * 2 ^ 8 * scaledPpm.natAbs / 1000000 : Nat) : Int)
      else (ticksScale * 2 ^ 8 * scaledPpm.natAbs / 1000000 : Nat)) =
        (increment scaledPpm).toNat := by
    rw [← increment_cases]
    simp only [toU64]
    omega
  have whole : (increment scaledPpm).toNat % 2 ^ 32 = (increment scaledPpm).toNat :=
    Nat.mod_eq_of_lt (by omega)
  have programmed (subnanoB24 : Nat) :
      lan865xSetSysClockTi storageBus subnanoB24 ⟨cells, []⟩ =
        ((), ⟨tiCells cells subnanoB24, []⟩) := rfl
  simp only [lan865xPtpAdjfine, spinLock, spinUnlock, Bool.false_eq_true, if_false, if_neg moves,
    Option.bind_eq_bind, Option.bind_some, ticks, whole, programmed, Option.pure_def]

theorem adjfine_still (bus : Bus Storage) (ti : Nat) (storage : Storage) :
    lan865xPtpAdjfine bus 0 ⟨false, ti, storage⟩ = some (⟨0, none⟩, ⟨false, ti, storage⟩) := by
  simp [lan865xPtpAdjfine, spinLock, spinUnlock]

/-- The last rate that was programmed. -/
def lastMove : List Int → Option Int
  | [] => none
  | scaledPpm :: rest => (lastMove rest).or (if scaledPpm = 0 then none else some scaledPpm)

theorem last_move_append (calls : List Int) (last : Int) :
    lastMove (calls ++ [last]) = if last = 0 then lastMove calls else some last := by
  induction calls with
  | nil => simp [lastMove]
  | cons scaledPpm rest ih =>
      rw [List.cons_append, lastMove, lastMove, ih]
      split <;> rfl

/-- What is programmed after the calls, and what the device remembers of it. -/
theorem adjfine_run (calls : List Int) (cells : Nat → BitVec 32) (ti : Nat)
    (bounded : ∀ scaledPpm ∈ calls, scaledPpm.natAbs ≤ adjfineLimit) :
    ∃ after, adjfineAll storageBus calls ⟨false, ti, ⟨cells, []⟩⟩ = some after ∧
      (tiDecoded after.world.cells : Int) =
        ((lastMove calls).map increment).getD (tiDecoded cells) ∧
      (after.tiSubnanoB24 : Int) = ((lastMove calls).map increment).getD ti := by
  induction calls generalizing cells ti with
  | nil => exact ⟨_, rfl, rfl, rfl⟩
  | cons scaledPpm rest ih =>
      obtain ⟨here, later⟩ := List.forall_mem_cons.mp bounded
      by_cases still : scaledPpm = 0
      · obtain ⟨after, ran, decoded, remembered⟩ := ih cells ti later
        refine ⟨after, ?_, ?_, ?_⟩
        · simp [adjfineAll, still, adjfine_still, ran]
        · simp [lastMove, still, decoded]
        · simp [lastMove, still, remembered]
      · obtain ⟨_, nonneg, small⟩ := increment_fits here
        obtain ⟨after, ran, decoded, remembered⟩ :=
          ih (tiCells cells (increment scaledPpm).toNat) (increment scaledPpm).toNat later
        rw [ti_decoded _ _ (by omega), Int.toNat_of_nonneg nonneg] at decoded
        rw [Int.toNat_of_nonneg nonneg] at remembered
        refine ⟨after, ?_, ?_, ?_⟩
        · rw [adjfineAll, adjfine_stored cells ti here still, Option.bind_some, ran]
        · rw [decoded]
          cases move : lastMove rest <;> simp [lastMove, still, move]
        · rw [remembered]
          cases move : lastMove rest <;> simp [lastMove, still, move]

/-- The last call programs its rate, or what is programmed already is the nominal one. -/
def RateProgrammed (cells : Nat → BitVec 32) (calls : List Int) (last : Int) : Prop :=
  last ≠ 0 ∨ match lastMove calls with
    | none => tiDecoded cells = ticksScale * 2 ^ 24
    | some scaledPpm => ticksScale * 2 ^ 8 * scaledPpm.natAbs < 1000000

theorem increment_nominal_iff (scaledPpm : Int) :
    increment scaledPpm = (ticksScale * 2 ^ 24 : Nat) ↔
      ticksScale * 2 ^ 8 * scaledPpm.natAbs < 1000000 := by
  rw [increment_cases, ticks_nominal, ticks_unit]
  split <;> omega

theorem adjfine_run_iff (cells : Nat → BitVec 32) (calls : List Int) (last : Int)
    (bounded : ∀ scaledPpm ∈ calls ++ [last], scaledPpm.natAbs ≤ adjfineLimit) :
    (∃ after, adjfineAll storageBus (calls ++ [last]) (initPtpDevice cells) = some after ∧
      (tiDecoded after.world.cells : Int) = increment last ∧
      (after.tiSubnanoB24 : Int) = increment last) ↔ RateProgrammed cells calls last := by
  obtain ⟨after, ran, decoded, remembered⟩ :=
    adjfine_run (calls ++ [last]) cells (ticksScale * 2 ^ 24) bounded
  rw [initPtpDevice, ran]
  simp only [Option.some.injEq, exists_eq_left', decoded, remembered, last_move_append]
  by_cases still : last = 0
  · subst still
    have nominal : increment 0 = (ticksScale * 2 ^ 24 : Nat) := by
      rw [increment_nominal_iff]
      decide
    rw [if_pos rfl, RateProgrammed, nominal]
    cases move : lastMove calls with
    | none =>
        simp only [Option.map_none, Option.getD_none, and_true, Int.ofNat_inj, ne_eq, not_true,
          false_or]
    | some scaledPpm =>
        simp only [Option.map_some, Option.getD_some, and_self, increment_nominal_iff, ne_eq,
          not_true, false_or]
  · have moved : RateProgrammed cells calls last := .inl still
    simp [still, moved]

/-- The rate is absolute and exact once a last call programs it; it grows with the
argument, and nothing on the way to it overflows. -/
theorem adjfine_absolute_iff (cells : Nat → BitVec 32) (calls : List Int) (last : Int)
    (bounded : ∀ scaledPpm ∈ calls ++ [last], scaledPpm.natAbs ≤ adjfineLimit) :
    ((∃ after, adjfineAll storageBus (calls ++ [last]) (initPtpDevice cells) = some after ∧
      (tiDecoded after.world.cells : Int) = increment last ∧
      (after.tiSubnanoB24 : Int) = increment last) ↔ RateProgrammed cells calls last) ∧
    (∀ faster, last ≤ faster → increment last ≤ increment faster) ∧
    ∀ scaledPpm ∈ calls ++ [last], ticksScale * 2 ^ 8 * scaledPpm.natAbs < 2 ^ 64 ∧
      0 ≤ increment scaledPpm ∧ increment scaledPpm < 2 ^ 32 := by
  refine ⟨adjfine_run_iff cells calls last bounded, ?_, ?_⟩
  · intro faster le
    exact increment_mono le
  · intro scaledPpm member
    exact increment_fits (bounded scaledPpm member)

section Samples

/-- Back to the nominal rate after 1 ppm: the faster one stays programmed. -/
theorem adjfine_zero_kept :
    ¬ ∀ (cells : Nat → BitVec 32) (calls : List Int) (last : Int),
      (∀ scaledPpm ∈ calls ++ [last], scaledPpm.natAbs ≤ adjfineLimit) →
      ∃ after, adjfineAll storageBus (calls ++ [last]) (initPtpDevice cells) = some after ∧
        (tiDecoded after.world.cells : Int) = increment last ∧
        (after.tiSubnanoB24 : Int) = increment last := by
  intro claimed
  obtain ⟨after, ran, _, remembered⟩ := claimed (fun _ => 0#32) [65536] 0 (by decide)
  obtain rfl := Option.some.inj ran
  exact absurd remembered (by decide)

theorem adjfine_sample :
    ((∃ after, adjfineAll storageBus [65536, 0, -655360] (initPtpDevice fun _ => 0#32) =
      some after ∧ (tiDecoded after.world.cells : Int) = increment (-655360) ∧
      (after.tiSubnanoB24 : Int) = increment (-655360)) ↔
        RateProgrammed (fun _ => 0#32) [65536, 0] (-655360)) ∧
    (∀ faster, -655360 ≤ faster → increment (-655360) ≤ increment faster) ∧
    ∀ scaledPpm ∈ [65536, 0] ++ [(-655360 : Int)],
      ticksScale * 2 ^ 8 * scaledPpm.natAbs < 2 ^ 64 ∧
      0 ≤ increment scaledPpm ∧ increment scaledPpm < 2 ^ 32 :=
  adjfine_absolute_iff (fun _ => 0#32) [65536, 0] (-655360) (by decide)

end Samples

end Lan865x.OaTc6
