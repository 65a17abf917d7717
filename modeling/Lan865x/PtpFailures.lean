import Lan865x.ControlCommand
import Lan865x.PtpClock
import Lan865x.PtpThread

/-!
Failed register accesses under the clock operations and under the PTP thread. An
error of `lan865x_get_sys_clock` is a time for its callers, and a register that
the thread could not read counts as what its variable held.
-/

namespace Lan865x.OaTc6
open RegisterBus

variable {World : Type}

def mms0OaStatus0 : Nat := 0x00000008

/-- `reg_hi` and `reg_lo`, by timestamp id. -/
def regHi : List Nat := [0, 0x10, 0x12, 0x14]
def regLo : List Nat := [0, 0x11, 0x13, 0x15]

/-- A register is read into a variable, whose value stays if the read fails. -/
def readInto (bus : Bus World) (address : Nat) (old : BitVec 32) : StateM World (BitVec 32) := do
  match ← bus.read address with
  | .ok value => return value
  | .error _ => return old

def lan865xReadTxTimestamp (bus : Bus World) (txId : Int) : StateM World Nat := do
  let hi := regHi.getD txId.toNat 0
  let lo := regLo.getD txId.toNat 0
  if txId < 0 ∨ (regHi.length : Int) ≤ txId ∨ hi = 0 ∨ lo = 0 then return toU64 (-einval)
  let tsH ← readInto bus hi 0#32
  let tsL ← readInto bus lo 0#32
  return tsH.toNat * nsIn1s + tsL.toNat

/-- The timestamps reported for an id in one round. -/
def reportTimestamp (bus : Bus World) (status : BitVec 32) (id : Nat) :
    StateM World (List (Nat × Nat)) := do
  if status.getLsbD (stampBit id) then
    let txTs ← lan865xReadTxTimestamp bus id
    return [(id, txTs)]
  else return []

/-- One round of `lan865x_ptp_thread_handler`, and what `status` holds before it. -/
def ptpThreadRound (bus : Bus World) (status : BitVec 32) : StateM World (List (Nat × Nat)) := do
  let status ← readInto bus mms0OaStatus0 status
  let gptp ← reportTimestamp bus status timestampIdGptp
  let normal ← reportTimestamp bus status timestampIdNormal
  if status.getLsbD (stampBit timestampIdReserved) then
    let _ ← lan865xReadTxTimestamp bus timestampIdReserved
  if status.getLsbD (stampBit timestampIdGptp) || status.getLsbD (stampBit timestampIdNormal) ||
      status.getLsbD (stampBit timestampIdReserved) then
    let _ ← bus.write mms0OaStatus0 status
  return gptp ++ normal

/-- The answers to the accesses of a round, the accesses, and what it reported. -/
structure RoundRecord where
  answers : Nat → Answer
  accesses : List Access
  reports : List (Nat × Nat)

/-- The rounds of the thread; `status` is not initialised, and 0 after each round. -/
def ptpThread (status : BitVec 32) : List (Nat → Answer) → List RoundRecord
  | [] => []
  | answers :: rest =>
      let (reports, world) := ptpThreadRound scriptBus status ⟨answers, []⟩
      ⟨answers, world.accesses, reports⟩ :: ptpThread 0#32 rest

/-- The access of a step, in a round that found `status`. -/
def PtpStep.access (status : BitVec 32) : PtpStep → Option Access
  | .high id => some (.read (regHi.getD id 0))
  | .low id => some (.read (regLo.getD id 0))
  | .report _ => none
  | .writeBack => some (.write mms0OaStatus0 status)

def foundStatus (status : BitVec 32) (answers : Nat → Answer) : BitVec 32 :=
  if (answers 0).ret = 0 then (answers 0).value else status

theorem read_into (answers : Nat → Answer) (accesses : List Access) (address : Nat)
    (old : BitVec 32) :
    readInto scriptBus address old ⟨answers, accesses⟩ =
      (if (answers accesses.length).ret = 0 then (answers accesses.length).value else old,
        ⟨answers, accesses ++ [.read address]⟩) := by
  by_cases fine : (answers accesses.length).ret = 0 <;> simp [readInto, fine]

/-- What is made of the answers to the reads of both halves; a failed read counts as 0. -/
def stampFound (answers : Nat → Answer) (first : Nat) : Nat :=
  (foundStatus 0#32 fun _ => answers first).toNat * nsIn1s +
    (foundStatus 0#32 fun _ => answers (first + 1)).toNat

theorem read_tx_timestamp (answers : Nat → Answer) (accesses : List Access) (id : Nat)
    (known : id = timestampIdGptp ∨ id = timestampIdNormal ∨ id = timestampIdReserved) :
    lan865xReadTxTimestamp scriptBus id ⟨answers, accesses⟩ =
      (stampFound answers accesses.length,
        ⟨answers, accesses ++ [.read (regHi.getD id 0), .read (regLo.getD id 0)]⟩) := by
  rcases known with rfl | rfl | rfl <;>
    simp [lan865xReadTxTimestamp, read_into, stampFound, foundStatus, timestampIdGptp,
      timestampIdNormal, timestampIdReserved, regHi, regLo]

/-- A round makes the accesses of its steps, after that to STATUS0, and reports what
the reads of each half found. -/
theorem thread_round (status : BitVec 32) (answers : Nat → Answer) :
    let word := foundStatus status answers
    let gptp := word.getLsbD (stampBit timestampIdGptp)
    ptpThreadRound scriptBus status ⟨answers, []⟩ =
      ((if gptp then [(timestampIdGptp, stampFound answers 1)] else []) ++
        (if word.getLsbD (stampBit timestampIdNormal) then
          [(timestampIdNormal, stampFound answers (if gptp then 3 else 1))] else []),
        ⟨answers, .read mms0OaStatus0 :: (ptpRound word).filterMap (PtpStep.access word)⟩) := by
  have found : readInto scriptBus mms0OaStatus0 status ⟨answers, []⟩ =
      (foundStatus status answers, ⟨answers, [.read mms0OaStatus0]⟩) :=
    read_into answers [] mms0OaStatus0 status
  simp only [ptpThreadRound, bind_run, found, reportTimestamp]
  generalize foundStatus status answers = word
  cases gptp : word.getLsbD (stampBit timestampIdGptp) <;>
    cases normal : word.getLsbD (stampBit timestampIdNormal) <;>
    cases reserved : word.getLsbD (stampBit timestampIdReserved) <;>
    simp [ptpRound, ifStamp, gptp, normal, reserved, read_tx_timestamp, PtpStep.access,
      List.filterMap_cons]

/-- A round that acts on nothing it could not read. -/
@[mk_iff clean_round_fields]
structure CleanRound (record : RoundRecord) : Prop where
  status : (record.answers 0).ret ≠ 0 → record.accesses.length = 1 ∧ record.reports = []
  halves : ∀ report ∈ record.reports, ∀ made ∈ record.accesses.zipIdx,
    (made.1 = .read (regHi.getD report.1 0) ∨ made.1 = .read (regLo.getD report.1 0)) →
      (record.answers made.2).ret = 0

def noStamp (word : BitVec 32) : Prop := ∀ id ∈ [timestampIdGptp, timestampIdNormal,
  timestampIdReserved], word.getLsbD (stampBit id) = false

/-- STATUS0 is read, and so is each timestamp that it announces for a waiting frame; or it
is not read, and what `status` held before announces none. -/
def RoundAnswered (status : BitVec 32) (answers : Nat → Answer) : Prop :=
  if (answers 0).ret = 0 then
    let gptp := (answers 0).value.getLsbD (stampBit timestampIdGptp)
    let normal := (answers 0).value.getLsbD (stampBit timestampIdNormal)
    (gptp → (answers 1).ret = 0 ∧ (answers 2).ret = 0) ∧
      (normal → (answers (if gptp then 3 else 1)).ret = 0 ∧
        (answers (if gptp then 4 else 2)).ret = 0)
  else noStamp status

theorem clean_round_iff (status : BitVec 32) (answers : Nat → Answer) :
    CleanRound ⟨answers, (ptpThreadRound scriptBus status ⟨answers, []⟩).2.accesses,
      (ptpThreadRound scriptBus status ⟨answers, []⟩).1⟩ ↔ RoundAnswered status answers := by
  rw [thread_round]
  by_cases read : (answers 0).ret = 0
  · have found : foundStatus status answers = (answers 0).value := if_pos read
    simp only [found, RoundAnswered, if_pos read]
    generalize (answers 0).value = word
    cases gptp : word.getLsbD (stampBit timestampIdGptp) <;>
      cases normal : word.getLsbD (stampBit timestampIdNormal) <;>
      cases reserved : word.getLsbD (stampBit timestampIdReserved) <;>
      simp [ptpRound, ifStamp, gptp, normal, reserved, PtpStep.access,
        clean_round_fields, read]
    -- What is left is that the registers of the three ids are different ones.
    all_goals
      simp [regHi, regLo, timestampIdGptp, timestampIdNormal, timestampIdReserved, and_assoc]
  · have found : foundStatus status answers = status := if_neg read
    simp only [found, RoundAnswered, if_neg read]
    cases gptp : status.getLsbD (stampBit timestampIdGptp) <;>
      cases normal : status.getLsbD (stampBit timestampIdNormal) <;>
      cases reserved : status.getLsbD (stampBit timestampIdReserved) <;>
      simp [ptpRound, ifStamp, gptp, normal, reserved, PtpStep.access,
        clean_round_fields, noStamp, read]

/-- The accesses whose result a call uses: the clock is read and set. The clock that
`adjtime` reads again is for a debug message only. -/
def PtpCall.depends : PtpCall → Nat
  | .adjfine _ => 0
  | .adjtime deltaNs => if deltaNs = 0 then 0 else 6
  | .gettimex64 | .settime64 _ _ => 3

/-- What a call that fails cleanly does with the accesses that failed. -/
structure CleanCall (call : PtpCall) (reply : PtpReply) (script : Script) : Prop where
  returns : ∀ made ∈ script.accesses.zipIdx, made.2 < call.depends →
    (script.answers made.2).ret ≠ 0 → reply.ret < 0
  writes : ∀ read ∈ script.accesses.zipIdx, ∀ write ∈ script.accesses.zipIdx,
    read.2 < write.2 → (∃ address, read.1 = .read address) →
      (script.answers read.2).ret ≠ 0 → ∀ address value, write.1 ≠ .write address value
  time : ∀ made ∈ script.accesses.zipIdx, (script.answers made.2).ret ≠ 0 → reply.time = none

/-- What every call does: it makes all accesses it depends on unless one of them fails, and
only reads after those, or nothing if it reports a time. -/
structure Makes (call : PtpCall) (reply : PtpReply) (script : Script) : Prop where
  ret : reply.ret = 0
  all : (∀ access < script.accesses.length, access < call.depends →
    (script.answers access).ret = 0) → call.depends ≤ script.accesses.length
  reads : ∀ made ∈ script.accesses.drop call.depends, ∃ address, made = .read address
  time : reply.time = none ∨ script.accesses.length ≤ call.depends

/-- A call whose reply is 0 anyway is clean if and only if nothing it depends on fails. -/
theorem Makes.clean_iff {call : PtpCall} {reply : PtpReply} {script : Script}
    (makes : Makes call reply script) :
    CleanCall call reply script ↔ ∀ access < call.depends, (script.answers access).ret = 0 := by
  constructor
  · intro clean
    have answered : ∀ access < script.accesses.length, access < call.depends →
        (script.answers access).ret = 0 := by
      intro access made used
      by_contra failed
      have known : (script.accesses[access], access) ∈ script.accesses.zipIdx :=
        List.mem_zipIdx_iff_getElem?.mpr (List.getElem?_eq_getElem made)
      have negative := clean.returns _ known used failed
      exact absurd makes.ret (Int.ne_of_lt negative)
    exact fun access used => answered access (by have := makes.all answered; omega) used
  · intro answered
    constructor
    · intro made _ used failed
      exact absurd (answered _ used) failed
    · intro read _ write known later _ failed address value same
      have late : call.depends ≤ read.2 := by
        by_contra early
        exact failed (answered _ (by omega))
      obtain ⟨inside, there⟩ :=
        List.getElem?_eq_some_iff.mp (List.mem_zipIdx_iff_getElem?.mp known)
      have after : write.1 ∈ script.accesses.drop call.depends := by
        rw [← there, List.mem_drop_iff_getElem]
        refine ⟨write.2 - call.depends, by omega, ?_⟩
        congr 1
        omega
      obtain ⟨other, one⟩ := makes.reads _ after
      exact Access.noConfusion (same.symm.trans one)
    · intro made known failed
      refine makes.time.resolve_right fun short => failed (answered _ ?_)
      obtain ⟨inside, _⟩ :=
        List.getElem?_eq_some_iff.mp (List.mem_zipIdx_iff_getElem?.mp known)
      omega

def clockReads : List Access := [.read mms1MacTn, .read mms1MacTsl, .read mms1MacTsh]

def clockWrites (timestamp : Nat) : List Access :=
  let sec := timestamp / nsIn1s
  [.write mms1MacTn (BitVec.ofNat 32 (timestamp % nsIn1s) &&& 0x3FFFFFFF#32),
    .write mms1MacTsl (BitVec.ofNat 32 sec),
    .write mms1MacTsh (BitVec.ofNat 32 (sec >>> 32) &&& 0x0000FFFF#32)]

/-- From this access on, so many are made: all three, or up to the first that fails. -/
def StopsAt (answers : Nat → Answer) (first count : Nat) : Prop :=
  (count = 1 ∧ (answers first).ret ≠ 0) ∨ (count = 2 ∧ (answers (first + 1)).ret ≠ 0) ∨ count = 3

theorem get_scripted_clock (answers : Nat → Answer) (accesses : List Access) :
    ∃ time count, StopsAt answers accesses.length count ∧
      lan865xGetSysClock scriptBus ⟨answers, accesses⟩ =
        (time, ⟨answers, accesses ++ clockReads.take count⟩) := by
  by_cases first : (answers accesses.length).ret = 0
  · by_cases second : (answers (accesses.length + 1)).ret = 0
    · refine ⟨_, 3, .inr (.inr rfl), Prod.ext rfl ?_⟩
      by_cases third : (answers (accesses.length + 2)).ret = 0 <;>
        simp [lan865xGetSysClock, clockReads, first, second, third]
    · refine ⟨_, 2, .inr (.inl ⟨rfl, second⟩), Prod.ext rfl ?_⟩
      simp [lan865xGetSysClock, clockReads, first, second]
  · refine ⟨_, 1, .inl ⟨rfl, first⟩, Prod.ext rfl ?_⟩
    simp [lan865xGetSysClock, clockReads, first]

theorem set_scripted_clock (answers : Nat → Answer) (accesses : List Access) (timestamp : Nat) :
    ∃ ret count, StopsAt answers accesses.length count ∧
      lan865xSetSysClock scriptBus timestamp ⟨answers, accesses⟩ =
        (ret, ⟨answers, accesses ++ (clockWrites timestamp).take count⟩) := by
  by_cases first : (answers accesses.length).ret = 0
  · by_cases second : (answers (accesses.length + 1)).ret = 0
    · refine ⟨_, 3, .inr (.inr rfl), Prod.ext rfl ?_⟩
      by_cases third : (answers (accesses.length + 2)).ret = 0 <;>
        simp [lan865xSetSysClock, clockWrites, first, second, third]
    · refine ⟨_, 2, .inr (.inl ⟨rfl, second⟩), Prod.ext rfl ?_⟩
      simp [lan865xSetSysClock, clockWrites, first, second]
  · refine ⟨_, 1, .inl ⟨rfl, first⟩, Prod.ext rfl ?_⟩
    simp [lan865xSetSysClock, clockWrites, first]

/-- All three are made, if those made have succeeded. -/
theorem StopsAt.all_made {answers : Nat → Answer} {first count : Nat}
    (stops : StopsAt answers first count)
    (fine : ∀ access, first ≤ access → access < first + count → (answers access).ret = 0) :
    count = 3 := by
  rcases stops with ⟨rfl, failed⟩ | ⟨rfl, failed⟩ | whole
  · exact absurd (fine first (by omega) (by omega)) failed
  · exact absurd (fine (first + 1) (by omega) (by omega)) failed
  · exact whole

theorem StopsAt.within {answers : Nat → Answer} {first count : Nat}
    (stops : StopsAt answers first count) : count ≤ 3 := by
  rcases stops with ⟨rfl, _⟩ | ⟨rfl, _⟩ | rfl <;> decide

/-- A call that makes no other accesses than these three. -/
theorem StopsAt.makes {call : PtpCall} {reply : PtpReply} {answers : Nat → Answer} {count : Nat}
    (stops : StopsAt answers 0 count) (made : List Access) (three : made.length = 3)
    (depends : call.depends = 3) (success : reply.ret = 0) :
    Makes call reply ⟨answers, made.take count⟩ := by
  have within := stops.within
  have length : (made.take count).length = count := by
    rw [List.length_take, three, Nat.min_eq_left within]
  refine ⟨success, ?_, ?_, .inr ?_⟩
  · intro fine
    simp only [length, depends] at fine ⊢
    exact (stops.all_made fun access _ before => fine access (by omega) (by omega)).ge
  · intro access late
    rw [depends, List.drop_eq_nil_of_le (length.trans_le within)] at late
    exact absurd late List.not_mem_nil
  · exact (length.trans_le within).trans_eq depends.symm

theorem gettimex64_makes (answers : Nat → Answer) (ti : Nat) :
    ∃ reply after, lan865xPtpGettimex64 scriptBus ⟨false, ti, ⟨answers, []⟩⟩ =
      some (reply, after) ∧ after.world.answers = answers ∧
        Makes .gettimex64 reply after.world := by
  obtain ⟨time, count, stops, read⟩ := get_scripted_clock answers []
  have ran : lan865xPtpGettimex64 scriptBus ⟨false, ti, ⟨answers, []⟩⟩ =
      some (⟨0, some (time / nsIn1s, time % nsIn1s)⟩,
        ⟨false, ti, ⟨answers, clockReads.take count⟩⟩) := by
    simp [lan865xPtpGettimex64, spinLock, spinUnlock, read]
  exact ⟨_, _, ran, rfl, stops.makes clockReads rfl rfl rfl⟩

theorem settime64_makes (answers : Nat → Answer) (ti : Nat) (tvSec tvNsec : Int) :
    ∃ reply after, lan865xPtpSettime64 scriptBus tvSec tvNsec ⟨false, ti, ⟨answers, []⟩⟩ =
      some (reply, after) ∧ after.world.answers = answers ∧
        Makes (.settime64 tvSec tvNsec) reply after.world := by
  obtain ⟨ret, count, stops, wrote⟩ :=
    set_scripted_clock answers [] (toU64 (tvSec * nsIn1s + tvNsec))
  have ran : lan865xPtpSettime64 scriptBus tvSec tvNsec ⟨false, ti, ⟨answers, []⟩⟩ =
      some (⟨0, none⟩, ⟨false, ti, ⟨answers,
        (clockWrites (toU64 (tvSec * nsIn1s + tvNsec))).take count⟩⟩) := by
    simp [lan865xPtpSettime64, spinLock, spinUnlock, wrote]
  exact ⟨_, _, ran, rfl, stops.makes (clockWrites _) rfl rfl rfl⟩

/-- The clock is read, set, and read again for the debug message. -/
theorem adjtime_run (answers : Nat → Answer) (ti : Nat) (deltaNs : Int) (moves : deltaNs ≠ 0) :
    ∃ timestamp count writes checks, StopsAt answers 0 count ∧ StopsAt answers count writes ∧
      lan865xPtpAdjtime scriptBus deltaNs ⟨false, ti, ⟨answers, []⟩⟩ =
        some (⟨0, none⟩, ⟨false, ti, ⟨answers, clockReads.take count ++
          (clockWrites timestamp).take writes ++ clockReads.take checks⟩⟩) := by
  obtain ⟨time, count, stops, read⟩ := get_scripted_clock answers []
  obtain ⟨ret, writes, goes, wrote⟩ := set_scripted_clock answers
    (clockReads.take count) (toU64 (time + deltaNs))
  obtain ⟨again, checks, _, reread⟩ := get_scripted_clock answers
    (clockReads.take count ++ (clockWrites (toU64 (time + deltaNs))).take writes)
  have first : (clockReads.take count).length = count := by simp [clockReads, stops.within]
  rw [first] at goes
  refine ⟨toU64 (time + deltaNs), count, writes, checks, stops, goes, ?_⟩
  rw [List.nil_append] at read
  simp [lan865xPtpAdjtime, spinLock, spinUnlock, moves, read, wrote, reread]

theorem adjtime_makes (answers : Nat → Answer) (ti : Nat) (deltaNs : Int) :
    ∃ reply after, lan865xPtpAdjtime scriptBus deltaNs ⟨false, ti, ⟨answers, []⟩⟩ =
      some (reply, after) ∧ after.world.answers = answers ∧
        Makes (.adjtime deltaNs) reply after.world := by
  by_cases still : deltaNs = 0
  · refine ⟨⟨0, none⟩, ⟨true, ti, ⟨answers, []⟩⟩, ?_, rfl, rfl, ?_, ?_, .inl rfl⟩
    · simp [lan865xPtpAdjtime, spinLock, still]
    · simp [PtpCall.depends, still]
    · simp
  · obtain ⟨timestamp, count, writes, checks, stops, goes, ran⟩ :=
      adjtime_run answers ti deltaNs still
    have reads := stops.within
    have stores := goes.within
    have first : (clockReads.take count).length = count := by simp [clockReads, reads]
    have second : ((clockWrites timestamp).take writes).length = writes := by
      simp [clockWrites, stores]
    refine ⟨_, _, ran, rfl, rfl, ?_, ?_, .inl rfl⟩
    · intro fine
      simp only [List.length_append, first, second, PtpCall.depends, if_neg still] at fine ⊢
      have got : count = 3 :=
        stops.all_made fun access _ before => fine access (by omega) (by omega)
      have set' : writes = 3 :=
        goes.all_made fun access _ before => fine access (by omega) (by omega)
      omega
    · intro made late
      have front : (clockReads.take count ++ (clockWrites timestamp).take writes).length ≤ 6 := by
        rw [List.length_append, first, second]
        omega
      simp only [PtpCall.depends, if_neg still] at late
      rw [List.drop_append, List.drop_eq_nil_of_le front, List.nil_append] at late
      have known : made ∈ clockReads := List.mem_of_mem_take (List.mem_of_mem_drop late)
      simp only [clockReads, List.mem_cons, List.not_mem_nil, or_false] at known
      rcases known with rfl | rfl | rfl <;> exact ⟨_, rfl⟩

/-- The calls that the clock is read or set by. -/
theorem ptp_call_makes (answers : Nat → Answer) (ti : Nat) (call : PtpCall)
    (timed : ∀ scaledPpm, call ≠ .adjfine scaledPpm) :
    ∃ reply after, call.run scriptBus ⟨false, ti, ⟨answers, []⟩⟩ = some (reply, after) ∧
      after.world.answers = answers ∧ Makes call reply after.world := by
  cases call with
  | adjfine scaledPpm => exact absurd rfl (timed scaledPpm)
  | adjtime deltaNs => exact adjtime_makes answers ti deltaNs
  | gettimex64 => exact gettimex64_makes answers ti
  | settime64 tvSec tvNsec => exact settime64_makes answers ti tvSec tvNsec

theorem ptp_call_clean_iff (answers : Nat → Answer) (ti : Nat) (call : PtpCall)
    (timed : ∀ scaledPpm, call ≠ .adjfine scaledPpm) :
    (∃ reply after, call.run scriptBus ⟨false, ti, ⟨answers, []⟩⟩ = some (reply, after) ∧
      CleanCall call reply after.world) ↔
        ∀ access < call.depends, (answers access).ret = 0 := by
  obtain ⟨reply, after, ran, same, makes⟩ := ptp_call_makes answers ti call timed
  have clean := makes.clean_iff
  rw [same] at clean
  rw [ran, ← clean]
  simp

/-- The condition of each round of the thread, which starts with `status` as it is. -/
def RoundsAnswered : BitVec 32 → List (Nat → Answer) → Prop
  | _, [] => True
  | status, answers :: rest => RoundAnswered status answers ∧ RoundsAnswered 0#32 rest

theorem ptp_thread_clean_iff (status : BitVec 32) (rounds : List (Nat → Answer)) :
    (∀ record ∈ ptpThread status rounds, CleanRound record) ↔ RoundsAnswered status rounds := by
  induction rounds generalizing status with
  | nil => simp [ptpThread, RoundsAnswered]
  | cons answers rest ih =>
      have first : ptpThread status (answers :: rest) =
          ⟨answers, (ptpThreadRound scriptBus status ⟨answers, []⟩).2.accesses,
            (ptpThreadRound scriptBus status ⟨answers, []⟩).1⟩ :: ptpThread 0#32 rest := rfl
      rw [first, List.forall_mem_cons, clean_round_iff, ih]
      rfl

theorem ptp_fails_cleanly_iff (answers : Nat → Answer) (ti : Nat) (status : BitVec 32)
    (rounds : List (Nat → Answer)) :
    (∀ call : PtpCall, (∀ scaledPpm, call ≠ .adjfine scaledPpm) →
      ((∃ reply after, call.run scriptBus ⟨false, ti, ⟨answers, []⟩⟩ = some (reply, after) ∧
        CleanCall call reply after.world) ↔
          ∀ access < call.depends, (answers access).ret = 0)) ∧
    ((∀ record ∈ ptpThread status rounds, CleanRound record) ↔
      RoundsAnswered status rounds) := by
  constructor
  · exact ptp_call_clean_iff answers ti
  · exact ptp_thread_clean_iff status rounds

section Samples

/-- The first read fails, and -ENODEV is reported as a time in the year 2554. -/
theorem ptp_error_as_time :
    ¬ ∀ (answers : Nat → Answer) (ti : Nat) (call : PtpCall),
      (∀ scaledPpm, call ≠ .adjfine scaledPpm) →
      ∃ reply after, call.run scriptBus ⟨false, ti, ⟨answers, []⟩⟩ = some (reply, after) ∧
        CleanCall call reply after.world := by
  intro claimed
  obtain ⟨reply, after, ran, clean⟩ := claimed (fun _ => ⟨-5, 0#32⟩) 0 .gettimex64 (by simp)
  have known : PtpCall.gettimex64.run scriptBus ⟨false, 0, ⟨fun _ => ⟨-5, 0#32⟩, []⟩⟩ =
      some (⟨0, some (18446744073, 709551597)⟩,
        ⟨false, 0, ⟨fun _ => ⟨-5, 0#32⟩, [.read mms1MacTn]⟩⟩) := rfl
  obtain ⟨rfl, rfl⟩ := Prod.mk.inj (Option.some.inj (known.symm.trans ran))
  exact absurd (clean.returns (.read mms1MacTn, 0) (by simp) (by decide) (by decide)) (by decide)

end Samples

end Lan865x.OaTc6
