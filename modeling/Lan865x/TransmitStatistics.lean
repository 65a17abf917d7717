import Mathlib.Data.Nat.Bitwise
import Lan865x.RegisterBus

/-!
The transmit statistics of lan865x_arch.c: two registers that are cleared when they
are read, one after the other, while the MAC goes on sending and dropping frames.
-/

namespace Lan865x.OaTc6
open RegisterBus

def mms0Stats11 : Nat := 0x0213
def mms0Stats12 : Nat := 0x0214

/-- The two totals of `struct lan865x_priv`. -/
structure TxTotals where
  totalTxCount : BitVec 64
  totalTxDropCount : BitVec 64
  deriving DecidableEq

section Driver
variable {World : Type} (bus : Bus World)

def lan865xUpdateTxPackets (priv : TxTotals) : StateM World TxTotals := do
  -- Both variables stay 0 where the read fails.
  let txCount := (← bus.read mms0Stats12).toOption.getD 0#32
  let totalTxCount := (← bus.read mms0Stats11).toOption.getD 0#32
  let priv := { priv with totalTxCount := priv.totalTxCount + txCount.setWidth 64 }
  if totalTxCount - txCount > 0#32 then
    return { priv with
      totalTxDropCount := priv.totalTxDropCount + (totalTxCount - txCount).setWidth 64 }
  else return priv

def lan865xGetTxPackets (priv : TxTotals) : StateM World (BitVec 64 × TxTotals) := do
  let priv ← lan865xUpdateTxPackets bus priv
  return (priv.totalTxCount, priv)

def lan865xGetTxDropPackets (priv : TxTotals) : StateM World (BitVec 64 × TxTotals) := do
  let priv ← lan865xUpdateTxPackets bus priv
  return (priv.totalTxDropCount, priv)

end Driver

inductive TxEvent where
  | sent
  | dropped
  deriving DecidableEq

/-- The frames attempted and the frames sent since each register was read. -/
structure TxMac where
  stats11 : BitVec 32
  stats12 : BitVec 32
  deriving DecidableEq

def TxMac.count (mac : TxMac) : TxEvent → TxMac
  | .sent => ⟨mac.stats11 + 1#32, mac.stats12 + 1#32⟩
  | .dropped => ⟨mac.stats11 + 1#32, mac.stats12⟩

def TxMac.after (mac : TxMac) (events : List TxEvent) : TxMac := events.foldl TxMac.count mac

/-- The MAC, and what happens in it before each of the next accesses. -/
structure TxWorld where
  mac : TxMac
  coming : List (List TxEvent)

def TxWorld.wait (world : TxWorld) : TxWorld :=
  ⟨world.mac.after (world.coming.headD []), world.coming.tail⟩

/-- Every access succeeds, and a register is cleared when it is read. -/
def statsBus : Bus TxWorld where
  read address := fun world =>
    let mac := world.wait.mac
    if address = mms0Stats11 then
      (.ok mac.stats11, { world.wait with mac := { mac with stats11 := 0#32 } })
    else if address = mms0Stats12 then
      (.ok mac.stats12, { world.wait with mac := { mac with stats12 := 0#32 } })
    else (.ok 0#32, world.wait)
  write _ _ := fun world => (0, world.wait)

theorem counted_on (stats : BitVec 32) (more : Nat) :
    stats + 1#32 + BitVec.ofNat 32 more = stats + BitVec.ofNat 32 (more + 1) := by
  rw [BitVec.add_assoc, BitVec.ofNat_add, BitVec.add_comm 1#32]

theorem mac_after (mac : TxMac) (events : List TxEvent) :
    mac.after events = ⟨mac.stats11 + BitVec.ofNat 32 events.length,
      mac.stats12 + BitVec.ofNat 32 (events.count .sent)⟩ := by
  induction events generalizing mac with
  | nil => simp [TxMac.after]
  | cons event rest ih =>
      have step : mac.after (event :: rest) = (mac.count event).after rest := rfl
      rw [step, ih]
      cases event with
      | sent => simp [TxMac.count, counted_on]
      | dropped => simp [TxMac.count, counted_on]

/-- The difference has no sign, and the test excludes 0 alone. -/
theorem test_failed (difference : BitVec 32) (failed : ¬ difference > 0#32) :
    difference = 0#32 := by
  apply BitVec.eq_of_toNat_eq
  simp only [gt_iff_lt, BitVec.lt_def, BitVec.toNat_ofNat] at failed
  simp only [BitVec.toNat_ofNat]
  omega

inductive TxQuery where
  | update
  | packets
  | dropPackets
  deriving DecidableEq

/-- The totals that each of the three functions leaves. -/
def TxQuery.call {World : Type} (bus : Bus World) (priv : TxTotals) :
    TxQuery → StateM World TxTotals
  | .update => lan865xUpdateTxPackets bus priv
  | .packets => Prod.snd <$> lan865xGetTxPackets bus priv
  | .dropPackets => Prod.snd <$> lan865xGetTxDropPackets bus priv

theorem query_updates {World : Type} (bus : Bus World) (priv : TxTotals) (query : TxQuery) :
    query.call bus priv = lan865xUpdateTxPackets bus priv := by
  cases query with
  | update => rfl
  | packets => rfl
  | dropPackets => rfl

/-- A call, with what happens before each of its reads. What happens after the second
one happens before the first read of the next call. -/
structure TxCall where
  query : TxQuery
  before : List TxEvent
  between : List TxEvent

def TxCall.events (call : TxCall) : List TxEvent := call.before ++ call.between

/-- The driver and the MAC, with the frames sent in all, those of them sent before the
last read of STATS12, and the frames dropped. -/
structure TxRun where
  priv : TxTotals
  mac : TxMac
  sent : Nat
  sentAtRead : Nat
  dropped : Nat
  deriving DecidableEq

def txStart : TxRun := ⟨⟨0#64, 0#64⟩, ⟨0#32, 0#32⟩, 0, 0, 0⟩

def TxCall.run (call : TxCall) (run : TxRun) : TxRun :=
  let after := call.query.call statsBus run.priv ⟨run.mac, [call.before, call.between]⟩
  { priv := after.1
    mac := after.2.mac
    sent := run.sent + call.events.count .sent
    sentAtRead := run.sent + call.before.count .sent
    dropped := run.dropped + call.events.count .dropped }

theorem call_run (call : TxCall) (run : TxRun) :
    let txCount := run.mac.stats12 + BitVec.ofNat 32 (call.before.count .sent)
    let totalTxCount := run.mac.stats11 + BitVec.ofNat 32 call.events.length
    call.run run =
      { priv := ⟨run.priv.totalTxCount + txCount.setWidth 64,
          run.priv.totalTxDropCount + (totalTxCount - txCount).setWidth 64⟩
        mac := ⟨0#32, BitVec.ofNat 32 (call.between.count .sent)⟩
        sent := run.sent + call.events.count .sent
        sentAtRead := run.sent + call.before.count .sent
        dropped := run.dropped + call.events.count .dropped } := by
  intro txCount totalTxCount
  have attempted : run.mac.stats11 + BitVec.ofNat 32 call.before.length +
      BitVec.ofNat 32 call.between.length = totalTxCount := by
    simp only [totalTxCount, TxCall.events, List.length_append, BitVec.ofNat_add, BitVec.add_assoc]
  have updated : lan865xUpdateTxPackets statsBus run.priv
      ⟨run.mac, [call.before, call.between]⟩ =
      (⟨run.priv.totalTxCount + txCount.setWidth 64,
        run.priv.totalTxDropCount + (totalTxCount - txCount).setWidth 64⟩,
        ⟨⟨0#32, BitVec.ofNat 32 (call.between.count .sent)⟩, []⟩) := by
    have first : statsBus.read mms0Stats12 ⟨run.mac, [call.before, call.between]⟩ =
        (.ok txCount, ⟨{ run.mac.after call.before with stats12 := 0#32 }, [call.between]⟩) := by
      simp [statsBus, TxWorld.wait, mac_after, mms0Stats11, mms0Stats12, txCount]
    have second : statsBus.read mms0Stats11
        ⟨{ run.mac.after call.before with stats12 := 0#32 }, [call.between]⟩ =
        (.ok totalTxCount, ⟨⟨0#32, BitVec.ofNat 32 (call.between.count .sent)⟩, []⟩) := by
      simp [statsBus, TxWorld.wait, mac_after, attempted]
    simp only [lan865xUpdateTxPackets, bind_run, first, second, Except.toOption, Option.getD_some,
      ite_run, pure_run]
    split
    · rfl
    · rename_i failed
      simp only [test_failed _ failed, BitVec.setWidth_zero, BitVec.add_zero]
  simp only [TxCall.run, query_updates, updated]

/-- The totals after a call, and the drops until its last read. -/
structure TxExact (before after : TxRun) : Prop where
  counted : after.priv.totalTxCount.toNat = after.sentAtRead
  grown : before.priv.totalTxDropCount.toNat ≤ after.priv.totalTxDropCount.toNat
  real : after.priv.totalTxDropCount.toNat ≤ after.dropped

def TxHolds : List TxCall → TxRun → Prop
  | [], _ => True
  | call :: rest, run => TxExact run (call.run run) ∧ TxHolds rest (call.run run)

/-- No register overflows between two calls, and no total ever. -/
def TxFits (calls : List TxCall) : Prop :=
  (∀ call ∈ calls, call.events.length < 2 ^ 32) ∧
    (calls.map fun call => call.events.length).sum < 2 ^ 64

/-- Nothing is pending in the MAC, and the totals are what they should be. -/
structure TxSettled (run : TxRun) : Prop where
  cleared : run.mac = ⟨0#32, 0#32⟩
  counted : run.priv.totalTxCount.toNat = run.sent
  real : run.priv.totalTxDropCount.toNat = run.dropped

theorem event_count (events : List TxEvent) :
    events.count .sent + events.count .dropped = events.length := by
  induction events with
  | nil => rfl
  | cons event rest ih =>
      cases event with
      | sent => simp; omega
      | dropped => simp; omega

/-- The frames sent between the two reads are counted as dropped. -/
theorem settled_call (call : TxCall) (run : TxRun) (settled : TxSettled run)
    (fits : call.events.length < 2 ^ 32)
    (room : run.sent + run.dropped + call.events.length < 2 ^ 64) :
    (call.run run).priv.totalTxCount.toNat = (call.run run).sentAtRead ∧
      (call.run run).priv.totalTxDropCount.toNat =
        (call.run run).dropped + call.between.count .sent := by
  have parts := event_count call.events
  have cut : call.events.count .sent = call.before.count .sent + call.between.count .sent :=
    List.count_append
  have counted := settled.counted
  have real := settled.real
  rw [call_run, settled.cleared]
  simp only [BitVec.zero_add]
  have txCount : ((BitVec.ofNat 32 (call.before.count .sent)).setWidth 64).toNat =
      call.before.count .sent := by
    simp only [BitVec.toNat_setWidth, BitVec.toNat_ofNat]
    omega
  have difference : ((BitVec.ofNat 32 call.events.length -
      BitVec.ofNat 32 (call.before.count .sent)).setWidth 64).toNat =
      call.events.count .dropped + call.between.count .sent := by
    simp only [BitVec.toNat_setWidth, BitVec.toNat_sub, BitVec.toNat_ofNat]
    omega
  constructor
  · rw [BitVec.toNat_add, txCount]
    omega
  · rw [BitVec.toNat_add, difference]
    omega

theorem settled_quiet (call : TxCall) (run : TxRun) (settled : TxSettled run)
    (fits : call.events.length < 2 ^ 32)
    (room : run.sent + run.dropped + call.events.length < 2 ^ 64)
    (quiet : TxEvent.sent ∉ call.between) :
    TxExact run (call.run run) ∧ TxSettled (call.run run) := by
  obtain ⟨counted, real⟩ := settled_call call run settled fits room
  have none : call.between.count .sent = 0 := List.count_eq_zero_of_not_mem quiet
  have cut : call.events.count .sent = call.before.count .sent + call.between.count .sent :=
    List.count_append
  rw [none, Nat.add_zero] at real
  have grown : run.priv.totalTxDropCount.toNat ≤ (call.run run).dropped := by
    rw [settled.real]
    exact Nat.le_add_right _ _
  refine ⟨⟨counted, real ▸ grown, Nat.le_of_eq real⟩, ?_, ?_, real⟩
  · rw [call_run, none]
  · rw [counted]
    simp only [TxCall.run, cut, none, Nat.add_zero]

theorem race_overcounts (call : TxCall) (run : TxRun) (settled : TxSettled run)
    (fits : call.events.length < 2 ^ 32)
    (room : run.sent + run.dropped + call.events.length < 2 ^ 64)
    (race : TxEvent.sent ∈ call.between) : ¬ TxExact run (call.run run) := by
  intro exact'
  obtain ⟨_, raced⟩ := settled_call call run settled fits room
  have some : 0 < call.between.count .sent := List.count_pos_iff.mpr race
  have real := exact'.real
  omega

/-- From a settled state the statistics are right as long as no call is raced. -/
theorem tx_holds_iff (calls : List TxCall) (run : TxRun) (settled : TxSettled run)
    (fits : ∀ call ∈ calls, call.events.length < 2 ^ 32)
    (room : run.sent + run.dropped + (calls.map fun call => call.events.length).sum < 2 ^ 64) :
    TxHolds calls run ↔ ∀ call ∈ calls, TxEvent.sent ∉ call.between := by
  induction calls generalizing run with
  | nil => simp [TxHolds]
  | cons call rest ih =>
      rw [List.map_cons, List.sum_cons] at room
      rw [List.forall_mem_cons] at fits ⊢
      by_cases race : TxEvent.sent ∈ call.between
      · have raced := race_overcounts call run settled fits.1 (by omega) race
        exact iff_of_false (fun holds => raced holds.1) (fun quiet => quiet.1 race)
      · obtain ⟨exact', settled'⟩ := settled_quiet call run settled fits.1 (by omega) race
        have later : (call.run run).sent + (call.run run).dropped =
            run.sent + run.dropped + call.events.length := by
          have parts := event_count call.events
          simp only [TxCall.run]
          omega
        have tail := ih (call.run run) settled' fits.2 (by omega)
        rw [TxHolds, tail]
        exact ⟨fun holds => ⟨race, holds.2⟩, fun quiet => ⟨exact', quiet.2⟩⟩

theorem start_settled : TxSettled txStart := ⟨rfl, rfl, rfl⟩

theorem tx_statistics_iff (calls : List TxCall) (fits : TxFits calls) :
    TxHolds calls txStart ↔ ∀ call ∈ calls, TxEvent.sent ∉ call.between :=
  tx_holds_iff calls txStart start_settled fits.1 (by simpa [txStart] using fits.2)

/-- Frames sent and dropped around the reads, of which one is dropped between them. -/
def quietCalls : List TxCall :=
  [⟨.packets, [.sent, .dropped, .sent], [.dropped]⟩, ⟨.dropPackets, [.sent], []⟩]

theorem tx_statistics_sample : TxHolds quietCalls txStart :=
  (tx_statistics_iff quietCalls ⟨by decide, by decide⟩).mpr (by decide)

/-- One frame is sent between the reads of the first call, and none is ever dropped. -/
def racedCalls : List TxCall := [⟨.update, [], [.sent]⟩, ⟨.update, [], []⟩]

/-- It counts as dropped, and the difference of the second call has wrapped around. -/
theorem tx_statistics_run_away :
    ¬ TxHolds racedCalls txStart ∧
      (racedCalls.foldl (fun run call => call.run run) txStart).priv =
        ⟨1#64, BitVec.ofNat 64 (2 ^ 32)⟩ := by
  constructor
  · intro holds
    exact absurd holds.1.real (by decide)
  · decide

end Lan865x.OaTc6
