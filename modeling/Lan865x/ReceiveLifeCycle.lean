import Lan865x.Reassembly
import Lan865x.ReceiveRun

/-!
The life cycle of the receive skb. The MAC-PHY is followed by its position in
the frame it is sending. After an overflow it may abandon that frame, so the
position is then known only up to that choice. Unless the driver is skipping to
the next start, `rx_skb` is there exactly when the MAC-PHY is inside a frame.
-/

namespace Lan865x.OaTc6
open Framing Transition

/-- Between frames; inside one; inside one that may have been abandoned. -/
inductive DevicePos where
  | idle
  | inFrame
  | damaged
  deriving DecidableEq

universe u

/-- Which pieces may come at a position, and where they lead. -/
def advance {α : Type u} : DevicePos → Piece α → Option DevicePos
  | pos, .idle => some pos
  | .idle, .start _ => some .inFrame
  | .idle, .whole _ => some .idle
  | .inFrame, .middle _ => some .inFrame
  | .inFrame, .finish _ => some .idle
  | .inFrame, .turn _ _ => some .inFrame
  | .damaged, .start _ => some .inFrame
  | .damaged, .whole _ => some .idle
  | .damaged, .middle _ => some .damaged
  | .damaged, .finish _ => some .idle
  | .damaged, .turn _ _ => some .inFrame
  | _, _ => none

def damage : DevicePos → DevicePos
  | .inFrame => .damaged
  | pos => pos

/-- A chunk that reports an overflow may already be without the frame that was
under way, and may be the last of the one it belongs to. -/
def deviceStep (pos : DevicePos) (r : Received) : Option DevicePos :=
  r.chunk.piece.bind fun piece =>
    if overflowReported r.chunk.footer r.io then (advance (damage pos) piece).map damage
    else advance pos piece

def deviceRun (pos : DevicePos) : List Received → Option DevicePos
  | [] => some pos
  | r :: rest => (deviceStep pos r).bind fun next => deviceRun next rest

/-- The driver knows where the MAC-PHY is, or skips to the next start. -/
structure InStep (rx : RxState) (pos : DevicePos) : Prop where
  recovering : rx.rxBufOverflow = true → rx.rxSkb = none
  aligned : rx.rxBufOverflow = false → match pos with
    | .idle => rx.rxSkb = none
    | .inFrame => ∃ skb, rx.rxSkb = some skb
    | .damaged => False

def RxFault.isOverrun : RxFault → Bool
  | .overrun _ => true
  | _ => false

/-- No NULL `rx_skb` is used and none is overwritten; each skb that was
allocated is submitted, freed and counted, or current. -/
structure LifeSound (rx : RxState) : Prop where
  sound : ∀ fault ∈ rx.faults, fault.isOverrun
  ledger : rx.allocated.Perm (rx.submitted.map RxSkb.addr ++ rx.freed ++
    (rx.rxSkb.map RxSkb.addr).toList)
  counted : rx.rxDropped = rx.freed.length + rx.refused.length

theorem overrun_only (skb : RxSkb) (total : Nat) :
    ∀ fault ∈ overrunFaults skb total, fault.isOverrun := by
  intro fault member
  unfold overrunFaults at member
  split at member
  · exact absurd member (by simp)
  · rw [List.mem_singleton.mp member]
    rfl

theorem life_update (rx : RxState) (skb : RxSkb) (payload length : Nat)
    (held : rx.rxSkb = some skb) (life : LifeSound rx) :
    LifeSound (updateRxSkb rx payload length) := by
  rw [update_some rx skb payload length held]
  refine ⟨List.forall_mem_append.mpr ⟨life.sound, overrun_only _ _⟩, ?_, life.counted⟩
  simpa [held] using life.ledger

theorem life_submit (rx : RxState) (skb : RxSkb) (held : rx.rxSkb = some skb)
    (life : LifeSound rx) : LifeSound (submitRxSkb rx) := by
  rw [submit_some rx skb held]
  refine ⟨life.sound, ?_, life.counted⟩
  have ledger := life.ledger
  simp only [held, Option.map_some, Option.toList_some, List.append_assoc] at ledger
  simp only [List.map_append, List.map_cons, List.map_nil, Option.map_none, Option.toList_none,
    List.append_nil, List.append_assoc]
  exact ledger.trans (List.perm_append_comm.append_left _)

theorem life_begin (rx : RxState) (payload size : Nat) (io : ChunkIo)
    (empty : rx.rxSkb = none) (life : LifeSound rx) :
    LifeSound (beginRxFrame rx payload size io).2 := by
  have ledger := life.ledger
  simp only [empty, Option.map_none, Option.toList_none, List.append_nil] at ledger
  cases granted : io.alloc with
  | true =>
      rw [begin_granted rx payload size io granted, overwrite_none rx empty, List.append_nil]
      refine ⟨List.forall_mem_append.mpr ⟨life.sound, overrun_only _ _⟩, ?_, life.counted⟩
      exact ledger.append_right [io.addr]
  | false =>
      rw [begin_refused rx payload size io granted, overwrite_none rx empty, List.append_nil]
      refine ⟨life.sound, by simpa using ledger, ?_⟩
      rw [List.length_append, List.length_singleton, life.counted, Nat.add_assoc]

theorem life_cleanup (rx : RxState) (life : LifeSound rx) :
    LifeSound (cleanupOngoingRxSkb rx) := by
  cases held : rx.rxSkb with
  | none => simpa [cleanupOngoingRxSkb, held] using life
  | some skb =>
      simp only [cleanupOngoingRxSkb, held]
      refine ⟨life.sound, ?_, ?_⟩
      · simpa [held] using life.ledger
      · simp only [List.length_append, List.length_singleton, life.counted]
        omega

/-- How `rx_skb` stands when a frame has been begun. -/
theorem begin_skb (rx : RxState) (payload size : Nat) (io : ChunkIo) :
    ((beginRxFrame rx payload size io).1 = 0 ∧
      (∃ skb, (beginRxFrame rx payload size io).2.rxSkb = some skb)) ∨
    ((beginRxFrame rx payload size io).1 = -enomem ∧
      (beginRxFrame rx payload size io).2.rxSkb = none) := by
  cases granted : io.alloc with
  | true =>
      rw [begin_granted rx payload size io granted]
      exact Or.inl ⟨rfl, _, rfl⟩
  | false =>
      rw [begin_refused rx payload size io granted]
      exact Or.inr ⟨rfl, rfl⟩

theorem begin_overflow (rx : RxState) (payload size : Nat) (io : ChunkIo) :
    (beginRxFrame rx payload size io).2.rxBufOverflow = rx.rxBufOverflow := by
  cases granted : io.alloc with
  | true => rw [begin_granted rx payload size io granted]
  | false => rw [begin_refused rx payload size io granted]

/-- What a chunk's processing keeps: the ledger always, the position when the
thread goes on. -/
structure Sustains (result : Int × RxState) (pos : DevicePos) : Prop where
  life : LifeSound result.2
  notAgain : result.1 ≠ -eagain
  goesOn : result.1 = 0 → InStep result.2 pos

theorem sustains_start (rx : RxState) (payload size : Nat) (io : ChunkIo)
    (calm : rx.rxBufOverflow = false) (empty : rx.rxSkb = none) (life : LifeSound rx) :
    Sustains (beginRxFrame rx payload size io) .inFrame := by
  have still := (begin_overflow rx payload size io).trans calm
  refine ⟨life_begin rx payload size io empty life, ?_, fun goesOn => ⟨?_, ?_⟩⟩
  · rcases begin_skb rx payload size io with ⟨done, _⟩ | ⟨refused, _⟩
    · rw [done]
      exact zero_not_eagain
    · rw [refused]
      exact enomem_fails.2
  · intro recovering
    rw [still] at recovering
    exact absurd recovering (by simp)
  · intro _
    rcases begin_skb rx payload size io with ⟨_, held⟩ | ⟨refused, _⟩
    · exact held
    · rw [refused] at goesOn
      exact absurd goesOn enomem_fails.1

theorem sustains_whole (rx : RxState) (payload size : Nat) (io : ChunkIo)
    (calm : rx.rxBufOverflow = false) (empty : rx.rxSkb = none) (life : LifeSound rx) :
    Sustains (prcsCompleteRxFrame rx payload size io) .idle := by
  have still := (begin_overflow rx payload size io).trans calm
  have begun := life_begin rx payload size io empty life
  rcases begin_skb rx payload size io with ⟨done, skb, held⟩ | ⟨refused, gone⟩
  · have completed : prcsCompleteRxFrame rx payload size io =
        (0, submitRxSkb (beginRxFrame rx payload size io).2) := by
      simp [prcsCompleteRxFrame, done]
    rw [completed]
    refine ⟨life_submit _ skb held begun, zero_not_eagain, fun _ => ⟨fun _ => ?_, fun _ => ?_⟩⟩ <;>
      simp [submit_some _ skb held]
  · have failed : prcsCompleteRxFrame rx payload size io =
        (-enomem, (beginRxFrame rx payload size io).2) := by
      simp [prcsCompleteRxFrame, refused, enomem]
    rw [failed]
    exact ⟨begun, enomem_fails.2, fun goesOn => absurd goesOn enomem_fails.1⟩

theorem life_frame_end (rx : RxState) (skb : RxSkb) (payload size : Nat)
    (held : rx.rxSkb = some skb) (life : LifeSound rx) :
    LifeSound (prcsRxFrameEnd rx payload size) := by
  have updated := update_some rx skb payload (toU8 ((size : Int) - 4)) held
  exact life_submit _ _ (by rw [updated]) (life_update rx skb payload _ held life)

theorem life_credits (rx : RxState) (footer : BitVec 32) (life : LifeSound rx) :
    LifeSound (footerCredits rx footer) :=
  ⟨life.sound, life.ledger, life.counted⟩

theorem in_step_credits (rx : RxState) (footer : BitVec 32) (pos : DevicePos)
    (inStep : InStep rx pos) : InStep (footerCredits rx footer) pos :=
  ⟨inStep.recovering, inStep.aligned⟩

/-- A driver that is not skipping takes each piece in the state it fits. -/
theorem sustains_branch (rx : RxState) (slot : Nat) (r : Received) (piece : Piece (List UInt8))
    (pos next : DevicePos) (calm : rx.rxBufOverflow = false) (life : LifeSound rx)
    (aligned : match pos with
      | .idle => rx.rxSkb = none
      | .inFrame => ∃ skb, rx.rxSkb = some skb
      | .damaged => False)
    (reads : r.chunk.piece = some piece) (busy : piece.isIdle = false)
    (advances : advance pos piece = some next) :
    Sustains (branchPayload rx (slot * chunkSize) r.chunk.footer r.io (rxBranch r.chunk.footer))
      next := by
  have branch := piece_branch r.chunk piece reads
  have quiet : rx.rxBufOverflow = true → ∀ P : Prop, P := by
    intro recovering
    rw [calm] at recovering
    exact absurd recovering (by simp)
  -- Position and piece together fix the branch; a piece that does not fit has no step.
  cases pos with
  | damaged => exact aligned.elim
  | idle =>
      cases piece with
      | start first =>
          simp only [advance, Option.some.injEq] at advances
          subst next
          rw [branch.2.1]
          exact sustains_start rx _ _ r.io calm aligned life
      | whole only =>
          simp only [advance, Option.some.injEq] at advances
          subst next
          rw [branch.2.1]
          exact sustains_whole rx _ _ r.io calm aligned life
      | idle => simp [Piece.isIdle] at busy
      | middle _ => simp [advance] at advances
      | finish _ => simp [advance] at advances
      | turn _ _ => simp [advance] at advances
  | inFrame =>
      obtain ⟨skb, held⟩ := aligned
      cases piece with
      | middle _ =>
          simp only [advance, Option.some.injEq] at advances
          subst next
          rw [branch.2.1]
          refine ⟨life_update rx skb _ _ held life, zero_not_eagain, fun _ => ⟨?_, fun _ => ?_⟩⟩
          · intro recovering
            simp only [branchPayload, prcsOngoingRxFrame, update_some rx skb _ _ held] at recovering
            exact quiet recovering _
          · simp [branchPayload, prcsOngoingRxFrame, update_some rx skb _ _ held]
      | finish _ =>
          simp only [advance, Option.some.injEq] at advances
          subst next
          rw [branch.2.1]
          refine ⟨life_frame_end rx skb _ _ held life, zero_not_eagain,
            fun _ => ⟨fun _ => ?_, fun _ => ?_⟩⟩
            <;> simp [branchPayload, frame_end_some rx skb _ _ held]
      | turn _ _ =>
          simp only [advance, Option.some.injEq] at advances
          subst next
          rw [branch.2.1]
          simp only [branchPayload, held, Option.isSome_some, if_true]
          refine sustains_start _ _ _ r.io ?_ ?_ (life_frame_end rx skb _ _ held life)
          · rw [frame_end_some rx skb _ _ held]
            exact calm
          · rw [frame_end_some rx skb _ _ held]
      | idle => simp [Piece.isIdle] at busy
      | start _ => simp [advance] at advances
      | whole _ => simp [advance] at advances

theorem overflowed_skb (rx : RxState) :
    (overflowed rx).rxBufOverflow = true ∧ (overflowed rx).rxSkb = none := by
  unfold overflowed cleanupOngoingRxSkb
  split
  · rename_i empty
    exact ⟨rfl, empty⟩
  · exact ⟨rfl, rfl⟩

theorem overflowed_in_step (rx : RxState) (overflow : rx.rxBufOverflow = true)
    (empty : rx.rxSkb = none) (pos : DevicePos) : InStep rx pos :=
  ⟨fun _ => empty, fun calm => absurd (overflow.symm.trans calm) (by simp)⟩

/-- The pieces that wake a driver that skips. -/
theorem piece_starts (chunk : RxChunk) (piece : Piece (List UInt8))
    (reads : chunk.piece = some piece) (busy : piece.isIdle = false)
    (starts : flag dataFooterStartValid chunk.footer = true) :
    (∃ first, piece = .start first) ∨ (∃ only, piece = .whole only) ∨
      ∃ last first, piece = .turn last first := by
  simp only [RxChunk.piece, starts] at reads
  split at reads
  · cases piece <;> simp [Piece.isIdle] at reads busy
  · cases ends : flag dataFooterEndValid chunk.footer with
    | false =>
        simp only [ends, Option.some.injEq] at reads
        exact Or.inl ⟨_, reads.symm⟩
    | true =>
        simp only [ends] at reads
        split at reads
        · exact Or.inr (Or.inl ⟨_, (Option.some.inj reads).symm⟩)
        · split at reads
          · exact Or.inr (Or.inr ⟨_, _, (Option.some.inj reads).symm⟩)
          · exact absurd reads (by simp)

/-- A driver that skips wakes in the branch that the starting piece needs. -/
theorem sustains_awake (rx : RxState) (slot : Nat) (r : Received) (piece : Piece (List UInt8))
    (pos next : DevicePos) (empty : rx.rxSkb = none) (life : LifeSound rx)
    (reads : r.chunk.piece = some piece) (busy : piece.isIdle = false)
    (starts : flag dataFooterStartValid r.chunk.footer = true)
    (advances : advance pos piece = some next) :
    Sustains (branchPayload (awake rx) (slot * chunkSize) r.chunk.footer r.io
      (rxBranch r.chunk.footer)) next := by
  have branch := piece_branch r.chunk piece reads
  have woken : LifeSound (awake rx) := ⟨life.sound, life.ledger, life.counted⟩
  rcases piece_starts r.chunk piece reads busy starts with
    ⟨first, rfl⟩ | ⟨only, rfl⟩ | ⟨last, first, rfl⟩
  · have leads : next = .inFrame := by
      cases pos <;> simp [advance] at advances <;> exact advances.symm
    rw [branch.2.1, leads]
    exact sustains_start _ _ _ r.io rfl empty woken
  · have leads : next = .idle := by
      cases pos <;> simp [advance] at advances <;> exact advances.symm
    rw [branch.2.1, leads]
    exact sustains_whole _ _ _ r.io rfl empty woken
  · have leads : next = .inFrame := by
      cases pos <;> simp [advance] at advances <;> exact advances.symm
    have gone : (awake rx).rxSkb = none := empty
    rw [branch.2.1, leads]
    simp only [branchPayload, gone, Option.isSome_none, Bool.false_eq_true, if_false]
    exact sustains_start _ _ _ r.io rfl empty woken

/-- The payload of a chunk that reports nothing. -/
theorem sustains_payload (rx : RxState) (slot : Nat) (r : Received) (piece : Piece (List UInt8))
    (pos next : DevicePos) (inStep : InStep rx pos) (life : LifeSound rx)
    (reads : r.chunk.piece = some piece) (busy : piece.isIdle = false)
    (advances : advance pos piece = some next) :
    Sustains (prcsRxChunkPayload rx (slot * chunkSize) r.chunk.footer r.io) next := by
  cases overflow : rx.rxBufOverflow with
  | false =>
      rw [payload_branches rx _ _ _ (Or.inl overflow), awake_calm rx overflow]
      exact sustains_branch rx slot r piece pos next overflow life (inStep.aligned overflow) reads
        busy advances
  | true =>
      have empty := inStep.recovering overflow
      cases starts : flag dataFooterStartValid r.chunk.footer with
      | true =>
          rw [payload_branches rx _ _ _ (Or.inr starts)]
          exact sustains_awake rx slot r piece pos next empty life reads busy starts advances
      | false =>
          rw [payload_skips rx _ _ _ overflow starts]
          exact ⟨life, zero_not_eagain, fun _ => overflowed_in_step rx overflow empty next⟩

/-- A chunk whose footer lets it through. -/
theorem sustains_chunk (rx : RxState) (slot : Nat) (r : Received) (pos next : DevicePos)
    (inStep : InStep rx pos) (life : LifeSound rx) (holds : Holds rx.spiDataRxBuf slot r.chunk)
    (passed : processRxChunkFooter rx r.chunk.footer r.io = (0, footerCredits rx r.chunk.footer))
    (quiet : overflowReported r.chunk.footer r.io = false)
    (stepped : deviceStep pos r = some next) : Sustains (processRxChunk rx slot r.io) next := by
  obtain ⟨piece, reads, moved⟩ := Option.bind_eq_some_iff.mp stepped
  have branch := piece_branch r.chunk piece reads
  have credited := life_credits rx r.chunk.footer life
  rw [if_neg (by simp [quiet])] at moved
  simp only [processRxChunk, holds_footer rx slot r.chunk holds, passed, ne_eq, not_true_eq_false,
    if_false]
  cases valid : flag dataFooterDataValid r.chunk.footer with
  | false =>
      have idle : piece = .idle := by cases piece <;> simp [valid] at branch ⊢
      subst idle
      have same : pos = next := by cases pos <;> simpa [advance] using moved
      subst same
      exact ⟨credited, zero_not_eagain, fun _ => in_step_credits rx _ pos inStep⟩
  | true =>
      have busy : piece.isIdle = false := by
        cases piece <;> simp [valid, Piece.isIdle] at branch ⊢
      exact sustains_payload (footerCredits rx r.chunk.footer) slot r piece pos next
        (in_step_credits rx _ pos inStep) credited reads busy moved

/-- One chunk: the ledger is kept, and the driver is in step with the MAC-PHY
after it, or skips if the chunk made it leave the transfer. -/
theorem chunk_in_step (rx : RxState) (slot : Nat) (r : Received) (pos next : DevicePos)
    (inStep : InStep rx pos) (life : LifeSound rx) (holds : Holds rx.spiDataRxBuf slot r.chunk)
    (answers : RegistersAnswer r.io) (stepped : deviceStep pos r = some next) :
    LifeSound (processRxChunk rx slot r.io).2 ∧
      ((processRxChunk rx slot r.io).1 = 0 → InStep (processRxChunk rx slot r.io).2 next) ∧
      ((processRxChunk rx slot r.io).1 = -eagain →
        ∀ anywhere, InStep (processRxChunk rx slot r.io).2 anywhere) := by
  have footer := holds_footer rx slot r.chunk holds
  rcases footer_cases rx r.chunk.footer r.io answers with
    ⟨passed, quiet⟩ | ⟨again, _⟩ | ⟨ret, failed, fails⟩
  · have sustains := sustains_chunk rx slot r pos next inStep life holds passed quiet stepped
    exact ⟨sustains.life, sustains.goesOn, fun again => absurd again sustains.notAgain⟩
  · obtain ⟨recovering, empty⟩ := overflowed_skb (footerCredits rx r.chunk.footer)
    have out : processRxChunk rx slot r.io =
        (-eagain, overflowed (footerCredits rx r.chunk.footer)) := by
      simp [processRxChunk, footer, again, eagain]
    rw [out]
    exact ⟨life_cleanup _ ⟨life.sound, life.ledger, life.counted⟩,
      fun _ => overflowed_in_step _ recovering empty next,
      fun _ anywhere => overflowed_in_step _ recovering empty anywhere⟩
  · have out : processRxChunk rx slot r.io = (ret, footerCredits rx r.chunk.footer) := by
      simp [processRxChunk, footer, failed, fails.1]
    rw [out]
    exact ⟨life_credits rx _ life, fun goesOn => absurd goesOn fails.1,
      fun again => absurd again fails.2⟩

/-- The receive side and the MAC-PHY behind it; `pos` is where the MAC-PHY is
when it has sent the last of the chunks that wait in the buffer. -/
structure DeviceRun where
  run : RxRun
  pos : DevicePos

def DeviceRun.next (state : DeviceRun) (act : RxAct) : Option DeviceRun :=
  match act with
  | .transfer transfer => (deviceRun state.pos transfer.received).bind fun pos =>
      (state.run.next act).map fun run => ⟨run, pos⟩
  | act => (state.run.next act).map fun run => ⟨run, state.pos⟩

def deviceMachine : Machine DeviceRun RxAct where
  start state := rxMachine.start state.run ∧ state.pos = .idle
  next := DeviceRun.next

/-- Every register access of the transfer is answered as `RegistersAnswer` says. -/
def AnswersIn (_ : DeviceRun) : RxAct → Prop
  | .transfer transfer => ∀ r ∈ transfer.received, RegistersAnswer r.io
  | _ => True

theorem device_next_cases (before after : DeviceRun) (act : RxAct)
    (moved : before.next act = some after) :
    before.run.next act = some after.run ∧ match act with
      | .transfer transfer => deviceRun before.pos transfer.received = some after.pos
      | _ => after.pos = before.pos := by
  cases act with
  | transfer transfer =>
      obtain ⟨pos, moves, tail⟩ := Option.bind_eq_some_iff.mp moved
      obtain ⟨run, ran, rfl⟩ := Option.map_eq_some_iff.mp tail
      exact ⟨ran, moves⟩
  | chunk =>
      obtain ⟨run, ran, rfl⟩ := Option.map_eq_some_iff.mp moved
      exact ⟨ran, rfl⟩
  | changeMtu mtu =>
      obtain ⟨run, ran, rfl⟩ := Option.map_eq_some_iff.mp moved
      exact ⟨ran, rfl⟩

theorem device_run_reached {ok : DeviceRun → RxAct → Prop} {state : DeviceRun}
    (reached : Reaches deviceMachine ok state) : Reaches rxMachine anyStep state.run := by
  induction reached with
  | start first => exact .start first.1
  | step act _ _ moved ih => exact .step act ih trivial (device_next_cases _ _ act moved).1

structure LifeInvariant (state : DeviceRun) : Prop where
  life : LifeSound state.run.rx
  answers : ∀ r ∈ state.run.todo, RegistersAnswer r.io
  stands : (state.run.ended = true ∧ state.run.todo = []) ∨
    ∃ pos, InStep state.run.rx pos ∧ deviceRun pos state.run.todo = some state.pos

theorem life_chunk (before : DeviceRun) (r : Received) (rest : List Received)
    (todo : before.run.todo = r :: rest) (loaded : Holds before.run.rx.spiDataRxBuf before.run.slot
      r.chunk) (inv : LifeInvariant before) :
    LifeInvariant ⟨before.run.chunk r rest, before.pos⟩ := by
  have answers := inv.answers
  rw [todo] at answers
  rcases inv.stands with ⟨_, none⟩ | ⟨pos, inStep, runs⟩
  · rw [todo] at none
    exact absurd none (by simp)
  · rw [todo] at runs
    obtain ⟨next, stepped, later⟩ := Option.bind_eq_some_iff.mp runs
    obtain ⟨life, goesOn, again⟩ := chunk_in_step before.run.rx before.run.slot r pos next inStep
      inv.life loaded (answers r List.mem_cons_self) stepped
    simp only [RxRun.chunk]
    split
    · rename_i done
      exact ⟨life, fun other member => answers other (List.mem_cons_of_mem r member),
        Or.inr ⟨next, goesOn done, later⟩⟩
    · split
      -- The driver skips now, and is in step wherever the MAC-PHY goes on.
      · rename_i overflow
        exact ⟨life, by simp, Or.inr ⟨before.pos, again overflow before.pos, rfl⟩⟩
      · exact ⟨life_cleanup _ life, by simp, Or.inl ⟨rfl, rfl⟩⟩

theorem life_invariant {state : DeviceRun} (reached : Reaches deviceMachine AnswersIn state) :
    LifeInvariant state := by
  refine reached.strengthen
    (fun state => Loaded state.run.rx.spiDataRxBuf state.run.slot state.run.todo) LifeInvariant
    (fun state earlier => run_loaded (device_run_reached earlier)) ?_ ?_
  · rintro ⟨run, pos⟩ ⟨⟨mtu, rxFilter, buffer, _, _, rfl⟩, rfl⟩
    exact ⟨⟨by simp [startRun, initRx], List.Perm.refl _, rfl⟩, by simp [startRun],
      Or.inr ⟨.idle, ⟨fun _ => rfl, fun _ => rfl⟩, rfl⟩⟩
  · rintro before act ⟨run, pos⟩ loaded inv answered moved
    obtain ⟨ran, moves⟩ := device_next_cases before ⟨run, pos⟩ act moved
    rcases rx_next_cases before.run run act ran with
      ⟨transfer, rfl, live, _, rfl⟩ | ⟨r, rest, rfl, todo, rfl⟩ | ⟨mtu, rfl, _, _, rfl⟩
    · refine ⟨⟨inv.life.sound, inv.life.ledger, inv.life.counted⟩, answered, ?_⟩
      rcases inv.stands with ⟨ended, _⟩ | ⟨pos, inStep, runs⟩
      · rw [live] at ended
        exact absurd ended (by simp)
      -- Nothing is left of the last transfer, so the MAC-PHY is where the driver thinks it is.
      · rename_i empty
        rw [empty, deviceRun, Option.some.injEq] at runs
        subst runs
        exact Or.inr ⟨before.pos, ⟨inStep.recovering, inStep.aligned⟩, moves⟩
    · rw [todo] at loaded
      obtain rfl : pos = before.pos := moves
      exact life_chunk before r rest todo loaded.1 inv
    · obtain rfl : pos = before.pos := moves
      refine ⟨⟨inv.life.sound, inv.life.ledger, inv.life.counted⟩, inv.answers, ?_⟩
      rcases inv.stands with ended | ⟨pos, inStep, runs⟩
      · exact Or.inl ended
      · exact Or.inr ⟨pos, ⟨inStep.recovering, inStep.aligned⟩, runs⟩

/-- In every state of every run, also between two chunks of a transfer. -/
theorem receive_life_cycle_sound {state : DeviceRun}
    (reached : Reaches deviceMachine AnswersIn state) :
    RxFault.nullSkb ∉ state.run.rx.faults ∧
      (∀ addr, RxFault.overwrite addr ∉ state.run.rx.faults) ∧
      state.run.rx.allocated.Perm (state.run.rx.submitted.map RxSkb.addr ++ state.run.rx.freed ++
        (state.run.rx.rxSkb.map RxSkb.addr).toList) ∧
      state.run.rx.rxDropped = state.run.rx.freed.length + state.run.rx.refused.length := by
  obtain ⟨sound, ledger, counted⟩ := (life_invariant reached).life
  refine ⟨fun null => ?_, fun addr overwritten => ?_, ledger, counted⟩
  · exact absurd (sound _ null) (by simp [RxFault.isOverrun])
  · exact absurd (sound _ overwritten) (by simp [RxFault.isOverrun])

section Samples

theorem ok_answers (value : BitVec 32) (alloc : Bool) (addr : Nat) :
    RegistersAnswer ⟨.ok value, 0, alloc, addr⟩ :=
  ⟨nofun, zero_not_eagain⟩

/-- A frame starts; the overflow is reported with its second chunk. -/
def brokenTransfer : Transfer :=
  ⟨[bareReceived 0x20300000#32,
    (bareReceived 0xA0200000#32).answered ⟨.ok 8#32, 0, true, 0⟩], by decide⟩

/-- The broken frame ends in the chunk that starts another. -/
def recoveringTransfer : Transfer :=
  ⟨[(bareReceived 0x203C4F00#32).answered ⟨.ok 0#32, 0, true, 1⟩], by decide⟩

def brokenRun : DeviceRun :=
  deviceMachine.after ⟨startRun 1500 0 fun _ => 0, .idle⟩
    [.transfer brokenTransfer, .chunk, .chunk, .transfer recoveringTransfer, .chunk]

example : brokenRun.run.rx.allocated = [0, 1] ∧ brokenRun.run.rx.freed = [0] ∧
    brokenRun.run.rx.rxSkb.isSome := by
  decide +kernel

theorem receive_life_cycle_broken :
    RxFault.nullSkb ∉ brokenRun.run.rx.faults ∧
      (∀ addr, RxFault.overwrite addr ∉ brokenRun.run.rx.faults) ∧
      brokenRun.run.rx.allocated.Perm (brokenRun.run.rx.submitted.map RxSkb.addr ++
        brokenRun.run.rx.freed ++ (brokenRun.run.rx.rxSkb.map RxSkb.addr).toList) ∧
      brokenRun.run.rx.rxDropped =
        brokenRun.run.rx.freed.length + brokenRun.run.rx.refused.length := by
  have starts : deviceMachine.start ⟨startRun 1500 0 fun _ => 0, .idle⟩ :=
    ⟨start_run 1500 0 _ (by decide) (by decide), rfl⟩
  have broken : ∀ r ∈ brokenTransfer.received, RegistersAnswer r.io :=
    List.forall_mem_cons.mpr ⟨ok_answers _ _ _, List.forall_mem_singleton.mpr (ok_answers _ _ _)⟩
  have recovering : ∀ r ∈ recoveringTransfer.received, RegistersAnswer r.io :=
    List.forall_mem_singleton.mpr (ok_answers _ _ _)
  exact receive_life_cycle_sound (reaches_after starts _
    ⟨broken, fun _ _ => ⟨trivial, fun _ _ => ⟨trivial, fun _ _ => ⟨recovering, fun _ _ =>
      ⟨trivial, fun _ _ => trivial⟩⟩⟩⟩⟩)

end Samples

end Lan865x.OaTc6
