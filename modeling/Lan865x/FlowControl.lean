import Lan865x.TransmitBuild

/-!
Transmit flow control against a MAC-PHY with a number of free transmit buffers.
The number falls by one for each chunk with data and may rise at any time;
neither BUFFER_STATUS nor a footer reports more than there are. A footer is
taken to report what is left after the chunk it returns with.
-/

namespace Lan865x.OaTc6
open BitField Memory Transition

/-- The free buffers after one more chunk, `freed` of them new. -/
def freeAfter (free : Nat) (sent : TxChunk) (freed : Nat) : Nat :=
  free + freed - (flag dataHeaderDataValid sent.header).toNat

/-- The free buffers after a transfer; none if a footer reports more. -/
def macPhyExchange (free : Nat) : List TxChunk → List (RxChunk × Nat) → Option Nat
  | sent :: later, (answer, freed) :: rest =>
      if number dataFooterTxCredits answer.footer ≤ freeAfter free sent freed then
        macPhyExchange (freeAfter free sent freed) later rest
      else none
  | _, _ => some free

/-- The driver and the MAC-PHY. For each transfer made so far: its chunks with
data, and the buffers that were free when it started. -/
structure Metered where
  driver : Driver
  free : Nat
  transfers : List (Nat × Nat)

inductive MeteredAct where
  | driver (act : DriverAct)
  | exchange (answers : List (RxChunk × Nat))
  | freed (count : Nat)

def Metered.exchangeNext (m : Metered) (answers : List (RxChunk × Nat)) : Option Metered :=
  match m.driver.spi with
  | .transfer len =>
      (macPhyExchange m.free (spiChunks m.driver.tc6.tx len) answers).bind fun free =>
        (m.driver.next (.exchange (answers.map Prod.fst))).map fun driver =>
          { driver := driver
            free := free
            transfers := m.transfers ++ [(dataChunks (spiChunks m.driver.tc6.tx len), m.free)] }
  | _ => none

def Metered.next (m : Metered) : MeteredAct → Option Metered
  | .driver (.exchange _) => none
  | .driver act => (m.driver.next act).map fun driver => { m with driver := driver }
  | .exchange answers => m.exchangeNext answers
  | .freed count => some { m with free := m.free + count }

/-- After `oa_tc6_init`. -/
def meteredMachine : Machine Metered MeteredAct where
  start m := (driverMachine 255).start m.driver ∧ m.driver.tc6.rx.txCredits ≤ m.free ∧
    m.transfers = []
  next := Metered.next

/-- No transfer carried more data chunks than there were free buffers. -/
def WithinBuffers (m : Metered) : Prop := ∀ transfer ∈ m.transfers, transfer.1 ≤ transfer.2

def MeteredAct.answers : MeteredAct → Option (Nat → ChunkIo)
  | .driver act => act.answers
  | _ => none

/-- Where the footers are processed: a footer that makes the loop give up for a
retry reports no more buffers than are free after the whole transfer. -/
def Timely (m : Metered) (act : MeteredAct) : Prop :=
  ∀ io ∈ act.answers, ∀ len ∈ m.driver.spi.processing, ∀ i < len / chunkSize,
    retriesAt m.driver.tc6.rx io i = true →
      number dataFooterTxCredits
        (getRxChunkFooter m.driver.tc6.rx (i * chunkSize + chunkPayloadSize)) ≤ m.free

instance (m : Metered) (act : MeteredAct) : Decidable (Timely m act) :=
  inferInstanceAs (Decidable (∀ io ∈ act.answers, ∀ len ∈ m.driver.spi.processing,
    ∀ i < len / chunkSize, retriesAt m.driver.tc6.rx io i = true →
      number dataFooterTxCredits
        (getRxChunkFooter m.driver.tc6.rx (i * chunkSize + chunkPayloadSize)) ≤ m.free))

/-- The credits count only buffers that are free; while footers wait to be
processed, the last one does. -/
structure Covered (m : Metered) : Prop where
  within : WithinBuffers m
  credits : (∀ len, m.driver.spi ≠ .process len) → (∀ ret, m.driver.spi ≠ .ended ret) →
    m.driver.tc6.rx.txCredits ≤ m.free
  footers : ∀ len last, m.driver.spi = .process len → last + 1 = len / chunkSize →
    number dataFooterTxCredits
      (getRxChunkFooter m.driver.tc6.rx (last * chunkSize + chunkPayloadSize)) ≤ m.free

theorem moves_kept (d after : Driver) (act : DriverAct) (moved : d.Moves act after)
    (notProcess : ∀ io, act ≠ .process io) (notExchange : ∀ received, act ≠ .exchange received) :
    after.tc6.rx = d.tc6.rx ∧ (∀ len, after.spi = .process len ↔ d.spi = .process len) ∧
      ∀ ret, d.spi = .ended ret → after.spi = .ended ret := by
  cases moved with
  | exchange => exact absurd rfl (notExchange _)
  | processFine => exact absurd rfl (notProcess _)
  | processAgain => exact absurd rfl (notProcess _)
  | processFails => exact absurd rfl (notProcess _)
  | offer => exact ⟨rfl, fun _ => Iff.rfl, fun _ => id⟩
  | testBusy => exact ⟨rfl, fun _ => Iff.rfl, fun _ => id⟩
  | testFree => exact ⟨rfl, fun _ => Iff.rfl, fun _ => id⟩
  | stop => exact ⟨rfl, fun _ => Iff.rfl, fun _ => id⟩
  | linearized => exact ⟨rfl, fun _ => Iff.rfl, fun _ => id⟩
  | linearizeFails => exact ⟨rfl, fun _ => Iff.rfl, fun _ => id⟩
  | store => exact ⟨rfl, fun _ => Iff.rfl, fun _ => id⟩
  | wake => exact ⟨rfl, fun _ => Iff.rfl, fun _ => id⟩
  | interrupt => exact ⟨rfl, fun _ => Iff.rfl, fun _ => id⟩
  | interruptWake => exact ⟨rfl, fun _ => Iff.rfl, fun _ => id⟩
  | _ => exact ⟨rfl, by simp [*, Driver.setTx], by simp [*]⟩

/-- The last footer of a transfer is not too high. -/
theorem mac_phy_exchange_last (free left : Nat) (sent : List TxChunk)
    (answers : List (RxChunk × Nat)) (exchanged : macPhyExchange free sent answers = some left)
    (whole : sent.length = answers.length) (last : RxChunk × Nat)
    (ends : answers.getLast? = some last) : number dataFooterTxCredits last.1.footer ≤ left := by
  -- By induction on the chunks: earlier reports are about buffers that later chunks use up.
  induction sent generalizing free answers with
  | nil =>
      obtain rfl : answers = [] := List.length_eq_zero_iff.mp whole.symm
      exact absurd ends (by simp)
  | cons chunk later ih =>
      cases answers with
      | nil => exact absurd ends (by simp)
      | cons answer rest =>
          simp only [macPhyExchange, Option.ite_none_right_eq_some] at exchanged
          obtain ⟨report, rest_⟩ := exchanged
          cases rest with
          | nil =>
              obtain rfl : answer = last := by simpa using ends
              obtain rfl : later = [] := List.length_eq_zero_iff.mp (by simpa using whole)
              simp only [macPhyExchange, Option.some.injEq] at rest_
              exact rest_ ▸ report
          | cons next tail =>
              exact ih _ (next :: tail) rest_ (by simpa using whole) (by simpa using ends)

theorem loaded_footer (rx : RxState) (received : List RxChunk) (i : Nat)
    (inside : i < received.length) :
    getRxChunkFooter { rx with
      spiDataRxBuf := load rx.spiDataRxBuf (received.flatMap RxChunk.bytes) }
        (i * chunkSize + chunkPayloadSize) = received[i].footer := by
  apply holds_footer
  have total := records_length RxChunk.bytes chunkSize rx_chunk_length received
  have reach : i * chunkSize + chunkSize ≤ received.length * chunkSize := by
    rw [← Nat.succ_mul]
    exact Nat.mul_le_mul_right _ inside
  rw [Holds, cellsAt_load _ _ _ _ (by omega),
    record_at RxChunk.bytes chunkSize rx_chunk_length received i inside]

/-- Neither the credits nor the received chunks are touched. -/
theorem covered_kept (m : Metered) (driver : Driver) (act : DriverAct) (covered : Covered m)
    (moved : m.driver.Moves act driver) (notProcess : ∀ io, act ≠ .process io)
    (notExchange : ∀ received, act ≠ .exchange received) :
    Covered { m with driver := driver } := by
  obtain ⟨rx, processing, ended⟩ := moves_kept m.driver driver act moved notProcess notExchange
  refine ⟨covered.within, fun idle running => ?_, fun len last pc => ?_⟩
  · rw [rx]
    exact covered.credits (fun len here => idle len ((processing len).mpr here))
      fun ret here => running ret (ended ret here)
  · rw [rx]
    exact covered.footers len last ((processing len).mp pc)

/-- The buffers are drawn from, and the footers come in. -/
theorem covered_exchange (m : Metered) (sized : Sized 255 m.driver) (covered : Covered m)
    (len free : Nat) (pc : m.driver.spi = .transfer len) (answers : List (RxChunk × Nat))
    (exchanged : macPhyExchange m.free (spiChunks m.driver.tc6.tx len) answers = some free)
    (driver : Driver) (moved : m.driver.Moves (.exchange (answers.map Prod.fst)) driver) :
    Covered ⟨driver, free,
      m.transfers ++ [(dataChunks (spiChunks m.driver.tc6.tx len), m.free)]⟩ := by
  have drawn := sized.drawn len (by rw [pc]; rfl)
  have credits := covered.credits (by simp [pc]) (by simp [pc])
  cases moved with
  | exchange len' pc' received whole =>
      obtain rfl : len = len' := by simpa [pc] using pc'
      -- While the footers wait, the credits are out of date and nothing is said of them.
      refine ⟨List.forall_mem_append.mpr ⟨covered.within, ?_⟩, fun idle => absurd rfl (idle len),
        ?_⟩
      · exact List.forall_mem_singleton.mpr (drawn.trans credits)
      · intro other last moving ends
        obtain rfl : len = other := by simpa using moving
        have count : len / chunkSize = answers.length := by
          rw [← whole, Nat.mul_div_cancel _ (by decide), List.length_map]
        have inside : last < answers.length := by omega
        rw [loaded_footer _ _ last (by simpa using inside)]
        refine mac_phy_exchange_last m.free free _ answers exchanged (by simp [spiChunks, count])
          answers[last] ?_ |>.trans_eq' ?_
        · rw [List.getLast?_eq_getElem?, show answers.length - 1 = last by omega,
            List.getElem?_eq_getElem inside]
        · rw [List.getElem_map]

/-- The credits come from the last footer, or from the one that asks for the retry. -/
theorem processed_credits (m : Metered) (sized : Sized 255 m.driver) (covered : Covered m)
    (len : Nat) (pc : m.driver.spi = .process len) (io : Nat → ChunkIo) (ret : Int) (rx : RxState)
    (out : processSpiDataRxBuf m.driver.tc6.rx len io = (ret, rx)) (alive : ¬ Fails ret)
    (timely : Timely m (.driver (.process io))) : rx.txCredits ≤ m.free := by
  obtain ⟨k, inside, credits, _, exit⟩ :=
    chunks_credits m.driver.tc6.rx io 0 (len / chunkSize) (sized.moving len (.inr pc))
  rw [processSpiDataRxBuf] at out
  rw [out, Nat.zero_add] at credits exit
  rw [credits]
  -- The loop came to its last footer, failed, or stopped at a footer that is timely.
  rcases exit with ⟨last, _⟩ | failed | ⟨_, before, asks⟩
  · exact covered.footers len k pc last
  · exact absurd failed alive
  · apply timely io rfl len (by rw [pc]; rfl) k inside
    simp [retriesAt, before, asks]

theorem covered_process (m : Metered) (sized : Sized 255 m.driver) (covered : Covered m)
    (io : Nat → ChunkIo) (timely : Timely m (.driver (.process io))) (driver : Driver)
    (moved : m.driver.Moves (.process io) driver) : Covered { m with driver := driver } := by
  cases moved with
  | processFine len pc io rx out =>
      refine ⟨covered.within, fun _ _ => ?_, by simp⟩
      exact processed_credits m sized covered len pc io 0 rx out (fun fails => fails.1 rfl) timely
  | processAgain len pc io rx out =>
      refine ⟨covered.within, fun _ _ => ?_, by simp⟩
      exact processed_credits m sized covered len pc io _ rx out (fun fails => fails.2 rfl) timely
  | processFails len pc io rx ret fails out =>
      exact ⟨covered.within, fun _ running => absurd rfl (running ret), by simp⟩

theorem covered_next (m after : Metered) (act : MeteredAct) (sized : Sized 255 m.driver)
    (covered : Covered m) (timely : Timely m act) (moved : m.next act = some after) :
    Covered after := by
  cases act with
  | driver act =>
      cases act with
      | exchange received => simp [Metered.next] at moved
      | process io =>
          obtain ⟨driver, stepped, rfl⟩ := Option.map_eq_some_iff.mp moved
          exact covered_process m sized covered io timely driver (driver_moves _ _ _ stepped)
      | _ =>
          obtain ⟨driver, stepped, rfl⟩ := Option.map_eq_some_iff.mp moved
          exact covered_kept m driver _ covered (driver_moves _ _ _ stepped) (by simp) (by simp)
  | exchange answers =>
      cases pc : m.driver.spi with
      | transfer len =>
          simp only [Metered.next, Metered.exchangeNext, pc] at moved
          obtain ⟨free, exchanged, rest⟩ := Option.bind_eq_some_iff.mp moved
          obtain ⟨driver, stepped, rfl⟩ := Option.map_eq_some_iff.mp rest
          exact covered_exchange m sized covered len free pc answers exchanged driver
            (driver_moves _ _ _ stepped)
      | _ => simp [Metered.next, Metered.exchangeNext, pc] at moved
  | freed count =>
      simp only [Metered.next, Option.some.injEq] at moved
      subst after
      refine ⟨covered.within, fun idle running => ?_, fun len last pc ends => ?_⟩
      · exact (covered.credits idle running).trans (Nat.le_add_right _ _)
      · exact (covered.footers len last pc ends).trans (Nat.le_add_right _ _)

/-- The driver of a metered run makes a run of its own. -/
theorem metered_driver (m after : Metered) (act : MeteredAct) (moved : m.next act = some after) :
    after.driver = m.driver ∨ ∃ step, m.driver.Moves step after.driver := by
  cases act with
  | driver act =>
      cases act with
      | exchange received => simp [Metered.next] at moved
      | _ =>
          obtain ⟨driver, stepped, rfl⟩ := Option.map_eq_some_iff.mp moved
          exact Or.inr ⟨_, driver_moves _ _ _ stepped⟩
  | exchange answers =>
      cases pc : m.driver.spi with
      | transfer len =>
          simp only [Metered.next, Metered.exchangeNext, pc] at moved
          obtain ⟨free, _, rest⟩ := Option.bind_eq_some_iff.mp moved
          obtain ⟨driver, stepped, rfl⟩ := Option.map_eq_some_iff.mp rest
          exact Or.inr ⟨_, driver_moves _ _ _ stepped⟩
      | _ => simp [Metered.next, Metered.exchangeNext, pc] at moved
  | freed count =>
      simp only [Metered.next, Option.some.injEq] at moved
      subst after
      exact Or.inl rfl

theorem metered_sized {ok : Metered → MeteredAct → Prop} {m : Metered}
    (reached : Reaches meteredMachine ok m) : Sized 255 m.driver := by
  refine reached.invariant (fun m => Sized 255 m.driver) (fun m starts => ?_) ?_
  · exact sized_init 255 m.driver starts.1
  · intro before act after sized _ moved
    rcases metered_driver before after act moved with same | ⟨step, moved⟩
    · exact same ▸ sized
    · exact sized_moves 255 (by decide) (by decide) _ _ step sized moved

theorem covered_init (m : Metered) (starts : meteredMachine.start m) : Covered m := by
  obtain ⟨⟨bufferStatus, mtu, rxFilter, rxBuffer, txBuffer, _, _, driver⟩, credits, none⟩ := starts
  exact ⟨by simp [WithinBuffers, none], fun _ _ => credits, by simp [driver, initDriver]⟩

/-- In a run in which every retry is timely no transfer exceeds the free buffers. -/
theorem transmit_within_buffers {m : Metered} (reached : Reaches meteredMachine Timely m) :
    WithinBuffers m :=
  (reached.strengthen (fun m => Sized 255 m.driver) Covered (fun _ earlier => metered_sized earlier)
    covered_init fun before act after sized covered timely moved =>
      covered_next before after act sized covered timely moved).within

section Samples

def meteredStart (bufferStatus : BitVec 32) (free : Nat) : Metered :=
  ⟨sampleStart bufferStatus, free, []⟩

theorem metered_start (bufferStatus : BitVec 32) (free : Nat)
    (credits : number bufferStatusTxCreditsAvailable bufferStatus ≤ free)
    (few : number bufferStatusTxCreditsAvailable bufferStatus ≤ 255)
    (available : number bufferStatusRxChunksAvailable bufferStatus ≤ 255) :
    meteredMachine.start (meteredStart bufferStatus free) :=
  ⟨sample_start bufferStatus 255 few available, credits, rfl⟩

/-- A long frame is accepted, and two of its chunks are ready, with two credits. -/
def twoChunksReady : List MeteredAct :=
  .driver (.offer (sampleSkb 1 200 (by decide) (by decide)) 0) ::
    List.replicate 4 (.driver (.xmit true)) ++ List.replicate 10 (.driver .spi)

/-- The first footer reports an overflow and the buffer that the second chunk
then takes; the retry sends one more chunk. -/
def overdrawn : Metered :=
  meteredMachine.after (meteredStart 0x200#32 2)
    (twoChunksReady ++
      [.exchange [(answer 0xA0000002#32, 0), (answer 0x20000000#32, 0)],
        .driver (.process fun _ => overflowIo)] ++
      List.replicate 5 (.driver .spi) ++ [.exchange [(answer 0x20000000#32, 0)]])

theorem transmit_overdraws :
    ¬ ∀ m, Reaches meteredMachine anyStep m → WithinBuffers m := by
  intro claimed
  have within := claimed overdrawn
    (reaches_after (metered_start _ _ (by decide) (by decide) (by decide)) _ (allowed_any _ _ _))
  have last : (1, 0) ∈ overdrawn.transfers := by decide +kernel
  exact absurd (within _ last) (by decide)

/-- The overflow is reported with the second chunk, when two buffers are free
again; the retry sends the other two. -/
def withinCredits : Metered :=
  meteredMachine.after (meteredStart 0x200#32 2)
    (twoChunksReady ++
      [.exchange [(answer 0x20000002#32, 0), (answer 0xA0000004#32, 2)],
        .driver (.process fun _ => overflowIo)] ++
      List.replicate 6 (.driver .spi) ++
      [.exchange [(answer 0x20000002#32, 0), (answer 0x20000000#32, 0)]])

theorem transmit_within_sample : WithinBuffers withinCredits :=
  transmit_within_buffers
    (reaches_after (metered_start _ _ (by decide) (by decide) (by decide)) _ (by decide +kernel))

example : withinCredits.transfers = [(2, 2), (2, 2)] := by decide +kernel

end Samples

end Lan865x.OaTc6
