import Lan865x.ReceiveLifeCycle

/-!
How much is put into a receive skb. `skb_put` brings the kernel down when an skb is given more
than it has room for; the model records the skb and goes on. What is put is known from the
pieces alone: eight bytes fewer than a first piece has and four fewer than a last one, each as
a `u8`.
-/

namespace Lan865x.OaTc6
open Framing

def RxFault.overrunOf : RxFault → Option Nat
  | .overrun addr => some addr
  | _ => none

/-- The skbs that were given more than they have room for, the first one first. -/
def overrunSkbs (rx : RxState) : List Nat := rx.faults.filterMap RxFault.overrunOf

def skbRoom (mtu : Nat) : Nat := mtu + ethHlen + ethFcsLen

def firstPut (size : Nat) : Nat := toU8 ((size : Int) - sizeofTimestampFormat)
def lastPut (size : Nat) : Nat := toU8 ((size : Int) - 4)

/-- The skb being filled: its address, and how much has been put into it. -/
abbrev SkbFill : Type := Option (Nat × Nat)

def SkbFill.more (filling : SkbFill) (length : Nat) : SkbFill :=
  filling.map fun held => (held.1, held.2 + length)

/-- The address of an skb that has been given too much. -/
def SkbFill.beyond (mtu : Nat) (filling : SkbFill) : List Nat :=
  match filling with
  | none => []
  | some (addr, put) => if put ≤ skbRoom mtu then [] else [addr]

def begun (io : ChunkIo) (size : Nat) : SkbFill :=
  if io.alloc then some (io.addr, firstPut size) else none

/-- The skb being filled when the piece is done with. -/
def SkbFill.after (filling : SkbFill) (io : ChunkIo) : Piece (List UInt8) → SkbFill
  | .idle => filling
  | .start first => begun io first.length
  | .middle block => filling.more block.length
  | .finish _ => none
  | .whole _ => none
  | .turn _ first => begun io first.length

/-- The skbs that the piece overruns. -/
def SkbFill.overruns (mtu : Nat) (filling : SkbFill) (io : ChunkIo) :
    Piece (List UInt8) → List Nat
  | .idle => []
  | .start first => (begun io first.length).beyond mtu
  | .middle block => (filling.more block.length).beyond mtu
  | .finish last => (filling.more (lastPut last.length)).beyond mtu
  | .whole only => (begun io only.length).beyond mtu
  | .turn last first =>
      (filling.more (lastPut last.length)).beyond mtu ++ (begun io first.length).beyond mtu

/-- The skb that the piece allocates. -/
def grantedBy (io : ChunkIo) : Piece (List UInt8) → List Nat
  | .start _ | .whole _ | .turn _ _ => if io.alloc then [io.addr] else []
  | _ => []

structure Fills (mtu : Nat) (filling : SkbFill) (rx : RxState) : Prop where
  mtuIs : rx.mtu = mtu
  held : rx.rxSkb.map (fun skb => (skb.addr, skb.data.length)) = filling
  room : ∀ skb, rx.rxSkb = some skb → skb.room = skbRoom mtu
  recovering : rx.rxBufOverflow = true → rx.rxSkb = none

/-- What an operation does to the skb being filled, and the skbs that it overruns and
allocates. -/
structure FillsOn (mtu : Nat) (before after : RxState) (filling : SkbFill)
    (spilled granted : List Nat) : Prop where
  fills : Fills mtu filling after
  overran : overrunSkbs after = overrunSkbs before ++ spilled
  allocated : after.allocated = before.allocated ++ granted

theorem FillsOn.refl {mtu : Nat} {rx : RxState} {filling : SkbFill} (fills : Fills mtu filling rx) :
    FillsOn mtu rx rx filling [] [] :=
  ⟨fills, (List.append_nil _).symm, (List.append_nil _).symm⟩

theorem FillsOn.trans {mtu : Nat} {first second third : RxState} {middle last : SkbFill}
    {spilled granted spilledThen grantedThen : List Nat}
    (left : FillsOn mtu first second middle spilled granted)
    (right : FillsOn mtu second third last spilledThen grantedThen) :
    FillsOn mtu first third last (spilled ++ spilledThen) (granted ++ grantedThen) := by
  refine ⟨right.fills, ?_, ?_⟩
  · rw [right.overran, left.overran, List.append_assoc]
  · rw [right.allocated, left.allocated, List.append_assoc]

/-- Steps that leave the skb and the records alone. -/
theorem FillsOn.after {mtu : Nat} (first : RxState) {second third : RxState} {filling : SkbFill}
    {spilled granted : List Nat} (fills : FillsOn mtu second third filling spilled granted)
    (faults : second.faults = first.faults) (allocated : second.allocated = first.allocated) :
    FillsOn mtu first third filling spilled granted := by
  refine ⟨fills.fills, ?_, ?_⟩
  · rw [fills.overran, overrunSkbs, faults, overrunSkbs]
  · rw [fills.allocated, allocated]

theorem overrun_faults_of (skb : RxSkb) (mtu total : Nat) (room : skb.room = skbRoom mtu) :
    (overrunFaults skb total).filterMap RxFault.overrunOf =
      SkbFill.beyond mtu (some (skb.addr, total)) := by
  simp only [overrunFaults, SkbFill.beyond, room]
  split <;> rfl

theorem overwrite_faults_of (rx : RxState) :
    (overwriteFaults rx).filterMap RxFault.overrunOf = [] := by
  cases held : rx.rxSkb <;> simp [overwriteFaults, held, RxFault.overrunOf]

section Steps
variable {mtu : Nat} {filling : SkbFill} (rx : RxState) (fills : Fills mtu filling rx)
include fills

theorem fills_update (payload length : Nat) :
    FillsOn mtu rx (updateRxSkb rx payload length) (filling.more length)
      ((filling.more length).beyond mtu) [] := by
  have held := fills.held
  cases current : rx.rxSkb with
  | none =>
      rw [current, Option.map_none] at held
      subst filling
      refine ⟨⟨?_, ?_, ?_, ?_⟩, ?_, ?_⟩ <;>
        simp [updateRxSkb, current, fills.mtuIs, overrunSkbs, RxFault.overrunOf, SkbFill.more,
          SkbFill.beyond]
  | some skb =>
      rw [current, Option.map_some] at held
      subst filling
      have room := fills.room skb current
      have calm : rx.rxBufOverflow ≠ true := fun recovering => by
        simp [fills.recovering recovering] at current
      rw [update_some rx skb payload length current]
      refine ⟨⟨fills.mtuIs, ?_, ?_, fun recovering => absurd recovering calm⟩, ?_, ?_⟩
      · simp [SkbFill.more, Memory.cellsAt_length]
      · rintro _ ⟨⟩
        exact room
      · simp only [overrunSkbs, List.filterMap_append, overrun_faults_of skb mtu _ room]
        rfl
      · exact (List.append_nil _).symm

theorem fills_submit : FillsOn mtu rx (submitRxSkb rx) none [] [] := by
  cases current : rx.rxSkb with
  | none =>
      refine ⟨⟨?_, ?_, ?_, ?_⟩, ?_, ?_⟩ <;>
        simp [submitRxSkb, current, fills.mtuIs, overrunSkbs, RxFault.overrunOf]
  | some skb =>
      rw [submit_some rx skb current]
      exact ⟨⟨fills.mtuIs, rfl, by simp, fun _ => rfl⟩, (List.append_nil _).symm,
        (List.append_nil _).symm⟩

theorem fills_frame_end (payload size : Nat) :
    FillsOn mtu rx (prcsRxFrameEnd rx payload size) none
      ((filling.more (lastPut size)).beyond mtu) [] := by
  have updated := fills_update rx fills payload (toU8 ((size : Int) - 4))
  have ended := updated.trans (fills_submit _ updated.fills)
  rwa [List.append_nil] at ended

theorem fills_cleanup : FillsOn mtu rx (cleanupOngoingRxSkb rx) none [] [] := by
  cases current : rx.rxSkb with
  | none =>
      have held := fills.held
      rw [current, Option.map_none] at held
      subst filling
      simpa [cleanupOngoingRxSkb, current] using FillsOn.refl fills
  | some skb =>
      simp only [cleanupOngoingRxSkb, current]
      exact ⟨⟨fills.mtuIs, rfl, by simp, fun _ => rfl⟩, (List.append_nil _).symm,
        (List.append_nil _).symm⟩

theorem fills_overflowed : FillsOn mtu rx (overflowed rx) none [] [] := by
  cases current : rx.rxSkb with
  | none =>
      refine ⟨⟨?_, ?_, ?_, ?_⟩, ?_, ?_⟩ <;>
        simp [overflowed, cleanupOngoingRxSkb, current, fills.mtuIs, overrunSkbs]
  | some skb =>
      refine ⟨⟨?_, ?_, ?_, ?_⟩, ?_, ?_⟩ <;>
        simp [overflowed, cleanupOngoingRxSkb, current, fills.mtuIs, overrunSkbs]

theorem fills_begin (payload size : Nat) (io : ChunkIo) (calm : rx.rxBufOverflow = false) :
    FillsOn mtu rx (beginRxFrame rx payload size io).2 (begun io size)
      ((begun io size).beyond mtu) (if io.alloc then [io.addr] else []) := by
  have still := (begin_overflow rx payload size io).trans calm
  cases granted : io.alloc with
  | true =>
      have room : (newRxSkb rx io).room = skbRoom mtu := by
        simp [newRxSkb, skbRoom, fills.mtuIs]
      have faults := overrun_faults_of (newRxSkb rx io) mtu (firstPut size) room
      rw [begin_granted rx payload size io granted] at still ⊢
      refine ⟨⟨fills.mtuIs, ?_, ?_, fun recovering => ?_⟩, ?_, rfl⟩
      · simp [begun, granted, begunRxSkb, newRxSkb, firstPut, Memory.cellsAt_length]
      · rintro _ ⟨⟩
        exact room
      · exact absurd (still.symm.trans recovering) (by simp)
      · simp only [overrunSkbs, List.filterMap_append, overwrite_faults_of, List.append_nil]
        exact congrArg _ (faults.trans (by simp [begun, granted, newRxSkb]))
  | false =>
      rw [begin_refused rx payload size io granted]
      refine ⟨⟨fills.mtuIs, by simp [begun, granted], by simp, fun _ => rfl⟩, ?_, ?_⟩
      · simp [overrunSkbs, overwrite_faults_of, begun, granted, SkbFill.beyond]
      · simp

end Steps

/-- The pieces that a driver that skips passes over. -/
theorem piece_inside (chunk : RxChunk) (piece : Piece (List UInt8))
    (reads : chunk.piece = some piece) (busy : piece.isIdle = false)
    (inside : flag dataFooterStartValid chunk.footer = false) :
    (∃ block, piece = .middle block) ∨ ∃ last, piece = .finish last := by
  simp only [RxChunk.piece, inside] at reads
  split at reads
  · cases piece <;> simp [Piece.isIdle] at reads busy
  · cases ends : flag dataFooterEndValid chunk.footer with
    | false =>
        simp only [ends, Option.some.injEq] at reads
        exact Or.inl ⟨_, reads.symm⟩
    | true =>
        simp only [ends, Option.some.injEq] at reads
        exact Or.inr ⟨_, reads.symm⟩

section Chunks
variable {mtu : Nat} {filling : SkbFill} (rx : RxState) (slot : Nat) (r : Received)
  (piece : Piece (List UInt8)) (fills : Fills mtu filling rx)
  (reads : r.chunk.piece = some piece) (busy : piece.isIdle = false)
include fills

theorem fills_complete (payload size : Nat) (io : ChunkIo) (calm : rx.rxBufOverflow = false) :
    FillsOn mtu rx (prcsCompleteRxFrame rx payload size io).2 none ((begun io size).beyond mtu)
      (if io.alloc then [io.addr] else []) := by
  have first := fills_begin rx fills payload size io calm
  rw [prcsCompleteRxFrame]
  rcases begin_skb rx payload size io with ⟨done, _⟩ | ⟨refused, empty⟩
  · simp only [done, ne_eq, not_true_eq_false, if_false]
    have submitted := first.trans (fills_submit _ first.fills)
    rwa [List.append_nil, List.append_nil] at submitted
  · simp only [refused, ne_eq, enomem_fails.1, not_false_eq_true, if_true]
    exact ⟨⟨first.fills.mtuIs, by rw [empty]; rfl, first.fills.room, first.fills.recovering⟩,
      first.overran, first.allocated⟩

/-- The end of one frame and the start of the next in a chunk. -/
theorem fills_turn (last first : Nat) (data payload : Nat) (io : ChunkIo)
    (calm : rx.rxBufOverflow = false) :
    FillsOn mtu rx
      (beginRxFrame (if rx.rxSkb.isSome then prcsRxFrameEnd rx data last else rx) payload first
        io).2
      (begun io first) ((filling.more (lastPut last)).beyond mtu ++ (begun io first).beyond mtu)
      (if io.alloc then [io.addr] else []) := by
  cases current : rx.rxSkb with
  | none =>
      have held := fills.held
      rw [current, Option.map_none] at held
      subst filling
      simp only [Option.isSome_none, Bool.false_eq_true, if_false]
      exact fills_begin rx fills payload first io calm
  | some skb =>
      have ended := fills_frame_end rx fills data last
      have still : (prcsRxFrameEnd rx data last).rxBufOverflow = false := by
        rw [frame_end_some rx skb data last current]
        exact calm
      simpa using ended.trans (fills_begin _ ended.fills payload first io still)

include reads busy

theorem fills_branch (calm : rx.rxBufOverflow = false) :
    FillsOn mtu rx
      (branchPayload rx (slot * chunkSize) r.chunk.footer r.io (rxBranch r.chunk.footer)).2
      (filling.after r.io piece) (filling.overruns mtu r.io piece) (grantedBy r.io piece) := by
  have branch := piece_branch r.chunk piece reads
  have sized := r.chunk.sized
  have payload : chunkPayloadSize = 64 := rfl
  have ends := end_offset_le r.chunk.footer
  cases piece with
  | idle => simp [Piece.isIdle] at busy
  | start first =>
      have size : first.length = chunkPayloadSize - startOffset r.chunk.footer := by
        rw [branch.2.2, List.length_drop, sized]
      rw [branch.2.1, branchPayload, prcsRxFrameStart, ← size]
      exact fills_begin rx fills _ _ r.io calm
  | middle block =>
      have size : block.length = chunkPayloadSize := by rw [branch.2.2, sized]
      rw [branch.2.1, branchPayload, prcsOngoingRxFrame, ← size]
      exact fills_update rx fills _ _
  | finish last =>
      have size : last.length = endOffset r.chunk.footer + 1 := by
        rw [branch.2.2, List.length_take, sized]
        omega
      rw [branch.2.1, branchPayload, ← size]
      exact fills_frame_end rx fills _ _
  | whole only =>
      have size : only.length = endOffset r.chunk.footer + 1 - startOffset r.chunk.footer := by
        rw [branch.2.2, List.length_take, List.length_drop, sized]
        omega
      rw [branch.2.1, branchPayload, ← size]
      exact fills_complete rx fills _ _ r.io calm
  | turn last first =>
      have endSize : last.length = endOffset r.chunk.footer + 1 := by
        rw [branch.2.2.1, List.length_take, sized]
        omega
      have startSize : first.length = chunkPayloadSize - startOffset r.chunk.footer := by
        rw [branch.2.2.2, List.length_drop, sized]
      rw [branch.2.1, branchPayload, prcsRxFrameStart, ← endSize, ← startSize]
      exact fills_turn rx fills _ _ _ _ r.io calm

/-- The payload of a chunk puts what its piece says. -/
theorem fills_payload :
    FillsOn mtu rx (prcsRxChunkPayload rx (slot * chunkSize) r.chunk.footer r.io).2
      (filling.after r.io piece) (filling.overruns mtu r.io piece) (grantedBy r.io piece) := by
  by_cases live : rx.rxBufOverflow = false ∨ flag dataFooterStartValid r.chunk.footer = true
  · have woken : Fills mtu filling (awake rx) := ⟨fills.mtuIs, fills.held, fills.room, nofun⟩
    rw [payload_branches rx _ _ _ live]
    exact (fills_branch (awake rx) slot r piece woken reads busy rfl).after rx rfl rfl
  · -- A driver that skips has no skb that a piece could be put into.
    obtain ⟨recovering, inside⟩ := not_or.mp live
    have skipping : rx.rxBufOverflow = true := by simpa using recovering
    have unstarted : flag dataFooterStartValid r.chunk.footer = false := by simpa using inside
    have held := fills.held
    rw [fills.recovering skipping, Option.map_none] at held
    subst filling
    rw [payload_skips rx _ _ _ skipping unstarted]
    rcases piece_inside r.chunk piece reads busy unstarted with ⟨block, rfl⟩ | ⟨last, rfl⟩
    · exact FillsOn.refl fills
    · exact FillsOn.refl fills
end Chunks

/-- A chunk whose footer lets it through puts what its piece says. -/
theorem fills_chunk {mtu : Nat} {filling : SkbFill} (rx : RxState) (slot : Nat) (r : Received)
    (piece : Piece (List UInt8)) (fills : Fills mtu filling rx)
    (reads : r.chunk.piece = some piece) (holds : Holds rx.spiDataRxBuf slot r.chunk)
    (passed : processRxChunkFooter rx r.chunk.footer r.io =
      (0, footerCredits rx r.chunk.footer)) :
    FillsOn mtu rx (processRxChunk rx slot r.io).2 (filling.after r.io piece)
      (filling.overruns mtu r.io piece) (grantedBy r.io piece) := by
  have branch := piece_branch r.chunk piece reads
  have credited : Fills mtu filling (footerCredits rx r.chunk.footer) :=
    ⟨fills.mtuIs, fills.held, fills.room, fills.recovering⟩
  simp only [processRxChunk, holds_footer rx slot r.chunk holds, passed, ne_eq, not_true_eq_false,
    if_false]
  cases valid : flag dataFooterDataValid r.chunk.footer with
  | false =>
      have idle : piece = .idle := by cases piece <;> simp [valid] at branch ⊢
      subst idle
      exact (FillsOn.refl credited).after rx rfl rfl
  | true =>
      have busy : piece.isIdle = false := by
        cases piece <;> simp [valid, Piece.isIdle] at branch ⊢
      exact (fills_payload _ slot r piece credited reads busy).after rx rfl rfl

/-! Frame by frame. -/

def startsFrame (r : Received) : Bool :=
  flag dataFooterDataValid r.chunk.footer && flag dataFooterStartValid r.chunk.footer

def opensFrame : Piece (List UInt8) → Bool
  | .start _ => true
  | .whole _ => true
  | .turn _ _ => true
  | .idle => false
  | .middle _ => false
  | .finish _ => false

def refuses (received : List Received) : Bool :=
  received.any fun r => startsFrame r && !r.io.alloc

def Received.piece (r : Received) : Piece (List UInt8) := r.chunk.piece.getD .idle

/-- Whether the chunks that follow in a frame put more into its skb than it has room for, with
`put` bytes in it already. -/
def putsBeyond (mtu : Nat) : Nat → List Received → Bool
  | _, [] => false
  | put, r :: rest => match r.piece with
      | .idle => putsBeyond mtu put rest
      | .middle block =>
          skbRoom mtu < put + block.length || putsBeyond mtu (put + block.length) rest
      | .finish last => skbRoom mtu < put + lastPut last.length
      | .turn last _ => skbRoom mtu < put + lastPut last.length
      | .start _ => false
      | .whole _ => false

def startsBeyond (mtu : Nat) (behind : List Received) : Piece (List UInt8) → Bool
  | .start first =>
      skbRoom mtu < firstPut first.length || putsBeyond mtu (firstPut first.length) behind
  | .turn _ first =>
      skbRoom mtu < firstPut first.length || putsBeyond mtu (firstPut first.length) behind
  | .whole only => skbRoom mtu < firstPut only.length
  | .idle => false
  | .middle _ => false
  | .finish _ => false

/-- Whether the frame that starts in `r`, with what follows of it, overruns its skb. -/
def overrunsSkb (mtu : Nat) (r : Received) (behind : List Received) : Bool :=
  startsBeyond mtu behind r.piece

/-- The chunks that are read: a refused allocation is the last thing that happens. -/
def untilRefusal : List Received → List Received
  | [] => []
  | r :: rest => r :: if startsFrame r && !r.io.alloc then [] else untilRefusal rest

def SkbFill.behind (filling : SkbFill) (received : List Received) : SkbFill :=
  received.foldl (fun filling r => filling.after r.io r.piece) filling

/-- The skbs that the chunks overrun, and those that they allocate. -/
def overruns (mtu : Nat) : SkbFill → List Received → List Nat
  | _, [] => []
  | filling, r :: rest =>
      filling.overruns mtu r.io r.piece ++ overruns mtu (filling.after r.io r.piece) rest

def grants (received : List Received) : List Nat :=
  received.flatMap fun r => grantedBy r.io r.piece

theorem refuses_append (left right : List Received) :
    refuses (left ++ right) = (refuses left || refuses right) := List.any_append

theorem until_refusal_all (received : List Received) (granted : refuses received = false) :
    untilRefusal received = received := by
  induction received with
  | nil => rfl
  | cons r rest ih =>
      simp only [refuses, List.any_cons, Bool.or_eq_false_iff] at granted
      simp only [untilRefusal, granted.1, Bool.false_eq_true, if_false, ih granted.2]

theorem until_refusal_append (left right : List Received) :
    untilRefusal (left ++ right) =
      if refuses left then untilRefusal left else left ++ untilRefusal right := by
  induction left with
  | nil => simp [refuses]
  | cons r rest ih =>
      have tail : refuses (r :: rest) = ((startsFrame r && !r.io.alloc) || refuses rest) := rfl
      rw [List.cons_append, untilRefusal, untilRefusal, ih, tail]
      cases startsFrame r <;> cases r.io.alloc <;> cases refuses rest <;> simp

theorem overruns_append (mtu : Nat) (filling : SkbFill) (left right : List Received) :
    overruns mtu filling (left ++ right) =
      overruns mtu filling left ++ overruns mtu (filling.behind left) right := by
  induction left generalizing filling with
  | nil => rfl
  | cons r rest ih => simp [overruns, ih, SkbFill.behind]

theorem branch_starts (footer : BitVec 32) : flag dataFooterStartValid footer =
    match rxBranch footer with
      | .start | .complete | .turn => true
      | .finish => false
      | .ongoing => flag dataFooterStartValid footer := by
  rw [rxBranch]
  cases flag dataFooterStartValid footer <;> cases flag dataFooterEndValid footer
  · rfl
  · rfl
  · rfl
  · by_cases inside : startOffset footer < endOffset footer
    · simp [inside]
    · by_cases crossed : endOffset footer < startOffset footer <;> simp [inside, crossed]

theorem piece_starts_frame (r : Received) (piece : Piece (List UInt8))
    (reads : r.chunk.piece = some piece) :
    startsFrame r = opensFrame piece := by
  have branch := piece_branch r.chunk piece reads
  have starts := branch_starts r.chunk.footer
  rw [startsFrame]
  cases piece with
  | idle => simp only [branch, Bool.false_and, opensFrame]
  | start first => rw [branch.1, starts, branch.2.1, Bool.true_and, opensFrame]
  | whole only => rw [branch.1, starts, branch.2.1, Bool.true_and, opensFrame]
  | turn last first => rw [branch.1, starts, branch.2.1, Bool.true_and, opensFrame]
  | finish last => rw [branch.1, starts, branch.2.1, Bool.true_and, opensFrame]
  | middle block =>
      by_contra started
      rw [opensFrame] at started
      have starting : flag dataFooterStartValid r.chunk.footer = true := by simp_all
      rcases piece_starts r.chunk _ reads rfl starting with ⟨_, same⟩ | ⟨_, same⟩ | ⟨_, _, same⟩
      · exact nomatch same
      · exact nomatch same
      · exact nomatch same

theorem split_cons {α : Type} (first : α) (rest : List α) (P : List α → α → List α → Prop) :
    (∃ front here back, first :: rest = front ++ here :: back ∧ P front here back) ↔
      P [] first rest ∨ ∃ front here back, rest = front ++ here :: back ∧
        P (first :: front) here back := by
  constructor
  · rintro ⟨front, here, back, split, holds⟩
    cases front with
    | nil =>
        obtain ⟨rfl, rfl⟩ := List.cons.inj split
        exact .inl holds
    | cons other front =>
        obtain ⟨rfl, tail⟩ := List.cons.inj split
        exact .inr ⟨front, here, back, tail, holds⟩
  · rintro (holds | ⟨front, here, back, tail, holds⟩)
    · exact ⟨[], first, rest, rfl, holds⟩
    · exact ⟨first :: front, here, back, by rw [tail]; rfl, holds⟩

theorem mem_beyond (mtu addr : Nat) (filling : SkbFill) (length : Nat) :
    addr ∈ (filling.more length).beyond mtu ↔
      ∃ put, filling = some (addr, put) ∧ skbRoom mtu < put + length := by
  cases filling with
  | none => simp [SkbFill.more, SkbFill.beyond]
  | some held =>
      obtain ⟨owner, put⟩ := held
      by_cases fits : put + length ≤ skbRoom mtu
      · simp [SkbFill.more, SkbFill.beyond, fits]
      · simp [SkbFill.more, SkbFill.beyond, fits, eq_comm]
        omega

theorem mem_begun (mtu addr : Nat) (io : ChunkIo) (size : Nat) :
    addr ∈ (begun io size).beyond mtu ↔
      io.alloc = true ∧ io.addr = addr ∧ skbRoom mtu < firstPut size := by
  cases granted : io.alloc with
  | false => simp [begun, granted, SkbFill.beyond]
  | true =>
      by_cases fits : firstPut size ≤ skbRoom mtu
      · simp [begun, granted, SkbFill.beyond, fits]
      · simp [begun, granted, SkbFill.beyond, fits, eq_comm]
        omega

theorem more_some (filling : SkbFill) (length addr : Nat) (P : Nat → Prop) :
    (∃ put, filling.more length = some (addr, put) ∧ P put) ↔
      ∃ put, filling = some (addr, put) ∧ P (put + length) := by
  cases filling with
  | none => simp [SkbFill.more]
  | some held =>
      obtain ⟨owner, put⟩ := held
      simp [SkbFill.more]

theorem begun_some (io : ChunkIo) (size addr : Nat) (P : Nat → Prop) :
    (∃ put, begun io size = some (addr, put) ∧ P put) ↔
      io.alloc = true ∧ io.addr = addr ∧ P (firstPut size) := by
  cases granted : io.alloc with
  | false => simp [begun, granted]
  | true => simp [begun, granted]

/-- An skb is overrun by the frame under way, or by one that starts before any allocation is
refused. -/
theorem mem_overruns (mtu addr : Nat) (received : List Received)
    (readable : ∀ r ∈ received, r.chunk.piece = some r.piece) (filling : SkbFill) :
    addr ∈ overruns mtu filling (untilRefusal received) ↔
      (∃ put, filling = some (addr, put) ∧ putsBeyond mtu put received = true) ∨
      ∃ front r back, received = front ++ r :: back ∧ refuses front = false ∧
        r.io.alloc = true ∧ r.io.addr = addr ∧ overrunsSkb mtu r back = true := by
  induction received generalizing filling with
  | nil => simp [untilRefusal, overruns, putsBeyond]
  | cons r rest ih =>
      have tail := ih (fun other member => readable other (List.mem_cons_of_mem r member))
        (filling.after r.io r.piece)
      have refused : ∀ front, refuses (r :: front) =
          ((startsFrame r && !r.io.alloc) || refuses front) := fun _ => rfl
      have calm : refuses [] = false := rfl
      obtain ⟨piece, reads⟩ : ∃ piece, r.piece = piece := ⟨_, rfl⟩
      have starts := piece_starts_frame r piece (reads ▸ readable r List.mem_cons_self)
      have own : overrunsSkb mtu r rest = startsBeyond mtu rest piece := by rw [overrunsSkb, reads]
      rw [untilRefusal, overruns, List.mem_append, reads]
      rw [split_cons r rest fun front r back => refuses front = false ∧
        r.io.alloc = true ∧ r.io.addr = addr ∧ overrunsSkb mtu r back = true]
      simp only [refused, own, putsBeyond, reads, calm, true_and]
      rw [reads] at tail
      cases piece with
      | idle =>
          simp only [starts, opensFrame, startsBeyond, Bool.false_and, Bool.false_or,
            Bool.false_eq_true, if_false, and_false, false_or, SkbFill.overruns, List.not_mem_nil]
          exact tail
      | middle block =>
          rw [SkbFill.after, more_some] at tail
          simp only [starts, opensFrame, startsBeyond, Bool.false_and, Bool.false_or,
            Bool.false_eq_true, if_false, and_false, false_or, SkbFill.overruns, mem_beyond,
            Bool.or_eq_true, decide_eq_true_eq, SkbFill.after, tail, and_or_left, exists_or,
            or_assoc]
      | finish last =>
          simp only [SkbFill.after, reduceCtorEq, false_and, exists_false, false_or] at tail
          simp only [starts, opensFrame, startsBeyond, Bool.false_and, Bool.false_or,
            Bool.false_eq_true, if_false, and_false, false_or, SkbFill.overruns, mem_beyond,
            decide_eq_true_eq, SkbFill.after, tail]
      | start first =>
          rw [SkbFill.after, begun_some] at tail
          simp only [starts, opensFrame, startsBeyond, SkbFill.overruns, mem_begun,
            Bool.or_eq_true, decide_eq_true_eq, Bool.true_and, Bool.false_eq_true, and_false,
            exists_false, false_or, SkbFill.after]
          cases granted : r.io.alloc with
          | true =>
              simp [tail, granted, and_or_left, or_assoc]
          | false =>
              simp [overruns]
      | whole only =>
          simp only [SkbFill.after, reduceCtorEq, false_and, exists_false, false_or] at tail
          simp only [starts, opensFrame, startsBeyond, SkbFill.overruns, mem_begun,
            decide_eq_true_eq, Bool.true_and, Bool.false_eq_true, and_false, exists_false,
            false_or, SkbFill.after]
          cases granted : r.io.alloc with
          | true => simp [tail]
          | false => simp [overruns]
      | turn last first =>
          rw [SkbFill.after, begun_some] at tail
          simp only [starts, opensFrame, startsBeyond, SkbFill.overruns, List.mem_append,
            mem_beyond, mem_begun, Bool.or_eq_true, decide_eq_true_eq, Bool.true_and, SkbFill.after]
          cases granted : r.io.alloc with
          | true => simp [tail, granted, and_or_left, or_assoc]
          | false => simp [overruns]

end Lan865x.OaTc6
