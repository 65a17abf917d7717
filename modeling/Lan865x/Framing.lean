import Mathlib.Data.List.Basic

/-!
Frames cut into chunks. A chunk carries a piece of at most two frames: the end
of the one under way and the start of the next. `feed` puts the pieces together
again and refuses a sequence in which a frame starts inside another or goes on
without having started.
-/

namespace Lan865x.Framing

universe u
variable {α : Type u}

inductive Piece (α : Type u) where
  | idle
  | start (first : α)
  | middle (next : α)
  | finish (last : α)
  | whole (only : α)
  | turn (last first : α)
  deriving DecidableEq

/-- The frames put together so far and the one under way. -/
structure Assembly (α : Type u) where
  done : List (List α)
  current : Option (List α)

def Assembly.empty : Assembly α := ⟨[], none⟩

def Assembly.feed (assembly : Assembly α) : Piece α → Option (Assembly α)
  | .idle => some assembly
  | .start first => match assembly.current with
    | none => some { assembly with current := some [first] }
    | some _ => none
  | .middle next => assembly.current.map fun frame =>
      { assembly with current := some (frame ++ [next]) }
  | .finish last => assembly.current.map fun frame =>
      { done := assembly.done ++ [frame ++ [last]], current := none }
  | .whole only => match assembly.current with
    | none => some { assembly with done := assembly.done ++ [[only]] }
    | some _ => none
  | .turn last first => assembly.current.map fun frame =>
      { done := assembly.done ++ [frame ++ [last]], current := some [first] }

def Assembly.feedAll (assembly : Assembly α) : List (Piece α) → Option (Assembly α)
  | [] => some assembly
  | piece :: rest => (assembly.feed piece).bind fun next => next.feedAll rest

theorem feed_all_append (assembly : Assembly α) (left right : List (Piece α)) :
    assembly.feedAll (left ++ right) =
      (assembly.feedAll left).bind fun next => next.feedAll right := by
  induction left generalizing assembly with
  | nil => rfl
  | cons piece rest ih =>
      simp only [List.cons_append, Assembly.feedAll, Option.bind_assoc]
      exact congrArg _ (funext fun next => ih next)

theorem feed_all_snoc (assembly middle : Assembly α) (pieces : List (Piece α)) (piece : Piece α)
    (fed : assembly.feedAll pieces = some middle) :
    assembly.feedAll (pieces ++ [piece]) = middle.feed piece := by
  rw [feed_all_append, fed]
  simp [Assembly.feedAll]

/-- The pieces of a frame's chunks after the first. -/
def restPieces : List α → List (Piece α)
  | [] => []
  | [last] => [.finish last]
  | next :: rest => .middle next :: restPieces rest

def pieces : List α → List (Piece α)
  | [] => []
  | [only] => [.whole only]
  | first :: rest => .start first :: restPieces rest

theorem feed_rest_pieces (done : List (List α)) (frame rest : List α) (more : rest ≠ []) :
    Assembly.feedAll ⟨done, some frame⟩ (restPieces rest) =
      some ⟨done ++ [frame ++ rest], none⟩ := by
  induction rest generalizing frame with
  | nil => exact absurd rfl more
  | cons next tail ih =>
      cases tail with
      | nil => simp [restPieces, Assembly.feedAll, Assembly.feed]
      | cons after tail =>
          have rest := ih (frame ++ [next]) (by simp)
          simpa [restPieces, Assembly.feedAll, Assembly.feed] using rest

theorem feed_pieces (done : List (List α)) (frame : List α) (nonempty : frame ≠ []) :
    Assembly.feedAll ⟨done, none⟩ (pieces frame) = some ⟨done ++ [frame], none⟩ := by
  cases frame with
  | nil => exact absurd rfl nonempty
  | cons first rest =>
      cases rest with
      | nil => simp [pieces, Assembly.feedAll, Assembly.feed]
      | cons next tail =>
          have rest := feed_rest_pieces done [first] (next :: tail) (by simp)
          simpa [pieces, Assembly.feedAll, Assembly.feed] using rest

/-- Frames sent one after another are put together one after another. -/
theorem feed_frames (done frames : List (List α)) (nonempty : ∀ frame ∈ frames, frame ≠ []) :
    Assembly.feedAll ⟨done, none⟩ (frames.flatMap pieces) = some ⟨done ++ frames, none⟩ := by
  induction frames generalizing done with
  | nil => simp [Assembly.feedAll]
  | cons frame rest ih =>
      rw [List.flatMap_cons, feed_all_append,
        feed_pieces done frame (nonempty frame List.mem_cons_self)]
      have tail := ih (done ++ [frame]) fun f member => nonempty f (List.mem_cons_of_mem _ member)
      simpa using tail

def Piece.isIdle : Piece α → Bool
  | .idle => true
  | _ => false

/-- Idle chunks between the others change nothing. -/
theorem feed_all_idle (assembly : Assembly α) (all : List (Piece α)) :
    assembly.feedAll (all.filter fun piece => !piece.isIdle) = assembly.feedAll all := by
  induction all generalizing assembly with
  | nil => rfl
  | cons piece rest ih =>
      cases idle : piece.isIdle with
      | false => simp [idle, Assembly.feedAll, ih]
      | true =>
          have silent : piece = .idle := by
            cases piece <;> simp_all [Piece.isIdle]
          subst silent
          simpa [idle, Assembly.feedAll, Assembly.feed] using ih assembly

/-- What is done stays done, and a frame under way is the beginning of a frame
that is put together in the end. -/
theorem feed_all_extends (assembly final : Assembly α) (all : List (Piece α))
    (fed : assembly.feedAll all = some final) :
    assembly.done <+: final.done ∧
      ∀ frame, assembly.current = some frame → final.current = none →
        ∃ whole ∈ final.done, frame <+: whole := by
  -- Only the piece that ends a frame completes it, and the pieces before it make it longer.
  induction all generalizing assembly with
  | nil =>
      simp only [Assembly.feedAll, Option.some.injEq] at fed
      subst final
      refine ⟨List.prefix_rfl, fun frame under ended => ?_⟩
      rw [under] at ended
      exact absurd ended (by simp)
  | cons piece rest ih =>
      obtain ⟨next, first, tail⟩ := Option.bind_eq_some_iff.mp fed
      obtain ⟨grown, opened⟩ := ih next tail
      cases piece with
      | idle =>
          simp only [Assembly.feed, Option.some.injEq] at first
          subst next
          exact ⟨grown, opened⟩
      | start a =>
          cases current : assembly.current with
          | some frame => simp [Assembly.feed, current] at first
          | none =>
              simp only [Assembly.feed, current, Option.some.injEq] at first
              subst next
              exact ⟨grown, by simp⟩
      | whole a =>
          cases current : assembly.current with
          | some frame => simp [Assembly.feed, current] at first
          | none =>
              simp only [Assembly.feed, current, Option.some.injEq] at first
              subst next
              exact ⟨(List.prefix_append _ _).trans grown, by simp⟩
      | middle a =>
          obtain ⟨frame, current, moved⟩ := Option.map_eq_some_iff.mp first
          subst next
          refine ⟨grown, fun under held ended => ?_⟩
          obtain ⟨whole, member, longer⟩ := opened _ rfl ended
          rw [current, Option.some.injEq] at held
          subst under
          exact ⟨whole, member, (List.prefix_append _ _).trans longer⟩
      | finish a =>
          obtain ⟨frame, current, moved⟩ := Option.map_eq_some_iff.mp first
          subst next
          refine ⟨(List.prefix_append _ _).trans grown, fun under held _ => ?_⟩
          rw [current, Option.some.injEq] at held
          subst under
          exact ⟨frame ++ [a], grown.subset (by simp), List.prefix_append _ _⟩
      | turn a b =>
          obtain ⟨frame, current, moved⟩ := Option.map_eq_some_iff.mp first
          subst next
          refine ⟨(List.prefix_append _ _).trans grown, fun under held _ => ?_⟩
          rw [current, Option.some.injEq] at held
          subst under
          exact ⟨frame ++ [a], grown.subset (by simp), List.prefix_append _ _⟩

/-- A list in consecutive blocks of `size`, the last one possibly shorter. -/
def cut (size : Nat) (cells : List α) : List (List α) :=
  (List.range ((cells.length + size - 1) / size)).map fun i => (cells.drop (i * size)).take size

theorem cut_short (size : Nat) (cells : List α) (nonempty : 0 < cells.length)
    (fits : cells.length ≤ size) : cut size cells = [cells] := by
  have one : (cells.length + size - 1) / size = 1 := by
    rw [Nat.div_eq_iff (by omega)]
    omega
  simp [cut, one, List.take_of_length_le fits]

theorem cut_long (size : Nat) (cells : List α) (positive : 0 < size)
    (long : size < cells.length) :
    cut size cells = cells.take size :: cut size (cells.drop size) := by
  have more : (cells.length + size - 1) / size =
      ((cells.drop size).length + size - 1) / size + 1 := by
    rw [List.length_drop, ← Nat.add_div_right _ positive]
    congr 1
    omega
  simp only [cut, more, List.range_succ_eq_map, List.map_cons, List.map_map, Nat.zero_mul,
    List.drop_zero, List.cons.injEq, true_and]
  apply List.map_congr_left
  intro i _
  simp [List.drop_drop, Nat.succ_mul, Nat.add_comm]

/-- Properties of a cut follow the blocks: one short block, or a full block and
a cut of what is left. -/
theorem cut_induction {motive : List α → Prop} (size : Nat) (positive : 0 < size)
    (short : ∀ cells, 0 < cells.length → cells.length ≤ size → motive cells)
    (long : ∀ cells, size < cells.length → motive (cells.drop size) → motive cells)
    (cells : List α) (nonempty : 0 < cells.length) : motive cells := by
  by_cases fits : cells.length ≤ size
  · exact short cells nonempty fits
  · have left : (cells.drop size).length < cells.length := by simp; omega
    exact long cells (by omega)
      (cut_induction size positive short long (cells.drop size) (by simp; omega))
termination_by cells.length

theorem cut_flatten (size : Nat) (positive : 0 < size) (cells : List α)
    (nonempty : 0 < cells.length) : (cut size cells).flatten = cells := by
  refine cut_induction (motive := fun cells => (cut size cells).flatten = cells)
    size positive ?short ?long cells nonempty
  case short =>
    intro cells nonempty fits
    simp [cut_short size cells nonempty fits]
  case long =>
    intro cells long ih
    simp [cut_long size cells positive long, ih]

theorem cut_last (size : Nat) (positive : 0 < size) (cells : List α)
    (nonempty : 0 < cells.length) :
    cut size cells ≠ [] ∧
      ((cut size cells).getLastD []).length = (cells.length - 1) % size + 1 := by
  refine cut_induction (motive := fun cells => cut size cells ≠ [] ∧
    ((cut size cells).getLastD []).length = (cells.length - 1) % size + 1)
    size positive ?short ?long cells nonempty
  case short =>
    intro cells nonempty fits
    rw [cut_short size cells nonempty fits, Nat.mod_eq_of_lt (by omega)]
    simp
    omega
  case long =>
    intro cells long ⟨more, ih⟩
    rw [cut_long size cells positive long]
    refine ⟨by simp, ?_⟩
    have skip : cells.length - 1 = (cells.drop size).length - 1 + size := by
      rw [List.length_drop]
      omega
    rw [skip, Nat.add_mod_right, ← ih]
    cases tail : cut size (cells.drop size) with
    | nil => exact absurd tail more
    | cons block rest => simp [List.getLastD]

end Lan865x.Framing
