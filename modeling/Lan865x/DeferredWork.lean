import Lan865x.Transition

/-!
Work that is deferred and coalesced. Whoever changes the source marks the work pending. A worker
runs it later, one step at a time, with the source changing under it. The mark is taken away
before the run looks at the source, so a change that the run may have missed brings another run.
-/

namespace Lan865x.DeferredWork
open Transition

universe u

structure Worker (Source Pc Input Result World : Type u) where
  first : Pc
  step : Pc → Source → Input → World → (Pc ⊕ Result) × World

/-- `owed`: the source is changed and the work not yet marked. `last`: how the last run ended. -/
structure System (Source Pc Result World : Type u) where
  source : Source
  owed : Bool
  pending : Bool
  pc : Option Pc
  last : Option Result
  world : World

inductive Act (Change Input : Type u) where
  | change (change : Change)
  | schedule
  | start
  | step (input : Input)

variable {Source Pc Input Result World Change : Type u}

/-- The state behind a step of the worker. -/
def System.stepped (s : System Source Pc Result World) (outcome : (Pc ⊕ Result) × World) :
    System Source Pc Result World :=
  match outcome.1 with
  | .inl pc => { s with pc := some pc, world := outcome.2 }
  | .inr result => { s with pc := none, last := some result, world := outcome.2 }

def System.next (apply : Change → Source → Source) (worker : Worker Source Pc Input Result World)
    (s : System Source Pc Result World) :
    Act Change Input → Option (System Source Pc Result World)
  | .change change => some { s with source := apply change s.source, owed := true }
  | .schedule => some { s with owed := false, pending := true }
  | .start =>
      if s.pending = true ∧ s.pc.isNone then
        some { s with pending := false, pc := some worker.first }
      else none
  | .step input => s.pc.map fun pc => s.stepped (worker.step pc s.source input s.world)

/-- Nothing has run yet. -/
def deferring (apply : Change → Source → Source) (worker : Worker Source Pc Input Result World) :
    Machine (System Source Pc Result World) (Act Change Input) where
  start s := s.pc = none ∧ s.last = none
  next := System.next apply worker

def AtRest (s : System Source Pc Result World) : Prop :=
  s.owed = false ∧ s.pending = false ∧ s.pc = none

section Runs
variable {apply : Change → Source → Source} {worker : Worker Source Pc Input Result World}
  {s after : System Source Pc Result World}

/-- What a step can do. -/
inductive System.Moves (apply : Change → Source → Source)
    (worker : Worker Source Pc Input Result World) (s : System Source Pc Result World) :
    Act Change Input → System Source Pc Result World → Prop where
  | change (change) : Moves apply worker s (.change change)
      { s with source := apply change s.source, owed := true }
  | schedule : Moves apply worker s .schedule { s with owed := false, pending := true }
  | start (pending : s.pending = true) (idle : s.pc = none) : Moves apply worker s .start
      { s with pending := false, pc := some worker.first }
  | goesOn (input pc pcAfter world) (here : s.pc = some pc)
      (steps : worker.step pc s.source input s.world = (.inl pcAfter, world)) :
      Moves apply worker s (.step input) { s with pc := some pcAfter, world := world }
  | ends (input pc result world) (here : s.pc = some pc)
      (steps : worker.step pc s.source input s.world = (.inr result, world)) :
      Moves apply worker s (.step input) { s with pc := none, last := some result, world := world }

theorem moves {act : Act Change Input} (moved : s.next apply worker act = some after) :
    s.Moves apply worker act after := by
  cases act with
  | change change =>
      cases moved
      exact .change change
  | schedule =>
      cases moved
      exact .schedule
  | start =>
      rw [System.next] at moved
      split at moved
      · rename_i ready
        cases moved
        exact .start ready.1 (Option.isNone_iff_eq_none.mp ready.2)
      · cases moved
  | step input =>
      obtain ⟨pc, here, rfl⟩ := Option.map_eq_some_iff.mp moved
      rcases steps : worker.step pc s.source input s.world with ⟨pcAfter | result, world⟩
      · exact .goesOn input pc pcAfter world here steps
      · exact .ends input pc result world here steps

/-- While the source stays as it is, `good` holds of a run under way and `done` of its end. -/
structure Follows (worker : Worker Source Pc Input Result World)
    (good : Source → Pc → World → Prop) (done : Source → Result → World → Prop) : Prop where
  first : ∀ source world, good source worker.first world
  goesOn : ∀ source pc input world pcAfter worldAfter, good source pc world →
    worker.step pc source input world = (.inl pcAfter, worldAfter) →
    good source pcAfter worldAfter
  ends : ∀ source pc input world result worldAfter, good source pc world →
    worker.step pc source input world = (.inr result, worldAfter) →
    done source result worldAfter

variable {good : Source → Pc → World → Prop} {done : Source → Result → World → Prop}

/-- The last run, or the one under way, has missed nothing, or another one is to come. -/
def Coherent (good : Source → Pc → World → Prop) (done : Source → Result → World → Prop)
    (s : System Source Pc Result World) : Prop :=
  s.owed = true ∨ s.pending = true ∨
    (∀ pc, s.pc = some pc → good s.source pc s.world) ∧
    (s.pc = none → ∀ result, s.last = some result → done s.source result s.world)

theorem coherent_step (follows : Follows worker good done) {act : Act Change Input}
    (moved : s.Moves apply worker act after) (coherent : Coherent good done s) :
    Coherent good done after := by
  cases moved with
  | change => exact .inl rfl
  | schedule => exact .inr (.inl rfl)
  | start pending idle =>
      refine .inr (.inr ⟨?_, by simp⟩)
      rintro pc ⟨⟩
      exact follows.first s.source s.world
  | goesOn input pc pcAfter world here steps =>
      refine coherent.imp_right (Or.imp_right fun missedNothing => ⟨?_, by simp⟩)
      rintro pcNow ⟨⟩
      exact follows.goesOn _ _ _ _ _ _ (missedNothing.1 pc here) steps
  | ends input pc result world here steps =>
      refine coherent.imp_right (Or.imp_right fun missedNothing => ⟨by simp, ?_⟩)
      rintro - ended ⟨⟩
      exact follows.ends _ _ _ _ _ _ (missedNothing.1 pc here) steps

theorem coherent_run {ok : System Source Pc Result World → Act Change Input → Prop}
    (follows : Follows worker good done) (reached : Reaches (deferring apply worker) ok s) :
    Coherent good done s := by
  refine reached.invariant (Coherent good done) ?_ ?_
  · intro first ⟨idle, unused⟩
    refine .inr (.inr ⟨?_, ?_⟩)
    · simp [idle]
    · simp [unused]
  · intro before act after coherent _ moved
    exact coherent_step follows (moves moved) coherent

/-- At rest, the last run has seen the source as it is. -/
theorem rest_done {ok : System Source Pc Result World → Act Change Input → Prop}
    (follows : Follows worker good done) (reached : Reaches (deferring apply worker) ok s)
    (rest : AtRest s) {result : Result} (last : s.last = some result) :
    done s.source result s.world := by
  obtain ⟨unowed, unmarked, idle⟩ := rest
  rcases coherent_run follows reached with owed | pending | ⟨_, missedNothing⟩
  · simp [unowed] at owed
  · simp [unmarked] at pending
  · exact missedNothing idle result last

/-! How long it takes to come to rest. -/

/-- Nothing more is changed, and what is owed is marked. -/
def Settling (s : System Source Pc Result World) : Act Change Input → Prop
  | .change _ => False
  | .schedule => s.owed = true
  | .start => True
  | .step _ => True

def stepsLeft (rank : Pc → Nat) (worker : Worker Source Pc Input Result World)
    (s : System Source Pc Result World) : Nat :=
  s.owed.toNat * (rank worker.first + 3) + s.pending.toNat * (rank worker.first + 2) +
    (s.pc.elim 0 fun pc => rank pc + 1)

theorem settling_falls (rank : Pc → Nat)
    (shrinks : ∀ source pc input world pcAfter worldAfter,
      worker.step pc source input world = (.inl pcAfter, worldAfter) → rank pcAfter < rank pc)
    {act : Act Change Input} (settling : Settling s act)
    (moved : s.Moves apply worker act after) :
    stepsLeft rank worker after < stepsLeft rank worker s := by
  cases moved with
  | change => exact settling.elim
  | schedule =>
      have owed : s.owed = true := settling
      cases pending : s.pending <;> simp [stepsLeft, owed, pending]
  | start pending idle => simp [stepsLeft, pending, idle]
  | goesOn input pc pcAfter world here steps =>
      have less := shrinks _ _ _ _ _ _ steps
      simpa [stepsLeft, here] using less
  | ends input pc result world here steps => simp [stepsLeft, here]

theorem settling_bounded (rank : Pc → Nat)
    (shrinks : ∀ source pc input world pcAfter worldAfter,
      worker.step pc source input world = (.inl pcAfter, worldAfter) → rank pcAfter < rank pc)
    (acts : List (Act Change Input)) (allowed : (deferring apply worker).Allowed Settling s acts)
    (ran : (deferring apply worker).run s acts = some after) :
    acts.length + stepsLeft rank worker after ≤ stepsLeft rank worker s := by
  refine run_bounded (fun _ => True) (stepsLeft rank worker) ?_ trivial acts allowed ran
  intro before act next _ settling moved
  exact ⟨trivial, settling_falls rank shrinks settling (moves moved)⟩

/-- Short of rest, there is always a step to take. -/
theorem settling_goes_on [Inhabited Input] (apply : Change → Source → Source)
    (worker : Worker Source Pc Input Result World) (unrest : ¬ AtRest s) :
    ∃ act : Act Change Input, Settling s act ∧ ∃ after, s.next apply worker act = some after := by
  by_cases owed : s.owed = true
  · exact ⟨.schedule, owed, _, rfl⟩
  · cases here : s.pc with
    | some pc => exact ⟨.step default, trivial, _, by rw [System.next, here, Option.map_some]⟩
    | none =>
        have pending : s.pending = true := by
          by_contra unmarked
          exact unrest ⟨by simpa using owed, by simpa using unmarked, here⟩
        exact ⟨.start, trivial, _, if_pos ⟨pending, by rw [here]; rfl⟩⟩

end Runs

end Lan865x.DeferredWork
