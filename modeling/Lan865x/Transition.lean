import Mathlib.Data.List.Basic

/-!
Labelled machines and what holds along their runs. A label carries every choice
that the environment makes, so a step is a partial function of state and label.
`Reaches ok` collects the states of the runs all of whose steps satisfy `ok`,
a condition on the state before the step and the label.
-/

namespace Lan865x.Transition

universe u v

structure Machine (State : Type u) (Act : Type v) where
  start : State → Prop
  next : State → Act → Option State

variable {State : Type u} {Act : Type v}

inductive Reaches (machine : Machine State Act) (ok : State → Act → Prop) : State → Prop where
  | start {state} : machine.start state → Reaches machine ok state
  | step {before after} (act : Act) : Reaches machine ok before → ok before act →
      machine.next before act = some after → Reaches machine ok after

/-- Every step is allowed. -/
def anyStep (_ : State) (_ : Act) : Prop := True

/-- What holds at the start and survives every allowed step holds in every
state reached. -/
theorem Reaches.invariant {machine : Machine State Act} {ok : State → Act → Prop}
    (inv : State → Prop) (initially : ∀ state, machine.start state → inv state)
    (preserved : ∀ before act after, inv before → ok before act →
      machine.next before act = some after → inv after)
    {state : State} (reached : Reaches machine ok state) : inv state := by
  induction reached with
  | start first => exact initially _ first
  | step act _ allowed moved ih => exact preserved _ act _ ih allowed moved

/-- An invariant may be proved on top of one that is already known. -/
theorem Reaches.strengthen {machine : Machine State Act} {ok : State → Act → Prop}
    (known inv : State → Prop) (knownHolds : ∀ state, Reaches machine ok state → known state)
    (initially : ∀ state, machine.start state → inv state)
    (preserved : ∀ before act after, known before → inv before → ok before act →
      machine.next before act = some after → inv after)
    {state : State} (reached : Reaches machine ok state) : inv state := by
  induction reached with
  | start first => exact initially _ first
  | step act earlier allowed moved ih =>
      exact preserved _ act _ (knownHolds _ earlier) ih allowed moved

/-- A machine with fewer starts reaches no other states. -/
theorem Reaches.widen {machine wider : Machine State Act} {ok : State → Act → Prop}
    (starts : ∀ state, machine.start state → wider.start state) (next : machine.next = wider.next)
    {state : State} (reached : Reaches machine ok state) : Reaches wider ok state := by
  induction reached with
  | start first => exact .start (starts _ first)
  | step act _ allowed moved ih => exact .step act ih allowed (next ▸ moved)

/-- Executes a list of labels. -/
def Machine.run (machine : Machine State Act) : State → List Act → Option State
  | state, [] => some state
  | state, act :: rest => (machine.next state act).bind fun after => machine.run after rest

/-- Every step of the list is allowed where it is taken. -/
def Machine.Allowed (machine : Machine State Act) (ok : State → Act → Prop) :
    State → List Act → Prop
  | _, [] => True
  | state, act :: rest => ok state act ∧
      ∀ after ∈ machine.next state act, machine.Allowed ok after rest

instance decidableAllowed (machine : Machine State Act) (ok : State → Act → Prop)
    [∀ state act, Decidable (ok state act)] :
    (acts : List Act) → (state : State) → Decidable (machine.Allowed ok state acts)
  | [], _ => isTrue trivial
  | act :: rest, state =>
      have : DecidablePred fun after => machine.Allowed ok after rest :=
        decidableAllowed machine ok rest
      inferInstanceAs (Decidable (ok state act ∧
        ∀ after ∈ machine.next state act, machine.Allowed ok after rest))

theorem allowed_any (machine : Machine State Act) (state : State) (acts : List Act) :
    machine.Allowed anyStep state acts := by
  induction acts generalizing state with
  | nil => trivial
  | cons act rest ih => exact ⟨trivial, fun after _ => ih after⟩

/-- The states of a run, its first one included; it ends where a label is refused. -/
def Machine.visited (machine : Machine State Act) : State → List Act → List State
  | state, [] => [state]
  | state, act :: rest => state :: match machine.next state act with
      | some after => machine.visited after rest
      | none => []

theorem visited_first (machine : Machine State Act) (state : State) (acts : List Act) :
    state ∈ machine.visited state acts := by
  cases acts with
  | nil => exact List.mem_cons_self
  | cons act rest => exact List.mem_cons_self

/-- Where a property survives exactly the allowed steps, it holds throughout a run if and
only if every step of the run is allowed. -/
theorem visited_iff_allowed {machine : Machine State Act} {ok : State → Act → Prop}
    (known property : State → Prop)
    (kept : ∀ before act after, known before → property before →
      machine.next before act = some after → known after)
    (survives : ∀ before act after, known before → property before →
      machine.next before act = some after → (property after ↔ ok before act))
    (refused : ∀ before act, machine.next before act = none → ok before act)
    (first : State) (knows : known first) (holds : property first) (acts : List Act) :
    (∀ state ∈ machine.visited first acts, property state) ↔ machine.Allowed ok first acts := by
  induction acts generalizing first with
  | nil => simp [Machine.visited, Machine.Allowed, holds]
  | cons act rest ih =>
      cases moved : machine.next first act with
      | none => simp [Machine.visited, Machine.Allowed, moved, holds, refused first act moved]
      | some after =>
          have exact' := survives first act after knows holds moved
          simp only [Machine.visited, Machine.Allowed, moved, List.forall_mem_cons, holds,
            true_and, Option.mem_some_iff, forall_eq']
          by_cases allowed : ok first act
          · have tail := ih after (kept first act after knows holds moved) (exact'.mpr allowed)
            simp only [allowed, true_and, tail]
          · -- The state behind the step is the first one to lose the property.
            have lost : ¬ property after := fun still => allowed (exact'.mp still)
            have all : ¬ ∀ state ∈ machine.visited after rest, property state :=
              fun every => lost (every after (visited_first machine after rest))
            exact iff_of_false all fun both => allowed both.1

theorem Reaches.run {machine : Machine State Act} {ok : State → Act → Prop}
    {before after : State} (acts : List Act) (reached : Reaches machine ok before)
    (allowed : machine.Allowed ok before acts) (ran : machine.run before acts = some after) :
    Reaches machine ok after := by
  induction acts generalizing before with
  | nil =>
      simp only [Machine.run, Option.some.injEq] at ran
      subst after
      exact reached
  | cons act rest ih =>
      obtain ⟨middle, moved, tail⟩ := Option.bind_eq_some_iff.mp ran
      exact ih (.step act reached allowed.1 moved) (allowed.2 middle moved) tail

theorem allowed_every {machine : Machine State Act} {ok : State → Act → Prop} (acts : List Act)
    (every : ∀ act ∈ acts, ∀ state, ok state act) (first : State) :
    machine.Allowed ok first acts := by
  induction acts generalizing first with
  | nil => trivial
  | cons act rest ih =>
      rw [List.forall_mem_cons] at every
      exact ⟨every.1 first, fun after _ => ih every.2 after⟩

/-- A condition on the labels alone. -/
theorem allowed_labels {machine : Machine State Act} {proper : Act → Prop} (acts : List Act)
    (every : ∀ act ∈ acts, proper act) (first : State) :
    machine.Allowed (fun _ act => proper act) first acts :=
  allowed_every acts (fun act inside _ => every act inside) first

/-- Where each costly step makes a measure smaller and no allowed one makes it greater, it
bounds how many of them a run has. -/
theorem run_paid {machine : Machine State Act} {ok : State → Act → Prop} (known : State → Prop)
    (measure : State → Nat) (costly : Act → Bool)
    (pays : ∀ before act after, known before → ok before act →
      machine.next before act = some after →
        known after ∧ measure after + (costly act).toNat ≤ measure before)
    {first last : State} (knows : known first) (acts : List Act)
    (allowed : machine.Allowed ok first acts) (ran : machine.run first acts = some last) :
    acts.countP costly + measure last ≤ measure first := by
  induction acts generalizing first with
  | nil =>
      simp only [Machine.run, Option.some.injEq] at ran
      simp [ran]
  | cons act rest ih =>
      obtain ⟨middle, moved, tail⟩ := Option.bind_eq_some_iff.mp ran
      obtain ⟨still, paid⟩ := pays first act middle knows allowed.1 moved
      have more := ih still (allowed.2 middle moved) tail
      rw [List.countP_cons]
      cases costs : costly act <;> simp [costs] at paid ⊢ <;> omega

/-- Where every allowed step makes a measure smaller, it bounds the length of a run. -/
theorem run_bounded {machine : Machine State Act} {ok : State → Act → Prop} (known : State → Prop)
    (measure : State → Nat)
    (falls : ∀ before act after, known before → ok before act →
      machine.next before act = some after → known after ∧ measure after < measure before)
    {first last : State} (knows : known first) (acts : List Act)
    (allowed : machine.Allowed ok first acts) (ran : machine.run first acts = some last) :
    acts.length + measure last ≤ measure first := by
  have paid := run_paid known measure (fun _ => true) falls knows acts allowed ran
  rwa [List.countP_true] at paid

/-- Where a list of labels leads; the state itself if one of them is refused. -/
def Machine.after (machine : Machine State Act) (state : State) (acts : List Act) : State :=
  (machine.run state acts).getD state

theorem run_after {machine : Machine State Act} {first : State} {acts : List Act}
    (ran : (machine.run first acts).isSome = true) :
    machine.run first acts = some (machine.after first acts) := by
  obtain ⟨last, runs⟩ := Option.isSome_iff_exists.mp ran
  rw [Machine.after, runs]
  rfl

theorem reaches_after {machine : Machine State Act} {ok : State → Act → Prop} {first : State}
    (starts : machine.start first) (acts : List Act) (allowed : machine.Allowed ok first acts) :
    Reaches machine ok (machine.after first acts) := by
  cases ran : machine.run first acts with
  | none =>
      -- A list with a refused label leads back to the start, which is reached as well.
      rw [Machine.after, ran]
      exact .start starts
  | some last =>
      rw [Machine.after, ran]
      exact (Reaches.start starts).run acts allowed ran

/-! Machines whose steps put something out. -/

section Logging
universe w
variable {Out : Type w}

/-- The machine, and all that its steps have put out. -/
def Machine.logging (machine : Machine State Act) (emit : State → Act → List Out) :
    Machine (State × List Out) Act where
  start logged := machine.start logged.1 ∧ logged.2 = []
  next logged act := (machine.next logged.1 act).map fun after =>
    (after, logged.2 ++ emit logged.1 act)

variable {machine : Machine State Act} {emit : State → Act → List Out}

theorem logging_next {before after : State × List Out} {act : Act}
    (moved : (machine.logging emit).next before act = some after) :
    machine.next before.1 act = some after.1 ∧ after.2 = before.2 ++ emit before.1 act := by
  obtain ⟨next, stepped, rfl⟩ := Option.map_eq_some_iff.mp moved
  exact ⟨stepped, rfl⟩

theorem Reaches.unlogged {logged : State × List Out}
    (reached : Reaches (machine.logging emit) anyStep logged) :
    Reaches machine anyStep logged.1 := by
  induction reached with
  | start first => exact .start first.1
  | step act _ _ moved ih => exact .step act ih trivial (logging_next moved).1

/-- What holds with nothing put out, and survives a step and what it puts out. -/
theorem Reaches.logged {logged : State × List Out} (inv : State → List Out → Prop)
    (reached : Reaches (machine.logging emit) anyStep logged)
    (initially : ∀ state, machine.start state → inv state [])
    (preserved : ∀ before log act after, Reaches machine anyStep before → inv before log →
      machine.next before act = some after → inv after (log ++ emit before act)) :
    inv logged.1 logged.2 := by
  induction reached with
  | start first =>
      rw [first.2]
      exact initially _ first.1
  | step act earlier _ moved ih =>
      obtain ⟨stepped, put⟩ := logging_next moved
      rw [put]
      exact preserved _ _ act _ earlier.unlogged ih stepped

end Logging

end Lan865x.Transition
