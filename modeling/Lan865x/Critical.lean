import Lan865x.Transition
import Mathlib.Algebra.Order.BigOperators.Group.Finset
import Mathlib.Logic.Function.Basic

/-!
Calls under one lock. A call fills private data step by step, has one exchange with a
world that others change as well, and takes the answer out step by step. Any number of
threads call at once. Whatever the order of their steps, the calls end as if they had
been made one after another, in the order in which they let go of the lock.
-/

namespace Lan865x.Critical
open Transition

/-- `enter` runs before the lock is asked for and may end the call at once. A point at
which there is nothing left to prepare is where the exchange takes place. -/
structure Code (Request Before After Result Data World : Type) where
  enter : Request → Before ⊕ Result
  prepare : Before → Option (Data → Before × Data)
  exchange : Before → Data → World → (After × Data) × World
  finish : After → Data → (After ⊕ Result) × Data

inductive Phase (Request Before After Result : Type) where
  | idle
  | waiting (request : Request) (point : Before)
  | preparing (request : Request) (point : Before)
  | finishing (request : Request) (point : After)
  | leaving (request : Request) (result : Result)

def Phase.inside {Request Before After Result : Type} : Phase Request Before After Result → Bool
  | .idle | .waiting _ _ => false
  | .preparing _ _ | .finishing _ _ | .leaving _ _ => true

structure Call (Thread Request Result : Type) where
  thread : Thread
  request : Request
  result : Result

/-- The calls that have ended and the changes others made to the world are kept in
their order. -/
structure System (Thread Request Before After Result Data World : Type) where
  lock : Option Thread
  phase : Thread → Phase Request Before After Result
  data : Data
  world : World
  calls : List (Call Thread Request Result)
  changes : List (World → World)

inductive Act (Thread Request World : Type) where
  | call (thread : Thread) (request : Request)
  | take (thread : Thread)
  | step (thread : Thread)
  | release (thread : Thread)
  | outside (change : World → World)

section System
variable {Thread Request Before After Result Data World : Type}
  (code : Code Request Before After Result Data World)

/-! A call with nobody else about. -/

inductive Prepares : Before → Data → Before → Data → Prop where
  | ready {point data} : code.prepare point = none → Prepares point data point data
  | more {point data ready filled} (change : Data → Before × Data) :
      code.prepare point = some change → Prepares (change data).1 (change data).2 ready filled →
      Prepares point data ready filled

inductive Finishes : After → Data → Result → Data → Prop where
  | done {point data result last} : code.finish point data = (.inr result, last) →
      Finishes point data result last
  | more {point data further between result last} :
      code.finish point data = (.inl further, between) → Finishes further between result last →
      Finishes point data result last

inductive Alone : Request → Data × World → Result → Data × World → Prop where
  | refused {request state result} : code.enter request = .inr result →
      Alone request state result state
  | served {request first data world ready filled point received after result last} :
      code.enter request = .inl first → Prepares code first data ready filled →
      code.exchange ready filled world = ((point, received), after) →
      Finishes code point received result last →
      Alone request (data, world) result (last, after)

variable {code} in
/-- What every step of the preparation keeps holds when it is done. -/
theorem Prepares.keeps (inv : Before → Data → Prop)
    (kept : ∀ point data change, inv point data → code.prepare point = some change →
      inv (change data).1 (change data).2)
    {point ready : Before} {data filled : Data} (prepares : Prepares code point data ready filled)
    (holds : inv point data) : inv ready filled ∧ code.prepare ready = none := by
  induction prepares with
  | ready last => exact ⟨holds, last⟩
  | more change prepared _ ih => exact ih (kept _ _ change holds prepared)

variable {code} in
theorem Finishes.keeps (inv : After → Data → Prop)
    (kept : ∀ point data further between, inv point data →
      code.finish point data = (.inl further, between) → inv further between)
    {point : After} {data last : Data} {result : Result}
    (finishes : Finishes code point data result last) (holds : inv point data) :
    ∃ final between, inv final between ∧ code.finish final between = (.inr result, last) := by
  induction finishes with
  | done finished => exact ⟨_, _, holds, finished⟩
  | more finished _ ih => exact ih (kept _ _ _ _ holds finished)

inductive Event (Thread Request Result World : Type) where
  | call (call : Call Thread Request Result)
  | outside (change : World → World)

def Event.call? : Event Thread Request Result World → Option (Call Thread Request Result)
  | .call ended => some ended
  | .outside _ => none

def Event.change? : Event Thread Request Result World → Option (World → World)
  | .call _ => none
  | .outside change => some change

/-- The events take place one after another, each call alone. -/
inductive Serial (first : Data × World) :
    List (Event Thread Request Result World) → Data × World → Prop where
  | none : Serial first [] first
  | call {history middle last} (call : Call Thread Request Result) : Serial first history middle →
      Alone code call.request middle call.result last →
      Serial first (history ++ [.call call]) last
  | outside {history data world} (change : World → World) : Serial first history (data, world) →
      Serial first (history ++ [.outside change]) (data, change world)

variable {code}

def changed (world : World) (changes : List (World → World)) : World :=
  changes.foldl (fun world change => change world) world

theorem changed_snoc (world : World) (changes : List (World → World)) (change : World → World) :
    changed world (changes ++ [change]) = change (changed world changes) := by
  simp [changed]

/-- A history and the changes made after it. -/
def behind (history : List (Event Thread Request Result World))
    (changes : List (World → World)) : List (Event Thread Request Result World) :=
  history ++ changes.map .outside

theorem behind_calls (history : List (Event Thread Request Result World))
    (changes : List (World → World)) :
    (behind history changes).filterMap Event.call? = history.filterMap Event.call? := by
  simp [behind, Event.call?]

theorem behind_changes (history : List (Event Thread Request Result World))
    (changes : List (World → World)) :
    (behind history changes).filterMap Event.change? =
      history.filterMap Event.change? ++ changes := by
  have each : Event.change? ∘ (Event.outside : _ → Event Thread Request Result World) = some :=
    rfl
  rw [behind, List.filterMap_append, List.filterMap_map, each, List.filterMap_some]

theorem Serial.behind {first : Data × World}
    {history : List (Event Thread Request Result World)} {data : Data} {world : World}
    (serial : Serial code first history (data, world)) (changes : List (World → World)) :
    Serial code first (behind history changes) (data, changed world changes) := by
  induction changes generalizing history world with
  | nil => simpa [changed, Critical.behind] using serial
  | cons change rest ih => simpa [changed, Critical.behind] using ih (serial.outside change)

/-- Nobody calls, and the lock is free. -/
structure Quiet (first : Data × World)
    (system : System Thread Request Before After Result Data World) : Prop where
  lock : system.lock = none
  phase : ∀ thread, system.phase thread = .idle
  state : (system.data, system.world) = first
  calls : system.calls = []
  changes : system.changes = []

/-- How far the call of the lock's owner is, seen from the state in which it may be said
to begin; `since` are the changes to the world after its exchange. -/
def Underway (code : Code Request Before After Result Data World) (settled : Data × World)
    (since : List (World → World)) (data : Data) (world : World) :
    Phase Request Before After Result → Prop
  | .preparing request point => since = [] ∧ world = settled.2 ∧
      ∃ first, code.enter request = .inl first ∧
        ∀ ready filled, Prepares code point data ready filled →
          Prepares code first settled.1 ready filled
  | .finishing request point => ∃ after, world = changed after since ∧
      ∀ result last, Finishes code point data result last →
        Alone code request settled result (last, after)
  | .leaving request result => ∃ after, world = changed after since ∧
      Alone code request settled result (data, after)
  | _ => False

/-- Behind every reachable state stands a serial history of the calls that have ended. -/
structure Explained (code : Code Request Before After Result Data World) (first : Data × World)
    (system : System Thread Request Before After Result Data World)
    (history : List (Event Thread Request Result World)) (settled : Data × World)
    (since : List (World → World)) : Prop where
  serial : Serial code first history settled
  calls : history.filterMap Event.call? = system.calls
  changes : history.filterMap Event.change? ++ since = system.changes
  free : system.lock = none → since = [] ∧ settled = (system.data, system.world)
  held : ∀ thread, system.lock = some thread →
    Underway code settled since system.data system.world (system.phase thread)

structure Ordered (code : Code Request Before After Result Data World) (first : Data × World)
    (system : System Thread Request Before After Result Data World) : Prop where
  owner : ∀ thread, (system.phase thread).inside = true ↔ system.lock = some thread
  entered : ∀ thread request point, system.phase thread = .waiting request point →
    code.enter request = .inl point
  explained : ∃ history settled since, Explained code first system history settled since

section Start
variable {first : Data × World}
  {before : System Thread Request Before After Result Data World}

theorem ordered_start (quiet : Quiet first before) : Ordered code first before where
  owner thread := by simp [quiet.phase, quiet.lock, Phase.inside]
  entered thread request point waits := by simp [quiet.phase] at waits
  explained := ⟨[], first, [], {
    serial := .none
    calls := by simp [quiet.calls]
    changes := by simp [quiet.changes]
    free := fun _ => ⟨rfl, quiet.state.symm⟩
    held := fun thread locked => by simp [quiet.lock] at locked }⟩

/-- A call that waits does not hold the lock, and neither does one that is over. -/
theorem Ordered.outsider (ordered : Ordered code first before) {thread : Thread}
    (out : (before.phase thread).inside = false) : before.lock ≠ some thread := by
  intro locked
  rw [(ordered.owner thread).mpr locked] at out
  contradiction

/-- No two calls are between lock and unlock at once. -/
theorem Ordered.exclusive (ordered : Ordered code first before) {thread other : Thread}
    (inside : (before.phase thread).inside = true)
    (alsoInside : (before.phase other).inside = true) : thread = other := by
  have owns := (ordered.owner thread).mp inside
  rw [(ordered.owner other).mp alsoInside] at owns
  exact (Option.some.inj owns).symm

/-- With the lock free the calls made have ended as they do one after another. -/
theorem Ordered.serializable (ordered : Ordered code first before) (free : before.lock = none) :
    ∃ history, history.filterMap Event.call? = before.calls ∧
      history.filterMap Event.change? = before.changes ∧
      Serial code first history (before.data, before.world) := by
  obtain ⟨history, settled, since, explained⟩ := ordered.explained
  obtain ⟨noneSince, state⟩ := explained.free free
  subst since settled
  refine ⟨history, explained.calls, ?_, explained.serial⟩
  rw [← explained.changes, List.append_nil]

/-- While a call goes on, those that have ended did so one after another. -/
theorem Ordered.served (ordered : Ordered code first before) :
    ∃ history settled, history.filterMap Event.call? = before.calls ∧
      history.filterMap Event.change? <+: before.changes ∧ Serial code first history settled := by
  obtain ⟨history, settled, since, explained⟩ := ordered.explained
  exact ⟨history, settled, explained.calls, ⟨since, explained.changes⟩, explained.serial⟩

end Start

section Moves
variable [DecidableEq Thread]

def System.move (system : System Thread Request Before After Result Data World) (thread : Thread)
    (phase : Phase Request Before After Result) :
    System Thread Request Before After Result Data World :=
  { system with phase := Function.update system.phase thread phase }

def next (code : Code Request Before After Result Data World)
    (system : System Thread Request Before After Result Data World) :
    Act Thread Request World → Option (System Thread Request Before After Result Data World)
  | .call thread request =>
      match system.phase thread with
      | .idle =>
          match code.enter request with
          | .inl point => some (system.move thread (.waiting request point))
          | .inr result =>
              some { system with calls := system.calls ++ [⟨thread, request, result⟩] }
      | _ => none
  | .take thread =>
      match system.phase thread, system.lock with
      | .waiting request point, none =>
          some { system.move thread (.preparing request point) with lock := some thread }
      | _, _ => none
  | .step thread =>
      match system.phase thread with
      | .preparing request point =>
          match code.prepare point with
          | some change =>
              let filled := change system.data
              some { system.move thread (.preparing request filled.1) with data := filled.2 }
          | none =>
              let answer := code.exchange point system.data system.world
              some { system.move thread (.finishing request answer.1.1) with
                data := answer.1.2
                world := answer.2 }
      | .finishing request point =>
          match code.finish point system.data with
          | (.inl further, data) =>
              some { system.move thread (.finishing request further) with data := data }
          | (.inr result, data) =>
              some { system.move thread (.leaving request result) with data := data }
      | _ => none
  | .release thread =>
      match system.phase thread with
      | .leaving request result =>
          some { system.move thread .idle with
            lock := none
            calls := system.calls ++ [⟨thread, request, result⟩] }
      | _ => none
  | .outside change =>
      some { system with
        world := change system.world
        changes := system.changes ++ [change] }

def sharing (code : Code Request Before After Result Data World) (first : Data × World) :
    Machine (System Thread Request Before After Result Data World)
      (Act Thread Request World) where
  start := Quiet first
  next := next code

@[simp] theorem move_phase (system : System Thread Request Before After Result Data World)
    (thread : Thread) (phase : Phase Request Before After Result) :
    (system.move thread phase).phase = Function.update system.phase thread phase := rfl

section Steps
variable {first : Data × World}
  {before after : System Thread Request Before After Result Data World} {thread : Thread}
  {phase : Phase Request Before After Result}

theorem Ordered.owner_moved (ordered : Ordered code first before)
    (moved : after.phase = Function.update before.phase thread phase)
    (own : phase.inside = true ↔ after.lock = some thread)
    (others : ∀ other, other ≠ thread → (after.lock = some other ↔ before.lock = some other))
    (other : Thread) : (after.phase other).inside = true ↔ after.lock = some other := by
  rw [moved]
  by_cases same : other = thread
  · subst other
    rw [Function.update_self]
    exact own
  · rw [Function.update_of_ne same, others other same]
    exact ordered.owner other

theorem Ordered.entered_moved (ordered : Ordered code first before)
    (moved : after.phase = Function.update before.phase thread phase)
    (own : ∀ request point, phase = .waiting request point → code.enter request = .inl point)
    (other : Thread) (request : Request) (point : Before)
    (waits : after.phase other = .waiting request point) : code.enter request = .inl point := by
  rw [moved] at waits
  by_cases same : other = thread
  · subst other
    rw [Function.update_self] at waits
    exact own request point waits
  · rw [Function.update_of_ne same] at waits
    exact ordered.entered other request point waits

/-- The owner goes on and its call stays explained: all else is as it was. -/
theorem Ordered.go (ordered : Ordered code first before) (locked : before.lock = some thread)
    (inside : phase.inside = true)
    (moved : after.phase = Function.update before.phase thread phase)
    (lock : after.lock = before.lock) (calls : after.calls = before.calls)
    (changes : after.changes = before.changes)
    (goes : ∀ settled since,
      Underway code settled since before.data before.world (before.phase thread) →
      Underway code settled since after.data after.world phase) : Ordered code first after := by
  obtain ⟨history, settled, since, explained⟩ := ordered.explained
  refine ⟨ordered.owner_moved moved ?_ ?_, ordered.entered_moved moved ?_,
    history, settled, since, explained.serial, ?_, ?_, ?_, ?_⟩
  · simp [inside, lock, locked]
  · intro other _
    rw [lock]
  · intro request point waits
    subst waits
    contradiction
  · rw [calls]
    exact explained.calls
  · rw [changes]
    exact explained.changes
  · intro free
    rw [lock, locked] at free
    contradiction
  · intro other owns
    rw [lock, locked, Option.some.injEq] at owns
    subst other
    rw [moved, Function.update_self]
    exact goes settled since (explained.held thread locked)

theorem ordered_call (ordered : Ordered code first before) (request : Request)
    (stepped : next code before (.call thread request) = some after) :
    Ordered code first after := by
  obtain ⟨history, settled, since, explained⟩ := ordered.explained
  simp only [next] at stepped
  cases idle : before.phase thread with
  | idle =>
      have out : before.lock ≠ some thread := ordered.outsider (by rw [idle]; rfl)
      cases entered : code.enter request with
      | inl point =>
          simp only [idle, entered, Option.some.injEq] at stepped
          subst after
          refine ⟨ordered.owner_moved rfl ?_ fun _ _ => Iff.rfl, ordered.entered_moved rfl ?_,
            history, settled, since, explained.serial, explained.calls, explained.changes,
            explained.free, ?_⟩
          · exact ⟨fun inside => by contradiction, fun locked => absurd locked out⟩
          · intro other place waits
            simp only [Phase.waiting.injEq] at waits
            obtain ⟨rfl, rfl⟩ := waits
            exact entered
          · intro other locked
            have apart : other ≠ thread := fun same => out (same ▸ locked)
            rw [move_phase, Function.update_of_ne apart]
            exact explained.held other locked
      | inr result =>
          -- The call is over before it has seen or changed anything.
          simp only [idle, entered, Option.some.injEq] at stepped
          subst after
          exact ⟨ordered.owner, ordered.entered, history ++ [.call ⟨thread, request, result⟩],
            settled, since, explained.serial.call ⟨thread, request, result⟩ (.refused entered),
            by simp [explained.calls, Event.call?], by simp [← explained.changes, Event.change?],
            explained.free, explained.held⟩
  | waiting | preparing | finishing | leaving => simp [idle] at stepped

theorem ordered_take (ordered : Ordered code first before)
    (stepped : next code before (.take thread) = some after) : Ordered code first after := by
  obtain ⟨history, settled, since, explained⟩ := ordered.explained
  simp only [next] at stepped
  cases waits : before.phase thread with
  | waiting request point =>
      cases free : before.lock with
      | none =>
          simp only [waits, free, Option.some.injEq] at stepped
          subst after
          obtain ⟨noneSince, state⟩ := explained.free free
          refine ⟨ordered.owner_moved rfl ?_ ?_, ordered.entered_moved rfl ?_,
            history, settled, since, explained.serial, explained.calls, explained.changes, ?_, ?_⟩
          · simp [Phase.inside]
          · intro other apart
            simp [free, apart.symm]
          · intro other place waiting
            contradiction
          · intro locked
            contradiction
          · intro other locked
            simp only [Option.some.injEq] at locked
            subst other
            rw [move_phase, Function.update_self, state]
            exact ⟨noneSince, rfl, point, ordered.entered thread request point waits,
              fun _ _ prepares => prepares⟩
      | some owner => simp [waits, free] at stepped
  | idle | preparing | finishing | leaving => simp [waits] at stepped

theorem ordered_step (ordered : Ordered code first before)
    (stepped : next code before (.step thread) = some after) : Ordered code first after := by
  simp only [next] at stepped
  cases phase : before.phase thread with
  | preparing request point =>
      have locked : before.lock = some thread := (ordered.owner thread).mp (by rw [phase]; rfl)
      cases prepared : code.prepare point with
      | some change =>
          simp only [phase, prepared, Option.some.injEq] at stepped
          subst after
          refine ordered.go locked ?_ rfl rfl rfl rfl ?_
          · rfl
          intro settled since underway
          rw [phase] at underway
          obtain ⟨noneSince, same, start, entered, reaches⟩ := underway
          exact ⟨noneSince, same, start, entered, fun ready filled prepares =>
            reaches ready filled (.more change prepared prepares)⟩
      | none =>
          simp only [phase, prepared, Option.some.injEq] at stepped
          subst after
          refine ordered.go locked ?_ rfl rfl rfl rfl ?_
          · rfl
          intro settled since underway
          rw [phase] at underway
          obtain ⟨noneSince, same, start, entered, reaches⟩ := underway
          subst since
          refine ⟨_, rfl, ?_⟩
          intro result last finishes
          have exchanged : code.exchange point before.data settled.2 =
              (((code.exchange point before.data before.world).1.1,
                (code.exchange point before.data before.world).1.2),
                (code.exchange point before.data before.world).2) := by
            rw [← same]
          exact .served entered (reaches point before.data (.ready prepared)) exchanged finishes
  | finishing request point =>
      have locked : before.lock = some thread := (ordered.owner thread).mp (by rw [phase]; rfl)
      cases finished : code.finish point before.data with
      | mk goes data =>
          cases goes with
          | inl further =>
              simp only [phase, finished, Option.some.injEq] at stepped
              subst after
              refine ordered.go locked ?_ rfl rfl rfl rfl ?_
              · rfl
              intro settled since underway
              rw [phase] at underway
              obtain ⟨world, same, ends⟩ := underway
              exact ⟨world, same, fun result last finishes =>
                ends result last (.more finished finishes)⟩
          | inr result =>
              simp only [phase, finished, Option.some.injEq] at stepped
              subst after
              refine ordered.go locked ?_ rfl rfl rfl rfl ?_
              · rfl
              intro settled since underway
              rw [phase] at underway
              obtain ⟨world, same, ends⟩ := underway
              exact ⟨world, same, ends result data (.done finished)⟩
  | idle | waiting | leaving => simp [phase] at stepped

theorem ordered_release (ordered : Ordered code first before)
    (stepped : next code before (.release thread) = some after) : Ordered code first after := by
  obtain ⟨history, settled, since, explained⟩ := ordered.explained
  simp only [next] at stepped
  cases phase : before.phase thread with
  | leaving request result =>
      have locked : before.lock = some thread := (ordered.owner thread).mp (by rw [phase]; rfl)
      have underway := explained.held thread locked
      rw [phase] at underway
      obtain ⟨world, same, alone⟩ := underway
      simp only [phase, Option.some.injEq] at stepped
      subst after
      -- The call takes its place before the changes made after its exchange.
      have called := explained.serial.call ⟨thread, request, result⟩ alone
      have serial := called.behind since
      rw [← same] at serial
      refine ⟨ordered.owner_moved rfl ?_ ?_, ordered.entered_moved rfl ?_, _, _, [], serial,
        ?_, ?_, fun _ => ⟨rfl, rfl⟩, ?_⟩
      · simp [Phase.inside]
      · intro other apart
        simp [locked, apart.symm]
      · intro other place waiting
        contradiction
      · rw [behind_calls, List.filterMap_append, explained.calls]
        rfl
      · have noChange : ([.call ⟨thread, request, result⟩] :
            List (Event Thread Request Result World)).filterMap Event.change? = [] := rfl
        rw [behind_changes, List.filterMap_append, noChange, List.append_nil, List.append_nil]
        exact explained.changes
      · intro other owns
        contradiction
  | idle | waiting | preparing | finishing => simp [phase] at stepped

theorem ordered_outside (ordered : Ordered code first before) (change : World → World)
    (stepped : next code before (.outside change) = some after) : Ordered code first after := by
  obtain ⟨history, settled, since, explained⟩ := ordered.explained
  simp only [next, Option.some.injEq] at stepped
  subst after
  refine ⟨ordered.owner, ordered.entered, ?_⟩
  have later : history.filterMap Event.change? ++ (since ++ [change]) =
      before.changes ++ [change] := by
    rw [← List.append_assoc, explained.changes]
  -- Before the exchange the change takes its place in the history at once.
  have early : Serial code first (behind history [change]) (settled.1, change settled.2) :=
    explained.serial.outside change
  have earlyCalls : (behind history [change]).filterMap Event.call? = before.calls :=
    (behind_calls history [change]).trans explained.calls
  have earlyChanges : since = [] →
      (behind history [change]).filterMap Event.change? ++ [] = before.changes ++ [change] := by
    intro noneSince
    subst since
    rw [List.append_nil, behind_changes]
    exact later
  cases lock : before.lock with
  | none =>
      obtain ⟨noneSince, state⟩ := explained.free lock
      subst settled
      exact ⟨_, _, [], early, earlyCalls, earlyChanges noneSince, fun _ => ⟨rfl, rfl⟩,
        fun other owns => by simp at owns⟩
  | some thread =>
      have underway := explained.held thread lock
      have locked : ∀ other, some thread = some other → other = thread :=
        fun other owns => (Option.some.inj owns).symm
      cases phase : before.phase thread with
      | preparing request point =>
          rw [phase] at underway
          obtain ⟨noneSince, same, reaches⟩ := underway
          refine ⟨_, _, [], early, earlyCalls, earlyChanges noneSince, ?_, ?_⟩
          · intro free
            contradiction
          · intro other owns
            rw [locked other owns]
            simp only [phase]
            exact ⟨rfl, congrArg change same, reaches⟩
      | finishing request point =>
          rw [phase] at underway
          obtain ⟨world, same, ends⟩ := underway
          refine ⟨history, settled, since ++ [change], explained.serial, explained.calls, later,
            ?_, ?_⟩
          · intro free
            contradiction
          · intro other owns
            rw [locked other owns]
            simp only [phase]
            exact ⟨world, by rw [changed_snoc, same], ends⟩
      | leaving request result =>
          rw [phase] at underway
          obtain ⟨world, same, alone⟩ := underway
          refine ⟨history, settled, since ++ [change], explained.serial, explained.calls, later,
            ?_, ?_⟩
          · intro free
            contradiction
          · intro other owns
            rw [locked other owns]
            simp only [phase]
            exact ⟨world, by rw [changed_snoc, same], alone⟩
      | idle | waiting =>
          rw [phase] at underway
          exact underway.elim

end Steps

section Reached
variable {first : Data × World} {system : System Thread Request Before After Result Data World}

theorem sharing_ordered (reached : Reaches (sharing code first) anyStep system) :
    Ordered code first system := by
  apply reached.invariant (Ordered code first)
  · exact fun _ quiet => ordered_start quiet
  · intro before act after ordered _ stepped
    cases act with
    | call thread request => exact ordered_call ordered request stepped
    | take thread => exact ordered_take ordered stepped
    | step thread => exact ordered_step ordered stepped
    | release thread => exact ordered_release ordered stepped
    | outside change => exact ordered_outside ordered change stepped

end Reached

/-! No call waits for ever: the threads can go on until all their calls are over. -/

def Act.inner : Act Thread Request World → Bool
  | .call _ _ | .outside _ => false
  | .take _ | .step _ | .release _ => true

section Progress
variable {first : Data × World} {system : System Thread Request Before After Result Data World}

theorem Ordered.unstuck (ordered : Ordered code first system) {thread : Thread}
    (busy : system.phase thread ≠ .idle) :
    ∃ act, act.inner = true ∧ (next code system act).isSome = true := by
  cases lock : system.lock with
  | none =>
      have outside : (system.phase thread).inside ≠ true := by
        rw [Ne, ordered.owner thread, lock]
        nofun
      cases phase : system.phase thread with
      | idle => contradiction
      | waiting request point => exact ⟨.take thread, rfl, by simp [next, phase, lock]⟩
      | preparing | finishing | leaving => exact absurd rfl (phase ▸ outside)
  | some owner =>
      have inside := (ordered.owner owner).mpr lock
      cases phase : system.phase owner with
      | preparing request point =>
          refine ⟨.step owner, rfl, ?_⟩
          cases prepared : code.prepare point <;> simp [next, phase, prepared]
      | finishing request point =>
          refine ⟨.step owner, rfl, ?_⟩
          cases finished : code.finish point system.data with
          | mk goes data => cases goes <;> simp [next, phase, finished]
      | leaving request result => exact ⟨.release owner, rfl, by simp [next, phase]⟩
      | idle | waiting => rw [phase] at inside; contradiction

/-- Every step brings a call closer to its end. -/
structure Shortens (code : Code Request Before After Result Data World) (left : Before → Nat)
    (rest : After → Nat) : Prop where
  prepare : ∀ point change data, code.prepare point = some change →
    left (change data).1 < left point
  exchange : ∀ point data world, code.prepare point = none →
    rest (code.exchange point data world).1.1 < left point
  finish : ∀ point data further between, code.finish point data = (.inl further, between) →
    rest further < rest point

/-- The steps that a call has left, the lock taken and released included. -/
def owed (left : Before → Nat) (rest : After → Nat) : Phase Request Before After Result → Nat
  | .idle => 0
  | .waiting _ point => left point + 3
  | .preparing _ point => left point + 2
  | .finishing _ point => rest point + 2
  | .leaving _ _ => 1

theorem inner_shortens {left : Before → Nat} {rest : After → Nat}
    (shortens : Shortens code left rest) {act : Act Thread Request World} (inner : act.inner = true)
    {after : System Thread Request Before After Result Data World}
    (stepped : next code system act = some after) :
    ∃ thread phase, after.phase = Function.update system.phase thread phase ∧
      owed left rest phase < owed left rest (system.phase thread) := by
  cases act with
  | call | outside => contradiction
  | take thread =>
      simp only [next] at stepped
      cases waits : system.phase thread with
      | waiting request point =>
          cases free : system.lock with
          | none =>
              simp only [waits, free, Option.some.injEq] at stepped
              subst after
              exact ⟨thread, _, rfl, by simp [owed, waits]⟩
          | some owner => simp [waits, free] at stepped
      | idle | preparing | finishing | leaving => simp [waits] at stepped
  | step thread =>
      simp only [next] at stepped
      cases phase : system.phase thread with
      | preparing request point =>
          cases prepared : code.prepare point with
          | some change =>
              simp only [phase, prepared, Option.some.injEq] at stepped
              subst after
              refine ⟨thread, _, rfl, ?_⟩
              rw [phase]
              exact Nat.add_lt_add_right (shortens.prepare point change system.data prepared) 2
          | none =>
              simp only [phase, prepared, Option.some.injEq] at stepped
              subst after
              refine ⟨thread, _, rfl, ?_⟩
              rw [phase]
              exact Nat.add_lt_add_right
                (shortens.exchange point system.data system.world prepared) 2
      | finishing request point =>
          cases finished : code.finish point system.data with
          | mk goes data =>
              cases goes with
              | inl further =>
                  simp only [phase, finished, Option.some.injEq] at stepped
                  subst after
                  refine ⟨thread, _, rfl, ?_⟩
                  rw [phase]
                  exact Nat.add_lt_add_right (shortens.finish point _ further data finished) 2
              | inr result =>
                  simp only [phase, finished, Option.some.injEq] at stepped
                  subst after
                  exact ⟨thread, _, rfl, by simp [owed, phase]⟩
      | idle | waiting | leaving => simp [phase] at stepped
  | release thread =>
      simp only [next] at stepped
      cases phase : system.phase thread with
      | leaving request result =>
          simp only [phase, Option.some.injEq] at stepped
          subst after
          exact ⟨thread, _, rfl, by simp [owed, phase]⟩
      | idle | waiting | preparing | finishing => simp [phase] at stepped

variable [Fintype Thread]

def totalOwed (left : Before → Nat) (rest : After → Nat)
    (system : System Thread Request Before After Result Data World) : Nat :=
  Finset.univ.sum fun thread => owed left rest (system.phase thread)

theorem total_shortens {left : Before → Nat} {rest : After → Nat}
    (shortens : Shortens code left rest) {act : Act Thread Request World} (inner : act.inner = true)
    {after : System Thread Request Before After Result Data World}
    (stepped : next code system act = some after) :
    totalOwed left rest after < totalOwed left rest system := by
  obtain ⟨thread, phase, moved, less⟩ := inner_shortens shortens inner stepped
  apply Finset.sum_lt_sum
  · intro other _
    rw [moved]
    by_cases same : other = thread
    · subst other
      rw [Function.update_self]
      exact Nat.le_of_lt less
    · rw [Function.update_of_ne same]
  · refine ⟨thread, Finset.mem_univ thread, ?_⟩
    rw [moved, Function.update_self]
    exact less

/-- Without new calls the threads make only so many steps. -/
theorem inner_run_bounded {left : Before → Nat} {rest : After → Nat}
    (shortens : Shortens code left rest) (acts : List (Act Thread Request World))
    (inner : ∀ act ∈ acts, act.inner = true)
    {last : System Thread Request Before After Result Data World}
    (ran : (sharing code first).run system acts = some last) :
    acts.length + totalOwed left rest last ≤ totalOwed left rest system := by
  refine run_bounded (fun _ => True) (totalOwed left rest) ?_ trivial acts
    (allowed_labels acts inner system) ran
  intro before act after _ own stepped
  exact ⟨trivial, total_shortens shortens own stepped⟩

end Progress

end Moves

end System

end Lan865x.Critical
