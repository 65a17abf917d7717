import Lan865x.RegisterBus
import Lan865x.Transition

/-!
Programs over registers, as trees: what is accessed next depends on the answers so far. A
program runs over any bus, and changes no register that it does not name. Programs of
which no two name the same register do not notice each other, whatever the order of their
accesses and whichever of these fail.
-/

namespace Lan865x.RegisterProgram
open RegisterBus Transition

inductive Prog (α : Type) where
  | done (result : α)
  | read (address : Nat) (next : Except Int (BitVec 32) → Prog α)
  | write (address : Nat) (value : BitVec 32) (next : Int → Prog α)

namespace Prog
variable {α β World Abstract : Type}

def bind : Prog α → (α → Prog β) → Prog β
  | done result, then' => then' result
  | read address next, then' => read address fun answer => (next answer).bind then'
  | write address value next, then' => write address value fun ret => (next ret).bind then'

instance : Monad Prog where
  pure := done
  bind := bind

def readRegister (address : Nat) : Prog (Except Int (BitVec 32)) := read address done

def writeRegister (address : Nat) (value : BitVec 32) : Prog Int := write address value done

def run (bus : Bus World) : Prog α → StateM World α
  | done result => pure result
  | read address next => bus.read address >>= fun answer => (next answer).run bus
  | write address value next => bus.write address value >>= fun ret => (next ret).run bus

@[simp] theorem run_pure (bus : Bus World) (result : α) :
    (pure result : Prog α).run bus = pure result := rfl

@[simp] theorem run_read (bus : Bus World) (address : Nat) :
    (readRegister address).run bus = bus.read address := rfl

@[simp] theorem run_write (bus : Bus World) (address : Nat) (value : BitVec 32) :
    (writeRegister address value).run bus = bus.write address value := rfl

@[simp] theorem run_bind (bus : Bus World) (first : Prog α) (then' : α → Prog β) :
    (first >>= then').run bus = first.run bus >>= fun result => (then' result).run bus := by
  change (first.bind then').run bus = _
  induction first with
  | done result => rfl
  | read address next ih =>
      funext world
      exact congrFun (ih _) _
  | write address value next ih =>
      funext world
      exact congrFun (ih _) _

@[simp] theorem run_ite (bus : Bus World) (p : Prop) [Decidable p] (left right : Prog α) :
    (if p then left else right).run bus = if p then left.run bus else right.run bus :=
  apply_ite _ _ _ _

/-- Every access is to a register in `own`. -/
def Within (own : Nat → Prop) : Prog α → Prop
  | done _ => True
  | read address next => own address ∧ ∀ answer, (next answer).Within own
  | write address _ next => own address ∧ ∀ ret, (next ret).Within own

section Within
variable {own : Nat → Prop}

theorem within_read {address : Nat} (owned : own address) : (readRegister address).Within own :=
  ⟨owned, fun _ => trivial⟩

theorem within_write {address : Nat} (value : BitVec 32) (owned : own address) :
    (writeRegister address value).Within own :=
  ⟨owned, fun _ => trivial⟩

theorem within_bind {first : Prog α} {then' : α → Prog β} (begins : first.Within own)
    (goes : ∀ result, (then' result).Within own) : (first >>= then').Within own := by
  change (first.bind then').Within own
  induction first with
  | done result => exact goes result
  | read address next ih => exact ⟨begins.1, fun answer => ih answer (begins.2 answer)⟩
  | write address value next ih => exact ⟨begins.1, fun ret => ih ret (begins.2 ret)⟩

theorem within_ite {p : Prop} [Decidable p] {left right : Prog α} (here : left.Within own)
    (there : right.Within own) : (if p then left else right).Within own := by
  split
  · exact here
  · exact there

theorem Within.wider {wider : Nat → Prop} {prog : Prog α} (within : prog.Within own)
    (more : ∀ address, own address → wider address) : prog.Within wider := by
  induction prog with
  | done result => trivial
  | read address next ih => exact ⟨more _ within.1, fun answer => ih answer (within.2 answer)⟩
  | write address value next ih => exact ⟨more _ within.1, fun ret => ih ret (within.2 ret)⟩

/-- A program does over a refined bus what it does over the other one. -/
theorem run_simulates {concrete : Bus World} {abstract : Bus Abstract}
    {related : World → Abstract → Prop} (refines : Refines concrete abstract related own)
    {prog : Prog α} (within : prog.Within own) :
    Simulates related (prog.run concrete) (prog.run abstract) := by
  induction prog with
  | done result => exact Simulates.pure result
  | read address next ih =>
      exact (refines.read address within.1).bind fun answer => ih answer (within.2 answer)
  | write address value next ih =>
      exact (refines.write address value within.1).bind fun ret => ih ret (within.2 ret)
end Within

/-- Programs one after the other. -/
def inTurn : List (Prog α) → Prog (List α)
  | [] => pure []
  | prog :: rest => do
      let result ← prog
      let results ← inTurn rest
      pure (result :: results)

theorem within_in_turn {own : Nat → Prop} (progs : List (Prog α))
    (within : ∀ prog ∈ progs, prog.Within own) : (inTurn progs).Within own := by
  induction progs with
  | nil => trivial
  | cons prog rest ih =>
      obtain ⟨here, later⟩ := List.forall_mem_cons.mp within
      exact within_bind here fun _ => within_bind (ih later) fun _ => trivial

/-! Several programs over the same registers. -/

abbrev Cells : Type := Nat → BitVec 32

/-- The next access; it fails unless `outcome` is 0. -/
def advance (cells : Cells) (outcome : Int) : Prog α → Option (Cells × Prog α)
  | done _ => none
  | read address next =>
      some (cells, next (if outcome = 0 then .ok (cells address) else .error outcome))
  | write address value next =>
      some (if outcome = 0 then Function.update cells address value else cells, next outcome)

/-- The program with nobody else about, its accesses ending in this way. -/
def alone (cells : Cells) (prog : Prog α) : List Int → Option (Cells × Prog α)
  | [] => some (cells, prog)
  | outcome :: rest => (prog.advance cells outcome).bind fun after => alone after.1 after.2 rest

/-- A program that comes to its end alone is one that ran over the storage. -/
theorem alone_run {cells last : Cells} {prog : Prog α} {outcomes : List Int} {result : α}
    (ends : prog.alone cells outcomes = some (last, done result)) :
    prog.run storageBus ⟨cells, outcomes⟩ = (result, ⟨last, []⟩) := by
  induction outcomes generalizing cells prog with
  | nil =>
      simp only [alone, Option.some.injEq, Prod.mk.injEq] at ends
      obtain ⟨rfl, rfl⟩ := ends
      rfl
  | cons outcome rest ih =>
      cases prog with
      | done value => simp [alone, advance] at ends
      | read address next => exact ih ends
      | write address value next =>
          have run := ih ends
          by_cases fine : outcome = 0
          · subst outcome
            exact run
          · rw [if_neg fine] at run
            have failed : storageBus.write address value ⟨cells, outcome :: rest⟩ =
                (outcome, ⟨cells, rest⟩) := by
              simp [storageBus, Storage.outcome, Storage.skip, fine]
            rw [Prog.run, bind_run, failed]
            exact run

section Owning
variable {own : Nat → Prop}

theorem advance_within {cells last : Cells} {outcome : Int} {prog rest : Prog α}
    (within : prog.Within own) (moved : prog.advance cells outcome = some (last, rest)) :
    rest.Within own ∧ ∀ address, ¬ own address → last address = cells address := by
  cases prog with
  | done result => simp [advance] at moved
  | read address next =>
      simp only [advance, Option.some.injEq, Prod.mk.injEq] at moved
      obtain ⟨rfl, rfl⟩ := moved
      exact ⟨within.2 _, fun _ _ => rfl⟩
  | write address value next =>
      simp only [advance, Option.some.injEq, Prod.mk.injEq] at moved
      obtain ⟨rfl, rfl⟩ := moved
      refine ⟨within.2 _, fun other foreign => ?_⟩
      split
      · refine Function.update_of_ne (fun same => foreign ?_) _ _
        rw [same]
        exact within.1
      · rfl

/-- A step depends on the registers in `own` alone. -/
theorem advance_agrees {cells other last : Cells} {outcome : Int} {prog rest : Prog α}
    (within : prog.Within own) (agree : ∀ address, own address → cells address = other address)
    (moved : prog.advance cells outcome = some (last, rest)) :
    ∃ last', prog.advance other outcome = some (last', rest) ∧
      ∀ address, own address → last address = last' address := by
  cases prog with
  | done result => simp [advance] at moved
  | read address next =>
      simp only [advance, Option.some.injEq, Prod.mk.injEq] at moved ⊢
      obtain ⟨rfl, rfl⟩ := moved
      exact ⟨other, ⟨rfl, by rw [agree address within.1]⟩, agree⟩
  | write address value next =>
      simp only [advance, Option.some.injEq, Prod.mk.injEq] at moved ⊢
      obtain ⟨rfl, rfl⟩ := moved
      refine ⟨_, ⟨rfl, rfl⟩, fun place owned => ?_⟩
      split
      · by_cases same : place = address
        · rw [same, Function.update_self, Function.update_self]
        · rw [Function.update_of_ne same, Function.update_of_ne same]
          exact agree place owned
      · exact agree place owned

theorem alone_agrees {cells other last : Cells} {outcomes : List Int} {prog rest : Prog α}
    (within : prog.Within own) (agree : ∀ address, own address → cells address = other address)
    (moved : prog.alone cells outcomes = some (last, rest)) :
    ∃ last', prog.alone other outcomes = some (last', rest) ∧
      ∀ address, own address → last address = last' address := by
  induction outcomes generalizing cells other prog with
  | nil =>
      simp only [alone, Option.some.injEq, Prod.mk.injEq] at moved
      obtain ⟨rfl, rfl⟩ := moved
      exact ⟨other, rfl, agree⟩
  | cons outcome later ih =>
      obtain ⟨⟨middle, next⟩, stepped, tail⟩ := Option.bind_eq_some_iff.mp moved
      obtain ⟨middle', stepped', agree'⟩ := advance_agrees within agree stepped
      obtain ⟨last', tail', agrees⟩ := ih (advance_within within stepped).1 agree' tail
      exact ⟨last', by rw [alone, stepped', Option.bind_some, tail'], agrees⟩
end Owning

end Prog

/-- The registers, and what each task still has to do. -/
structure Shared (Task α : Type) where
  cells : Prog.Cells
  programs : Task → Prog α

section Shared
variable {Task α : Type} [DecidableEq Task]

/-- One task makes its next access, which ends in this way. -/
def Shared.next (shared : Shared Task α) (act : Task × Int) : Option (Shared Task α) :=
  ((shared.programs act.1).advance shared.cells act.2).map fun after =>
    ⟨after.1, Function.update shared.programs act.1 after.2⟩

def parallel : Machine (Shared Task α) (Task × Int) where
  start _ := True
  next := Shared.next

/-- How the accesses of one task end in a schedule. -/
def outcomesOf (task : Task) (acts : List (Task × Int)) : List Int :=
  (acts.filter fun act => act.1 = task).map Prod.snd

theorem shared_next_cases {before after : Shared Task α} {act : Task × Int}
    (moved : before.next act = some after) :
    ∃ cells rest, (before.programs act.1).advance before.cells act.2 = some (cells, rest) ∧
      after = ⟨cells, Function.update before.programs act.1 rest⟩ := by
  obtain ⟨⟨cells, rest⟩, advanced, rfl⟩ := Option.map_eq_some_iff.mp moved
  exact ⟨cells, rest, advanced, rfl⟩

variable {own : Task → Nat → Prop} {first last : Shared Task α} {acts : List (Task × Int)}

theorem shared_next_within {before after : Shared Task α} {act : Task × Int}
    (within : ∀ task, (before.programs task).Within (own task))
    (moved : before.next act = some after) :
    (∀ task, (after.programs task).Within (own task)) ∧
      ∀ address, ¬ own act.1 address → after.cells address = before.cells address := by
  obtain ⟨cells, rest, advanced, rfl⟩ := shared_next_cases moved
  obtain ⟨stays, frame⟩ := Prog.advance_within (within act.1) advanced
  refine ⟨fun task => ?_, frame⟩
  by_cases same : task = act.1
  · subst same
    simpa using stays
  · simpa [same] using within task

/-- Each task goes through what it would go through alone, and its registers hold what
they would hold then. -/
theorem parallel_isolated (disjoint : ∀ task other address, own task address →
      own other address → task = other)
    (within : ∀ task, (first.programs task).Within (own task))
    (ran : parallel.run first acts = some last) (task : Task) :
    ∃ cells, (first.programs task).alone first.cells (outcomesOf task acts) =
        some (cells, last.programs task) ∧
      ∀ address, own task address → last.cells address = cells address := by
  induction acts generalizing first with
  | nil =>
      obtain rfl := Option.some.inj ran
      exact ⟨first.cells, rfl, fun _ _ => rfl⟩
  | cons act rest ih =>
      obtain ⟨middle, moved, tail⟩ := Option.bind_eq_some_iff.mp ran
      obtain ⟨stays, frame⟩ := shared_next_within within moved
      obtain ⟨cells, alone, agree⟩ := ih stays tail
      obtain ⟨after, program, advanced, rfl⟩ := shared_next_cases moved
      by_cases mine : act.1 = task
      · subst mine
        refine ⟨cells, ?_, agree⟩
        simpa [outcomesOf, Prog.alone, advanced] using alone
      · -- The step of another task leaves the registers of this one as they were.
        have kept : ∀ address, own task address → after address = first.cells address :=
          fun address owned => frame address fun other =>
            mine (disjoint _ _ address other owned)
        simp only [Function.update_of_ne (Ne.symm mine)] at alone
        obtain ⟨cells', alone', same⟩ := Prog.alone_agrees (within task) kept alone
        refine ⟨cells', ?_, fun address owned => (agree address owned).trans (same address owned)⟩
        simpa [outcomesOf, mine] using alone'

/-- Registers that belong to no task stay as they are. -/
theorem parallel_frame (within : ∀ task, (first.programs task).Within (own task))
    (ran : parallel.run first acts = some last) (address : Nat)
    (foreign : ∀ task, ¬ own task address) : last.cells address = first.cells address := by
  induction acts generalizing first with
  | nil =>
      obtain rfl := Option.some.inj ran
      rfl
  | cons act rest ih =>
      obtain ⟨middle, moved, tail⟩ := Option.bind_eq_some_iff.mp ran
      obtain ⟨stays, frame⟩ := shared_next_within within moved
      exact (ih stays tail).trans (frame address (foreign act.1))

/-- A task that has come to its end has its results, and has left its registers, as if it
had run over the storage alone. -/
theorem parallel_ended (disjoint : ∀ task other address, own task address →
      own other address → task = other)
    (within : ∀ task, (first.programs task).Within (own task))
    (ran : parallel.run first acts = some last) (task : Task) (result : α)
    (ended : last.programs task = .done result) :
    let storage := (first.programs task).run storageBus ⟨first.cells, outcomesOf task acts⟩
    storage.1 = result ∧ ∀ address, own task address →
      last.cells address = storage.2.cells address := by
  obtain ⟨cells, alone, agree⟩ := parallel_isolated disjoint within ran task
  rw [ended] at alone
  have run := Prog.alone_run alone
  rw [run]
  exact ⟨rfl, agree⟩

end Shared

end Lan865x.RegisterProgram
