import Mathlib.Logic.Function.Basic

/-!
Registers behind a bus. What an access finds and leaves is up to the bus; an
access may fail. `storageBus` is the plain case: registers hold what was last
written, and a list of outcomes says which of the accesses to come fail. A failed
access leaves the registers unchanged. `scriptBus` is the arbitrary one: every
access has its answer, and the accesses are kept.
-/

namespace Lan865x.RegisterBus

/-- Results are 0 or an error; a read that fails yields no value. -/
structure Bus (World : Type) where
  read : Nat → StateM World (Except Int (BitVec 32))
  write : Nat → BitVec 32 → StateM World Int

/-- The registers, and the outcomes of the next accesses; all after those succeed. -/
structure Storage where
  cells : Nat → BitVec 32
  outcomes : List Int

def Storage.outcome (storage : Storage) : Int := storage.outcomes.getD 0 0

def Storage.skip (storage : Storage) (count : Nat) : Storage :=
  { storage with outcomes := storage.outcomes.drop count }

def Storage.put (storage : Storage) (address : Nat) (value : BitVec 32) : Storage :=
  { storage with cells := Function.update storage.cells address value }

def storageBus : Bus Storage where
  read address := fun storage =>
    (if storage.outcome = 0 then .ok (storage.cells address) else .error storage.outcome,
      storage.skip 1)
  write address value := fun storage =>
    (storage.outcome,
      if storage.outcome = 0 then (storage.put address value).skip 1 else storage.skip 1)

section Runs
variable {World α β : Type}

@[simp] theorem bind_run (first : StateM World α) (next : α → StateM World β) (world : World) :
    (first >>= next) world = next (first world).1 (first world).2 := rfl

@[simp] theorem pure_run (value : α) (world : World) :
    (pure value : StateM World α) world = (value, world) := rfl

@[simp] theorem map_run (change : α → β) (first : StateM World α) (world : World) :
    (change <$> first) world = (change (first world).1, (first world).2) := rfl

@[simp] theorem ite_run (p : Prop) [Decidable p] (first second : StateM World α) (world : World) :
    (if p then first else second) world = if p then first world else second world :=
  ite_apply p first second world

end Runs

theorem storage_write (address : Nat) (value : BitVec 32) (storage : Storage) :
    storageBus.write address value storage =
      (storage.outcome,
        if storage.outcome = 0 then (storage.put address value).skip 1 else storage.skip 1) := rfl

@[simp] theorem skip_outcome (storage : Storage) (count : Nat) :
    (storage.skip count).outcome = storage.outcomes[count]?.getD 0 := by
  simp [Storage.outcome, Storage.skip, List.getD_eq_getElem?_getD]

theorem Storage.outcome_head (storage : Storage) :
    storage.outcome = storage.outcomes[0]?.getD 0 := by
  simp [Storage.outcome, List.getD_eq_getElem?_getD]

@[simp] theorem put_outcome (storage : Storage) (address : Nat) (value : BitVec 32) :
    (storage.put address value).outcome = storage.outcome := rfl

@[simp] theorem put_outcomes (storage : Storage) (address : Nat) (value : BitVec 32) :
    (storage.put address value).outcomes = storage.outcomes := rfl

@[simp] theorem skip_skip (storage : Storage) (first second : Nat) :
    (storage.skip first).skip second = storage.skip (first + second) := by
  simp [Storage.skip, List.drop_drop]

@[simp] theorem put_skip (storage : Storage) (count address : Nat) (value : BitVec 32) :
    (storage.skip count).put address value = (storage.put address value).skip count := rfl

@[simp] theorem skip_cells (storage : Storage) (count : Nat) :
    (storage.skip count).cells = storage.cells := rfl

@[simp] theorem put_cells (storage : Storage) (address : Nat) (value : BitVec 32) :
    (storage.put address value).cells = Function.update storage.cells address value := rfl

/-- How an access ends, and what a read that succeeds finds. -/
structure Answer where
  ret : Int
  value : BitVec 32

inductive Access where
  | read (address : Nat)
  | write (address : Nat) (value : BitVec 32)
  deriving DecidableEq

/-- What the accesses made one after the other are answered, and those made so far. -/
structure Script where
  answers : Nat → Answer
  accesses : List Access

def Script.answer (script : Script) : Answer := script.answers script.accesses.length

def Script.note (script : Script) (access : Access) : Script :=
  { script with accesses := script.accesses ++ [access] }

/-- Every access is answered by the script, whatever it asks for. -/
def scriptBus : Bus Script where
  read address := fun script =>
    (if script.answer.ret = 0 then .ok script.answer.value else .error script.answer.ret,
      script.note (.read address))
  write address value := fun script => (script.answer.ret, script.note (.write address value))

@[simp] theorem script_read (answers : Nat → Answer) (accesses : List Access) (address : Nat) :
    scriptBus.read address ⟨answers, accesses⟩ =
      (if (answers accesses.length).ret = 0 then .ok (answers accesses.length).value
        else .error (answers accesses.length).ret, ⟨answers, accesses ++ [.read address]⟩) := rfl

@[simp] theorem script_write (answers : Nat → Answer) (accesses : List Access) (address : Nat)
    (value : BitVec 32) :
    scriptBus.write address value ⟨answers, accesses⟩ =
      ((answers accesses.length).ret, ⟨answers, accesses ++ [.write address value]⟩) := rfl

/-- A bus, and the accesses made over it. -/
def notedBus {World : Type} (bus : Bus World) : Bus (World × List Access) where
  read address := fun noted =>
    let (answer, after) := bus.read address noted.1
    (answer, after, noted.2 ++ [.read address])
  write address value := fun noted =>
    let (ret, after) := bus.write address value noted.1
    (ret, after, noted.2 ++ [.write address value])

@[simp] theorem noted_read {World : Type} (bus : Bus World) (address : Nat) (world : World)
    (accesses : List Access) :
    (notedBus bus).read address (world, accesses) =
      ((bus.read address world).1, (bus.read address world).2, accesses ++ [.read address]) := rfl

@[simp] theorem noted_write {World : Type} (bus : Bus World) (address : Nat) (value : BitVec 32)
    (world : World) (accesses : List Access) :
    (notedBus bus).write address value (world, accesses) =
      ((bus.write address value world).1, (bus.write address value world).2,
        accesses ++ [.write address value]) := rfl

section Simulation
variable {World Abstract α β : Type}

/-- The same result from related worlds, which stay related. -/
def Simulates (related : World → Abstract → Prop) (first : StateM World α)
    (second : StateM Abstract α) : Prop :=
  ∀ world other, related world other →
    (first world).1 = (second other).1 ∧ related (first world).2 (second other).2

variable {related : World → Abstract → Prop}

theorem Simulates.pure (value : α) :
    Simulates related (pure value : StateM World α) (pure value : StateM Abstract α) :=
  fun _ _ start => ⟨rfl, start⟩

theorem Simulates.bind {first : StateM World α} {second : StateM Abstract α}
    {next : α → StateM World β} {then' : α → StateM Abstract β}
    (begins : Simulates related first second)
    (goes : ∀ value, Simulates related (next value) (then' value)) :
    Simulates related (first >>= next) (second >>= then') := by
  intro world other start
  obtain ⟨same, middle⟩ := begins world other start
  rw [bind_run, bind_run, same]
  exact goes _ _ _ middle

/-- The accesses to valid registers of one bus simulate those of the other. -/
structure Refines (concrete : Bus World) (abstract : Bus Abstract)
    (related : World → Abstract → Prop) (valid : Nat → Prop) : Prop where
  read : ∀ address, valid address →
    Simulates related (concrete.read address) (abstract.read address)
  write : ∀ address value, valid address →
    Simulates related (concrete.write address value) (abstract.write address value)

end Simulation

end Lan865x.RegisterBus
