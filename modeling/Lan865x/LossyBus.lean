import Lan865x.RegisterProgram

/-!
Registers behind a bus that loses accesses and keeps what was lost. A read may show something
else than the register's own value: `view` says what. A program that does not look at the
result of its writes leaves each register as if that register's writes were the only ones.
-/

namespace Lan865x.LossyBus
open RegisterBus RegisterProgram RegisterProgram.Prog

/-- `outcomes` are those of the accesses to come, `lost` the accesses that failed. -/
structure Chip where
  cells : Cells
  outcomes : List Int
  lost : List Access

def Chip.outcome (chip : Chip) : Int := chip.outcomes.getD 0 0

def Chip.step (chip : Chip) (access : Access) : Chip where
  cells := if chip.outcome = 0 then
      match access with
      | .read _ => chip.cells
      | .write address value => Function.update chip.cells address value
    else chip.cells
  outcomes := chip.outcomes.drop 1
  lost := if chip.outcome = 0 then chip.lost else chip.lost ++ [access]

variable {view : Cells → Cells}

def lossyBus (view : Cells → Cells) : Bus Chip where
  read address := fun chip =>
    (if chip.outcome = 0 then .ok (view chip.cells address) else .error chip.outcome,
      chip.step (.read address))
  write address value := fun chip => (chip.outcome, chip.step (.write address value))

@[simp] theorem lossy_read (address : Nat) (chip : Chip) :
    (lossyBus view).read address chip =
      (if chip.outcome = 0 then .ok (view chip.cells address) else .error chip.outcome,
        chip.step (.read address)) := rfl

@[simp] theorem lossy_write (address : Nat) (value : BitVec 32) (chip : Chip) :
    (lossyBus view).write address value chip = (chip.outcome, chip.step (.write address value)) :=
  rfl

@[simp] theorem step_read_cells (chip : Chip) (address : Nat) :
    (chip.step (.read address)).cells = chip.cells := by
  simp [Chip.step]

theorem step_write_cells (chip : Chip) (address : Nat) (value : BitVec 32) :
    (chip.step (.write address value)).cells =
      if chip.outcome = 0 then Function.update chip.cells address value else chip.cells := rfl

theorem step_made {chip : Chip} {access : Access} (made : chip.outcome = 0) :
    (chip.step access).lost = chip.lost := if_pos made

theorem step_lost (chip : Chip) (access : Access) :
    (chip.step access).lost = if chip.outcome = 0 then chip.lost else chip.lost ++ [access] := rfl

theorem step_lost_extends (chip : Chip) (access : Access) :
    chip.lost <+: (chip.step access).lost := by
  rw [step_lost]
  split
  · exact List.prefix_rfl
  · exact List.prefix_append _ _

/-- An access that is not lost has succeeded. -/
theorem made_of_kept {chip : Chip} {access : Access} (kept : access ∉ (chip.step access).lost) :
    chip.outcome = 0 := by
  by_contra failed
  exact kept (by simp [step_lost, failed])

def Access.address : Access → Nat
  | .read address => address
  | .write address _ => address

section Runs
variable {α : Type} {own : Nat → Prop}

theorem run_lost_extends (prog : Prog α) (chip : Chip) :
    chip.lost <+: (prog.run (lossyBus view) chip).2.lost := by
  induction prog generalizing chip with
  | done result => exact List.prefix_rfl
  | read address next ih => exact (step_lost_extends chip _).trans (ih _ _)
  | write address value next ih => exact (step_lost_extends chip _).trans (ih _ _)

theorem kept_before {prog : Prog α} {chip : Chip} {access : Access}
    (kept : access ∉ (prog.run (lossyBus view) chip).2.lost) : access ∉ chip.lost :=
  fun lost => kept ((run_lost_extends prog chip).subset lost)

theorem step_lost_within {chip : Chip} {access : Access} (made : Access)
    (owned : own (Access.address made)) (lost : access ∈ (chip.step made).lost) :
    access ∈ chip.lost ∨ own (Access.address access) := by
  rw [step_lost] at lost
  split at lost
  · exact .inl lost
  · rcases List.mem_append.mp lost with before | new
    · exact .inl before
    · rw [List.mem_singleton] at new
      exact .inr (new ▸ owned)

/-- What a program loses are accesses to its own registers. -/
theorem run_lost_within {prog : Prog α} (within : prog.Within own) (chip : Chip)
    {access : Access} (lost : access ∈ (prog.run (lossyBus view) chip).2.lost) :
    access ∈ chip.lost ∨ own (Access.address access) := by
  induction prog generalizing chip with
  | done result => exact .inl lost
  | read address next ih =>
      rcases ih _ (within.2 _) _ lost with before | owned
      · exact step_lost_within (.read address) within.1 before
      · exact .inr owned
  | write address value next ih =>
      rcases ih _ (within.2 _) _ lost with before | owned
      · exact step_lost_within (.write address value) within.1 before
      · exact .inr owned

/-- A program leaves all other registers alone. -/
theorem run_frame {prog : Prog α} (within : prog.Within own) (chip : Chip) {address : Nat}
    (foreign : ¬ own address) :
    (prog.run (lossyBus view) chip).2.cells address = chip.cells address := by
  induction prog generalizing chip with
  | done result => rfl
  | read place next ih => exact (ih _ (within.2 _) _).trans (by rw [step_read_cells])
  | write place value next ih =>
      refine (ih _ (within.2 _) _).trans ?_
      rw [step_write_cells]
      split
      · refine Function.update_of_ne (fun same => ?_) _ _
        rw [same] at foreign
        exact foreign within.1
      · rfl
end Runs

/-! What a program does to a register, whatever is lost. -/

/-- No write to the register is lost. -/
def Intact (address : Nat) (lost : List Access) : Prop := ∀ value, .write address value ∉ lost

section Registers
variable {α β : Type} {own : Nat → Prop}

/-- To a register that it does not own a program does nothing, and loses nothing of it. -/
theorem run_apart (view : Cells → Cells) {prog : Prog α} (within : prog.Within own) (chip : Chip)
    (address : Nat) (foreign : ¬ own address) :
    (prog.run (lossyBus view) chip).2.cells address = chip.cells address ∧
      (Intact address (prog.run (lossyBus view) chip).2.lost ↔ Intact address chip.lost) := by
  refine ⟨run_frame within chip foreign, fun kept value => kept_before (kept value), ?_⟩
  intro kept value lost
  rcases run_lost_within within chip lost with before | owned
  · exact kept value before
  · exact foreign owned

/-- Unless the write of it is lost, the register ends with the value. -/
def Settles (view : Cells → Cells) (address : Nat) (value : BitVec 32) (prog : Prog α) : Prop :=
  ∀ chip, .write address value ∉ (prog.run (lossyBus view) chip).2.lost →
    (prog.run (lossyBus view) chip).2.cells address = value

variable {address : Nat} {value : BitVec 32}

theorem settles_write : Settles view address value (writeRegister address value) := by
  intro chip kept
  have made : chip.outcome = 0 := made_of_kept kept
  simp [step_write_cells, made]

/-- The register is settled first, and then left alone. -/
theorem Settles.first {first : Prog α} {next : α → Prog β}
    (settles : Settles view address value first)
    (apart : ∀ result, (next result).Within (· ≠ address)) :
    Settles view address value (first >>= next) := by
  intro chip kept
  rw [run_bind, bind_run] at kept ⊢
  rw [run_frame (apart _) _ (fun differs => differs rfl)]
  exact settles chip (kept_before kept)

theorem Settles.later (first : Prog α) {next : α → Prog β}
    (settles : ∀ result, Settles view address value (next result)) :
    Settles view address value (first >>= next) := by
  intro chip kept
  rw [run_bind, bind_run] at kept ⊢
  exact settles _ _ kept

/-- From a chip with `pre`, a program that returns 0 leads to one with `post`. -/
def Ensures (view : Cells → Cells) (pre : Chip → Prop) (prog : Prog Int) (post : Chip → Prop) :
    Prop :=
  ∀ chip, pre chip → (prog.run (lossyBus view) chip).1 = 0 →
    post (prog.run (lossyBus view) chip).2

variable {pre between post : Chip → Prop}

/-- The second program runs if the first one returns 0. -/
theorem Ensures.checked {first next : Prog Int} (begins : Ensures view pre first between)
    (goes : Ensures view between next post) :
    Ensures view pre (first >>= fun ret => if ret ≠ 0 then pure ret else next) post := by
  intro chip start returned
  rw [run_bind, bind_run, run_ite, ite_run] at returned ⊢
  by_cases fine : (first.run (lossyBus view) chip).1 = 0
  · rw [if_neg (by simp [fine])] at returned ⊢
    exact goes _ (begins chip start fine) returned
  · rw [if_pos fine] at returned
    exact absurd returned fine

/-- A read that fails ends the program with its error. -/
theorem Ensures.reads {between : BitVec 32 → Chip → Prop}
    {next : Except Int (BitVec 32) → Prog Int} (fails : ∀ ret, next (.error ret) = pure ret)
    (reads : ∀ chip, pre chip → chip.outcome = 0 →
      between (view chip.cells address) (chip.step (.read address)))
    (goes : ∀ value, Ensures view (between value) (next (.ok value)) post) :
    Ensures view pre (readRegister address >>= next) post := by
  intro chip start returned
  rw [run_bind, bind_run, run_read, lossy_read] at returned ⊢
  by_cases made : chip.outcome = 0
  · rw [if_pos made] at returned ⊢
    exact goes _ _ (reads chip start made) returned
  · rw [if_neg made, fails] at returned
    exact absurd returned made

theorem Ensures.writes
    (writes : ∀ chip, pre chip → chip.outcome = 0 → post (chip.step (.write address value))) :
    Ensures view pre (writeRegister address value) post :=
  fun chip start returned => writes chip start returned

/-- A program without a result, behind which 0 is returned. -/
theorem Ensures.unchecked {prog : Prog Unit}
    (leads : ∀ chip, pre chip → post (prog.run (lossyBus view) chip).2) :
    Ensures view pre (prog >>= fun _ => pure 0) post := by
  intro chip start _
  rw [run_bind, bind_run]
  exact leads chip start
end Registers

/-! Tables of registers. -/

abbrev Table : Type := List (Nat × BitVec 32)

/-- Writes the table from its first entry on, and looks at no result. -/
def writeAll : Table → Prog Unit
  | [] => pure ()
  | (address, value) :: rest => do
      let _ ← writeRegister address value
      writeAll rest

theorem write_all_within {own : Nat → Prop} (table : Table)
    (owned : ∀ entry ∈ table, own entry.1) : (writeAll table).Within own := by
  induction table with
  | nil => trivial
  | cons entry rest ih =>
      rw [List.forall_mem_cons] at owned
      exact within_bind (within_write _ owned.1) fun _ => ih owned.2

theorem write_all_settles (table : Table) (distinct : (table.map Prod.fst).Nodup)
    (entry : Nat × BitVec 32) (member : entry ∈ table) :
    Settles view entry.1 entry.2 (writeAll table) := by
  induction table with
  | nil => simp at member
  | cons first rest ih =>
      rw [List.map_cons, List.nodup_cons] at distinct
      rcases List.mem_cons.mp member with rfl | later
      · -- No later entry is for the same register.
        refine settles_write.first fun _ => write_all_within rest fun other there same => ?_
        exact distinct.1 (same ▸ List.mem_map_of_mem there)
      · exact .later _ fun _ => ih distinct.2 later

end Lan865x.LossyBus
