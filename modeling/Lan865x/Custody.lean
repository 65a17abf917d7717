/-!
Resources that are acquired and released. A record of such events is sound when
nothing is acquired twice, nothing is released that is not held, and nothing is
released that something else still held makes use of.
-/

namespace Lan865x.Custody

universe u
variable {Resource : Type u} [DecidableEq Resource]

inductive Event (Resource : Type u) where
  | acquire (resource : Resource)
  | release (resource : Resource)
  deriving DecidableEq

/-- What is held after an event; none if the event is unsound. -/
def step (uses : Resource → Resource → Bool) (held : List Resource) :
    Event Resource → Option (List Resource)
  | .acquire resource => if resource ∈ held then none else some (resource :: held)
  | .release resource =>
      if resource ∈ held ∧ ∀ other ∈ held, uses other resource = false then
        some (held.erase resource)
      else none

def replay (uses : Resource → Resource → Bool) :
    List Resource → List (Event Resource) → Option (List Resource)
  | held, [] => some held
  | held, event :: rest => (step uses held event).bind fun next => replay uses next rest

theorem replay_append (uses : Resource → Resource → Bool) (held : List Resource)
    (first second : List (Event Resource)) :
    replay uses held (first ++ second) =
      (replay uses held first).bind fun middle => replay uses middle second := by
  induction first generalizing held with
  | nil => rfl
  | cons event rest ih =>
      simp only [List.cons_append, replay, Option.bind_assoc]
      exact congrArg _ (funext fun next => ih next)

end Lan865x.Custody
