import Mathlib.Data.List.Basic

/-!
Records of what has happened, in order, and what is known about the part of a
record after each occurrence of an event. A statement about all occurrences is
kept up event by event: the new event is one more, and each older one sees it.
-/

namespace Lan865x.Timeline

universe u
variable {Event : Type u}

/-- `known` holds of what has happened since each occurrence of `event`. -/
def SinceEach (event : Event) (known : List Event → Prop) (log : List Event) : Prop :=
  ∀ earlier later, log = earlier ++ event :: later → known later

theorem since_each_nil (event : Event) (known : List Event → Prop) : SinceEach event known [] := by
  intro earlier later split
  simp at split

/-- Where the occurrences of an event in a record that grows by one can be. -/
theorem split_snoc {log earlier later : List Event} {last event : Event}
    (split : log ++ [last] = earlier ++ event :: later) :
    (last = event ∧ later = []) ∨
      ∃ front, later = front ++ [last] ∧ log = earlier ++ event :: front := by
  rcases List.eq_nil_or_concat' later with rfl | ⟨front, final, rfl⟩
  · exact .inl ⟨(List.append_inj' split rfl).2 |> List.singleton_inj.mp, rfl⟩
  · have ends : log ++ [last] = (earlier ++ event :: front) ++ [final] := by simpa using split
    obtain ⟨same, one⟩ := List.append_inj' ends rfl
    obtain rfl : last = final := List.singleton_inj.mp one
    exact .inr ⟨front, rfl, same⟩

theorem since_each_snoc {event last : Event} {before after : List Event → Prop} {log : List Event}
    (known : SinceEach event before log) (here : last = event → after [])
    (older : ∀ later, before later → after (later ++ [last])) :
    SinceEach event after (log ++ [last]) := by
  intro earlier later split
  rcases split_snoc split with ⟨same, rfl⟩ | ⟨front, rfl, there⟩
  · exact here same
  · exact older front (known earlier front there)

theorem since_each_mono {event : Event} {before after : List Event → Prop} {log : List Event}
    (known : SinceEach event before log) (weaker : ∀ later, before later → after later) :
    SinceEach event after log :=
  fun earlier later split => weaker later (known earlier later split)

end Lan865x.Timeline
