/-!
# Outcomes

What an operation leaves behind: the state afterwards, and what was done on the way, in order.
Operations are chained by `andThen`, which loses and reorders nothing.
-/

namespace LiveTabs

/-- A state and the effects that led to it, first to last. -/
structure Outcome (ε σ : Type) where
  state : σ
  effects : List ε := []

namespace Outcome

variable {ε σ τ : Type}

/-- Goes on from the state, after what was done already. -/
def andThen (outcome : Outcome ε σ) (next : σ → Outcome ε τ) : Outcome ε τ :=
  let following := next outcome.state
  ⟨following.state, outcome.effects ++ following.effects⟩

/-- The last state is that of the second operation. -/
@[simp] theorem state_andThen (outcome : Outcome ε σ) (next : σ → Outcome ε τ) :
    (outcome.andThen next).state = (next outcome.state).state := rfl

/-- The effects of the second operation follow those of the first. -/
@[simp] theorem effects_andThen (outcome : Outcome ε σ) (next : σ → Outcome ε τ) :
    (outcome.andThen next).effects = outcome.effects ++ (next outcome.state).effects := rfl

/-- Three operations may be chained from either end. -/
theorem andThen_assoc {υ : Type} (outcome : Outcome ε σ) (next : σ → Outcome ε τ)
    (last : τ → Outcome ε υ) :
    (outcome.andThen next).andThen last = outcome.andThen fun state =>
      (next state).andThen last := by
  simp only [andThen, List.append_assoc]

end Outcome

end LiveTabs
