import LiveTabs.Proofs.Storage.SingleText

/-!
# Whatever a program is answered

A program that calls the storage may be answered anything: any call may fail, and any text may have
been put by others. `MayGive` says which results a program may end with. What holds of all of them
holds of the result of every run, on whatever storage (`run_may_give`).
-/

namespace LiveTabs

namespace Access

variable {α β σ : Type}

/-- Some answers lead a program to a result. -/
def MayGive (result : α) : Access α → Prop
  | .done given => result = given
  | .supported next => ∃ answer, MayGive result (next answer)
  | .get _ next => ∃ answer, MayGive result (next answer)
  | .set _ _ next => ∃ answer, MayGive result (next answer)
  | .remove _ next => ∃ answer, MayGive result (next answer)

/-- A finished program gives its result and no other one. -/
theorem eq_of_may_give_pure {result given : α} (gives : MayGive result (pure given)) :
    result = given := gives

/-- A sequence gives what its second part gives from some result of the first. Operations are taken
apart call by call with this. -/
theorem may_give_bind {result : β} (first : Access α) {next : α → Access β}
    (gives : MayGive result (first >>= next)) :
    ∃ between, MayGive between first ∧ MayGive result (next between) := by
  replace gives : MayGive result (bind first next) := gives
  induction first with
  | done given => exact ⟨given, rfl, gives⟩
  | supported answered inductionHypothesis =>
    obtain ⟨answer, gives⟩ := gives
    obtain ⟨between, reached, onward⟩ := inductionHypothesis answer gives
    exact ⟨between, ⟨answer, reached⟩, onward⟩
  | get key answered inductionHypothesis =>
    obtain ⟨answer, gives⟩ := gives
    obtain ⟨between, reached, onward⟩ := inductionHypothesis answer gives
    exact ⟨between, ⟨answer, reached⟩, onward⟩
  | set key value answered inductionHypothesis =>
    obtain ⟨answer, gives⟩ := gives
    obtain ⟨between, reached, onward⟩ := inductionHypothesis answer gives
    exact ⟨between, ⟨answer, reached⟩, onward⟩
  | remove key answered inductionHypothesis =>
    obtain ⟨answer, gives⟩ := gives
    obtain ⟨between, reached, onward⟩ := inductionHypothesis answer gives
    exact ⟨between, ⟨answer, reached⟩, onward⟩

/-- A run gives a result that the program may give, so what holds whatever the storage answers holds
of every run. -/
theorem run_may_give (storage : Storage σ) (state : σ) (program : Access α) :
    MayGive (run storage state program).1 program := by
  induction program generalizing state with
  | done result => rfl
  | supported next inductionHypothesis => exact ⟨_, inductionHypothesis _ state⟩
  | get key next inductionHypothesis => exact ⟨_, inductionHypothesis _ state⟩
  | set key value next inductionHypothesis => exact ⟨_, inductionHypothesis _ _⟩
  | remove key next inductionHypothesis => exact ⟨_, inductionHypothesis _ _⟩

/-- What all results of a confined program have in common holds of those that it may give. -/
theorem holds_of_confined {key : String} {property : α → Prop} {result : α}
    (program : Access α) (confined : Confined key property program)
    (gives : MayGive result program) : property result := by
  induction program with
  | done given =>
    cases gives
    exact confined
  | supported next inductionHypothesis =>
    obtain ⟨answer, gives⟩ := gives
    exact inductionHypothesis answer (confined answer) gives
  | get other next inductionHypothesis =>
    obtain ⟨answer, gives⟩ := gives
    exact inductionHypothesis answer (confined.2 answer) gives
  | set other value next inductionHypothesis =>
    obtain ⟨answer, gives⟩ := gives
    exact inductionHypothesis answer (confined.2 answer) gives
  | remove other next inductionHypothesis =>
    obtain ⟨answer, gives⟩ := gives
    exact inductionHypothesis answer (confined.2 answer) gives

end Access

end LiveTabs
