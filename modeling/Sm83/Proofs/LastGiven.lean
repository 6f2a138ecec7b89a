set_option autoImplicit false

namespace Sm83

section

variable {σ ω α : Type} {given : ω → Option α}

def lastGiven (given : ω → Option α) (operations : List ω) : Option α :=
  (operations.filterMap given).getLast?

theorem lastGiven_append (first second : List ω) :
    lastGiven given (first ++ second) =
      (lastGiven given second).or (lastGiven given first) := by
  rw [lastGiven, List.filterMap_append, List.getLast?_append]
  rfl

theorem lastGiven_of_silent {operations : List ω}
    (silent : ∀ operation ∈ operations, given operation = none) :
    lastGiven given operations = none := by
  rw [lastGiven, List.filterMap_eq_nil_iff.mpr silent]
  rfl

theorem lastGiven_map {β : Type} (f : α → β) (operations : List ω) :
    lastGiven (fun operation => (given operation).map f) operations =
      (lastGiven given operations).map f := by
  rw [lastGiven, lastGiven, ← List.map_filterMap, List.getLast?_map]

-- Of two lists of operations only one gives the value, so it does not matter which comes first.
theorem lastGiven_append_comm {first second : List ω}
    (apart : ∀ x ∈ first, ∀ y ∈ second, given x = none ∨ given y = none) :
    lastGiven given (first ++ second) = lastGiven given (second ++ first) := by
  rw [lastGiven_append, lastGiven_append]
  by_cases silent : ∀ x ∈ first, given x = none
  next => rw [lastGiven_of_silent silent, Option.or_none, Option.none_or]
  next =>
    obtain ⟨x, member, gives⟩ : ∃ x ∈ first, given x ≠ none := by simpa using silent
    have others : ∀ y ∈ second, given y = none := fun y there =>
      (apart x member y there).resolve_left gives
    rw [lastGiven_of_silent others, Option.or_none, Option.none_or]

theorem view_foldl (view : σ → α) {apply : σ → ω → σ}
    (shows : ∀ state operation, view (apply state operation) =
      (given operation).getD (view state)) (state : σ) (operations : List ω) :
    view (operations.foldl apply state) = (lastGiven given operations).getD (view state) := by
  induction operations generalizing state with
  | nil => rfl
  | cons operation rest ih =>
    rw [List.foldl_cons, ih, shows, ← List.singleton_append, lastGiven_append]
    cases lastGiven given rest <;> cases gives : given operation <;> simp [lastGiven, gives]

end

end Sm83
