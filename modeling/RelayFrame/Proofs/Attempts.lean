/-!
# Attempts

What comes out of steps that may fail, taken one after the other: if there is
a result at the end, every step had one.  Where steps also change a state, what
was changed before one of them failed stays changed.
-/

namespace RelayFrame

/-! ## Steps without a state -/

section Steps

variable {α β ε : Type}

theorem ok_bind (value : α) (next : α → Except ε β) :
    (.ok value >>= next : Except ε β) = next value := rfl

/-- Two attempts in a row succeed only if each of them does. -/
theorem exists_of_bind_eq_ok
    {first : Except ε α} {next : α → Except ε β} {result : β}
    (succeeds : (first >>= next) = .ok result) :
    ∃ value, first = .ok value ∧ next value = .ok result := by
  cases first with
  | error error => cases succeeds
  | ok value => exact ⟨value, rfl, succeeds⟩

theorem exists_of_map_eq_ok
    {first : Except ε α} {change : α → β} {result : β}
    (succeeds : first.map change = .ok result) :
    ∃ value, first = .ok value ∧ change value = result := by
  cases first with
  | error error => cases succeeds
  | ok value => exact ⟨value, rfl, Except.ok.inj succeeds⟩

theorem mapError_eq_ok_iff
    {ε' : Type} {first : Except ε α} {change : ε → ε'} {result : α} :
    first.mapError change = .ok result ↔ first = .ok result := by
  cases first with
  | error error => exact iff_of_false nofun nofun
  | ok value =>
      constructor
      · rintro ⟨⟩
        rfl
      · rintro ⟨⟩
        rfl

end Steps

/-! ## Runs with a state -/

section Runs

variable {σ ε α β : Type}

theorem run_get_bind
    (next : σ → ExceptT ε (StateM σ) β) (state : σ) :
    (get >>= next).run.run state = (next state).run.run state := rfl

theorem run_bind
    (first : ExceptT ε (StateM σ) α) (next : α → ExceptT ε (StateM σ) β)
    (state : σ) :
    (first >>= next).run.run state =
      match first.run.run state with
      | (.ok value, later) => (next value).run.run later
      | (.error error, later) => (.error error, later) := by
  unfold ExceptT.run StateT.run
  simp only [bind, ExceptT.bind, ExceptT.mk, StateT.bind]
  cases first state with
  | mk result later => cases result <;> rfl

theorem run_tryCatch
    (body : ExceptT ε (StateM σ) α) (handler : ε → ExceptT ε (StateM σ) α)
    (state : σ) :
    (tryCatch body handler).run.run state =
      match body.run.run state with
      | (.ok value, later) => (.ok value, later)
      | (.error error, later) => (handler error).run.run later := by
  unfold ExceptT.run StateT.run
  simp only [tryCatch, tryCatchThe, MonadExceptOf.tryCatch, ExceptT.tryCatch,
    ExceptT.mk, bind, StateT.bind]
  cases body state with
  | mk result later => cases result <;> rfl

end Runs

end RelayFrame
