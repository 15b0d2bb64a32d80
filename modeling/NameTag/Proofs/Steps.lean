/-!
# Steps that may fail

Edits, changes of settings and parts of a run have a state and may fail. How such steps follow each
other is the same for all of them, and is stated here for any state and any failure.
-/

namespace NameTag

variable {ε σ α β : Type} {x : EStateM ε σ α} {f : α → EStateM ε σ β} {a : α} {b : β} {e : ε}
  {s s' : σ}

@[simp] theorem pure_run (a : α) (s : σ) : (pure a : EStateM ε σ α) s = .ok a s := rfl

@[simp] theorem throw_run (e : ε) (s : σ) : (throw e : EStateM ε σ α) s = .error e s := rfl

theorem get_run (s : σ) : (get : EStateM ε σ σ) s = .ok s s := rfl

@[simp] theorem bind_run (x : EStateM ε σ α) (f : α → EStateM ε σ β) (s : σ) :
    (x >>= f) s = match x s with
      | .ok a s₁ => f a s₁
      | .error e s₁ => .error e s₁ :=
  EStateM.run_bind x f

@[simp] theorem map_run (g : α → β) (x : EStateM ε σ α) (s : σ) :
    (g <$> x) s = match x s with
      | .ok a s₁ => .ok (g a) s₁
      | .error e s₁ => .error e s₁ := rfl

theorem discard_run (x : EStateM ε σ α) (s : σ) :
    (discard x : EStateM ε σ Unit) s = match x s with
      | .ok _ s₁ => .ok () s₁
      | .error e s₁ => .error e s₁ := rfl

theorem tryCatch_run (x : EStateM ε σ α) (handle : ε → EStateM ε σ α) (s : σ) :
    (tryCatch x handle : EStateM ε σ α) s = match x s with
      | .ok a s₁ => .ok a s₁
      | .error e s₁ => handle e s₁ := by
  show EStateM.tryCatch x handle s = _
  unfold EStateM.tryCatch
  cases x s <;> rfl

theorem bind_of_ok (h : x s = .ok a s') : (x >>= f) s = f a s' := by
  rw [bind_run, h]

theorem bind_of_error (h : x s = .error e s') : (x >>= f) s = .error e s' := by
  rw [bind_run, h]

theorem bind_eq_ok_iff :
    (x >>= f) s = .ok b s' ↔ ∃ a s₁, x s = .ok a s₁ ∧ f a s₁ = .ok b s' := by
  constructor
  · intro h
    cases hx : x s with
    | ok a s₁ => exact ⟨a, s₁, rfl, by rwa [bind_of_ok hx] at h⟩
    | error e s₁ => rw [bind_of_error hx] at h; cases h
  · rintro ⟨a, s₁, hx, hf⟩
    rw [bind_of_ok hx, hf]

end NameTag
