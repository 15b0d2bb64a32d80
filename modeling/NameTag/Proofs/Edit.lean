import NameTag.Edit
import NameTag.Proofs.Steps

/-!
# Runs of edits

What the steps of an edit do to a draft, how a run of several steps comes apart, and which
properties of the tag an edit keeps (`Edit.Keeps`).
-/

namespace NameTag

namespace Edit

variable {α : Type} {x : Edit α} {a : α} {e : Failure}

@[simp] theorem editable_run (t : Tag) (ws : List Warning) :
    editable ⟨.editable t, ws⟩ = .ok t ⟨.editable t, ws⟩ := rfl

@[simp] theorem warn_run (w : Warning) (s : Subject) (ws : List Warning) :
    warn w ⟨s, ws⟩ = .ok () ⟨s, ws ++ [w]⟩ := rfl

@[simp] theorem ofExcept_ok {ε : Type} [Coe ε Failure] (a : α) (d : Draft) :
    (ofExcept (.ok a : Except ε α)) d = .ok a d := rfl

theorem run_eq_ok_iff {s s' : Subject} {ws : List Warning} :
    x.run s = (⟨.ok a, ws⟩, s') ↔ x ⟨s, []⟩ = .ok a ⟨s', ws⟩ := by
  rw [Edit.run]
  constructor
  · intro h
    split at h <;> cases h
    assumption
  · intro h
    rw [h]

theorem run_eq_error_iff {s s' : Subject} {ws : List Warning} :
    x.run s = (⟨.error e, ws⟩, s') ↔ x ⟨s, []⟩ = .error e ⟨s', ws⟩ := by
  rw [Edit.run]
  constructor
  · intro h
    split at h <;> cases h
    assumption
  · intro h
    rw [h]

end Edit

/-! ## What an edit keeps -/

/-- The draft is of a tag that may be edited and has the property. -/
def Draft.Holds (P : Tag → Prop) (d : Draft) : Prop :=
  ∃ t, d.subject = .editable t ∧ P t

namespace Edit

variable {α β : Type} {P : Tag → Prop} {x : Edit α} {f : α → Edit β}

/-- The edit keeps a property of the tag, whether it succeeds or fails. -/
structure Keeps (P : Tag → Prop) (x : Edit α) : Prop where
  ok : ∀ {d a d'}, d.Holds P → x d = .ok a d' → d'.Holds P
  error : ∀ {d e d'}, d.Holds P → x d = .error e d' → d'.Holds P

theorem keeps_pure (a : α) : Keeps P (pure a : Edit α) where
  ok := by
    intro d a' d' hd h
    cases h
    exact hd
  error := by
    intro d e d' hd h
    cases h

theorem keeps_throw (e : Failure) : Keeps P (throw e : Edit α) where
  ok := by
    intro d a d' hd h
    cases h
  error := by
    intro d e' d' hd h
    cases h
    exact hd

theorem keeps_ofExcept {ε : Type} [Coe ε Failure] (r : Except ε α) : Keeps P (ofExcept r) := by
  cases r with
  | ok a => exact keeps_pure a
  | error e => exact keeps_throw (e : Failure)

theorem keeps_editable : Keeps P editable where
  ok := by
    rintro ⟨_, ws⟩ a d' ⟨t, rfl, ht⟩ h
    cases h
    exact ⟨a, rfl, ht⟩
  error := by
    rintro ⟨_, ws⟩ e d' ⟨t, rfl, ht⟩ h
    cases h

theorem keeps_warn (w : Warning) : Keeps P (warn w) where
  ok := by
    intro d a d' hd h
    cases h
    exact hd
  error := by
    intro d e d' hd h
    cases h

theorem Keeps.ite {c : Prop} [Decidable c] {y : Edit α} (hx : Keeps P x) (hy : Keeps P y) :
    Keeps P (if c then x else y) := by
  split
  · exact hx
  · exact hy

theorem Keeps.bind (hx : Keeps P x) (hf : ∀ a, Keeps P (f a)) : Keeps P (x >>= f) where
  ok := by
    intro d b d' hd h
    obtain ⟨a, d₁, hx₁, hf₁⟩ := bind_eq_ok_iff.1 h
    exact (hf a).ok (hx.ok hd hx₁) hf₁
  error := by
    intro d e d' hd h
    cases hx₁ : x d with
    | ok a d₁ =>
      rw [bind_of_ok hx₁] at h
      exact (hf a).error (hx.ok hd hx₁) h
    | error e₁ d₁ =>
      rw [bind_of_error hx₁] at h
      cases h
      exact hx.error hd hx₁

theorem Keeps.tryCatch {handle : Failure → Edit α} (hx : Keeps P x)
    (hh : ∀ e, Keeps P (handle e)) : Keeps P (tryCatch x handle) := by
  constructor
  · intro d a d' hd h
    rw [tryCatch_run] at h
    cases hx₁ : x d with
    | ok a₁ d₁ =>
      rw [hx₁] at h
      cases h
      exact hx.ok hd hx₁
    | error e₁ d₁ =>
      rw [hx₁] at h
      exact (hh e₁).ok (hx.error hd hx₁) h
  · intro d e d' hd h
    rw [tryCatch_run] at h
    cases hx₁ : x d with
    | ok a₁ d₁ =>
      rw [hx₁] at h
      cases h
    | error e₁ d₁ =>
      rw [hx₁] at h
      exact (hh e₁).error (hx.error hd hx₁) h

/-- An edit of a copy keeps what putting the copy into the tag keeps. -/
theorem Keeps.onCopy (hx : Keeps P x)
    (hP : ∀ {t copy : Tag}, P t → P copy → P (t.update copy.entries)) : Keeps P (onCopy x) where
  ok := by
    rintro ⟨_, ws⟩ a d' ⟨t, rfl, ht⟩ h
    rw [Edit.onCopy] at h
    cases hx₁ : x ⟨.editable t, ws⟩ with
    | ok a₁ d₁ =>
      obtain ⟨copy, hs, hc⟩ := hx.ok ⟨t, rfl, ht⟩ hx₁
      rw [hx₁] at h
      simp only [hs] at h
      cases h
      exact ⟨_, rfl, hP ht hc⟩
    | error e d₁ =>
      rw [hx₁] at h
      cases h
  error := by
    rintro d e d' ⟨t, hs, ht⟩ h
    rw [Edit.onCopy] at h
    cases hx₁ : x d with
    | ok a₁ d₁ =>
      rw [hx₁] at h
      simp only at h
      split at h <;> cases h
    | error e₁ d₁ =>
      rw [hx₁] at h
      cases h
      exact ⟨t, hs, ht⟩

/-- After a run the subject is a tag with the property. -/
theorem Keeps.run (hx : Keeps P x) {t : Tag} (ht : P t) :
    ∃ t', (x.run (.editable t)).2 = .editable t' ∧ P t' := by
  have hd : (Draft.mk (.editable t) []).Holds P := ⟨t, rfl, ht⟩
  rw [Edit.run]
  cases hx₁ : x ⟨.editable t, []⟩ with
  | ok a d' => exact hx.ok hd hx₁
  | error e d' => exact hx.error hd hx₁

end Edit

end NameTag
