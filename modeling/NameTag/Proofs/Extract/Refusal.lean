import NameTag.Proofs.Extract.Modes

/-!
# What an extraction is refused for

Only two problems are of the configuration: a case mode that is unknown and a weed that does not
compile. An extraction looks at both before it reads anything, so with a known mode and a weed that
compiles whatever it is refused for lies with the name, the pattern or the values
(`Edit.unconfigured_extract`).
-/

namespace NameTag.Edit

variable {α β : Type} {x : Edit α} {f : α → Edit β} {mode weed : Value} {c : Conversion}

/-- Whatever problem the edit ends in, it is not one of the configuration. -/
def Unconfigured (x : Edit α) : Prop :=
  ∀ ⦃d p d'⦄, x d = .error (.problem p) d' → p.kind ≠ .configuration

theorem unconfigured_of_ok (h : ∀ d, ∃ a d', x d = .ok a d') : Unconfigured x := by
  intro d p d' he
  obtain ⟨a, d₁, hok⟩ := h d
  rw [hok] at he
  cases he

theorem unconfigured_pure (a : α) : Unconfigured (pure a) :=
  unconfigured_of_ok fun d => ⟨a, d, rfl⟩

theorem unconfigured_problem {p : Problem} (h : p.kind ≠ .configuration) :
    Unconfigured (throw (.problem p) : Edit α) := by
  intro d q d' he
  cases he
  exact h

theorem unconfigured_fault (fault : Fault) : Unconfigured (throw (.fault fault) : Edit α) := by
  intro d p d' he
  cases he

theorem Unconfigured.bind (hx : Unconfigured x) (hf : ∀ a, Unconfigured (f a)) :
    Unconfigured (x >>= f) := by
  intro d p d' he
  cases hrun : x d with
  | ok a d₁ =>
    rw [bind_of_ok hrun] at he
    exact hf a he
  | error e d₁ =>
    rw [bind_of_error hrun] at he
    cases he
    exact hx hrun

theorem Unconfigured.onCopy (hx : Unconfigured x) : Unconfigured (onCopy x) := by
  intro d p d' he
  cases hrun : x d with
  | ok a d₁ =>
    rw [Edit.onCopy, hrun] at he
    simp only at he
    split at he <;> cases he
  | error e d₁ =>
    rw [onCopy_of_error hrun] at he
    cases he
    exact hx hrun

theorem unconfigured_editable : Unconfigured editable := by
  rintro ⟨subject, ws⟩ p d' he
  cases subject with
  | editable t => cases he
  | readOnly t =>
    cases he
    decide
  | other v =>
    cases he
    decide

/-! ## Stores -/

theorem unconfigured_setField (f : Field) (s : Text) : Unconfigured (setField f s) :=
  unconfigured_editable.bind fun _ => unconfigured_of_ok fun _ => ⟨_, _, rfl⟩

theorem unconfigured_ofExcept (r : Except Fault α) : Unconfigured (ofExcept r) := by
  cases r with
  | ok a => exact unconfigured_pure a
  | error fault => exact unconfigured_fault fault

theorem unconfigured_warn (w : Warning) : Unconfigured (warn w) :=
  unconfigured_of_ok fun _ => ⟨_, _, rfl⟩

theorem unconfigured_shrinkComment (marker : Value) : Unconfigured (shrinkComment marker) := by
  refine unconfigured_editable.bind fun t => ?_
  dsimp only
  split
  · split
    · refine (unconfigured_ofExcept _).bind fun short => ?_
      refine (unconfigured_setField _ _).bind fun _ => ?_
      split
      · exact unconfigured_warn _
      · exact unconfigured_pure ()
    · exact unconfigured_fault _
  · exact unconfigured_pure ()

theorem unconfigured_storeText (marker : Value) (f : Field) (s : Text) :
    Unconfigured (storeText marker f s) := by
  unfold storeText
  split
  · have hset := (unconfigured_setField .year s).bind fun _ => unconfigured_pure s
    split
    · exact (unconfigured_problem (by decide)).bind fun _ => hset
    · exact hset
  · have hset := (unconfigured_shrinkComment marker).bind fun _ =>
      (unconfigured_setField .trackNumber s).bind fun _ => unconfigured_pure s
    split
    · exact (unconfigured_problem (by decide)).bind fun _ => hset
    · exact hset
  · refine unconfigured_editable.bind fun t => (unconfigured_ofExcept _).bind fun stored => ?_
    have hset := (unconfigured_setField f stored).bind fun _ => unconfigured_pure stored
    split
    · exact (unconfigured_warn _).bind fun _ => hset
    · exact hset

theorem unconfigured_store (marker field value : Value) :
    Unconfigured (store marker field value) := by
  refine unconfigured_editable.bind fun _ => ?_
  split
  · split
    · exact unconfigured_problem (by decide)
    · exact unconfigured_problem (by decide)
    · exact unconfigured_storeText _ _ _
  · exact unconfigured_problem (by decide)

/-! ## Readings -/

theorem unconfigured_assign (name captured : Text) : Unconfigured (assign c name captured) := by
  by_cases hn : name = Field.ignored
  · rw [hn, assign_ignored]
    exact unconfigured_pure 0
  · rw [assign_of_ne captured hn]
    exact (unconfigured_store _ _ _).bind fun _ => unconfigured_pure 1

theorem unconfigured_assignRest (name rest : Text) (used : List Text) :
    Unconfigured (assignRest c name rest used) := by
  rw [assignRest_eq]
  split
  · exact unconfigured_problem (by simp [Problem.kind])
  · split
    · exact unconfigured_problem (by simp [Problem.kind])
    · exact unconfigured_assign _ _

theorem unconfigured_readAlong (ts : List Token) (rest : Text) (pending : Option Text)
    (used : List Text) : Unconfigured (readAlong c ts rest pending used) := by
  induction ts generalizing rest pending used with
  | nil =>
    cases pending with
    | none => exact unconfigured_pure 0
    | some name => exact unconfigured_assignRest name rest used
  | cons token ts ih =>
    cases token with
    | placeholder name =>
      rw [readAlong_placeholder]
      split
      · exact unconfigured_problem (by simp [Problem.kind])
      · split
        · exact ih _ _ _
        · exact unconfigured_problem (by simp [Problem.kind])
    | literal separator =>
      cases hcut : Text.cut? separator rest with
      | none =>
        rw [readAlong_literal_of_none hcut]
        exact unconfigured_problem (by simp [Problem.kind])
      | some part =>
        cases pending with
        | none =>
          rw [readAlong_literal_of_some hcut]
          exact ih _ _ _
        | some name =>
          rw [readAlong_literal_of_pending hcut]
          exact (unconfigured_assign name _).bind fun _ =>
            (ih _ _ _).bind fun _ => unconfigured_pure _

/-! ## Extractions -/

theorem unconfigured_sourceName (source : Value) : Unconfigured (sourceName source) := by
  unfold sourceName
  split
  · dsimp only
    split
    · exact (unconfigured_problem (by decide)).bind fun _ => unconfigured_pure _
    · exact unconfigured_pure _
  · exact unconfigured_problem (by decide)

theorem unconfigured_sourcePattern (pattern : Value) : Unconfigured (sourcePattern pattern) := by
  unfold sourcePattern
  split
  · dsimp only
    split
    · exact (unconfigured_problem (by decide)).bind fun _ => unconfigured_pure _
    · exact unconfigured_pure _
  · exact unconfigured_problem (by decide)

/-- With a known mode and a weed that compiles an extraction is not refused for its configuration. -/
theorem unconfigured_extract (marker source pattern : Value) (hm : KnownMode mode)
    (hw : weed = .null ∨ ∃ w, Weed.compile weed = .ok w) :
    Unconfigured (extract marker source pattern mode weed) := by
  refine (unconfigured_sourceName source).bind fun name => ?_
  refine (unconfigured_sourcePattern pattern).bind fun p => unconfigured_editable.bind fun _ => ?_
  have hmode : Unconfigured (strictMode mode) := unconfigured_of_ok fun d =>
    (hm.strictMode_run d).imp fun _ h => ⟨d, h⟩
  refine hmode.bind fun m => ?_
  have hread : ∀ w : Option Weed, Unconfigured
      (Edit.onCopy (readAlong ⟨marker, w, m⟩ (Pattern.tokens p) name none [])) := fun w =>
    (unconfigured_readAlong _ _ _ _).onCopy
  rcases hw with rfl | ⟨w, hw⟩
  · exact (unconfigured_pure none).bind hread
  · have hne : weed ≠ .null := by
      rintro rfl
      cases hw
    simp only [hw]
    exact (unconfigured_pure (some w)).bind hread

end NameTag.Edit
