import NameTag.Proofs.Extract.Reading

/-!
# What an extraction is made of

An extraction is put together from steps that look at the draft, refuse or store. A property of edits
that these steps have and that putting edits together preserves (`Edit.Closed`) holds of the whole
extraction: `Closed.extract`.
-/

namespace NameTag.Edit

/-- A property of edits that plain steps have, and edits made of edits with the property. -/
structure Closed (Q : ∀ {α : Type}, Edit α → Prop) : Prop where
  pure : ∀ {α : Type} (a : α), Q (pure a : Edit α)
  problem : ∀ {α : Type} (p : Problem), Q (throw (.problem p) : Edit α)
  editable : Q editable
  bind : ∀ {α β : Type} {x : Edit α} {f : α → Edit β}, Q x → (∀ a, Q (f a)) → Q (x >>= f)

variable {Q : ∀ {α : Type}, Edit α → Prop} {marker : Value} {c : Conversion}

/-! ## Arguments -/

theorem Closed.sourceName (hQ : Closed Q) (source : Value) : Q (sourceName source) := by
  cases source with
  | text t =>
    cases h : (Text.strip t).isEmpty
    · simp only [Edit.sourceName, h]
      exact hQ.pure _
    · simp only [Edit.sourceName, h]
      exact hQ.problem _
  | _ => exact hQ.problem _

theorem Closed.sourcePattern (hQ : Closed Q) (pattern : Value) : Q (sourcePattern pattern) := by
  cases pattern with
  | text t =>
    cases h : Pattern.hasPlaceholder (Pattern.normalize (Text.strip t))
    · simp only [Edit.sourcePattern, h]
      exact hQ.problem _
    · simp only [Edit.sourcePattern, h]
      exact hQ.pure _
  | _ => exact hQ.problem _

theorem Closed.strictMode (hQ : Closed Q) (mode : Value) : Q (strictMode mode) := by
  unfold Edit.strictMode
  split
  · exact hQ.pure _
  · split
    · exact hQ.pure _
    · exact hQ.problem _

/-! ## Storing and reading -/

theorem Closed.store (hQ : Closed Q) (hstore : ∀ f v, Q (storeText marker f (Text.strip v)))
    (field value : Value) : Q (store marker field value) := by
  refine hQ.bind hQ.editable fun _ => ?_
  split
  · split
    · exact hQ.problem _
    · exact hQ.problem _
    · exact hstore _ _
  · exact hQ.problem _

section Reading

variable (hQ : Closed Q) (hstore : ∀ f v, Q (storeText c.marker f (Text.strip v)))

include hQ hstore

theorem Closed.assign (name captured : Text) : Q (assign c name captured) := by
  by_cases hn : name = Field.ignored
  · rw [hn, assign_ignored]
    exact hQ.pure 0
  · rw [assign_of_ne captured hn]
    exact hQ.bind (hQ.store hstore _ _) fun _ => hQ.pure 1

theorem Closed.assignRest (name rest : Text) (used : List Text) :
    Q (assignRest c name rest used) := by
  rw [assignRest_eq]
  split
  · exact hQ.problem _
  · split
    · exact hQ.problem _
    · exact hQ.assign hstore name rest

theorem Closed.readAlong (ts : List Token) (rest : Text) (pending : Option Text)
    (used : List Text) : Q (readAlong c ts rest pending used) := by
  induction ts generalizing rest pending used with
  | nil =>
    cases pending with
    | none => exact hQ.pure 0
    | some name => exact hQ.assignRest hstore name rest used
  | cons token ts ih =>
    cases token with
    | placeholder name =>
      rw [readAlong_placeholder]
      split
      · exact hQ.problem _
      · split
        · exact ih _ _ _
        · exact hQ.problem _
    | literal separator =>
      cases hcut : Text.cut? separator rest with
      | none =>
        rw [readAlong_literal_of_none hcut]
        exact hQ.problem _
      | some p =>
        cases pending with
        | none =>
          rw [readAlong_literal_of_some hcut]
          exact ih _ _ _
        | some name =>
          rw [readAlong_literal_of_pending hcut]
          exact hQ.bind (hQ.assign hstore name _) fun _ =>
            hQ.bind (ih _ _ _) fun _ => hQ.pure _

end Reading

/-- An extraction has the property if stores have it, edits on copies keep it and the failure of the
weed has it. -/
theorem Closed.extract (hQ : Closed Q) (hstore : ∀ f v, Q (storeText marker f (Text.strip v)))
    (hcopy : ∀ {α : Type} {body : Edit α}, Q body → Q (onCopy body)) {weed : Value}
    (hweed : ∀ {α : Type} e, Weed.compile weed = .error e → Q (throw e : Edit α))
    (source pattern mode : Value) : Q (extract marker source pattern mode weed) := by
  refine hQ.bind (hQ.sourceName source) fun name => ?_
  refine hQ.bind (hQ.sourcePattern pattern) fun p => ?_
  refine hQ.bind hQ.editable fun _ => ?_
  refine hQ.bind (hQ.strictMode mode) fun m => ?_
  have hread : ∀ w, Q (Edit.readAlong ⟨marker, w, m⟩ (Pattern.tokens p) name none []) :=
    fun w => @Closed.readAlong Q ⟨marker, w, m⟩ hQ hstore _ _ _ _
  have hrest := fun w => hcopy (hread w)
  split
  · exact hQ.bind (hQ.pure _) hrest
  · split
    · exact hQ.bind (hQ.pure _) hrest
    · next hw => exact hQ.bind (hweed _ hw) hrest

end NameTag.Edit
