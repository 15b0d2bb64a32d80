import NameTag.Pattern
import NameTag.Proofs.Tag

/-!
# The shape of a pattern

Its literals, the names of its placeholders, and when its tokens are well formed: no two
placeholders side by side, and every placeholder the name of a field or of nothing.
-/

namespace NameTag

def Token.isPlaceholder : Token → Bool
  | .literal _ => false
  | .placeholder _ => true

namespace Pattern

/-- The name of a field or the one whose text is dropped. -/
def IsKnown (name : Text) : Prop :=
  (∃ f : Field, name = f.name) ∨ name = Field.ignored

theorem isKnown_name (f : Field) : IsKnown f.name := .inl ⟨f, rfl⟩

theorem isKnown_iff {name : Text} :
    IsKnown name ↔ ¬ ((Field.ofName? name).isNone = true ∧ name ≠ Field.ignored) := by
  rw [IsKnown, not_and_not_right, Option.isNone_iff_eq_none]
  constructor
  · rintro (⟨f, rfl⟩ | h) hn
    · rw [Field.ofName?_name] at hn
      cases hn
    · exact h
  · intro h
    cases hn : Field.ofName? name with
    | none => exact .inr (h hn)
    | some f => exact .inl ⟨f, Field.ofName?_eq_some.1 hn⟩

instance (name : Text) : Decidable (IsKnown name) :=
  decidable_of_iff _ isKnown_iff.symm

/-- The literals, in order. -/
def literals : List Token → List Text
  | [] => []
  | .literal l :: ts => l :: literals ts
  | .placeholder _ :: ts => literals ts

/-- The names of the placeholders, in order. -/
def placeholders : List Token → List Text
  | [] => []
  | .literal _ :: ts => placeholders ts
  | .placeholder name :: ts => name :: placeholders ts

/-- No two placeholders stand side by side. -/
def Apart (ts : List Token) : Prop :=
  ts.IsChain fun a b => ¬ (a.isPlaceholder = true ∧ b.isPlaceholder = true)

structure WellFormed (ts : List Token) : Prop where
  apart : Apart ts
  known : ∀ name ∈ placeholders ts, IsKnown name

instance (ts : List Token) : Decidable (Apart ts) :=
  inferInstanceAs (Decidable (ts.IsChain _))

variable {name other l : Text} {ts : List Token}

theorem apart_literal_cons : Apart (.literal l :: ts) ↔ Apart ts := by
  unfold Apart
  cases ts with
  | nil => simp
  | cons t ts => simp [Token.isPlaceholder]

theorem apart_placeholder_literal :
    Apart (.placeholder name :: .literal l :: ts) ↔ Apart ts := by
  have hrest : Apart (.literal l :: ts) ↔ Apart ts := apart_literal_cons
  rw [← hrest]
  simp [Apart, Token.isPlaceholder]

theorem not_apart_placeholders : ¬ Apart (.placeholder name :: .placeholder other :: ts) := by
  simp [Apart, Token.isPlaceholder]

theorem getLast?_literal_cons :
    (Token.literal l :: ts).getLast? = some (.placeholder name) ↔
      ts.getLast? = some (.placeholder name) := by
  cases ts with
  | nil => simp
  | cons t ts => rw [List.getLast?_cons_cons]

theorem wellFormed_nil : WellFormed [] :=
  ⟨.nil, by simp [placeholders]⟩

theorem wellFormed_literal_cons : WellFormed (.literal l :: ts) ↔ WellFormed ts := by
  constructor
  · rintro ⟨ha, hk⟩
    exact ⟨apart_literal_cons.1 ha, hk⟩
  · rintro ⟨ha, hk⟩
    exact ⟨apart_literal_cons.2 ha, hk⟩

theorem wellFormed_placeholder : WellFormed [.placeholder name] ↔ IsKnown name := by
  constructor
  · intro h
    exact h.known name (by simp [placeholders])
  · intro h
    exact ⟨.singleton _, by simpa [placeholders] using h⟩

theorem wellFormed_placeholder_literal :
    WellFormed (.placeholder name :: .literal l :: ts) ↔ IsKnown name ∧ WellFormed ts := by
  constructor
  · rintro ⟨ha, hk⟩
    rw [placeholders, List.forall_mem_cons] at hk
    exact ⟨hk.1, apart_placeholder_literal.1 ha, hk.2⟩
  · rintro ⟨hn, ha, hk⟩
    exact ⟨apart_placeholder_literal.2 ha, List.forall_mem_cons.2 ⟨hn, hk⟩⟩

theorem not_wellFormed_placeholders :
    ¬ WellFormed (.placeholder name :: .placeholder other :: ts) :=
  fun h => not_apart_placeholders h.apart

/-! ## Patterns of fields -/

/-- Every placeholder names a field. -/
def OfFields (ts : List Token) : Prop :=
  ∀ name ∈ placeholders ts, ∃ f : Field, name = f.name

theorem OfFields.head (h : OfFields (.placeholder name :: ts)) : ∃ f : Field, name = f.name :=
  h name List.mem_cons_self

theorem OfFields.tail {t : Token} (h : OfFields (t :: ts)) : OfFields ts := by
  intro name hn
  refine h name ?_
  cases t with
  | literal l => exact hn
  | placeholder other => exact List.mem_cons_of_mem _ hn

/-- The text under the name of a field. -/
def valueAt (w : Field → Text) (name : Text) : Text :=
  (Field.ofName? name).elim [] w

@[simp] theorem valueAt_name (w : Field → Text) (f : Field) : valueAt w f.name = w f := by
  rw [valueAt, Field.ofName?_name, Option.elim_some]

end Pattern

end NameTag
