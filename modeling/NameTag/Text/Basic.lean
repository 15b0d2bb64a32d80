/-!
# Text

Text is a list of characters, so lengths and positions count characters. Characters are Unicode scalar
values: there are no lone surrogates, and texts that come from a stream or go to one have been decoded
or will be encoded elsewhere, where this can fail. `Text.cut?` finds the first
occurrence of a separator: `cut?_eq_some` says that the parts and the separator make up the text, and
`cut?_eq_none_iff` that it fails only where the separator does not occur.
-/

namespace NameTag

abbrev Text := List Char

namespace Text

/-- What follows `start`, if the text begins with it. -/
def after? : (start text : Text) → Option Text
  | [], t => some t
  | _ :: _, [] => none
  | a :: start, c :: t => if a = c then after? start t else none

/-- The text cut at the first occurrence of a separator: what stands before it, what follows it. -/
def cut? (sep : Text) : Text → Option (Text × Text)
  | [] => (after? sep []).map fun rest => ([], rest)
  | c :: t =>
    match after? sep (c :: t) with
    | some rest => some ([], rest)
    | none => (cut? sep t).map fun (before, rest) => (c :: before, rest)

/-- Whether a separator occurs anywhere in the text. -/
def occursIn (sep t : Text) : Bool :=
  (cut? sep t).isSome

/-- The items with a separator between neighbours. -/
def join (sep : Text) (items : List Text) : Text :=
  sep.intercalate items

theorem after?_eq_some {start t rest : Text} : after? start t = some rest ↔ t = start ++ rest := by
  induction start generalizing t with
  | nil => simp [after?]
  | cons a start ih =>
    cases t with
    | nil => simp [after?]
    | cons c t =>
      by_cases h : a = c
      · simp [after?, h, ih]
      · simp [after?, h, Ne.symm h]

theorem cut?_eq_some {sep t before rest : Text} (h : cut? sep t = some (before, rest)) :
    t = before ++ sep ++ rest := by
  induction t generalizing before with
  | nil =>
    obtain ⟨r, hr, he⟩ := Option.map_eq_some_iff.1 h
    obtain ⟨rfl, rfl⟩ := Prod.mk.inj he
    simpa using after?_eq_some.1 hr
  | cons c t ih =>
    rw [cut?] at h
    split at h
    · next r hr =>
      obtain ⟨rfl, rfl⟩ := Prod.mk.inj (Option.some.inj h)
      simpa using after?_eq_some.1 hr
    · obtain ⟨⟨b, r⟩, hb, he⟩ := Option.map_eq_some_iff.1 h
      obtain ⟨rfl, rfl⟩ := Prod.mk.inj he
      simp [ih hb]

theorem cut?_eq_none_iff {sep t : Text} :
    cut? sep t = none ↔ ∀ before rest, t ≠ before ++ sep ++ rest := by
  refine ⟨fun h before rest => ?_, fun h => ?_⟩
  · induction t generalizing before with
    | nil =>
      rintro he
      obtain ⟨-, rfl, -⟩ : before = [] ∧ sep = [] ∧ rest = [] := by simpa using he.symm
      simp [cut?, after?] at h
    | cons c t ih =>
      rw [cut?] at h
      split at h
      · simp at h
      · next hn =>
        cases before with
        | nil =>
          intro he
          have : after? sep (c :: t) = some rest := after?_eq_some.2 (by simpa using he)
          simp_all
        | cons b before =>
          intro he
          simp only [List.cons_append, List.cons.injEq] at he
          exact ih (by simpa using h) before he.2
  · cases hc : cut? sep t with
    | none => rfl
    | some p => exact absurd (cut?_eq_some hc) (h p.1 p.2)

end Text

end NameTag
