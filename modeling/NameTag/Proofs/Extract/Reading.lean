import NameTag.Extract
import NameTag.Proofs.Pattern.Shape
import NameTag.Proofs.Store
import NameTag.Proofs.Text.Occurrence

/-!
# Reading and storing come apart

Reading along a pattern stores each captured text as soon as it is known. `Pattern.read?` only
reads, `Edit.storeEach` only stores; `readAlong_eq_ok_iff` says that a run succeeds exactly if the
reading does and then the storing of what was read.
-/

namespace NameTag

/-- A text captured for the placeholder with a name. -/
structure Capture where
  name : Text
  text : Text
  deriving DecidableEq, Repr

namespace Pattern

/-- What is captured along the tokens; nothing if the text or the tokens will not do. -/
def read? : List Token → (rest : Text) → (pending : Option Text) → (used : List Text) →
    Option (List Capture)
  | [], rest, pending, used =>
    match pending with
    | none => some []
    | some name =>
      if rest = [] ∨ ∃ separator ∈ used, Text.occursIn separator rest then none
      else some [⟨name, rest⟩]
  | .placeholder name :: tokens, rest, pending, used =>
    if pending.isSome ∨ ¬ IsKnown name then none else read? tokens rest (some name) used
  | .literal separator :: tokens, rest, pending, used =>
    match Text.cut? separator rest with
    | none => none
    | some (captured, rest) =>
      (read? tokens rest none (used ++ [separator])).map
        (pending.toList.map (fun name => ⟨name, captured⟩) ++ ·)

end Pattern

/-- The texts to store: those of fields, converted. -/
def Conversion.stores (c : Conversion) (captures : List Capture) : List Capture :=
  (captures.filter (·.name ≠ Field.ignored)).map fun k => ⟨k.name, c.convert k.text⟩

theorem Conversion.map_name_stores {c : Conversion} {ks : List Capture} :
    (c.stores ks).map (·.name) = (ks.map (·.name)).filter (· ≠ Field.ignored) := by
  rw [stores, List.map_map, List.filter_map]
  rfl

theorem Conversion.mem_stores {c : Conversion} {ks : List Capture} {f : Field} {v : Text}
    (h : ⟨f.name, v⟩ ∈ ks) : ⟨f.name, c.convert v⟩ ∈ c.stores ks := by
  refine List.mem_map.2 ⟨⟨f.name, v⟩, List.mem_filter.2 ⟨h, ?_⟩, rfl⟩
  rw [decide_eq_true_eq]
  exact (Field.ignored_ne_name f).symm

theorem Conversion.exists_of_mem_stores {c : Conversion} {ks : List Capture} {name v : Text}
    (h : ⟨name, v⟩ ∈ c.stores ks) : ∃ w, ⟨name, w⟩ ∈ ks ∧ v = c.convert w := by
  obtain ⟨⟨_, w⟩, hk, he⟩ := List.mem_map.1 h
  obtain ⟨rfl, rfl⟩ := Capture.mk.inj he
  exact ⟨w, List.mem_of_mem_filter hk, rfl⟩

namespace Edit

/-- Stores texts under names, one after the other. -/
def storeEach (marker : Value) : List Capture → Edit Unit
  | [] => pure ()
  | k :: rest => do
    let _ ← store marker (.text k.name) (.text k.text)
    storeEach marker rest

variable {c : Conversion} {d d' : Draft} {n : Nat}

theorem assign_ignored (captured : Text) : assign c Field.ignored captured = pure 0 := by
  simp [assign]

theorem assign_of_ne {name : Text} (captured : Text) (h : name ≠ Field.ignored) :
    assign c name captured = (do
      let _ ← store c.marker (.text name) (.text (c.convert captured))
      pure 1) := by
  simp [assign, h]

/-- Assigning a captured text and then storing others is storing them all. -/
theorem assign_storeEach (name captured : Text) (later : List Capture) :
    (∃ m d₁ k, assign c name captured d = .ok m d₁ ∧
      (storeEach c.marker (c.stores later) d₁ = .ok () d' ∧ k = (c.stores later).length) ∧
      n = m + k) ↔
    storeEach c.marker (c.stores (⟨name, captured⟩ :: later)) d = .ok () d' ∧
      n = (c.stores (⟨name, captured⟩ :: later)).length := by
  by_cases h : name = Field.ignored
  · have hs : c.stores (⟨name, captured⟩ :: later) = c.stores later := by
      simp [Conversion.stores, h]
    rw [hs, h, assign_ignored]
    constructor
    · rintro ⟨m, d₁, k, hm, ⟨hst, rfl⟩, rfl⟩
      cases hm
      exact ⟨hst, by omega⟩
    · rintro ⟨hst, rfl⟩
      exact ⟨0, d, _, rfl, ⟨hst, rfl⟩, by omega⟩
  · have hs : c.stores (⟨name, captured⟩ :: later) =
        ⟨name, c.convert captured⟩ :: c.stores later := by
      simp [Conversion.stores, h]
    rw [hs, assign_of_ne captured h, storeEach, bind_eq_ok_iff, List.length_cons]
    constructor
    · rintro ⟨m, d₁, k, hm, ⟨hst, rfl⟩, rfl⟩
      obtain ⟨s, d₂, hs, hp⟩ := bind_eq_ok_iff.1 hm
      cases hp
      exact ⟨⟨s, d₁, hs, hst⟩, by omega⟩
    · rintro ⟨⟨s, d₁, hs, hst⟩, rfl⟩
      exact ⟨1, d₁, _, bind_eq_ok_iff.2 ⟨s, d₁, hs, rfl⟩, ⟨hst, rfl⟩, by omega⟩

theorem assignRest_eq (name rest : Text) (used : List Text) :
    assignRest c name rest used =
      if rest = [] then throw (.problem (.nothingLeft name))
      else match used.find? (Text.occursIn · rest) with
        | some separator => throw (.problem (.separatorReused name rest separator))
        | none => assign c name rest := by
  funext d
  rw [assignRest]
  by_cases hr : rest = []
  · simp [hr]
  · cases used.find? (Text.occursIn · rest) <;> simp [hr]

theorem assignRest_eq_ok_iff {name rest : Text} {used : List Text} :
    assignRest c name rest used d = .ok n d' ↔
      ¬ (rest = [] ∨ ∃ separator ∈ used, Text.occursIn separator rest) ∧
        assign c name rest d = .ok n d' := by
  rw [assignRest_eq]
  by_cases hr : rest = []
  · simp [hr]
  · cases hf : used.find? (Text.occursIn · rest) with
    | some s =>
      have hs := List.find?_some hf
      have hm := List.mem_of_find?_eq_some hf
      have hex : ∃ separator ∈ used, Text.occursIn separator rest := ⟨s, hm, hs⟩
      simp [hr, hex]
    | none =>
      have hno : ¬ ∃ separator ∈ used, Text.occursIn separator rest = true := by
        rintro ⟨s, hm, hs⟩
        exact List.find?_eq_none.1 hf s hm hs
      simp [hr, hno]

/-! ## One token -/

variable {tokens : List Token} {name separator rest captured after : Text} {pending : Option Text}
  {used : List Text}

theorem readAlong_placeholder :
    readAlong c (.placeholder name :: tokens) rest pending used =
      if pending.isSome then throw (.problem (.adjacentPlaceholders name))
      else if Pattern.IsKnown name then readAlong c tokens rest (some name) used
      else throw (.problem (.unknownPlaceholder name)) := by
  funext d
  rw [readAlong]
  cases pending with
  | some p => rfl
  | none =>
    by_cases hk : Pattern.IsKnown name
    · simp only [Pattern.isKnown_iff.1 hk, hk, if_true, if_false]
      rfl
    · obtain ⟨hn, hi⟩ := not_not.1 (Pattern.isKnown_iff.not.1 hk)
      simp only [hn, hi, hk, ne_eq, not_false_eq_true, and_self, if_true, if_false]
      rfl

theorem readAlong_literal_of_none (h : Text.cut? separator rest = none) :
    readAlong c (.literal separator :: tokens) rest pending used =
      throw (.problem (.separatorNotFound separator)) := by
  rw [readAlong, h]

theorem readAlong_literal_of_some (h : Text.cut? separator rest = some (captured, after)) :
    readAlong c (.literal separator :: tokens) rest none used =
      readAlong c tokens after none (used ++ [separator]) := by
  funext d
  rw [readAlong, h]
  simp only [bind_run, pure_run, Nat.zero_add]
  cases readAlong c tokens after none (used ++ [separator]) d <;> rfl

theorem readAlong_literal_of_pending (h : Text.cut? separator rest = some (captured, after)) :
    readAlong c (.literal separator :: tokens) rest (some name) used = (do
      let count ← assign c name captured
      let more ← readAlong c tokens after none (used ++ [separator])
      pure (count + more)) := by
  rw [readAlong, h]

/-! ## Whole runs -/

/-- A run succeeds exactly if what it reads can be read and then stored. -/
theorem readAlong_eq_ok_iff :
    readAlong c tokens rest pending used d = .ok n d' ↔
      ∃ captures, Pattern.read? tokens rest pending used = some captures ∧
        storeEach c.marker (c.stores captures) d = .ok () d' ∧
        n = (c.stores captures).length := by
  induction tokens generalizing rest pending used d d' n with
  | nil =>
    cases pending with
    | none =>
      rw [readAlong, Pattern.read?]
      constructor
      · intro h
        cases h
        exact ⟨[], rfl, rfl, rfl⟩
      · rintro ⟨captures, hc, hst, rfl⟩
        cases hc
        cases hst
        rfl
    | some name =>
      rw [readAlong, Pattern.read?, assignRest_eq_ok_iff]
      have hst : assign c name rest d = .ok n d' ↔
          storeEach c.marker (c.stores [⟨name, rest⟩]) d = .ok () d' ∧
            n = (c.stores [⟨name, rest⟩]).length := by
        rw [← assign_storeEach name rest []]
        constructor
        · intro h
          exact ⟨n, d', 0, h, ⟨rfl, rfl⟩, rfl⟩
        · rintro ⟨m, d₁, k, h, ⟨hd, rfl⟩, rfl⟩
          cases hd
          exact h
      rw [hst]
      by_cases hr : rest = [] ∨ ∃ separator ∈ used, Text.occursIn separator rest = true
      · simp [hr]
      · simp [hr]
  | cons token tokens ih =>
    cases token with
    | placeholder name =>
      rw [readAlong_placeholder, Pattern.read?]
      by_cases hp : pending.isSome = true
      · simp [hp]
      · by_cases hk : Pattern.IsKnown name
        · simp only [hp, hk, Bool.false_eq_true, not_true_eq_false, or_self, if_false, if_true]
          exact ih
        · simp [hp, hk]
    | literal separator =>
      rw [Pattern.read?]
      cases hc : Text.cut? separator rest with
      | none => simp [readAlong_literal_of_none hc]
      | some p =>
        obtain ⟨captured, after⟩ := p
        cases pending with
        | none =>
          rw [readAlong_literal_of_some hc, ih]
          simp
        | some name =>
          rw [readAlong_literal_of_pending hc]
          simp only [bind_eq_ok_iff, ih, Option.map_eq_some_iff]
          constructor
          · rintro ⟨m, d₁, hm, k, d₂, ⟨later, hl, hst⟩, hp⟩
            cases hp
            exact ⟨_, ⟨later, hl, rfl⟩, (assign_storeEach _ _ _).1 ⟨m, d₁, k, hm, hst, rfl⟩⟩
          · rintro ⟨captures, ⟨later, hl, rfl⟩, hst⟩
            obtain ⟨m, d₁, k, hm, hk, rfl⟩ := (assign_storeEach _ _ _).2 hst
            exact ⟨m, d₁, hm, k, d', ⟨later, hl, hk⟩, rfl⟩

end Edit

end NameTag
