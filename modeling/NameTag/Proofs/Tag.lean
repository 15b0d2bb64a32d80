import NameTag.Tag
import Mathlib.Data.List.Nodup
import Mathlib.Logic.Function.Basic

/-!
# Tags by their fields

`Tag.ofTexts v` is the tag that holds the text `v f` in each field and nothing else; storing a text
in one of its fields changes `v` there. For any tag, `update_eq_of_extends` says that setting the
entries of a changed copy in the tag gives the copy.
-/

namespace NameTag

theorem Field.ofName?_eq_some {t : Text} {f : Field} : Field.ofName? t = some f ↔ t = f.name := by
  constructor
  · intro h
    have hn := List.find?_some h
    exact (beq_iff_eq.1 hn).symm
  · rintro rfl
    exact Field.ofName?_name f

theorem Field.ignored_ne_name (f : Field) : Field.ignored ≠ f.name := by
  cases f <;> decide

namespace Tag

/-! ## Texts in the fields -/

/-- The tag with these texts in its fields. -/
def ofTexts (v : Field → Text) : Tag :=
  ⟨Field.all.map fun f => (f.name, .text (v f))⟩

/-- The text in a field; empty if the field holds no text. -/
def text (t : Tag) (f : Field) : Text :=
  match t.value f with
  | .text s => s
  | _ => []

/-- Every value of the tag is a text. -/
def Textual (t : Tag) : Prop :=
  ∀ key v, t.get? key = some v → ∃ s, v = .text s

theorem empty_eq_ofTexts : empty = ofTexts fun _ => [] := rfl

@[simp] theorem get?_ofTexts (v : Field → Text) (f : Field) :
    (ofTexts v).get? f.name = some (.text (v f)) := by
  cases f <;> rfl

@[simp] theorem value_ofTexts (v : Field → Text) (f : Field) :
    (ofTexts v).value f = .text (v f) := by
  rw [value, get?_ofTexts, Option.getD_some]

@[simp] theorem text_ofTexts (v : Field → Text) (f : Field) : (ofTexts v).text f = v f := by
  rw [text, value_ofTexts]

@[simp] theorem setText_ofTexts (v : Field → Text) (f : Field) (s : Text) :
    (ofTexts v).setText f s = ofTexts (Function.update v f s) := by
  cases f <;> rfl

theorem mem_entries_of_get? {t : Tag} {key : Text} {v : Value} (h : t.get? key = some v) :
    (key, v) ∈ t.entries := by
  rw [get?, List.lookup_eq_some_iff] at h
  obtain ⟨l₁, l₂, he, -⟩ := h
  rw [he]
  simp

theorem textual_of_entries {t : Tag} (h : ∀ e ∈ t.entries, ∃ s, e.2 = .text s) : t.Textual :=
  fun _ _ hv => h _ (mem_entries_of_get? hv)

theorem textual_ofTexts (v : Field → Text) : (ofTexts v).Textual := by
  refine textual_of_entries fun e he => ?_
  obtain ⟨f, -, rfl⟩ := List.mem_map.1 he
  exact ⟨v f, rfl⟩

theorem textual_empty : empty.Textual :=
  textual_ofTexts _

theorem get?_setText (t : Tag) (f : Field) (s key : Text) :
    (t.setText f s).get? key = if key = f.name then some (.text s) else t.get? key :=
  get?_set t f.name key (.text s)

theorem value_setText (t : Tag) (f g : Field) (s : Text) :
    (t.setText f s).value g = if g = f then .text s else t.value g := by
  rw [value, get?_setText]
  by_cases h : g = f
  · rw [if_pos h, if_pos (by rw [h]), Option.getD_some]
  · rw [if_neg h, if_neg fun he => h (Field.name_injective he), value]

theorem value_congr {t u : Tag} {f : Field} (h : t.get? f.name = u.get? f.name) :
    t.value f = u.value f := by
  rw [value, value, h]

theorem text_congr {t u : Tag} {f : Field} (h : t.get? f.name = u.get? f.name) :
    t.text f = u.text f := by
  rw [text, text, value_congr h]

theorem text_setText (t : Tag) (f g : Field) (s : Text) :
    (t.setText f s).text g = if g = f then s else t.text g := by
  rw [text, value_setText]
  by_cases h : g = f
  · rw [if_pos h, if_pos h]
  · rw [if_neg h, if_neg h, text]

theorem Textual.setText {t : Tag} (ht : t.Textual) (f : Field) (s : Text) :
    (t.setText f s).Textual := by
  intro key v h
  rw [get?_setText] at h
  split at h
  · exact ⟨s, (Option.some.inj h).symm⟩
  · exact ht key v h

/-- A field of a textual tag holds a text or is not there. -/
theorem Textual.value_cases {t : Tag} (ht : t.Textual) (f : Field) :
    t.value f = .text (t.text f) ∨ t.value f = .null ∧ t.text f = [] := by
  rw [text, value]
  cases h : t.get? f.name with
  | none => exact .inr ⟨rfl, rfl⟩
  | some v =>
    obtain ⟨s, rfl⟩ := ht _ _ h
    exact .inl rfl

theorem Textual.isTrue_value {t : Tag} (ht : t.Textual) (f : Field) :
    (t.value f).isTrue = true ↔ t.text f ≠ [] := by
  rcases ht.value_cases f with h | ⟨h, he⟩
  · rw [h, Value.isTrue, Bool.not_eq_true', List.isEmpty_eq_false_iff]
  · rw [h, he]
    decide

/-! ## Changed copies -/

/-- The names in the tag, in order. -/
def keys (t : Tag) : List Text :=
  t.entries.map (·.1)

/-- The names of `t` come first in `copy`, and no name is there twice. -/
structure Extends (copy t : Tag) : Prop where
  keys_isPrefix : t.keys <+: copy.keys
  nodup : copy.keys.Nodup

theorem Extends.refl {t : Tag} (h : t.keys.Nodup) : t.Extends t :=
  ⟨List.prefix_rfl, h⟩

theorem setEntry_of_mem {key : Text} {v : Value} {l : List (Text × Value)}
    (h : key ∈ l.map (·.1)) : (setEntry key v l).map (·.1) = l.map (·.1) := by
  induction l with
  | nil => simp at h
  | cons e l ih =>
    rw [setEntry]
    split
    · rfl
    · next hne =>
      rw [List.map_cons, List.map_cons, ih]
      exact (List.mem_cons.1 h).resolve_left (Ne.symm hne)

theorem setEntry_self {key : Text} {v : Value} {l : List (Text × Value)}
    (h : l.lookup key = some v) : setEntry key v l = l := by
  induction l with
  | nil => cases h
  | cons e l ih =>
    by_cases hk : e.1 = key
    · rw [List.lookup_cons, beq_iff_eq.2 hk.symm] at h
      rw [setEntry, if_pos hk, ← Option.some.inj h]
    · rw [List.lookup_cons, beq_eq_false_iff_ne.2 (Ne.symm hk)] at h
      rw [setEntry, if_neg hk, ih h]

/-- Setting a field to the text that it holds changes nothing. -/
theorem setText_self {t : Tag} {f : Field} {s : Text} (h : t.get? f.name = some (.text s)) :
    t.setText f s = t :=
  congrArg Tag.mk (setEntry_self h)

theorem setEntry_of_not_mem {key : Text} {v : Value} {l : List (Text × Value)}
    (h : key ∉ l.map (·.1)) : setEntry key v l = l ++ [(key, v)] := by
  induction l with
  | nil => rfl
  | cons e l ih =>
    rw [List.map_cons, List.mem_cons, not_or] at h
    rw [setEntry, if_neg (Ne.symm h.1), ih h.2, List.cons_append]

theorem setEntry_append {key : Text} {v : Value} {l₁ : List (Text × Value)}
    (l₂ : List (Text × Value)) (h : key ∉ l₁.map (·.1)) :
    setEntry key v (l₁ ++ l₂) = l₁ ++ setEntry key v l₂ := by
  induction l₁ with
  | nil => rfl
  | cons e l₁ ih =>
    rw [List.map_cons, List.mem_cons, not_or] at h
    rw [List.cons_append, setEntry, if_neg (Ne.symm h.1), ih h.2, List.cons_append]

theorem keys_set (t : Tag) (key : Text) (v : Value) :
    (t.set key v).keys = if key ∈ t.keys then t.keys else t.keys ++ [key] := by
  split
  · next hk => exact setEntry_of_mem hk
  · next hk =>
    rw [keys, Tag.set, setEntry_of_not_mem hk, List.map_append]
    rfl

theorem mem_keys_setText {t : Tag} {f : Field} {s key : Text} :
    key ∈ (t.setText f s).keys ↔ key ∈ t.keys ∨ key = f.name := by
  rw [Tag.setText, keys_set]
  split
  · next hf => exact ⟨.inl, fun h => h.elim id fun he => he ▸ hf⟩
  · rw [List.mem_append, List.mem_singleton]

theorem mem_keys_of_get? {t : Tag} {key : Text} {v : Value} (h : t.get? key = some v) :
    key ∈ t.keys :=
  List.mem_map_of_mem (mem_entries_of_get? h)

theorem get?_of_not_mem {t : Tag} {key : Text} (h : key ∉ t.keys) : t.get? key = none := by
  rw [Option.eq_none_iff_forall_ne_some]
  exact fun v hv => h (mem_keys_of_get? hv)

/-- A field that holds something is there. -/
theorem get?_of_value {t : Tag} {f : Field} {v : Value} (h : t.value f = v) (hv : v ≠ .null) :
    t.get? f.name = some v := by
  rw [value] at h
  cases hget : t.get? f.name with
  | none =>
    rw [hget] at h
    exact absurd h.symm hv
  | some u =>
    rw [hget] at h
    rw [← h, Option.getD_some]

theorem Textual.get?_of_text_ne {t : Tag} (ht : t.Textual) {f : Field} (h : t.text f ≠ []) :
    t.get? f.name = some (.text (t.text f)) := by
  rcases ht.value_cases f with hv | ⟨-, he⟩
  · exact get?_of_value hv (by simp)
  · exact absurd he h

theorem Extends.set {copy t : Tag} (h : copy.Extends t) (key : Text) (v : Value) :
    (copy.set key v).Extends t := by
  have he := keys_set copy key v
  split at he
  · exact ⟨he ▸ h.keys_isPrefix, he ▸ h.nodup⟩
  · next hk =>
    refine ⟨he ▸ h.keys_isPrefix.trans (List.prefix_append _ _), ?_⟩
    rw [he, List.nodup_append]
    exact ⟨h.nodup, List.nodup_singleton _, fun a ha b hb =>
      fun hab => hk (by rwa [← List.mem_singleton.1 hb, ← hab])⟩

theorem Extends.setText {copy t : Tag} (h : copy.Extends t) (f : Field) (s : Text) :
    (copy.setText f s).Extends t :=
  h.set f.name (.text s)

/-- The entries `done` are set already, and `left` is what the tag had beyond them. -/
theorem update_append {changes left : List (Text × Value)} (done : List (Text × Value))
    (hp : left.map (·.1) <+: changes.map (·.1)) (hn : ((done ++ changes).map (·.1)).Nodup) :
    (Tag.mk (done ++ left)).update changes = ⟨done ++ changes⟩ := by
  induction changes generalizing left done with
  | nil =>
    rw [List.map_nil, List.prefix_nil, List.map_eq_nil_iff] at hp
    rw [hp]
    rfl
  | cons e changes ih =>
    have hne : e.1 ∉ done.map (·.1) := by
      rw [List.map_append, List.nodup_append] at hn
      exact fun h => hn.2.2 _ h e.1 (by simp) rfl
    obtain ⟨left', hl, hp'⟩ : ∃ left', setEntry e.1 e.2 left = e :: left' ∧
        left'.map (·.1) <+: changes.map (·.1) := by
      cases left with
      | nil => exact ⟨[], rfl, List.nil_prefix⟩
      | cons d left =>
        rw [List.map_cons, List.map_cons, List.cons_prefix_cons] at hp
        exact ⟨left, by rw [setEntry, if_pos hp.1, hp.1], hp.2⟩
    have hset : (Tag.mk (done ++ left)).set e.1 e.2 = ⟨(done ++ [e]) ++ left'⟩ := by
      rw [Tag.set, setEntry_append _ hne, hl, List.append_assoc]
      rfl
    rw [update, List.foldl_cons, hset, ← update, ih _ hp' (by simpa using hn), List.append_assoc]
    rfl

/-- Setting the entries of a changed copy in the tag gives the copy. -/
theorem update_eq_of_extends {copy t : Tag} (h : copy.Extends t) : t.update copy.entries = copy :=
  update_append [] h.keys_isPrefix h.nodup

theorem keys_ofTexts (v : Field → Text) : (ofTexts v).keys = Field.all.map Field.name := rfl

theorem nodup_keys_ofTexts (v : Field → Text) : (ofTexts v).keys.Nodup := by
  rw [keys_ofTexts]
  decide

theorem nodup_keys_empty : empty.keys.Nodup :=
  nodup_keys_ofTexts _

end Tag

end NameTag
