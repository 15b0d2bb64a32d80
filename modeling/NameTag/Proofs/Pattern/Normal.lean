import NameTag.Proofs.Pattern.Shape
import NameTag.Proofs.Text.Strip

/-!
# Normalized patterns

The parts of a pattern, written one after the other, are the pattern (`written_parts`), so the
tokens of a pattern write its normal form (`unparse_tokens`).
-/

namespace NameTag.Pattern

/-! ## Parts -/

/-- The text of a part. -/
def written : Char ⊕ Text → Text
  | .inl c => [c]
  | .inr name => Problem.placeholder name

/-- A placeholder at the beginning of a text. -/
theorem nameAt?_eq_some {t name : Text} (h : nameAt? t = some name) :
    ∃ rest, t = Problem.placeholder name ++ rest := by
  unfold nameAt? at h
  split at h
  · next rest =>
    split at h
    · next after hd =>
      simp only at h
      split at h
      · cases h
      · obtain rfl := Option.some.inj h
        refine ⟨after, ?_⟩
        have hsplit := List.takeWhile_append_dropWhile (p := isWordChar) (l := rest)
        rw [hd] at hsplit
        simpa [Problem.placeholder] using hsplit.symm
    · cases h
  · cases h

theorem parts_drop (n : Nat) (t : Text) : parts n t = parts 0 (t.drop n) := by
  induction t generalizing n with
  | nil => simp [parts]
  | cons c t ih =>
    cases n with
    | zero => rfl
    | succ n => rw [parts, ih, List.drop_succ_cons]

theorem parts_of_none {c : Char} {rest : Text} (h : nameAt? (c :: rest) = none) :
    parts 0 (c :: rest) = .inl c :: parts 0 rest := by
  rw [parts, h]

theorem parts_of_some {name rest : Text}
    (h : nameAt? (Problem.placeholder name ++ rest) = some name) :
    parts 0 (Problem.placeholder name ++ rest) = .inr name :: parts 0 rest := by
  have hcons : Problem.placeholder name ++ rest = '(' :: ('(' :: name ++ "))".toList ++ rest) := rfl
  have hdrop : ('(' :: name ++ "))".toList ++ rest).drop (name.length + 3) = rest := by
    rw [List.drop_append, List.drop_eq_nil_of_le (by simp)]
    simp
  rw [hcons] at h ⊢
  rw [parts, h]
  simp only [parts_drop (name.length + 3), hdrop]

/-- Texts part by part: characters that begin no placeholder, and placeholders. -/
theorem parts_induction {motive : Text → Prop} (nil : motive [])
    (char : ∀ c rest, nameAt? (c :: rest) = none → motive rest → motive (c :: rest))
    (placeholder : ∀ name rest, nameAt? (Problem.placeholder name ++ rest) = some name →
      motive rest → motive (Problem.placeholder name ++ rest)) :
    ∀ t, motive t := by
  intro t
  induction hn : t.length using Nat.strong_induction_on generalizing t with
  | _ n ih =>
    cases t with
    | nil => exact nil
    | cons c rest =>
      rw [List.length_cons] at hn
      cases hname : nameAt? (c :: rest) with
      | none => exact char c rest hname (ih rest.length (by omega) rest rfl)
      | some name =>
        obtain ⟨after, ha⟩ := nameAt?_eq_some hname
        have hlen := congrArg List.length ha
        simp only [List.length_cons, List.length_append, Problem.placeholder] at hlen
        rw [ha] at hname ⊢
        exact placeholder name after hname (ih after.length (by simp at hlen; omega) after rfl)

/-- The parts of a text make up the text. -/
theorem written_parts (t : Text) : (parts 0 t).flatMap written = t := by
  induction t using parts_induction with
  | nil => rfl
  | char c rest h ih =>
    rw [parts_of_none h, List.flatMap_cons, ih]
    rfl
  | placeholder name rest h ih =>
    rw [parts_of_some h, List.flatMap_cons, ih]
    rfl

/-! ## Substitution -/

theorem substitute_cons (replacement : Text → Text) {c : Char} {rest : Text}
    (h : nameAt? (c :: rest) = none) :
    substitute replacement (c :: rest) = c :: substitute replacement rest := by
  rw [substitute, parts_of_none h, List.flatMap_cons]
  rfl

theorem substitute_placeholder (replacement : Text → Text) {name rest : Text}
    (h : nameAt? (Problem.placeholder name ++ rest) = some name) :
    substitute replacement (Problem.placeholder name ++ rest) =
      replacement name ++ substitute replacement rest := by
  rw [substitute, parts_of_some h, List.flatMap_cons]
  rfl

theorem normalize_cons {c : Char} {rest : Text} (h : nameAt? (c :: rest) = none) :
    normalize (c :: rest) = c :: normalize rest :=
  substitute_cons _ h

theorem normalize_placeholder {name rest : Text}
    (h : nameAt? (Problem.placeholder name ++ rest) = some name) :
    normalize (Problem.placeholder name ++ rest) =
      Problem.placeholder (Text.upper name) ++ normalize rest :=
  substitute_placeholder _ h

/-- A text whose names are in upper case is normal. -/
theorem normalize_eq_self {t : Text} (h : ∀ name, .inr name ∈ parts 0 t → Text.upper name = name) :
    normalize t = t := by
  conv_rhs => rw [← written_parts t]
  rw [normalize, substitute]
  refine List.flatMap_congr fun part hpart => ?_
  cases part with
  | inl c => rfl
  | inr name =>
    show Problem.placeholder (Text.upper name) = Problem.placeholder name
    rw [h name hpart]

/-! ## Tokens -/

/-- The text of a token with a text in place of a placeholder. -/
def replaced (replacement : Text → Text) : Token → Text
  | .literal l => l
  | .placeholder name => replacement name

/-- Joining characters into literals keeps the text, whatever comes in for the placeholders. -/
theorem flatMap_group (replacement : Text → Text) (ps : List (Char ⊕ Text)) :
    (group ps).flatMap (replaced replacement) =
      ps.flatMap fun
        | .inl c => [c]
        | .inr name => replacement name := by
  induction ps with
  | nil => rfl
  | cons part ps ih =>
    cases part with
    | inr name => rw [group, List.flatMap_cons, List.flatMap_cons, ih]; rfl
    | inl c =>
      rw [group, List.flatMap_cons, ← ih]
      split
      · next text ts hts =>
        rw [hts]
        rfl
      · rfl

/-- To substitute in a normal form is to replace the placeholders among the tokens. -/
theorem substitute_normalize (replacement : Text → Text) (p : Text) :
    substitute replacement (normalize p) = (tokens p).flatMap (replaced replacement) :=
  (flatMap_group replacement (parts 0 (normalize p))).symm

theorem unparse_group (ps : List (Char ⊕ Text)) : unparse (group ps) = ps.flatMap written := by
  have hwritten : Token.written = replaced Problem.placeholder := by
    funext token
    cases token <;> rfl
  rw [unparse, hwritten, flatMap_group]
  refine List.flatMap_congr fun part _ => ?_
  cases part <;> rfl

theorem unparse_tokens (p : Text) : unparse (tokens p) = normalize p := by
  rw [tokens, unparse_group, written_parts]

theorem mem_placeholders_group {ps : List (Char ⊕ Text)} {name : Text} :
    name ∈ placeholders (group ps) ↔ .inr name ∈ ps := by
  induction ps with
  | nil => simp [group, placeholders]
  | cons part ps ih =>
    cases part with
    | inr other => simp [group, placeholders, ih]
    | inl c =>
      rw [group, List.mem_cons, ← ih]
      split
      · next text ts hts => simp [hts, placeholders]
      · simp [placeholders]

theorem hasPlaceholder_iff {t : Text} :
    hasPlaceholder t = true ↔ placeholders (group (parts 0 t)) ≠ [] := by
  rw [hasPlaceholder, List.any_eq_true]
  constructor
  · rintro ⟨part, hp, hr⟩
    cases part with
    | inl c => cases hr
    | inr name => exact List.ne_nil_of_mem (mem_placeholders_group.2 hp)
  · intro hne
    obtain ⟨name, hn⟩ := List.exists_mem_of_ne_nil _ hne
    exact ⟨.inr name, mem_placeholders_group.1 hn, rfl⟩

variable {p : Text}

theorem mem_placeholders {ts : List Token} {name : Text} :
    name ∈ placeholders ts ↔ .placeholder name ∈ ts := by
  induction ts with
  | nil => simp [placeholders]
  | cons t ts ih => cases t <;> simp [placeholders, ih]

theorem mem_fields {f : Field} : f ∈ fields p ↔ f.name ∈ placeholders (tokens p) := by
  rw [fields, List.mem_eraseDups, List.mem_filterMap, mem_placeholders]
  constructor
  · rintro ⟨t, ht, hf⟩
    cases t with
    | literal l => cases hf
    | placeholder name =>
      obtain rfl := Field.ofName?_eq_some.1 hf
      exact ht
  · intro h
    exact ⟨_, h, Field.ofName?_name f⟩

/-! ## Blanks at the ends -/

theorem leftStripped_normalize (h : Text.LeftStripped p) : Text.LeftStripped (normalize p) := by
  induction p using parts_induction with
  | nil => exact h
  | char c rest hn _ =>
    rw [normalize_cons hn, Text.leftStripped_cons]
    exact Text.leftStripped_cons.1 h
  | placeholder name rest hn _ =>
    rw [normalize_placeholder hn]
    exact Text.leftStripped_cons.2 (by decide)

theorem rightStripped_placeholder (name : Text) :
    Text.RightStripped (Problem.placeholder name) := by
  refine Text.RightStripped.append ?_ (by decide)
  intro c hc
  cases hc
  decide

theorem normalize_ne_nil (h : p ≠ []) : normalize p ≠ [] := by
  induction p using parts_induction with
  | nil => exact absurd rfl h
  | char c rest hn _ =>
    rw [normalize_cons hn]
    exact List.cons_ne_nil _ _
  | placeholder name rest hn _ =>
    rw [normalize_placeholder hn]
    exact List.cons_ne_nil _ _

theorem rightStripped_normalize (h : Text.RightStripped p) : Text.RightStripped (normalize p) := by
  induction p using parts_induction with
  | nil => exact h
  | char c rest hn ih =>
    rw [normalize_cons hn]
    by_cases hr : rest = []
    · rw [hr] at h ⊢
      exact h
    · rw [← List.singleton_append, Text.rightStripped_append hr] at h
      exact (ih h).append (s := [c]) (normalize_ne_nil hr)
  | placeholder name rest hn ih =>
    rw [normalize_placeholder hn]
    by_cases hr : rest = []
    · rw [hr]
      exact (List.append_nil (Problem.placeholder (Text.upper name))).symm ▸
        rightStripped_placeholder _
    · rw [Text.rightStripped_append hr] at h
      exact (ih h).append (normalize_ne_nil hr)

end NameTag.Pattern
