import NameTag.Proofs.Pattern.Normal
import NameTag.Proofs.Text.Upper
import Mathlib.Data.List.Chain

/-!
# Canonical tokens

The tokens of a pattern are canonical: literals that are neither empty nor side by side nor hold a
placeholder, and names that are words in upper case. Canonical tokens are the tokens of what they
write (`tokens_unparse`), so tokens and normal patterns are two forms of one thing.
-/

namespace NameTag.Pattern

/-! ## Words between brackets -/

/-- What may stand as a name between the brackets of a placeholder. -/
def IsWord (name : Text) : Prop :=
  name ≠ [] ∧ name.all isWordChar = true

variable {name other l s t : Text} {ts : List Token}

theorem not_isWordChar_of_bracket {b : Char} (h : b = '(' ∨ b = ')') : isWordChar b = false := by
  rcases h with rfl | rfl <;> rfl

theorem IsWord.bracket_notMem (h : IsWord name) {b : Char} (hb : b = '(' ∨ b = ')') : b ∉ name := by
  intro hmem
  have hword := List.all_eq_true.1 h.2 b hmem
  rw [not_isWordChar_of_bracket hb] at hword
  cases hword

theorem placeholder_append (name rest : Text) :
    Problem.placeholder name ++ rest = '(' :: '(' :: (name ++ "))".toList ++ rest) :=
  rfl

/-- The name in a placeholder ends at its closing brackets. -/
theorem placeholder_append_inj (hn : ')' ∉ name) (ho : ')' ∉ other)
    (h : Problem.placeholder name ++ s = Problem.placeholder other ++ t) : name = other := by
  have hcut : ∀ (n r : Text), ')' ∉ n →
      (((Problem.placeholder n ++ r).drop 2).takeWhile (· != ')')) = n := by
    intro n r hn
    have hshape : (Problem.placeholder n ++ r).drop 2 = n ++ ')' :: ')' :: r := by
      simp [Problem.placeholder]
    have hall : ∀ c ∈ n, (c != ')') = true := by
      intro c hc
      exact bne_iff_ne.2 fun he => hn (he ▸ hc)
    rw [hshape, List.takeWhile_append_of_pos hall]
    simp
  rw [← hcut name s hn, h, hcut other t ho]

theorem nameAt?_placeholder (h : IsWord name) (rest : Text) :
    nameAt? (Problem.placeholder name ++ rest) = some name := by
  have hshape : Problem.placeholder name ++ rest = '(' :: '(' :: (name ++ ')' :: ')' :: rest) := by
    simp [Problem.placeholder]
  have hstop : isWordChar ')' = false := not_isWordChar_of_bracket (.inr rfl)
  have hword := List.all_eq_true.1 h.2
  have htake : (name ++ ')' :: ')' :: rest).takeWhile isWordChar = name := by
    rw [List.takeWhile_append_of_pos hword, List.takeWhile_cons_of_neg (by simp [hstop]),
      List.append_nil]
  have hdrop : (name ++ ')' :: ')' :: rest).dropWhile isWordChar = ')' :: ')' :: rest := by
    rw [List.dropWhile_append_of_pos hword, List.dropWhile_cons_of_neg (by simp [hstop])]
  rw [hshape, nameAt?, hdrop, htake]
  simp [h.1]

theorem isWord_of_nameAt? (h : nameAt? t = some name) : IsWord name := by
  unfold nameAt? at h
  split at h
  · split at h
    · simp only at h
      split at h
      · cases h
      · next hne =>
        obtain rfl := Option.some.inj h
        exact ⟨fun he => hne (List.isEmpty_iff.2 he), List.all_takeWhile⟩
    · cases h
  · cases h

/-- A text begins with a placeholder if it begins with a word between brackets. -/
theorem nameAt?_eq_some_iff :
    nameAt? t = some name ↔ IsWord name ∧ Problem.placeholder name <+: t := by
  constructor
  · intro h
    obtain ⟨rest, rfl⟩ := nameAt?_eq_some h
    exact ⟨isWord_of_nameAt? h, List.prefix_append _ _⟩
  · rintro ⟨hword, rest, rfl⟩
    exact nameAt?_placeholder hword rest

theorem nameAt?_eq_none_iff :
    nameAt? t = none ↔ ∀ name, IsWord name → ¬ Problem.placeholder name <+: t := by
  rw [Option.eq_none_iff_forall_ne_some]
  simp only [ne_eq, nameAt?_eq_some_iff, not_and]

/-- A placeholder begins with two brackets. -/
theorem nameAt?_of_head? (h : t.head? ≠ some '(') : nameAt? t = none := by
  rw [nameAt?_eq_none_iff]
  rintro name - ⟨rest, rfl⟩
  exact h rfl

theorem nameAt?_cons_of_head? {c : Char} (h : t.head? ≠ some '(') : nameAt? (c :: t) = none := by
  rw [nameAt?_eq_none_iff]
  rintro name - ⟨rest, hrest⟩
  obtain ⟨-, rfl⟩ := List.cons.inj hrest
  exact h rfl

/-! ## Texts without placeholders -/

/-- No placeholder occurs in the text. -/
def Plain (t : Text) : Prop :=
  ∀ name, IsWord name → ¬ Problem.placeholder name <:+: t

/-- Where a placeholder can begin: at the end of a text, or where one begins. -/
def AtPlaceholder (t : Text) : Prop :=
  t = [] ∨ ∃ name, IsWord name ∧ Problem.placeholder name <+: t

theorem Plain.tail {c : Char} (h : Plain (c :: t)) : Plain t :=
  fun name hword hin => h name hword (hin.trans (List.suffix_cons c t).isInfix)

theorem isPrefix_of_notMem {s l r : Text} {b : Char} (hb : b ∉ s) (h : s <+: l ++ b :: r) :
    s <+: l := by
  have hl : l ++ [b] <+: l ++ b :: r := ⟨r, by simp⟩
  rcases List.prefix_or_prefix_of_prefix h hl with hs | hs
  · refine (List.prefix_concat_iff.1 hs).resolve_left fun he => hb ?_
    rw [he]
    simp
  · exact absurd (hs.subset (by simp)) hb

/-- A placeholder that begins in a plain text does not reach beyond it into the next placeholder: its
own closing brackets would stand behind a bracket that opens. -/
theorem nameAt?_append {c : Char} (h : Plain (c :: l)) (ht : AtPlaceholder t) :
    nameAt? (c :: l ++ t) = none := by
  rw [nameAt?_eq_none_iff]
  intro name hword hpre
  have hname : '(' ∉ name ++ "))".toList := by
    simpa using hword.bracket_notMem (.inl rfl)
  rcases ht with rfl | ⟨next, -, rest, rfl⟩
  · rw [List.append_nil] at hpre
    exact h name hword hpre.isInfix
  · rw [placeholder_append, List.cons_append] at hpre
    obtain ⟨rfl, hl⟩ := List.cons_prefix_cons.1 hpre
    cases l with
    | nil =>
      -- the second bracket opens the next placeholder, and the name would begin with its other one
      obtain ⟨-, hrest⟩ := List.cons_prefix_cons.1 hl
      have hnil := isPrefix_of_notMem (l := []) hname hrest
      simp at hnil
    | cons d l =>
      obtain ⟨rfl, hrest⟩ := List.cons_prefix_cons.1 hl
      obtain ⟨after, rfl⟩ := isPrefix_of_notMem hname hrest
      exact h name hword (List.prefix_append (Problem.placeholder name) after).isInfix

theorem parts_plain_append (h : Plain l) (ht : AtPlaceholder t) :
    parts 0 (l ++ t) = l.map .inl ++ parts 0 t := by
  induction l with
  | nil => rfl
  | cons c l ih =>
    have hnone := nameAt?_append h ht
    rw [List.cons_append] at hnone ⊢
    rw [parts_of_none hnone, ih h.tail]
    rfl

/-- Characters other than opening brackets begin no placeholder, whatever follows them. -/
theorem parts_append_of_notMem (h : '(' ∉ s) (t : Text) :
    parts 0 (s ++ t) = s.map .inl ++ parts 0 t := by
  induction s with
  | nil => rfl
  | cons c s ih =>
    rw [List.mem_cons, not_or] at h
    have hc : (c :: (s ++ t)).head? ≠ some '(' := by
      rw [List.head?_cons, ne_eq, Option.some.injEq]
      exact fun he => h.1 he.symm
    rw [List.cons_append, parts_of_none (nameAt?_of_head? hc), ih h.2]
    rfl

/-! ## Tokens -/

/-- No two literals stand side by side. -/
def Joined (ts : List Token) : Prop :=
  ts.IsChain fun a b => a.isPlaceholder = true ∨ b.isPlaceholder = true

theorem Joined.tail {t : Token} (h : Joined (t :: ts)) : Joined ts :=
  (List.isChain_cons.1 h).2

theorem Joined.head?_ne_literal (h : Joined (.literal l :: ts)) (m : Text) :
    ts.head? ≠ some (.literal m) := by
  intro hm
  rcases (List.isChain_cons.1 h).1 _ hm with hp | hp
  · cases hp
  · cases hp

/-- The form of the tokens of a pattern. -/
structure Canonical (ts : List Token) : Prop where
  literal_ne_nil : ∀ l ∈ literals ts, l ≠ []
  plain : ∀ l ∈ literals ts, Plain l
  joined : Joined ts
  word : ∀ name ∈ placeholders ts, IsWord name
  upper : ∀ name ∈ placeholders ts, Text.upper name = name

theorem Canonical.tail {t : Token} (h : Canonical (t :: ts)) : Canonical ts where
  literal_ne_nil l hl := h.literal_ne_nil l (by cases t <;> simp [literals, hl])
  plain l hl := h.plain l (by cases t <;> simp [literals, hl])
  joined := h.joined.tail
  word name hn := h.word name (by cases t <;> simp [placeholders, hn])
  upper name hn := h.upper name (by cases t <;> simp [placeholders, hn])

/-! ### From tokens to a text and back -/

/-- The parts of a token: the characters of a literal, or a placeholder. -/
def partsOf : Token → List (Char ⊕ Text)
  | .literal l => l.map .inl
  | .placeholder name => [.inr name]

theorem Canonical.atPlaceholder (h : Canonical (.literal l :: ts)) : AtPlaceholder (unparse ts) := by
  cases ts with
  | nil => exact .inl rfl
  | cons t ts =>
    cases t with
    | literal m => exact absurd rfl (h.joined.head?_ne_literal m)
    | placeholder name => exact .inr ⟨name, h.word name (by simp [placeholders]), unparse ts, rfl⟩

/-- Canonical tokens are seen in the text that they write. -/
theorem parts_unparse (h : Canonical ts) : parts 0 (unparse ts) = ts.flatMap partsOf := by
  induction ts with
  | nil => rfl
  | cons t ts ih =>
    rw [List.flatMap_cons, ← ih h.tail]
    cases t with
    | literal l => exact parts_plain_append (h.plain l (by simp [literals])) h.atPlaceholder
    | placeholder name =>
      have hword := h.word name (by simp [placeholders])
      exact parts_of_some (nameAt?_placeholder hword (unparse ts))

theorem group_map_append {ps : List (Char ⊕ Text)} (hl : l ≠ [])
    (h : ∀ m, (group ps).head? ≠ some (.literal m)) :
    group (l.map .inl ++ ps) = .literal l :: group ps := by
  induction l with
  | nil => exact absurd rfl hl
  | cons c l ih =>
    rw [List.map_cons, List.cons_append, group]
    cases l with
    | nil =>
      rw [List.map_nil, List.nil_append]
      split
      · next m ts hts =>
        refine absurd ?_ (h m)
        rw [hts]
        rfl
      · rfl
    | cons d l => rw [ih (List.cons_ne_nil d l)]

/-- The characters of a literal are joined again. -/
theorem group_flatMap_partsOf (hne : ∀ l ∈ literals ts, l ≠ []) (hj : Joined ts) :
    group (ts.flatMap partsOf) = ts := by
  induction ts with
  | nil => rfl
  | cons t ts ih =>
    rw [List.flatMap_cons]
    cases t with
    | literal l =>
      rw [literals, List.forall_mem_cons] at hne
      have hrest := ih hne.2 hj.tail
      rw [partsOf, group_map_append hne.1 (hrest.symm ▸ hj.head?_ne_literal), hrest]
    | placeholder name =>
      show .placeholder name :: group (ts.flatMap partsOf) = _
      rw [ih hne hj.tail]

theorem tokens_unparse (h : Canonical ts) : tokens (unparse ts) = ts := by
  have hnormal : normalize (unparse ts) = unparse ts := by
    refine normalize_eq_self fun name hname => h.upper name ?_
    rwa [← mem_placeholders_group, parts_unparse h,
      group_flatMap_partsOf h.literal_ne_nil h.joined] at hname
  rw [tokens, hnormal, parts_unparse h, group_flatMap_partsOf h.literal_ne_nil h.joined]

/-! ### From a text to tokens -/

/-- Neighbouring characters make one literal, so no two literals are left side by side. -/
theorem joined_group (ps : List (Char ⊕ Text)) : Joined (group ps) := by
  induction ps with
  | nil => exact .nil
  | cons part ps ih =>
    cases part with
    | inr name => exact List.isChain_cons.2 ⟨fun _ _ => .inl rfl, ih⟩
    | inl c =>
      rw [group]
      split
      · next text ts hts =>
        -- the literal behind the character has only placeholders behind it
        rw [hts] at ih
        obtain ⟨hnext, hrest⟩ := List.isChain_cons.1 ih
        exact List.isChain_cons.2 ⟨hnext, hrest⟩
      · next hno =>
        refine List.isChain_cons.2 ⟨fun t ht => ?_, ih⟩
        cases t with
        | literal text =>
          obtain ⟨ts, hts⟩ := List.head?_eq_some_iff.1 ht
          exact absurd hts (hno text ts)
        | placeholder name => exact .inr rfl

theorem joined_tokens (p : Text) : Joined (tokens p) :=
  joined_group _

theorem ne_nil_of_mem_literals_group {ps : List (Char ⊕ Text)} (h : l ∈ literals (group ps)) :
    l ≠ [] := by
  induction ps with
  | nil => cases h
  | cons part ps ih =>
    cases part with
    | inr name => exact ih h
    | inl c =>
      rw [group] at h
      split at h
      · next text ts hts =>
        rw [hts] at ih
        rcases List.mem_cons.1 h with rfl | h
        · exact List.cons_ne_nil c text
        · exact ih (List.mem_cons_of_mem _ h)
      · rcases List.mem_cons.1 h with rfl | h
        · exact List.cons_ne_nil c []
        · exact ih h

/-- A placeholder in a literal would begin at one of its characters, and be read there. -/
theorem plain_of_mem_literals_group (h : l ∈ literals (group (parts 0 t))) : Plain l := by
  induction t using parts_induction generalizing l with
  | nil => cases h
  | placeholder name rest hn ih =>
    rw [parts_of_some hn] at h
    exact ih h
  | char c rest hn ih =>
    have hfirst : ∀ m : Text, m <+: rest → Plain m → Plain (c :: m) := by
      intro m hm hplain name hword hin
      rcases List.infix_cons_iff.1 hin with hpre | hin
      · exact nameAt?_eq_none_iff.1 hn name hword
          (hpre.trans (List.cons_prefix_cons.2 ⟨rfl, hm⟩))
      · exact hplain name hword hin
    have hempty : Plain [] := by
      intro name _ hin
      exact absurd (List.infix_nil.1 hin) (List.cons_ne_nil _ _)
    rw [parts_of_none hn, group] at h
    split at h
    · next text ts hts =>
      rw [hts] at ih
      rcases List.mem_cons.1 h with rfl | h
      · refine hfirst text ?_ (ih List.mem_cons_self)
        -- what the tokens of the rest write is the rest
        have hwritten := unparse_group (parts 0 rest)
        rw [hts, written_parts] at hwritten
        exact ⟨unparse ts, hwritten⟩
      · exact ih (List.mem_cons_of_mem _ h)
    · rcases List.mem_cons.1 h with rfl | h
      · exact hfirst [] List.nil_prefix hempty
      · exact ih h

theorem isWord_of_mem_parts (h : .inr name ∈ parts 0 t) : IsWord name := by
  induction t using parts_induction with
  | nil => cases h
  | char c rest hn ih =>
    rw [parts_of_none hn] at h
    exact ih ((List.mem_cons.1 h).resolve_left Sum.inr_ne_inl)
  | placeholder other rest hn ih =>
    rw [parts_of_some hn] at h
    rcases List.mem_cons.1 h with he | h
    · exact Sum.inr.inj he ▸ isWord_of_nameAt? hn
    · exact ih h

/-! ## Normalizing twice -/

theorem bracket_notMem_upper {b : Char} (hb : b = '(' ∨ b = ')') (h : IsWord name) :
    b ∉ Text.upper name :=
  fun hmem => h.bracket_notMem hb (Text.bracket_mem_of_mem_upper hb hmem)

/-- Characters that normalizing leaves before a text stand in the pattern. -/
theorem eq_append_of_normalize (hs : '(' ∉ s) (h : normalize t = s ++ l) :
    ∃ rest, t = s ++ rest ∧ normalize rest = l := by
  induction s generalizing t with
  | nil => exact ⟨t, rfl, h⟩
  | cons c s ih =>
    rw [List.mem_cons, not_or] at hs
    induction t using parts_induction with
    | nil => cases h
    | char d rest hn _ =>
      rw [normalize_cons hn] at h
      obtain ⟨rfl, hrest⟩ := List.cons.inj h
      obtain ⟨after, rfl, ha⟩ := ih hs.2 hrest
      exact ⟨after, rfl, ha⟩
    | placeholder name rest hn _ =>
      rw [normalize_placeholder hn] at h
      exact absurd (List.cons.inj h).1 hs.1

/-- Normalizing the rest makes no placeholder of a character that begins none. -/
theorem nameAt?_cons_normalize {c : Char} (h : nameAt? (c :: t) = none) :
    nameAt? (c :: normalize t) = none := by
  rw [nameAt?_eq_none_iff] at h ⊢
  rintro name hword ⟨after, hafter⟩
  have hopen : '(' ∉ name ++ "))".toList := by
    simpa using hword.bracket_notMem (.inl rfl)
  rw [placeholder_append] at hafter
  obtain ⟨hc, hnormal⟩ := List.cons.inj hafter
  induction t using parts_induction with
  | nil => cases hnormal
  | char d rest hn _ =>
    rw [normalize_cons hn] at hnormal
    obtain ⟨hd, hrest⟩ := List.cons.inj hnormal
    obtain ⟨more, hmore, -⟩ := eq_append_of_normalize hopen hrest.symm
    rw [← hc, ← hd, hmore] at h
    exact h name hword ⟨more, rfl⟩
  | placeholder other rest hn _ =>
    -- the name would begin with the second bracket of a placeholder
    rw [normalize_placeholder hn, placeholder_append] at hnormal
    have hnil := isPrefix_of_notMem (l := []) hopen ⟨after, (List.cons.inj hnormal).2⟩
    simp at hnil

/-- The names in a normal pattern are in upper case. -/
theorem upper_of_mem_parts_normalize (h : .inr name ∈ parts 0 (normalize t)) :
    Text.upper name = name := by
  induction t using parts_induction with
  | nil => cases h
  | char c rest hn ih =>
    rw [normalize_cons hn, parts_of_none (nameAt?_cons_normalize hn)] at h
    exact ih ((List.mem_cons.1 h).resolve_left Sum.inr_ne_inl)
  | placeholder other rest hn ih =>
    have hother := isWord_of_nameAt? hn
    rw [normalize_placeholder hn] at h
    by_cases hword : IsWord (Text.upper other)
    · rw [parts_of_some (nameAt?_placeholder hword _)] at h
      rcases List.mem_cons.1 h with he | h
      · rw [Sum.inr.inj he, Text.upper_upper]
      · exact ih h
    · -- a name whose upper case is none leaves characters that begin no placeholder
      have hfirst : nameAt? (Problem.placeholder (Text.upper other) ++ normalize rest) = none := by
        rw [nameAt?_eq_none_iff]
        rintro word hw ⟨after, ha⟩
        have he := placeholder_append_inj (hw.bracket_notMem (.inr rfl))
          (bracket_notMem_upper (.inr rfl) hother) ha
        exact hword (he ▸ hw)
      have hclosed : '(' ∉ Text.upper other ++ "))".toList := by
        simpa using bracket_notMem_upper (.inl rfl) hother
      have hsecond :
          nameAt? ('(' :: (Text.upper other ++ "))".toList ++ normalize rest)) = none := by
        refine nameAt?_cons_of_head? fun hhead => hclosed ?_
        exact List.mem_of_mem_head? (by simpa using hhead)
      have hparts : parts 0 (Problem.placeholder (Text.upper other) ++ normalize rest) =
          .inl '(' :: .inl '(' :: ((Text.upper other ++ "))".toList).map .inl ++
            parts 0 (normalize rest)) := by
        rw [← parts_append_of_notMem hclosed, ← parts_of_none hsecond]
        exact parts_of_none hfirst
      rw [hparts] at h
      simp only [List.mem_cons, List.mem_append, List.mem_map, reduceCtorEq, and_false,
        exists_false, false_or] at h
      exact ih h

@[simp] theorem normalize_normalize (p : Text) : normalize (normalize p) = normalize p :=
  normalize_eq_self fun _ => upper_of_mem_parts_normalize

@[simp] theorem tokens_normalize (p : Text) : tokens (normalize p) = tokens p := by
  rw [tokens, normalize_normalize, tokens]

theorem canonical_tokens (p : Text) : Canonical (tokens p) where
  literal_ne_nil _ := ne_nil_of_mem_literals_group
  plain _ := plain_of_mem_literals_group
  joined := joined_tokens p
  word _ hn := isWord_of_mem_parts (mem_placeholders_group.1 hn)
  upper _ hn := upper_of_mem_parts_normalize (mem_placeholders_group.1 hn)

/-- Compiling a pattern loses nothing but the case of its names, and undoes writing exactly for
canonical tokens; patterns that were normalized before are compiled to the same tokens. -/
theorem tokens_lossless (p : Text) (ts : List Token) :
    unparse (tokens p) = normalize p ∧ Canonical (tokens p) ∧
      (tokens (unparse ts) = ts ↔ Canonical ts) ∧
      normalize (normalize p) = normalize p ∧ tokens (normalize p) = tokens p := by
  refine ⟨unparse_tokens p, canonical_tokens p, ⟨fun h => ?_, tokens_unparse⟩,
    normalize_normalize p, tokens_normalize p⟩
  rw [← h]
  exact canonical_tokens _

/-- Of several brackets the inner ones belong to the placeholder. -/
example : tokens "(((a)))((b".toList =
    [.literal "(".toList, .placeholder "A".toList, .literal ")((b".toList] := by
  decide +kernel

end NameTag.Pattern
