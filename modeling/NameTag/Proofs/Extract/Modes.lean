import NameTag.Proofs.Extract.Outcome
import NameTag.Proofs.Pattern.Canonical
import NameTag.Proofs.Session
import NameTag.Proofs.Text.CaseDigit

/-!
# Extractions in different case modes

Two extractions that differ in the case mode only go the same way: what is looked up in the name
does not depend on the mode, and a field accepts what was captured in every mode or in none. So they
give the same count or fail with the same problem, and leave tags that differ at most in the letters
of text fields (`Session.parse_case_independent`).
-/

namespace NameTag

/-! ## Texts that differ in their letters -/

namespace Text

/-- The text begins, and with no blank. -/
def Opens (t : Text) : Prop :=
  t ≠ [] ∧ t.LeftStripped

/-- The texts are the same, or both begin with no blank. -/
def Alike (s t : Text) : Prop :=
  s = t ∨ s.Opens ∧ t.Opens

variable {r s t : Text}

theorem Alike.eq_nil_iff (h : Alike s t) : s = [] ↔ t = [] := by
  rcases h with rfl | ⟨hs, ht⟩
  · exact Iff.rfl
  · exact iff_of_false hs.1 ht.1

theorem Alike.symm (h : Alike s t) : Alike t s :=
  h.imp Eq.symm And.symm

theorem Alike.trans (h : Alike r s) (h' : Alike s t) : Alike r t := by
  rcases h with rfl | ⟨hr, hs⟩
  · exact h'
  · rcases h' with rfl | ⟨-, ht⟩
    · exact .inr ⟨hr, hs⟩
    · exact .inr ⟨hr, ht⟩

theorem Opens.trim (h : t.Opens) {limit : Option Nat} (hn : ∀ n ∈ limit, 0 < n)
    (marker : Option Text) : (Text.trim t (limit.map Nat.cast) marker).Opens := by
  refine ⟨fun he => h.1 (h.2.strip_eq_nil_iff.1 ?_), leftStripped_trim t limit marker⟩
  rw [← List.head?_eq_none_iff, ← head?_trim t hn marker, he]
  rfl

theorem Alike.trim (h : Alike s t) {limit : Option Nat} (hn : ∀ n ∈ limit, 0 < n)
    (marker : Option Text) :
    Alike (Text.trim s (limit.map Nat.cast) marker) (Text.trim t (limit.map Nat.cast) marker) := by
  rcases h with rfl | ⟨hs, ht⟩
  · exact .inl rfl
  · exact .inr ⟨hs.trim hn marker, ht.trim hn marker⟩

/-- Stripped texts of which both are empty or none is. -/
theorem alike_strip (h : strip s = [] ↔ strip t = []) : Alike (strip s) (strip t) := by
  by_cases he : strip s = []
  · rw [he, h.1 he]
    exact .inl rfl
  · exact .inr ⟨⟨he, leftStripped_strip s⟩, ⟨fun ht => he (h.2 ht), leftStripped_strip t⟩⟩

end Text

/-! ## What a field makes of a captured text -/

/-- A field takes both texts or refuses both. A year or a track number that it takes is the same. -/
structure Field.TakesAlike (f : Field) (s t : Text) : Prop where
  accepts : f.accepts s = f.accepts t
  eq : f = .year ∨ f = .trackNumber → f.accepts s = true → s = t
  alike : Text.Alike s t

namespace Field

variable {f : Field} {r s t : Text} {m : CaseMode}

theorem TakesAlike.symm (h : f.TakesAlike s t) : f.TakesAlike t s where
  accepts := h.accepts.symm
  eq hf ht := (h.eq hf (h.accepts.trans ht)).symm
  alike := h.alike.symm

theorem TakesAlike.trans (h : f.TakesAlike r s) (h' : f.TakesAlike s t) : f.TakesAlike r t where
  accepts := h.accepts.trans h'.accepts
  eq hf hr := (h.eq hf hr).trans (h'.eq hf (h.accepts.symm.trans hr))
  alike := h.alike.trans h'.alike

theorem digits_of_accepts (hf : f = .year ∨ f = .trackNumber) (h : f.accepts t = true) :
    t.Digits := by
  rcases hf with rfl | rfl
  · exact (isYear_iff.1 h).2
  · exact (isTrackNumber_iff.1 h).1

theorem accepts_inCase (f : Field) (m : CaseMode) (t : Text) :
    f.accepts (Text.inCase m t) = f.accepts t := by
  by_cases hf : f ≠ .year ∧ f ≠ .trackNumber
  · rw [accepts_of_bounded hf, accepts_of_bounded hf]
  · have hstrict := year_or_trackNumber hf
    rw [Bool.eq_iff_iff]
    constructor
    · intro h
      rwa [Text.inCase_of_digits (Text.digits_of_inCase (digits_of_accepts hstrict h))] at h
    · intro h
      rwa [Text.inCase_of_digits (digits_of_accepts hstrict h)]

/-- A case mode does not matter to a field. -/
theorem takesAlike_inCase (f : Field) (m : CaseMode) (t : Text) :
    f.TakesAlike (Text.strip (Text.inCase m t)) (Text.strip t) := by
  obtain ⟨m', hm⟩ := Text.exists_strip_inCase m t
  constructor
  · rw [hm, accepts_inCase]
  · intro hf h
    rw [hm, accepts_inCase] at h
    rw [hm, Text.inCase_of_digits (digits_of_accepts hf h)]
  · refine Text.alike_strip ?_
    rw [hm, Text.inCase_eq_nil_iff]

/-- Conversions that differ in the case mode give texts of which a field makes the same. -/
theorem takesAlike_convert (f : Field) (marker : Value) (weed : Option Weed)
    (m₁ m₂ : Option CaseMode) (t : Text) :
    f.TakesAlike (Text.strip (Conversion.convert ⟨marker, weed, m₁⟩ t))
      (Text.strip (Conversion.convert ⟨marker, weed, m₂⟩ t)) := by
  have hplain : ∀ m, f.TakesAlike (Text.strip (Conversion.convert ⟨marker, weed, m⟩ t))
      (Text.strip (Conversion.convert ⟨marker, weed, none⟩ t)) := by
    intro m
    cases m with
    | none => exact ⟨rfl, fun _ _ => rfl, .inl rfl⟩
    | some m => exact takesAlike_inCase f m (Conversion.convert ⟨marker, weed, none⟩ t)
  exact (hplain m₁).trans (hplain m₂).symm

end Field

/-! ## Tags that differ in their letters -/

/-- Tags of texts with the same entries, except that the texts of some fields are only alike. -/
structure Tag.Alike (free : List Field) (t u : Tag) : Prop where
  left : t.Textual
  right : u.Textual
  keys : t.keys = u.keys
  get : ∀ key, (∀ f ∈ free, key ≠ f.name) → t.get? key = u.get? key
  text : ∀ f, Text.Alike (t.text f) (u.text f)

namespace Tag

variable {free : List Field} {marker : Option Text} {t u : Tag} {f : Field} {s₁ s₂ : Text}

theorem Alike.refl (h : t.Textual) : Alike free t t :=
  ⟨h, h, rfl, fun _ _ => rfl, fun _ => .inl rfl⟩

theorem Alike.value_eq (h : Alike free t u) (hf : f ∉ free) : t.value f = u.value f := by
  rw [value, value, h.get]
  intro g hg he
  exact hf (Field.name_injective he ▸ hg)

theorem Alike.text_eq (h : Alike free t u) (hf : f ∉ free) : t.text f = u.text f := by
  rw [Tag.text, Tag.text, h.value_eq hf]

theorem Alike.setText (h : Alike free t u) (hs : Text.Alike s₁ s₂) (hf : s₁ = s₂ ∨ f ∈ free) :
    Alike free (t.setText f s₁) (u.setText f s₂) where
  left := h.left.setText f s₁
  right := h.right.setText f s₂
  keys := by
    rw [Tag.setText, Tag.setText, keys_set, keys_set, h.keys]
  get key hkey := by
    rw [get?_setText, get?_setText]
    split
    · next hk =>
      rcases hf with rfl | hf
      · rfl
      · exact absurd hk (hkey f hf)
    · exact h.get key hkey
  text g := by
    rw [text_setText, text_setText]
    split
    · exact hs
    · exact h.text g

theorem Alike.shortened (h : Alike free t u) :
    Alike free (t.shortened marker) (u.shortened marker) := by
  have hside : t.shortenedComment marker = u.shortenedComment marker ∨ .comment ∈ free := by
    by_cases hc : .comment ∈ free
    · exact .inr hc
    · rw [shortenedComment, shortenedComment, h.text_eq hc]
      exact .inl rfl
  rw [Tag.shortened, Tag.shortened]
  by_cases he : t.text .comment = []
  · rw [if_pos he, if_pos ((h.text .comment).eq_nil_iff.1 he)]
    exact h
  · rw [if_neg he, if_neg fun hu => he ((h.text .comment).eq_nil_iff.2 hu)]
    exact h.setText ((h.text .comment).trim (by decide) marker) hside

/-- What fields make the same of keeps tags alike. -/
theorem Alike.put (h : Alike free t u) (hfree : ∀ g ∈ free, g ≠ .year ∧ g ≠ .trackNumber)
    (hs : f.TakesAlike s₁ s₂) (hacc : f.accepts s₁ = true)
    (hf : f ≠ .year ∧ f ≠ .trackNumber → f ∈ free) :
    Alike free (t.put marker f s₁) (u.put marker f s₂) := by
  by_cases hbound : f ≠ .year ∧ f ≠ .trackNumber
  · have hlimit : t.limit f = u.limit f := by
      rw [limit, limit, h.value_eq fun hin => (hfree _ hin).2 rfl]
    rw [Tag.put, Tag.put, if_neg hbound.2, if_neg hbound.2, kept_of_bounded hbound,
      kept_of_bounded hbound, hlimit]
    exact h.setText (hs.alike.trim (u.limit_pos f) marker) (.inr (hf hbound))
  · have hstrict := Field.year_or_trackNumber hbound
    obtain rfl := hs.eq hstrict hacc
    rcases hstrict with rfl | rfl
    · exact h.setText (.inl rfl) (.inl rfl)
    · exact h.shortened.setText (.inl rfl) (.inl rfl)

end Tag

namespace Edit

/-! ## Two runs -/

/-- From tags that are alike, both edits succeed with results that correspond and leave tags alike,
or both fail in the same way. -/
def RunAlike {α β : Type} (free : List Field) (S : α → β → Prop) (x : Edit α) (y : Edit β) : Prop :=
  ∀ (t u : Tag) (ws vs : List Warning), t.Alike free u →
    (∃ a b t' u' ws' vs', x ⟨.editable t, ws⟩ = .ok a ⟨.editable t', ws'⟩ ∧
      y ⟨.editable u, vs⟩ = .ok b ⟨.editable u', vs'⟩ ∧ S a b ∧ t'.Alike free u') ∨
    ∃ e d d', x ⟨.editable t, ws⟩ = .error e d ∧ y ⟨.editable u, vs⟩ = .error e d'

variable {α β α' β' : Type} {free : List Field} {S : α → β → Prop} {T : α' → β' → Prop}
  {x : Edit α} {y : Edit β} {f : α → Edit α'} {g : β → Edit β'}

theorem runAlike_pure {a : α} {b : β} (h : S a b) : RunAlike free S (pure a) (pure b) :=
  fun t u ws vs ht => .inl ⟨a, b, t, u, ws, vs, rfl, rfl, h, ht⟩

theorem runAlike_throw (e : Failure) : RunAlike free S (throw e) (throw e) :=
  fun _ _ _ _ _ => .inr ⟨e, _, _, rfl, rfl⟩

theorem RunAlike.bind (hx : RunAlike free S x y) (hf : ∀ a b, S a b → RunAlike free T (f a) (g b)) :
    RunAlike free T (x >>= f) (y >>= g) := by
  intro t u ws vs ht
  rcases hx t u ws vs ht with ⟨a, b, t', u', ws', vs', hxa, hyb, hab, ht'⟩ | ⟨e, d, d', hxe, hye⟩
  · rw [bind_of_ok hxa, bind_of_ok hyb]
    exact hf a b hab t' u' ws' vs' ht'
  · rw [bind_of_error hxe, bind_of_error hye]
    exact .inr ⟨e, d, d', rfl, rfl⟩

section Reading

variable {marker : Option Text} {weed : Option Weed} {m₁ m₂ : Option CaseMode}
  (hfree : ∀ g ∈ free, g ≠ .year ∧ g ≠ .trackNumber)

include hfree

/-- One store of a text in two modes. -/
theorem runAlike_store (f : Field) (hf : f ≠ .year ∧ f ≠ .trackNumber → f ∈ free)
    (captured : Text) :
    RunAlike free (fun _ _ => True)
      (store (.ofMarker marker) (.text f.name)
        (.text (Conversion.convert ⟨.ofMarker marker, weed, m₁⟩ captured)))
      (store (.ofMarker marker) (.text f.name)
        (.text (Conversion.convert ⟨.ofMarker marker, weed, m₂⟩ captured))) := by
  intro t u ws vs ht
  have htakes := f.takesAlike_convert (.ofMarker marker) weed m₁ m₂ captured
  rw [store_name, store_name, storeText_textual ht.left, storeText_textual ht.right,
    ← htakes.accepts]
  split
  · next hacc => exact .inl ⟨_, _, _, _, _, _, rfl, rfl, trivial, ht.put hfree htakes hacc hf⟩
  · exact .inr ⟨_, _, _, rfl, rfl⟩

/-- What is assigned to a known name. -/
theorem runAlike_assign {name : Text} (hknown : Pattern.IsKnown name)
    (hname : ∀ f : Field, name = f.name → f ≠ .year ∧ f ≠ .trackNumber → f ∈ free)
    (captured : Text) :
    RunAlike free Eq (assign ⟨.ofMarker marker, weed, m₁⟩ name captured)
      (assign ⟨.ofMarker marker, weed, m₂⟩ name captured) := by
  by_cases hi : name = Field.ignored
  · rw [hi, assign_ignored, assign_ignored]
    exact runAlike_pure rfl
  · obtain ⟨f, rfl⟩ := hknown.resolve_right hi
    rw [assign_of_ne captured hi, assign_of_ne captured hi]
    exact (runAlike_store hfree f (hname f rfl) captured).bind fun _ _ _ => runAlike_pure rfl

theorem runAlike_assignRest {name : Text} (hknown : Pattern.IsKnown name)
    (hname : ∀ f : Field, name = f.name → f ≠ .year ∧ f ≠ .trackNumber → f ∈ free)
    (rest : Text) (used : List Text) :
    RunAlike free Eq (assignRest ⟨.ofMarker marker, weed, m₁⟩ name rest used)
      (assignRest ⟨.ofMarker marker, weed, m₂⟩ name rest used) := by
  rw [assignRest_eq, assignRest_eq]
  split
  · exact runAlike_throw _
  · split
    · exact runAlike_throw _
    · exact runAlike_assign hfree hknown hname rest

/-- Reading along the same tokens: the modes matter only where a text is stored. -/
theorem runAlike_readAlong (ts : List Token) (rest : Text) (pending : Option Text)
    (used : List Text) (hknown : ∀ name ∈ pending, Pattern.IsKnown name)
    (hnames : ∀ f : Field, f.name ∈ pending.toList ++ Pattern.placeholders ts →
      f ≠ .year ∧ f ≠ .trackNumber → f ∈ free) :
    RunAlike free Eq (readAlong ⟨.ofMarker marker, weed, m₁⟩ ts rest pending used)
      (readAlong ⟨.ofMarker marker, weed, m₂⟩ ts rest pending used) := by
  induction ts generalizing rest pending used with
  | nil =>
    cases pending with
    | none => exact runAlike_pure rfl
    | some name =>
      refine runAlike_assignRest hfree (hknown name rfl) ?_ rest used
      rintro f rfl
      exact hnames f (by simp)
  | cons token ts ih =>
    cases token with
    | placeholder name =>
      rw [readAlong_placeholder, readAlong_placeholder]
      split
      · exact runAlike_throw _
      · split
        · next hn =>
          refine ih rest (some name) used (fun other ho => by cases ho; exact hn) fun f hf => ?_
          exact hnames f (List.mem_append_right _ hf)
        · exact runAlike_throw _
    | literal separator =>
      have hlater : ∀ f : Field, f.name ∈ (none : Option Text).toList ++ Pattern.placeholders ts →
          f ≠ .year ∧ f ≠ .trackNumber → f ∈ free :=
        fun f hf => hnames f (List.mem_append_right _ hf)
      cases hcut : Text.cut? separator rest with
      | none =>
        rw [readAlong_literal_of_none hcut, readAlong_literal_of_none hcut]
        exact runAlike_throw _
      | some p =>
        obtain ⟨captured, after⟩ := p
        cases pending with
        | none =>
          rw [readAlong_literal_of_some hcut, readAlong_literal_of_some hcut]
          exact ih after none _ (by simp) hlater
        | some name =>
          rw [readAlong_literal_of_pending hcut, readAlong_literal_of_pending hcut]
          refine (runAlike_assign hfree (hknown name rfl) ?_ captured).bind ?_
          · rintro f rfl
            exact hnames f (by simp)
          · rintro count _ rfl
            refine (ih after none _ (by simp) hlater).bind ?_
            rintro more _ rfl
            exact runAlike_pure rfl

end Reading

/-! ## Whole extractions -/

/-- The text fields that a pattern names. -/
def textFields (pattern : Value) : List Field :=
  match pattern with
  | .text p =>
    (Pattern.fields (Text.strip p)).filter fun f => decide (f ≠ .year ∧ f ≠ .trackNumber)
  | _ => []

theorem strict_of_mem_textFields {pattern : Value} {f : Field} (h : f ∈ textFields pattern) :
    f ≠ .year ∧ f ≠ .trackNumber := by
  cases pattern with
  | text p => exact of_decide_eq_true (List.mem_filter.1 h).2
  | _ => cases h

theorem mem_textFields {pattern : Value} {p : Text} {d d' : Draft}
    (hp : sourcePattern pattern d = .ok p d') {f : Field}
    (hf : f.name ∈ Pattern.placeholders (Pattern.tokens p))
    (hbound : f ≠ .year ∧ f ≠ .trackNumber) : f ∈ textFields pattern := by
  cases pattern with
  | text text =>
    rw [eq_of_sourcePattern hp, Pattern.tokens_normalize] at hf
    exact List.mem_filter.2 ⟨Pattern.mem_fields.2 hf, decide_eq_true hbound⟩
  | _ => cases hp

/-- No mode, or one that is known. -/
def KnownMode (mode : Value) : Prop :=
  mode = .null ∨ (CaseMode.ofValue? mode).isSome = true

variable {marker : Option Text} {t : Tag} {mode₁ mode₂ : Value}

theorem KnownMode.strictMode_run {mode : Value} (h : KnownMode mode) (d : Draft) :
    ∃ m, strictMode mode d = .ok m d := by
  rcases h with rfl | h
  · exact ⟨none, rfl⟩
  · obtain ⟨m, hm⟩ := Option.isSome_iff_exists.1 h
    exact ⟨some m, strictMode_of_ofValue? hm⟩

/-- From one tag both edits succeed with the same result and leave tags that are alike, or both fail
in the same way and leave the tag. -/
def RunAlikeFrom {α : Type} (free : List Field) (t : Tag) (ws : List Warning)
    (x y : Edit α) : Prop :=
  (∃ a t₁ t₂ ws₁ ws₂, x ⟨.editable t, ws⟩ = .ok a ⟨.editable t₁, ws₁⟩ ∧
    y ⟨.editable t, ws⟩ = .ok a ⟨.editable t₂, ws₂⟩ ∧ t₁.Alike free t₂) ∨
  ∃ e ws₁ ws₂, x ⟨.editable t, ws⟩ = .error e ⟨.editable t, ws₁⟩ ∧
    y ⟨.editable t, ws⟩ = .error e ⟨.editable t, ws₂⟩

/-- Readings on a copy in two modes. -/
theorem runAlikeFrom_onCopy (marker : Option Text) (ht : t.Textual) (hkeys : t.keys.Nodup)
    (hfree : ∀ g ∈ free, g ≠ .year ∧ g ≠ .trackNumber) (weed : Option Weed)
    (m₁ m₂ : Option CaseMode) {ts : List Token} (name : Text)
    (hnames : ∀ f : Field, f.name ∈ Pattern.placeholders ts → f ≠ .year ∧ f ≠ .trackNumber →
      f ∈ free) (ws : List Warning) :
    RunAlikeFrom free t ws (onCopy (readAlong ⟨.ofMarker marker, weed, m₁⟩ ts name none []))
      (onCopy (readAlong ⟨.ofMarker marker, weed, m₂⟩ ts name none [])) := by
  rcases runAlike_readAlong hfree ts name none [] (by simp) hnames t t ws ws (.refl ht) with
    ⟨n, _, t₁, t₂, ws₁, ws₂, hx, hy, rfl, halike⟩ | ⟨e, d, d', hx, hy⟩
  · exact .inl ⟨n, t₁, t₂, ws₁, ws₂, onCopy_readAlong_of_ok hkeys hx,
      onCopy_readAlong_of_ok hkeys hy, halike⟩
  · exact .inr ⟨e, d.warnings, d'.warnings, onCopy_of_error hx, onCopy_of_error hy⟩

/-- Extractions in two modes: everything before the reading is the same. -/
theorem runAlikeFrom_extract (marker : Option Text) (ht : t.Textual) (hkeys : t.keys.Nodup)
    (h₁ : KnownMode mode₁) (h₂ : KnownMode mode₂) (source pattern weed : Value)
    (ws : List Warning) :
    RunAlikeFrom (textFields pattern) t ws
      (extract (.ofMarker marker) source pattern mode₁ weed)
      (extract (.ofMarker marker) source pattern mode₂ weed) := by
  obtain ⟨m₁, hm₁⟩ := h₁.strictMode_run ⟨.editable t, ws⟩
  obtain ⟨m₂, hm₂⟩ := h₂.strictMode_run ⟨.editable t, ws⟩
  rw [RunAlikeFrom, extract, extract]
  rcases onlyLooks_sourceName source ⟨.editable t, ws⟩ with ⟨name, hs⟩ | ⟨e, hs⟩
  case inr => exact .inr ⟨e, ws, ws, bind_of_error hs, bind_of_error hs⟩
  rcases onlyLooks_sourcePattern pattern ⟨.editable t, ws⟩ with ⟨p, hp⟩ | ⟨e, hp⟩
  case inr =>
    rw [bind_of_ok hs, bind_of_ok hs]
    exact .inr ⟨e, ws, ws, bind_of_error hp, bind_of_error hp⟩
  rw [bind_of_ok hs, bind_of_ok hs, bind_of_ok hp, bind_of_ok hp, bind_of_ok (editable_run t ws),
    bind_of_ok (editable_run t ws), bind_of_ok hm₁, bind_of_ok hm₂]
  have hread := fun w => runAlikeFrom_onCopy marker ht hkeys
    (fun _ => strict_of_mem_textFields) w m₁ m₂ name (fun _ => mem_textFields hp) ws
  by_cases hw : weed = .null
  · subst hw
    exact hread none
  · cases hc : Weed.compile weed with
    | ok w =>
      simp only [hc]
      exact hread (some w)
    | error e => exact .inr ⟨e, ws, ws, by simp [hc], by simp [hc]⟩

end Edit

namespace Session

open Edit

variable {s : Session} {marker : Option Text} {t : Tag} {mode₁ mode₂ : Value}

/-- Two parses of a name into a tag of texts, in different modes or without one, give the same count
or fail with the same problem or fault. The tags they leave have the same years and track numbers and
the same entries but for the text fields of the pattern, and there the same fields are empty. -/
theorem parse_case_independent (hmarker : s.settings.marker = .ofMarker marker) (ht : t.Textual)
    (hkeys : t.keys.Nodup) (h₁ : KnownMode mode₁) (h₂ : KnownMode mode₂)
    (source pattern weed : Value) :
    ∃ result : Except Fault (Except Problem Nat), ∃ t₁ t₂ r₁ r₂,
      (parse (.editable t) source pattern mode₁ weed s).1 = (r₁, .editable t₁) ∧
      (parse (.editable t) source pattern mode₂ weed s).1 = (r₂, .editable t₂) ∧
      r₁.map Report.result = result ∧ r₂.map Report.result = result ∧
      t₁.value .year = t₂.value .year ∧ t₁.value .trackNumber = t₂.value .trackNumber ∧
      t₁.Alike (textFields pattern) t₂ := by
  have hstrict : ∀ {t₁ t₂ : Tag}, t₁.Alike (textFields pattern) t₂ →
      t₁.value .year = t₂.value .year ∧ t₁.value .trackNumber = t₂.value .trackNumber ∧
        t₁.Alike (textFields pattern) t₂ := fun h =>
    ⟨h.value_eq fun hf => (strict_of_mem_textFields hf).1 rfl,
      h.value_eq fun hf => (strict_of_mem_textFields hf).2 rfl, h⟩
  rw [parse, parse, perform_run, perform_run, hmarker]
  rcases runAlikeFrom_extract marker ht hkeys h₁ h₂ source pattern weed [] with
    ⟨n, t₁, t₂, ws₁, ws₂, hx, hy, halike⟩ | ⟨e, ws₁, ws₂, hx, hy⟩
  · rw [run_eq_ok_iff.2 hx, run_eq_ok_iff.2 hy]
    exact ⟨.ok (.ok n), t₁, t₂, _, _, rfl, rfl, rfl, rfl, hstrict halike⟩
  · rw [run_eq_error_iff.2 hx, run_eq_error_iff.2 hy]
    cases e with
    | problem p => exact ⟨.ok (.error p), t, t, _, _, rfl, rfl, rfl, rfl, hstrict (.refl ht)⟩
    | fault f => exact ⟨.error f, t, t, _, _, rfl, rfl, rfl, rfl, hstrict (.refl ht)⟩

/-- An artist and a year, in lower case and as they stand. -/
theorem parse_case_independent_artist_year :
    ∃ result : Except Fault (Except Problem Nat), ∃ t₁ t₂ r₁ r₂,
      (parse (.editable .empty) (.text "Iron Maiden - 1982".toList)
        (.text "((ARTIST)) - ((YEAR))".toList) (.int 0) .null {}).1 = (r₁, .editable t₁) ∧
      (parse (.editable .empty) (.text "Iron Maiden - 1982".toList)
        (.text "((ARTIST)) - ((YEAR))".toList) .null .null {}).1 = (r₂, .editable t₂) ∧
      r₁.map Report.result = result ∧ r₂.map Report.result = result ∧
      t₁.value .year = t₂.value .year ∧ t₁.value .trackNumber = t₂.value .trackNumber := by
  obtain ⟨result, t₁, t₂, r₁, r₂, h₁, h₂, hr₁, hr₂, hyear, hnumber, -⟩ :=
    @parse_case_independent {} none .empty (.int 0) .null rfl
      Tag.textual_empty Tag.nodup_keys_empty (.inr (by decide)) (.inl rfl)
      (.text "Iron Maiden - 1982".toList) (.text "((ARTIST)) - ((YEAR))".toList) .null
  exact ⟨result, t₁, t₂, r₁, r₂, h₁, h₂, hr₁, hr₂, hyear, hnumber⟩

end Session

end NameTag
