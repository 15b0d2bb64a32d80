import NameTag.Proofs.Extract.Reading

/-!
# What an extraction leaves behind

An extraction that succeeds leaves the copy on which the captured texts were stored; one that fails
leaves the subject it was given.
-/

namespace NameTag

/-- A case mode as an argument. -/
def CaseMode.toValue : CaseMode → Value
  | .lower => .int 0
  | .first => .int 1
  | .words => .int 2

theorem CaseMode.ofValue?_toValue (m : CaseMode) : CaseMode.ofValue? m.toValue = some m := by
  cases m <;> decide

/-- The case mode that an argument asks for: none, or one that is known. -/
def CaseMode.wanted? (mode : Value) : Option (Option CaseMode) :=
  match mode with
  | .null => some none
  | mode => (ofValue? mode).map some

theorem CaseMode.wanted?_of_ofValue? {mode : Value} {m : CaseMode} (h : ofValue? mode = some m) :
    wanted? mode = some (some m) := by
  have hn : mode ≠ .null := by
    rintro rfl
    cases h
  rw [wanted?.eq_2 _ hn, h, Option.map_some]

theorem CaseMode.wanted?_toValue (mode : Option CaseMode) :
    wanted? (.ofOption toValue mode) = some mode := by
  cases mode with
  | none => rfl
  | some m => exact wanted?_of_ofValue? m.ofValue?_toValue

/-- The weed that an argument asks for: none, or an expression that compiles. -/
def Weed.wanted? (weed : Value) : Option (Option Weed) :=
  match weed with
  | .null => some none
  | expr => (compile expr).toOption.map some

theorem Weed.wanted?_of_compile {weed : Option Text} {w : Option Weed}
    (h : weed.mapM (fun e => compile (.text e)) = .ok w) :
    wanted? (.ofOption .text weed) = some w := by
  cases weed with
  | none =>
    cases h
    rfl
  | some e =>
    show (compile (.text e)).toOption.map some = some w
    cases hc : compile (.text e) with
    | error f => simp [Option.mapM_some, hc] at h
    | ok x =>
      simp only [Option.mapM_some, hc] at h
      cases h
      rfl

/-- What the arguments of an extraction do to captured texts. -/
def Conversion.wanted? (marker mode weed : Value) : Option Conversion := do
  let weed ← Weed.wanted? weed
  let mode ← CaseMode.wanted? mode
  pure ⟨marker, weed, mode⟩

theorem Conversion.wanted?_eq_some {marker mode weed : Value} {c : Conversion} :
    wanted? marker mode weed = some c ↔ c.marker = marker ∧ Weed.wanted? weed = some c.weed ∧
      CaseMode.wanted? mode = some c.mode := by
  simp only [wanted?, Option.bind_eq_bind, Option.bind_eq_some_iff, Option.pure_def,
    Option.some.injEq]
  constructor
  · rintro ⟨w, hw, m, hm, rfl⟩
    exact ⟨rfl, hw, hm⟩
  · rintro ⟨rfl, hw, hm⟩
    exact ⟨c.weed, hw, c.mode, hm, rfl⟩

namespace Edit

variable {marker : Value} {t copy : Tag} {ws : List Warning} {d d' : Draft}

/-! ## Arguments -/

theorem sourceName_run {source : Text} (h : Text.strip source ≠ []) :
    sourceName (.text source) d = .ok (Text.strip source) d := by
  simp [sourceName, h]

theorem sourcePattern_run {pattern : Text}
    (h : Pattern.hasPlaceholder (Pattern.normalize (Text.strip pattern)) = true) :
    sourcePattern (.text pattern) d = .ok (Pattern.normalize (Text.strip pattern)) d := by
  simp [sourcePattern, h]

theorem eq_of_sourcePattern {pattern p : Text} (h : sourcePattern (.text pattern) d = .ok p d') :
    p = Pattern.normalize (Text.strip pattern) := by
  by_cases hp : Pattern.hasPlaceholder (Pattern.normalize (Text.strip pattern)) = true
  · rw [sourcePattern_run hp] at h
    cases h
    rfl
  · simp [sourcePattern, hp] at h

theorem strictMode_eq_ok_iff {mode : Value} {m : Option CaseMode} :
    strictMode mode d = .ok m d' ↔ CaseMode.wanted? mode = some m ∧ d' = d := by
  by_cases hn : mode = .null
  · rw [hn]
    constructor
    · intro h
      cases h
      exact ⟨rfl, rfl⟩
    · rintro ⟨h, rfl⟩
      cases h
      rfl
  · rw [strictMode.eq_2 _ hn, CaseMode.wanted?.eq_2 _ hn]
    cases CaseMode.ofValue? mode with
    | none => simp
    | some k =>
      rw [Option.map_some, Option.some.injEq]
      constructor
      · intro h
        cases h
        exact ⟨rfl, rfl⟩
      · rintro ⟨rfl, rfl⟩
        rfl

theorem strictMode_run (mode : Option CaseMode) :
    strictMode (.ofOption CaseMode.toValue mode) d = .ok mode d :=
  strictMode_eq_ok_iff.2 ⟨CaseMode.wanted?_toValue mode, rfl⟩

theorem strictMode_of_ofValue? {mode : Value} {m : CaseMode} (h : CaseMode.ofValue? mode = some m) :
    strictMode mode d = .ok (some m) d :=
  strictMode_eq_ok_iff.2 ⟨CaseMode.wanted?_of_ofValue? h, rfl⟩

/-- The step only looks: it gives something or fails, and the draft stays. -/
def OnlyLooks {α : Type} (x : Edit α) : Prop :=
  ∀ d, (∃ a, x d = .ok a d) ∨ ∃ e, x d = .error e d

theorem onlyLooks_sourceName (source : Value) : OnlyLooks (sourceName source) := by
  intro d
  cases source with
  | text t =>
    by_cases h : Text.strip t = []
    · exact .inr ⟨.problem .emptySource, by simp [sourceName, h]⟩
    · exact .inl ⟨_, sourceName_run h⟩
  | _ => exact .inr ⟨.problem .emptySource, rfl⟩

theorem onlyLooks_sourcePattern (pattern : Value) : OnlyLooks (sourcePattern pattern) := by
  intro d
  cases pattern with
  | text t =>
    by_cases h : Pattern.hasPlaceholder (Pattern.normalize (Text.strip t)) = true
    · exact .inl ⟨_, sourcePattern_run h⟩
    · exact .inr ⟨.problem .noPlaceholder, by simp [sourcePattern, h]⟩
  | _ => exact .inr ⟨.problem .noPlaceholder, rfl⟩

theorem onlyLooks_strictMode (mode : Value) : OnlyLooks (strictMode mode) := by
  intro d
  by_cases hn : mode = .null
  · exact .inl ⟨none, by rw [hn]; rfl⟩
  · rw [strictMode.eq_2 _ hn]
    cases CaseMode.ofValue? mode with
    | none => exact .inr ⟨.problem .unknownCaseMode, rfl⟩
    | some m => exact .inl ⟨some m, rfl⟩

/-- Whatever the arguments are, they are refused, or a name is read along the pattern on a copy. -/
theorem extract_cases (marker source pattern mode weed : Value) (d : Draft) :
    (∃ e, extract marker source pattern mode weed d = .error e d) ∨
    ∃ t w m p name, d.subject = .editable t ∧ sourcePattern pattern d = .ok p d ∧
      extract marker source pattern mode weed d =
        onCopy (readAlong ⟨marker, w, m⟩ (Pattern.tokens p) name none []) d := by
  rw [extract]
  rcases onlyLooks_sourceName source d with ⟨name, hs⟩ | ⟨e, hs⟩
  case inr => exact .inl ⟨e, bind_of_error hs⟩
  rcases onlyLooks_sourcePattern pattern d with ⟨p, hp⟩ | ⟨e, hp⟩
  case inr => exact .inl ⟨e, by rw [bind_of_ok hs, bind_of_error hp]⟩
  rw [bind_of_ok hs, bind_of_ok hp]
  obtain ⟨subject, ws⟩ := d
  cases subject with
  | editable t =>
    rw [bind_of_ok (editable_run t ws)]
    rcases onlyLooks_strictMode mode ⟨.editable t, ws⟩ with ⟨m, hm⟩ | ⟨e, hm⟩
    case inr => exact .inl ⟨e, bind_of_error hm⟩
    rw [bind_of_ok hm]
    by_cases hw : weed = .null
    · exact .inr ⟨t, none, m, p, name, rfl, hp, by rw [hw]; rfl⟩
    · cases hc : Weed.compile weed with
      | ok w => exact .inr ⟨t, some w, m, p, name, rfl, hp, by simp [hc]⟩
      | error e => exact .inl ⟨e, by simp [hc]⟩
  | readOnly t => exact .inl ⟨.problem .tagNotEditable, rfl⟩
  | other v => exact .inl ⟨.problem .tagNotEditable, rfl⟩

/-- A name that is not blank can be read along a pattern that has a placeholder. -/
def Readable (source pattern : Text) : Prop :=
  Text.strip source ≠ [] ∧ Pattern.hasPlaceholder (Pattern.normalize (Text.strip pattern)) = true

/-- Whatever the other arguments are, what cannot be read is refused. -/
theorem extract_of_not_readable (marker mode weed : Value) {source pattern : Text}
    (h : ¬ Readable source pattern) (d : Draft) :
    ∃ p, extract marker (.text source) (.text pattern) mode weed d = .error (.problem p) d := by
  by_cases hs : Text.strip source = []
  · have hname : sourceName (.text source) d = .error (.problem .emptySource) d := by
      simp [sourceName, hs]
    exact ⟨.emptySource, by rw [extract, bind_of_error hname]⟩
  · have hp : Pattern.hasPlaceholder (Pattern.normalize (Text.strip pattern)) = false := by
      rw [← Bool.not_eq_true]
      exact fun hp => h ⟨hs, hp⟩
    have hpattern : sourcePattern (.text pattern) d = .error (.problem .noPlaceholder) d := by
      simp only [sourcePattern, hp]
      rfl
    exact ⟨.noPlaceholder, by rw [extract, bind_of_ok (sourceName_run hs), bind_of_error hpattern]⟩

/-- An extraction that succeeds has read a name that is not blank along a pattern that has a
placeholder. -/
theorem readable_of_extract {marker mode weed : Value} {source pattern : Text} {n : Nat}
    (h : extract marker (.text source) (.text pattern) mode weed d = .ok n d') :
    Readable source pattern := by
  by_contra hr
  obtain ⟨p, hp⟩ := extract_of_not_readable marker mode weed hr d
  rw [hp] at h
  cases h

/-- In a known mode the extraction of what can be read fails as the weed does. -/
theorem extract_of_weed_error {mode : Value} {source pattern weed : Text} {e : Failure}
    (h : Readable source pattern) (hm : mode = .null ∨ (CaseMode.ofValue? mode).isSome = true)
    (he : Weed.compile (.text weed) = .error e) :
    extract marker (.text source) (.text pattern) mode (.text weed) ⟨.editable t, ws⟩ =
      .error e ⟨.editable t, ws⟩ := by
  have hmode : ∃ m, strictMode mode ⟨.editable t, ws⟩ = .ok m ⟨.editable t, ws⟩ := by
    rcases hm with rfl | hm
    · exact ⟨none, rfl⟩
    · obtain ⟨m, hm⟩ := Option.isSome_iff_exists.1 hm
      exact ⟨some m, strictMode_of_ofValue? hm⟩
  obtain ⟨m, hmode⟩ := hmode
  rw [extract, bind_of_ok (sourceName_run h.1), bind_of_ok (sourcePattern_run h.2),
    bind_of_ok (editable_run t ws), bind_of_ok hmode]
  simp [he]

/-- What can be read is read on a copy, whatever the tag is. -/
theorem extract_of_readable {source pattern : Text} {mode weed : Value} {c : Conversion}
    (h : Readable source pattern) (hc : Conversion.wanted? marker mode weed = some c) :
    extract marker (.text source) (.text pattern) mode weed ⟨.editable t, ws⟩ =
      onCopy (readAlong c (Pattern.tokens (Pattern.normalize (Text.strip pattern)))
        (Text.strip source) none []) ⟨.editable t, ws⟩ := by
  obtain ⟨rfl, hw, hm⟩ := Conversion.wanted?_eq_some.1 hc
  have hmode : strictMode mode ⟨.editable t, ws⟩ = .ok c.mode ⟨.editable t, ws⟩ :=
    strictMode_eq_ok_iff.2 ⟨hm, rfl⟩
  rw [extract, bind_of_ok (sourceName_run h.1), bind_of_ok (sourcePattern_run h.2),
    bind_of_ok (editable_run t ws), bind_of_ok hmode]
  obtain ⟨marker, w, m⟩ := c
  by_cases hn : weed = .null
  · rw [hn] at hw ⊢
    cases hw
    rfl
  · rw [Weed.wanted?.eq_2 _ hn] at hw
    cases hcompile : Weed.compile weed with
    | error e =>
      rw [hcompile] at hw
      cases hw
    | ok w' =>
      rw [hcompile] at hw
      cases hw
      simp [hcompile]

/-- An extraction of a text along a text, in a known mode and with a weed that compiles. -/
theorem extract_run {source pattern : Text} (mode : Option CaseMode) {weed : Option Text}
    {w : Option Weed} (hs : Text.strip source ≠ [])
    (hp : Pattern.hasPlaceholder (Pattern.normalize (Text.strip pattern)) = true)
    (hw : weed.mapM (fun e => Weed.compile (.text e)) = .ok w) :
    extract marker (.text source) (.text pattern) (.ofOption CaseMode.toValue mode)
        (.ofOption .text weed) ⟨.editable t, ws⟩ =
      onCopy (readAlong ⟨marker, w, mode⟩
        (Pattern.tokens (Pattern.normalize (Text.strip pattern))) (Text.strip source) none [])
        ⟨.editable t, ws⟩ :=
  extract_of_readable ⟨hs, hp⟩ (Conversion.wanted?_eq_some.2
    ⟨rfl, Weed.wanted?_of_compile hw, CaseMode.wanted?_toValue mode⟩)

/-- An extraction in a mode, given by any value that stands for it, without a weed. -/
theorem extract_run_mode {source pattern : Text} {mode : Value} {m : CaseMode}
    (hs : Text.strip source ≠ [])
    (hp : Pattern.hasPlaceholder (Pattern.normalize (Text.strip pattern)) = true)
    (hm : CaseMode.ofValue? mode = some m) :
    extract marker (.text source) (.text pattern) mode .null ⟨.editable t, ws⟩ =
      onCopy (readAlong ⟨marker, none, some m⟩
        (Pattern.tokens (Pattern.normalize (Text.strip pattern))) (Text.strip source) none [])
        ⟨.editable t, ws⟩ :=
  extract_of_readable ⟨hs, hp⟩ (Conversion.wanted?_eq_some.2
    ⟨rfl, rfl, CaseMode.wanted?_of_ofValue? hm⟩)

/-- An extraction without a mode and a weed. -/
theorem extract_run_plain {source pattern : Text} (hs : Text.strip source ≠ [])
    (hp : Pattern.hasPlaceholder (Pattern.normalize (Text.strip pattern)) = true) :
    extract marker (.text source) (.text pattern) .null .null ⟨.editable t, ws⟩ =
      onCopy (readAlong ⟨marker, none, none⟩
        (Pattern.tokens (Pattern.normalize (Text.strip pattern))) (Text.strip source) none [])
        ⟨.editable t, ws⟩ :=
  extract_of_readable ⟨hs, hp⟩ rfl

/-! ## Copies -/

theorem onCopy_of_error {α : Type} {body : Edit α} {e : Failure}
    (h : body d = .error e d') : onCopy body d = .error e ⟨d.subject, d'.warnings⟩ := by
  rw [onCopy, h]

theorem onCopy_of_ok {α : Type} {body : Edit α} {a : α} {ws' : List Warning}
    (h : body ⟨.editable t, ws⟩ = .ok a ⟨.editable copy, ws'⟩) :
    onCopy body ⟨.editable t, ws⟩ = .ok a ⟨.editable (t.update copy.entries), ws'⟩ := by
  rw [onCopy, h]

/-- An edit that succeeds on a copy succeeds. -/
theorem exists_of_onCopy {α : Type} {body : Edit α} {a : α} (h : onCopy body d = .ok a d') :
    ∃ d₁, body d = .ok a d₁ := by
  cases hb : body d with
  | ok b d₁ =>
    rw [onCopy, hb] at h
    simp only at h
    split at h <;> cases h <;> exact ⟨d₁, rfl⟩
  | error e d₁ =>
    rw [onCopy_of_error hb] at h
    cases h

/-- What is stored on a copy is put into the names that are there, or behind them. -/
theorem store_extends {field value : Value} {r : Text} (hc : copy.Extends t)
    (h : store marker field value ⟨.editable copy, ws⟩ = .ok r d') :
    ∃ copy' ws', d' = ⟨.editable copy', ws'⟩ ∧ copy'.Extends t := by
  rcases store_cases marker field value copy ws with ⟨f, -, -, hs⟩ | hs
  · rw [hs] at h
    rcases storeText_cases marker f (Text.strip value.shown) copy ws with
      ⟨c, s, ws', hr, hcase⟩ | ⟨e, hr⟩
    · rw [hr] at h
      cases h
      refine ⟨_, ws', rfl, Tag.Extends.setText ?_ f r⟩
      rcases hcase with rfl | ⟨s, rfl⟩
      · exact hc
      · exact hc.setText .comment s
    · rw [hr] at h
      cases h
  · rw [hs] at h
    cases h

theorem storeEach_extends {ks : List Capture} (hc : copy.Extends t)
    (h : storeEach marker ks ⟨.editable copy, ws⟩ = .ok () d') :
    ∃ copy' ws', d' = ⟨.editable copy', ws'⟩ ∧ copy'.Extends t := by
  induction ks generalizing copy ws with
  | nil =>
    cases h
    exact ⟨copy, ws, rfl, hc⟩
  | cons k ks ih =>
    obtain ⟨r, d₁, hs, hrest⟩ := bind_eq_ok_iff.1 h
    obtain ⟨copy₁, ws₁, rfl, hc₁⟩ := store_extends hc hs
    exact ih hc₁ hrest

/-! ## Outcomes -/

/-- An extraction that fails leaves the subject as it was. -/
theorem extract_error_subject {marker source pattern mode weed : Value} {e : Failure}
    (h : extract marker source pattern mode weed d = .error e d') : d'.subject = d.subject := by
  rcases extract_cases marker source pattern mode weed d with
    ⟨e', he⟩ | ⟨t, w, m, p, name, -, -, he⟩
  · rw [he] at h
    cases h
    rfl
  · rw [he, onCopy] at h
    split at h
    · split at h <;> cases h
    · cases h
      rfl

/-- A reading that succeeds on a copy of a tag whose names are distinct leaves the copy. -/
theorem onCopy_readAlong_of_ok {c : Conversion} {ts : List Token} {name : Text} {n : Nat}
    (ht : t.keys.Nodup) (h : readAlong c ts name none [] ⟨.editable t, ws⟩ = .ok n d') :
    onCopy (readAlong c ts name none []) ⟨.editable t, ws⟩ = .ok n d' := by
  obtain ⟨captures, -, hst, -⟩ := readAlong_eq_ok_iff.1 h
  obtain ⟨copy, ws', rfl, hc⟩ := storeEach_extends (Tag.Extends.refl ht) hst
  rw [onCopy_of_ok h, Tag.update_eq_of_extends hc]

/-- A reading on a copy of a tag whose names are distinct leaves what storing the captures does. -/
theorem onCopy_readAlong_eq_ok_iff {c : Conversion} {ts : List Token} {name : Text} {n : Nat}
    (ht : t.keys.Nodup) :
    onCopy (readAlong c ts name none []) ⟨.editable t, ws⟩ = .ok n d' ↔
      ∃ captures, Pattern.read? ts name none [] = some captures ∧
        storeEach c.marker (c.stores captures) ⟨.editable t, ws⟩ = .ok () d' ∧
        n = (c.stores captures).length := by
  rw [← readAlong_eq_ok_iff]
  constructor
  · intro h
    cases hr : readAlong c ts name none [] ⟨.editable t, ws⟩ with
    | ok m d₁ =>
      rw [onCopy_readAlong_of_ok ht hr] at h
      exact h
    | error e d₁ =>
      rw [onCopy_of_error hr] at h
      cases h
  · exact onCopy_readAlong_of_ok ht

end Edit

end NameTag
