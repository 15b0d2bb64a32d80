import NameTag.Proofs.Batch.Independent
import NameTag.Proofs.Extract.Refusal
import NameTag.Proofs.Settings

/-!
# Batches under checked settings

Settings that the environment leaves have passed their check (`Settings.checked_of_load`). Under them
a batch with options that make sense gives a result for every name, however it is dispatched
(`Session.parseBatch_of_ready`): no name is refused for the configuration, and a name passes in the
batch exactly if it passes alone and without a case mode (`ParseOptions.passes`).
-/

namespace NameTag

/-! ## Settings -/

namespace Settings

variable {α β : Type} {s s' : Settings}

/-- What the check of settings establishes. -/
structure Checked (s : Settings) : Prop where
  mode : Edit.KnownMode s.defaultCase
  weed : s.defaultWeed = .null ∨ ∃ w, Weed.compile s.defaultWeed = .ok w
  marker : ∃ m, s.marker = .ofMarker m
  workers : isPositive s.maxWorkers = .ok true
  threshold : isPositive s.minParallel = .ok true

theorem exists_of_bind_eq_ok {r : Except Fault α} {g : α → Except Fault β} {b : β}
    (h : (r >>= g) = .ok b) : ∃ a, r = .ok a ∧ g a = .ok b := by
  cases r with
  | ok a => exact ⟨a, rfl, h⟩
  | error e => cases h

theorem eq_true_of_require {c : Bool} {why : BadValue} (h : require c why = .ok ()) : c = true := by
  cases c
  · cases h
  · rfl

theorem knownMode_of_checkCase (h : s.checkCase = .ok ()) : Edit.KnownMode s.defaultCase := by
  unfold checkCase at h
  split at h
  · next hnull => exact .inl hnull
  · exact .inr (eq_true_of_require h)

theorem weed_of_checkWeed (h : s.checkWeed = .ok ()) :
    s.defaultWeed = .null ∨ ∃ w, Weed.compile s.defaultWeed = .ok w := by
  unfold checkWeed at h
  split at h
  · next hnull => exact .inl hnull
  · split at h
    · next w hw => exact .inr ⟨w, hw⟩
    · cases h
    · cases h

theorem marker_of_checkMarker (h : s.checkMarker = .ok ()) : ∃ m, s.marker = .ofMarker m := by
  unfold checkMarker at h
  split at h
  · next hnull => exact ⟨none, hnull⟩
  · next m hm => exact ⟨some m, hm⟩
  · cases h

theorem checked_of_check (h : s.check = .ok ()) : s.Checked := by
  obtain ⟨_, hmode, h⟩ := exists_of_bind_eq_ok h
  obtain ⟨_, hweed, h⟩ := exists_of_bind_eq_ok h
  obtain ⟨_, hmarker, h⟩ := exists_of_bind_eq_ok h
  obtain ⟨_, -, h⟩ := exists_of_bind_eq_ok h
  obtain ⟨positive, hworkers, h⟩ := exists_of_bind_eq_ok h
  obtain ⟨_, hpositive, h⟩ := exists_of_bind_eq_ok h
  obtain ⟨positive', hthreshold, hpositive'⟩ := exists_of_bind_eq_ok h
  rw [eq_true_of_require hpositive] at hworkers
  rw [eq_true_of_require hpositive'] at hthreshold
  exact ⟨knownMode_of_checkCase hmode, weed_of_checkWeed hweed, marker_of_checkMarker hmarker,
    hworkers, hthreshold⟩

/-- The environment leaves settings that pass their check. -/
theorem checked_of_load {env : Environment} (h : load env s = .ok () s') : s'.Checked :=
  checked_of_check (read_of_load h).2

end Settings

/-! ## Items -/

theorem Summary.failed_ofItems_eq_zero_iff {items : List ParsedItem} :
    (ofItems items).failed = 0 ↔ ∀ a ∈ items, a.passed = true := by
  show items.length - items.countP (·.passed) = 0 ↔ _
  rw [Nat.sub_eq_zero_iff_le, ← List.countP_eq_length]
  exact ⟨List.countP_le_length.antisymm, fun h => h.ge⟩

theorem Tag.Extends.update {copy t : Tag} (h : copy.Extends t) (entries : List (Text × Value)) :
    (copy.update entries).Extends t := by
  induction entries generalizing copy with
  | nil => exact h
  | cons e entries ih => exact ih (h.set e.1 e.2)

/-- The tag that names start from has no name twice. -/
theorem Subject.IsBase.exists_nodup {base : Subject} (h : base.IsBase) :
    ∃ t, base.baseTag = .ok t ∧ t.HoldsTexts ∧ t.keys.Nodup := by
  obtain ⟨t, ht, htexts⟩ := h.exists_baseTag
  refine ⟨t, ht, htexts, ?_⟩
  have hempty : Tag.empty.Extends Tag.empty := .refl Tag.nodup_keys_empty
  cases base with
  | editable u =>
    cases ht
    exact (hempty.update u.entries).nodup
  | readOnly u =>
    cases ht
    exact (hempty.update u.entries).nodup
  | other v =>
    have hv : v.isTrue = false := h
    rw [Subject.baseTag, hv] at ht
    cases ht
    exact Tag.nodup_keys_empty

namespace ParseOptions

/-- The mode is known or none, the weed compiles or there is none, and the base holds texts. -/
structure Ready (o : ParseOptions) : Prop where
  mode : Edit.KnownMode o.mode
  weed : o.weed = .null ∨ ∃ w, Weed.compile o.weed = .ok w
  base : o.base.IsBase

/-- Whether a name passes alone and without a case mode. -/
def passes (o : ParseOptions) (settings : Settings) (name : Text) : Bool :=
  match ((Session.parseItem { o with mode := .null } (.text name)).run { settings := settings }).1 with
  | .ok item => item.passed
  | .error _ => false

variable {o : ParseOptions}

theorem Ready.weed_ne_fault (h : o.Ready) (f : Fault) : Weed.compile o.weed ≠ .error (.fault f) := by
  rcases h.weed with hnull | ⟨w, hw⟩
  · rw [hnull]
    intro he
    cases he
  · rw [hw]
    intro he
    cases he

end ParseOptions

namespace Edit

/-- The reports of two edits that run alike pass or fail together. -/
theorem RunAlikeFrom.passed_eq {free : List Field} {t : Tag} {x y : Edit Nat}
    (h : RunAlikeFrom free t [] x y) {r r' : Report Nat}
    (hr : (x.run (.editable t)).1.report = .ok r) (hr' : (y.run (.editable t)).1.report = .ok r') :
    r.passed = r'.passed := by
  rcases h with ⟨n, t₁, t₂, ws₁, ws₂, hx, hy, -⟩ | ⟨e, ws₁, ws₂, hx, hy⟩
  · rw [run_eq_ok_iff.2 hx] at hr
    rw [run_eq_ok_iff.2 hy] at hr'
    cases hr
    cases hr'
    rfl
  · rw [run_eq_error_iff.2 hx] at hr
    rw [run_eq_error_iff.2 hy] at hr'
    cases e with
    | problem p =>
      cases hr
      cases hr'
      rfl
    | fault f => cases hr

/-- The problem of an edit that is never one of the configuration. -/
theorem Unconfigured.report {x : Edit Nat} (hx : x.Unconfigured) {s : Subject} {r : Report Nat}
    (hr : (x.run s).1.report = .ok r) : ∀ problem ∈ r.problem?, problem.kind ≠ .configuration := by
  intro problem hp
  rw [Edit.run] at hr
  cases hrun : x ⟨s, []⟩ with
  | ok a d =>
    rw [hrun] at hr
    cases hr
    cases hp
  | error e d =>
    rw [hrun] at hr
    cases e with
    | problem p =>
      cases hr
      cases hp
      exact hx hrun
    | fault f => cases hr

end Edit

namespace Session

variable {o : ParseOptions}

/-- An item gives a result whatever the session, is not refused for the configuration, and passes if
its name passes alone and without a mode. -/
theorem exists_item (ho : o.Ready) (marker : Option Text) (name : Text) :
    ∃ a : ParsedItem, Gives (.ofMarker marker) (parseItem o) ParsedItem.report (.text name) a ∧
      (∀ problem ∈ a.report.problem?, problem.kind ≠ .configuration) ∧
      ∀ settings : Settings, settings.marker = .ofMarker marker →
        a.passed = o.passes settings name := by
  obtain ⟨source, hsource⟩ := o.exists_source name
  obtain ⟨t, ht, htexts, hkeys⟩ := ho.base.exists_nodup
  obtain ⟨report, hreport⟩ :=
    (Edit.faultless_extract marker ho.weed_ne_fault source o.pattern o.mode).exists_report htexts
  obtain ⟨plain, hplain⟩ :=
    (Edit.faultless_extract marker ho.weed_ne_fault source o.pattern .null).exists_report htexts
  refine ⟨_, fun s hs => parseItem_of_report hsource ht hreport hs,
    (Edit.unconfigured_extract _ _ _ ho.mode ho.weed).report hreport, fun settings hm => ?_⟩
  have halike := Edit.runAlikeFrom_extract marker htexts.textual hkeys ho.mode (.inl rfl)
    source o.pattern o.weed []
  have hname : { o with mode := .null }.source (.text name) = .ok source := hsource
  have halone := parseItem_of_report hname ht hplain (s := { settings := settings }) hm
  rw [ParseOptions.passes, halone]
  exact halike.passed_eq hreport hplain

/-! ## Batches -/

theorem exists_runsParallel {s : Settings} (h : s.Checked) {maxWorkers : Value}
    (hm : maxWorkers = .null ∨ Settings.isPositive maxWorkers = .ok true) (useParallel : Value)
    (total : Nat) : ∃ parallel, runsParallel s total maxWorkers useParallel = .ok parallel := by
  have hleast : ∃ least, s.minParallel.number? = some least := by
    have hthreshold := h.threshold
    unfold Settings.isPositive at hthreshold
    split at hthreshold
    · next n hn => exact ⟨n, hn⟩
    · cases hthreshold
  obtain ⟨least, hleast⟩ := hleast
  have hworkers : Settings.isPositive (if maxWorkers.isTrue then maxWorkers else s.maxWorkers) =
      .ok true := by
    split
    · next htrue =>
      rcases hm with rfl | hpos
      · cases htrue
      · exact hpos
    · exact h.workers
  unfold runsParallel
  rw [hleast]
  by_cases hu : useParallel.isTrue = true
  · by_cases hfew : (total : Rat) < least ∨ maxWorkers.equalsInt 1 = true
    · exact ⟨false, by simp [hu, hfew]; rfl⟩
    · refine ⟨true, ?_⟩
      generalize (if maxWorkers.isTrue then maxWorkers else s.maxWorkers) = workers at hworkers ⊢
      simp only [hu, Bool.not_true, Bool.false_eq_true, if_false, Bool.or_eq_true,
        decide_eq_true_eq, if_neg hfew]
      cases workers with
      | null => rfl
      | _ => simp only [hworkers]; rfl
  · exact ⟨false, by simp [hu]; rfl⟩

/-- A batch whose options make sense gives a result for every name, whatever the dispatch. No name is
refused for the configuration, and none fails exactly if every name passes alone. -/
theorem parseBatch_of_ready (ho : o.Ready) {s : Session} {marker : Option Text}
    (hs : s.settings.marker = .ofMarker marker) {names : List Text}
    {maxWorkers useParallel : Value} {parallel : Bool}
    (hd : runsParallel s.settings names.length maxWorkers useParallel = .ok parallel) :
    ∃ summary, ((parseBatch o (.list (names.map .text)) maxWorkers useParallel).run s).1 =
        .ok summary ∧
      (∀ item ∈ summary.results, ∀ problem ∈ item.report.problem?,
        problem.kind ≠ .configuration) ∧
      (summary.failed = 0 ↔ ∀ name ∈ names, o.passes s.settings name = true) := by
  choose item hgives hkind hpasses using exists_item ho marker
  have hitems : List.Forall₂ (Gives (.ofMarker marker) (parseItem o) ParsedItem.report)
      (names.map .text) (names.map item) := by
    rw [List.forall₂_map_left_iff, List.forall₂_map_right_iff, List.forall₂_same]
    exact fun name _ => hgives name
  have hlength : (names.map Value.text).length = names.length := List.length_map _
  rw [← hlength] at hd
  refine ⟨Summary.ofItems (names.map item), ?_, List.forall_mem_map.2 fun name _ => hkind name, ?_⟩
  · rw [parseBatch_run rfl, runItems_run_of_gives hitems hs hd]
    rfl
  · rw [Summary.failed_ofItems_eq_zero_iff, List.forall_mem_map]
    exact forall₂_congr fun name _ => by rw [hpasses name s.settings hs]

end Session

end NameTag
