import NameTag.Proofs.Extract.Outcome
import NameTag.Proofs.Session

/-!
# Updates are all or nothing

An update that fails leaves its subject as it was (`Edit.Atomic`). For a store this holds because
all that can fail comes before the first change: a track number cuts the comment only once the number
is accepted and the comment can be cut. An extraction stores on a copy, so that it may fail after any
number of texts was stored there. `Session.update_all_or_nothing` says both of the operations of a
session, whatever the subject, the arguments and the settings are.
-/

namespace NameTag

namespace Edit

variable {α : Type} {x : Edit α} {marker field value : Value} {t : Tag} {ws : List Warning}
  {d' : Draft} {s : Subject} {e : Failure}

/-- A failing run of the edit leaves the subject as it was. -/
def Atomic (x : Edit α) : Prop :=
  ∀ ⦃d e d'⦄, x d = .error e d' → d'.subject = d.subject

theorem Atomic.run (hx : Atomic x) (h : (x.run s).1.result = .error e) : (x.run s).2 = s := by
  rw [Edit.run] at h ⊢
  cases hrun : x ⟨s, []⟩ with
  | ok a d' =>
    rw [hrun] at h
    cases h
  | error e' d' => exact hx hrun

theorem atomic_store (marker field value : Value) : Atomic (store marker field value) := by
  rintro ⟨subject, ws⟩ e d' h
  cases subject with
  | editable t =>
    rcases store_cases marker field value t ws with ⟨f, -, -, hs⟩ | hs
    · rw [hs] at h
      rcases storeText_cases marker f (Text.strip value.shown) t ws with
        ⟨t', r, ws', hr, -⟩ | ⟨e', hr⟩
      · rw [hr] at h
        cases h
      · rw [hr] at h
        cases h
        rfl
    · rw [hs] at h
      cases h
      rfl
  | readOnly t =>
    cases h
    rfl
  | other v =>
    cases h
    rfl

theorem atomic_extract (marker source pattern mode weed : Value) :
    Atomic (extract marker source pattern mode weed) :=
  fun _ _ _ h => extract_error_subject h

/-! ## Success -/

/-- A store that succeeds leaves the text that it gives in the field. -/
theorem value_of_store {r : Text} (h : store marker field value ⟨s, ws⟩ = .ok r d') :
    ∃ f t, field = .text (Field.name f) ∧ d'.subject = .editable t ∧ t.value f = .text r := by
  cases s with
  | editable t =>
    rcases store_cases marker field value t ws with ⟨f, hf, -, hs⟩ | hs
    · rw [hs] at h
      rcases storeText_cases marker f (Text.strip value.shown) t ws with
        ⟨t', r', ws', hr, -⟩ | ⟨e, hr⟩
      · rw [hr] at h
        cases h
        exact ⟨f, _, hf, rfl, by rw [Tag.value_setText, if_pos rfl]⟩
      · rw [hr] at h
        cases h
    · rw [hs] at h
      cases h
  | readOnly t => cases h
  | other v => cases h

/-- An extraction that succeeds has stored every text that it counts. -/
theorem exists_storeEach_of_extract {source pattern mode weed : Value} {n : Nat}
    (ht : t.keys.Nodup)
    (h : extract marker source pattern mode weed ⟨.editable t, ws⟩ = .ok n d') :
    ∃ captures, storeEach marker captures ⟨.editable t, ws⟩ = .ok () d' ∧ n = captures.length := by
  rcases extract_cases marker source pattern mode weed ⟨.editable t, ws⟩ with
    ⟨e, he⟩ | ⟨t', w, m, p, name, -, -, he⟩
  · rw [he] at h
    cases h
  · rw [he, onCopy_readAlong_eq_ok_iff ht] at h
    obtain ⟨captures, -, hst, hn⟩ := h
    exact ⟨_, hst, hn⟩

end Edit

namespace Session

variable {α : Type} {s : Session} {subject : Subject}

/-- The operation reported a problem, or a fault ended it. -/
inductive Failed : Except Fault (Report α) → Prop
  | problem (p : Problem) (ws : List Warning) : Failed (.ok ⟨.error p, ws⟩)
  | fault (f : Fault) : Failed (.error f)

instance (r : Except Fault (Report α)) : Decidable (Failed r) :=
  match r with
  | .ok ⟨.ok _, _⟩ => .isFalse fun h => nomatch h
  | .ok ⟨.error p, ws⟩ => .isTrue (.problem p ws)
  | .error f => .isTrue (.fault f)

theorem exists_of_not_failed {r : Except Fault (Report α)} (h : ¬ Failed r) :
    ∃ a ws, r = .ok ⟨.ok a, ws⟩ := by
  obtain f | ⟨p | a, ws⟩ := r
  · exact absurd (.fault f) h
  · exact absurd (.problem p ws) h
  · exact ⟨a, ws, rfl⟩

theorem error_of_failed {o : Outcome α} (h : Failed (conclude o s).1) :
    ∃ e, o.result = .error e := by
  obtain ⟨result, warnings⟩ := o
  cases result with
  | ok a => cases h
  | error e => exact ⟨e, rfl⟩

theorem perform_of_failed {body : Value → Edit α} (hbody : ∀ marker, (body marker).Atomic)
    (h : Failed (perform body subject s).1.1) : (perform body subject s).1.2 = subject := by
  rw [perform_eq] at h
  obtain ⟨e, he⟩ := error_of_failed h
  exact (hbody s.settings.marker).run he

/-- A report of a result comes from a run that succeeds, and the subject is the one it leaves. -/
theorem run_of_perform {body : Value → Edit α} {a : α} {ws : List Warning}
    (h : (perform body subject s).1.1 = .ok ⟨.ok a, ws⟩) :
    body s.settings.marker ⟨subject, []⟩ = .ok a ⟨(perform body subject s).1.2, ws⟩ :=
  perform_eq_ok_iff.1 (Prod.ext h rfl)

/-- An update that reports a problem or ends in a fault leaves the subject as it was, whatever was
stored before it failed; this holds of the strict operations too. A store that succeeds leaves the
text that it gives in the field; an extraction that succeeds leaves every text that it counts. -/
theorem update_all_or_nothing (s : Session) (subject : Subject) :
    (∀ field value,
      (Failed (setField subject field value s).1.1 →
        (setField subject field value s).1.2 = subject) ∧
      ∀ r ws, (setField subject field value s).1.1 = .ok ⟨.ok r, ws⟩ →
        ∃ f t, field = .text (Field.name f) ∧
          (setField subject field value s).1.2 = .editable t ∧ t.value f = .text r) ∧
    (∀ source pattern mode weed,
      (Failed (parse subject source pattern mode weed s).1.1 →
        (parse subject source pattern mode weed s).1.2 = subject) ∧
      ∀ n ws t, subject = .editable t → t.keys.Nodup →
        (parse subject source pattern mode weed s).1.1 = .ok ⟨.ok n, ws⟩ →
        ∃ captures, n = captures.length ∧ (Edit.storeEach s.settings.marker captures).run subject =
          (⟨.ok (), ws⟩, (parse subject source pattern mode weed s).1.2)) ∧
    (∀ marker field value, (Edit.store marker field value).Atomic) ∧
    ∀ marker source pattern mode weed, (Edit.extract marker source pattern mode weed).Atomic := by
  refine ⟨fun field value => ?_, fun source pattern mode weed => ?_, Edit.atomic_store,
    Edit.atomic_extract⟩
  · rw [setField]
    refine ⟨fun h => ?_, fun r ws h => ?_⟩
    · exact perform_of_failed (fun marker => Edit.atomic_store marker field value) h
    · have hrun := run_of_perform h
      exact Edit.value_of_store hrun
  · rw [parse]
    refine ⟨fun h => ?_, fun n ws t ht hd h => ?_⟩
    · exact perform_of_failed (fun marker => Edit.atomic_extract marker source pattern mode weed) h
    · have hrun := run_of_perform h
      subst ht
      obtain ⟨captures, hst, hn⟩ := Edit.exists_storeEach_of_extract hd hrun
      exact ⟨captures, hn, Edit.run_eq_ok_iff.2 hst⟩

/-- A parse and a store that fail, and the same with another year. The year is refused after the title
was stored; the comment that is no text cannot be cut to make room for a track number. -/
theorem update_title_year :
    let subject := Subject.editable ⟨[("ALBUM".toList, .int 7), ("COMMENT".toList, .int 7)]⟩
    let pattern := Value.text "((TITLE)) - ((YEAR))".toList
    let refused := parse subject (.text "Song - MMIV".toList) pattern .null .null {}
    let parsed := parse subject (.text "Song - 2004".toList) pattern .null .null {}
    let numbered := setField subject (.text "TRACKNUM".toList) (.int 7) {}
    let dated := setField subject (.text "YEAR".toList) (.text "2004".toList) {}
    Failed refused.1.1 ∧ refused.1.2 = subject ∧ Failed numbered.1.1 ∧ numbered.1.2 = subject ∧
      (∃ t, dated.1.2 = .editable t ∧ t.value .year = .text "2004".toList) ∧
      ∃ captures ws, (Edit.storeEach .null captures).run subject = (⟨.ok (), ws⟩, parsed.1.2) := by
  intro subject pattern refused parsed numbered dated
  obtain ⟨hstore, hparse, -⟩ := update_all_or_nothing {} subject
  have hrefused : Failed refused.1.1 := by decide +kernel
  have hparsed : ¬ Failed parsed.1.1 := by decide +kernel
  have hnumbered : Failed numbered.1.1 := .fault .missingOperation
  have hdated : dated.1.1 = .ok ⟨.ok "2004".toList, []⟩ := rfl
  refine ⟨hrefused, (hparse _ _ _ _).1 hrefused, hnumbered, (hstore _ _).1 hnumbered, ?_, ?_⟩
  · obtain ⟨f, t, hf, ht, hvalue⟩ := (hstore _ _).2 _ _ hdated
    obtain rfl : Field.year = f := Field.name_injective (Value.text.inj hf)
    exact ⟨t, ht, hvalue⟩
  · obtain ⟨n, ws, hn⟩ := exists_of_not_failed hparsed
    obtain ⟨captures, -, hst⟩ := (hparse _ _ _ _).2 n ws _ rfl (by decide) hn
    exact ⟨captures, ws, hst⟩

end Session

end NameTag
