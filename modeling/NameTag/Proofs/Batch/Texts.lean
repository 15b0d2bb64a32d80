import NameTag.Proofs.Batch.Independent
import NameTag.Proofs.Reachable
import NameTag.Proofs.Value.Json
import NameTag.Summary

/-!
# Batches of texts

Stores put texts into a tag and nothing else. So a tag that holds only texts goes on to do so,
whatever is stored in it or extracted into it under whatever settings, and so do the tags of the
items of a batch (`Session.parseBatch_holdsTexts`).
-/

namespace NameTag

/-! ## Edits -/

namespace Edit

theorem holdsTexts_storeText (marker : Value) (f : Field) (s : Text) :
    Keeps Tag.HoldsTexts (storeText marker f s) := by
  constructor
  · rintro ⟨_, ws⟩ a d' ⟨t, rfl, ht⟩ h
    rcases storeText_cases marker f s t ws with ⟨t', r, ws', hrun, hset⟩ | ⟨e, hrun⟩
    · cases hrun.symm.trans h
      have ht' : t'.HoldsTexts := by
        rcases hset with rfl | ⟨c, rfl⟩
        · exact ht
        · exact ht.set Field.comment.name c
      exact ⟨_, rfl, ht'.set f.name _⟩
    · cases hrun.symm.trans h
  · rintro ⟨_, ws⟩ e d' ⟨t, rfl, ht⟩ h
    rcases storeText_cases marker f s t ws with ⟨t', r, ws', hrun, -⟩ | ⟨e, hrun⟩
    · cases hrun.symm.trans h
    · cases hrun.symm.trans h
      exact ⟨t, rfl, ht⟩

theorem holdsTexts_store (marker field value : Value) :
    Keeps Tag.HoldsTexts (store marker field value) :=
  (closed_keeps _).store (fun f v => holdsTexts_storeText marker f (Text.strip v)) field value

theorem holdsTexts_extract (marker source pattern mode weed : Value) :
    Keeps Tag.HoldsTexts (extract marker source pattern mode weed) :=
  (closed_keeps _).extract (fun f v => holdsTexts_storeText marker f (Text.strip v))
    (fun hbody => hbody.onCopy Tag.HoldsTexts.update) (fun e _ => keeps_throw e) source pattern mode

end Edit

/-! ## Items -/

/-- The name, what was read of it and the tag of the item are texts. -/
structure ParsedItem.HoldsTexts (item : ParsedItem) : Prop where
  name : ∃ t, item.name = .text t
  source : ∃ t, item.source = .text t
  tag : item.tag.HoldsTexts

namespace Session

variable {ι α : Type} {task : ι → Task α} {items : List ι} {s s' : Session}

theorem parse_holdsTexts {t : Tag} (ht : t.HoldsTexts) (source pattern mode weed : Value)
    (s : Session) :
    ∃ t', (parse (.editable t) source pattern mode weed s).1.2 = .editable t' ∧ t'.HoldsTexts := by
  rw [parse, perform_subject]
  exact (Edit.holdsTexts_extract _ source pattern mode weed).run ht

theorem parseItem_holdsTexts {o : ParseOptions} (hbase : o.base.IsBase) {name : Text}
    {item : ParsedItem} (h : (parseItem o (.text name)).run s = (.ok item, s')) :
    item.HoldsTexts := by
  obtain ⟨t, ht, htexts⟩ := hbase.exists_baseTag
  obtain ⟨source, hsource⟩ := o.exists_source name
  have hsource_text : ∃ t, source = .text t := by
    rw [ParseOptions.source] at hsource
    split at hsource
    · cases hsource
      exact ⟨_, rfl⟩
    · cases hsource
      exact ⟨_, rfl⟩
  obtain ⟨after, hafter, hholds⟩ := parse_holdsTexts htexts source o.pattern o.mode o.weed s
  rw [parseItem_run, hsource, ht] at h
  rcases hparse : parse (.editable t) source o.pattern o.mode o.weed s with
    ⟨⟨f | report, subject⟩, s₁⟩
  · simp only [hparse] at h
    cases h
  · rw [hparse] at hafter
    simp only [hparse] at h
    cases h
    subst hafter
    exact ⟨⟨name, rfl⟩, hsource_text, hholds⟩

/-! ## Runs of items -/

variable {R : α → Prop} {results : List α}

theorem forall_of_inSequence
    (hR : ∀ item ∈ items, ∀ {s a s'}, (task item).run s = (.ok a, s') → R a)
    (h : (inSequence task items).run s = (.ok results, s')) : ∀ a ∈ results, R a := by
  induction items generalizing s results with
  | nil =>
    cases h
    exact List.forall_mem_nil _
  | cons item items ih =>
    obtain ⟨hitem, hitems⟩ := List.forall_mem_cons.1 hR
    rw [inSequence_cons] at h
    rcases hfirst : (task item).run s with ⟨f | a, s₁⟩
    · rw [hfirst] at h
      cases h
    · rcases hrest : (inSequence task items).run s₁ with ⟨f | as, s₂⟩
      · simp only [hfirst, hrest] at h
        cases h
      · simp only [hfirst, hrest] at h
        cases h
        exact List.forall_mem_cons.2 ⟨hitem hfirst, ih hitems hrest⟩

theorem forall_of_inParallel
    (hR : ∀ item ∈ items, ∀ {s a s'}, (task item).run s = (.ok a, s') → R a)
    (h : (inParallel task items).run s = (.ok results, s')) : ∀ a ∈ results, R a := by
  induction items generalizing s results with
  | nil =>
    cases h
    exact List.forall_mem_nil _
  | cons item items ih =>
    obtain ⟨hitem, hitems⟩ := List.forall_mem_cons.1 hR
    rw [inParallel_cons] at h
    rcases hfirst : (task item).run { settings := s.settings } with ⟨f | a, s₁⟩
    · rw [hfirst] at h
      cases h
    · rcases hrest : (inParallel task items).run s with ⟨f | as, s₂⟩
      · simp only [hfirst, hrest] at h
        cases h
      · simp only [hfirst, hrest] at h
        cases h
        exact List.forall_mem_cons.2 ⟨hitem hfirst, ih hitems hrest⟩

/-- What holds of the result of every task holds of all results, however they are dispatched. -/
theorem forall_of_runItems {maxWorkers useParallel : Value}
    (hR : ∀ item ∈ items, ∀ {s a s'}, (task item).run s = (.ok a, s') → R a)
    (h : (runItems task items maxWorkers useParallel).run s = (.ok results, s')) :
    ∀ a ∈ results, R a := by
  rw [runItems_run] at h
  split at h
  · cases h
    exact List.forall_mem_nil _
  · split at h
    · cases h
    · exact forall_of_inParallel hR h
    · exact forall_of_inSequence hR h

/-- Every item of a batch of names holds texts, if the tag that they start from does. -/
theorem parseBatch_holdsTexts {o : ParseOptions} (hbase : o.base.IsBase) {names : List Text}
    {maxWorkers useParallel : Value} {summary : Summary ParsedItem}
    (h : (parseBatch o (.list (names.map .text)) maxWorkers useParallel).run s =
      (.ok summary, s')) : ∀ item ∈ summary.results, item.HoldsTexts := by
  rw [parseBatch_run rfl] at h
  rcases hrun : (runItems (parseItem o) (names.map .text) maxWorkers useParallel).run s with
    ⟨f | items, s₁⟩
  · rw [hrun] at h
    cases h
  · rw [hrun] at h
    cases h
    refine forall_of_runItems (fun name hname => ?_) hrun
    obtain ⟨t, -, rfl⟩ := List.mem_map.1 hname
    exact parseItem_holdsTexts hbase

end Session

/-! ## Results as values -/

theorem Value.RealFree.ofEntries {entries : List (String × Value)}
    (h : ∀ e ∈ entries, e.2.RealFree) : (Value.ofEntries entries).RealFree :=
  .record (List.forall_mem_map.2 h)

theorem Value.RealFree.ofOption {α : Type} {f : α → Value} (h : ∀ a, (f a).RealFree)
    (o : Option α) : (Value.ofOption f o).RealFree := by
  cases o with
  | none => exact .null
  | some a => exact h a

theorem Report.realFree_problemEntries {α : Type} (r : Report α) :
    ∀ e ∈ r.problemEntries, e.2.RealFree := by
  have hwarnings : ∀ v ∈ r.warnings.map fun w => Value.text w.message, v.RealFree :=
    List.forall_mem_map.2 fun w _ => .text w.message
  simp only [problemEntries, List.forall_mem_cons, List.not_mem_nil, false_implies, implies_true,
    and_true]
  exact ⟨.ofOption (fun p : Problem => .text p.message) _,
    .ofOption (fun p : Problem => .text p.kind.name) _, .list hwarnings⟩

/-- There is no real number in what is told of an item that holds texts. -/
theorem ParsedItem.HoldsTexts.realFree {item : ParsedItem} (h : item.HoldsTexts) :
    item.toValue.RealFree := by
  obtain ⟨⟨name, hname⟩, ⟨source, hsource⟩, htag⟩ := h
  have hentries : (if item.passed then Value.record item.tag.entries else .null).RealFree := by
    split
    · refine .record fun e he => ?_
      obtain ⟨t, ht⟩ := htag e he
      rw [ht]
      exact .text t
    · exact .null
  refine .ofEntries (List.forall_mem_append.2 ⟨?_, item.report.realFree_problemEntries⟩)
  simp only [List.forall_mem_cons, List.not_mem_nil, false_implies, implies_true, and_true]
  exact ⟨hname ▸ .text name, hsource ▸ .text source, .flag _, .int _, hentries⟩

theorem Summary.realFree {summary : Summary ParsedItem}
    (h : ∀ item ∈ summary.results, item.HoldsTexts) :
    (summary.toValue ParsedItem.toValue).RealFree := by
  refine .ofEntries ?_
  simp only [List.forall_mem_cons, List.not_mem_nil, false_implies, implies_true, and_true]
  exact ⟨.int _, .int _, .int _, .int _,
    .list (List.forall_mem_map.2 fun item hitem => (h item hitem).realFree)⟩

end NameTag
