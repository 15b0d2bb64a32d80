import NameTag.Proofs.Extract.Storing
import NameTag.Proofs.Frame.Timestamp
import NameTag.Proofs.Reachable
import NameTag.Proofs.Render
import NameTag.Proofs.StoreOrder

/-!
# From a tag to frames and back

A valid tag gives a frame for each text that is not empty, and reading the set of these frames gives
the tag again without a warning. Whatever frames of texts a tag is read from, it is stable in this
way from then on. Of the rules for frames this takes no more than `FrameRules.Lawful` says, and the
standard rules are lawful (`FrameRules.standard_lawful`).
-/

namespace NameTag

/-! ## Lawful rules -/

structure FrameRules.Lawful (rules : FrameRules) : Prop where
  /-- Frames with one key have one identifier; identifiers have four characters. -/
  id_of_key : ∀ {f g}, f.id.length = 4 → g.id.length = 4 → rules.key f = rules.key g → f.id = g.id
  /-- A frame takes the place of another only under its key. -/
  add_of_new : ∀ {f set}, rules.key f ∉ set.map rules.key → rules.add f set = set ++ [rules.kept f]
  /-- A frame that is no timestamp stays as it is. -/
  kept_of_ne : ∀ {f}, f.id ≠ Field.year.frameId → rules.kept f = f
  /-- A timestamp is printed from its parts; digits alone are one part. -/
  kept_timestamp : ∀ {t}, t ≠ [] → (∀ c ∈ t, isAsciiDigit c = true) → t.length ≤ maxIntegerDigits →
    rules.kept (.ofText Field.year.frameId t) =
      .ofText Field.year.frameId (Timestamp.write [(Text.decimalValue t : Int)])

theorem Frame.take_key {f : Frame} (h : f.id.length = 4) : f.key.take 4 = f.id := by
  rw [key]
  split
  · rw [List.append_assoc, ← h, List.take_left]
  · rw [← h, List.take_length]

theorem addFrame_of_not_mem {f : Frame} {set : List Frame} (h : f.key ∉ set.map Frame.key) :
    addFrame f set = set ++ [f.kept] := by
  induction set with
  | nil => rfl
  | cons g set ih =>
    rw [List.map_cons, List.mem_cons, not_or] at h
    rw [addFrame, if_neg (Ne.symm h.1), ih h.2, List.cons_append]

theorem FrameRules.standard_lawful : standard.Lawful where
  id_of_key hf hg h := by
    rw [← Frame.take_key hf, ← Frame.take_key hg]
    exact congrArg (List.take 4) h
  add_of_new := addFrame_of_not_mem
  kept_of_ne h := if_neg h
  kept_timestamp hne hd hlen := by
    simp [standard, Frame.kept, Frame.ofText, Value.shown, Timestamp.normalize_digits hd hne hlen]

/-! ## The frames of texts -/

/-- A frame for each text that is not empty, in the order of the fields. -/
def framesOf (v : Field → Text) : List Frame :=
  (Field.all.filter (v · ≠ [])).map fun f => Frame.ofText f.frameId (v f)

variable {rules : FrameRules} {v : Field → Text} {f : Field}

theorem Field.frameId_injective {f g : Field} (h : f.frameId = g.frameId) : f = g := by
  revert h
  cases f <;> cases g <;> decide

theorem Field.length_frameId (f : Field) : f.frameId.length = 4 := by
  cases f <;> rfl

namespace FrameRules.Lawful

theorem nodup_key_framesOf (hr : rules.Lawful) (v : Field → Text) :
    ((framesOf v).map rules.key).Nodup := by
  have hall : Field.all.Nodup := by decide
  rw [framesOf, List.map_map]
  refine List.Nodup.map_on (fun f _ g _ h => ?_) (hall.filter _)
  exact Field.frameId_injective (hr.id_of_key f.length_frameId g.length_frameId h)

/-- The frame of a valid text is kept as it is. -/
theorem kept_ofText (hr : rules.Lawful) (hv : ValidTexts v) (hne : v f ≠ []) :
    rules.kept (.ofText f.frameId (v f)) = .ofText f.frameId (v f) := by
  by_cases hf : f = .year
  · subst hf
    have hyear := hv.year_iff.resolve_left hne
    obtain ⟨hlen, hd⟩ := isYear_iff.1 hyear
    have hshort : (v .year).length ≤ maxIntegerDigits := by
      rw [hlen]
      decide
    rw [hr.kept_timestamp hne hd hshort, Timestamp.write_year hyear]
  · exact hr.kept_of_ne fun h => hf (Field.frameId_injective h)

/-- Frames that are kept as they are, and whose keys differ, are all added to a set. -/
theorem foldl_add (hr : rules.Lawful) {frames set : List Frame}
    (hkept : ∀ f ∈ frames, rules.kept f = f)
    (hkeys : (set.map rules.key ++ frames.map rules.key).Nodup) :
    frames.foldl (fun set f => rules.add f set) set = set ++ frames := by
  induction frames generalizing set with
  | nil => rw [List.foldl_nil, List.append_nil]
  | cons f frames ih =>
    obtain ⟨hf, hrest⟩ := List.forall_mem_cons.1 hkept
    have hnew : rules.key f ∉ set.map rules.key := by
      rw [List.nodup_append] at hkeys
      exact fun hmem => hkeys.2.2 _ hmem _ List.mem_cons_self rfl
    rw [List.foldl_cons, hr.add_of_new hnew, hf, ih hrest (by simpa using hkeys), List.append_assoc]
    rfl

theorem set_framesOf (hr : rules.Lawful) (hv : ValidTexts v) :
    rules.set (framesOf v) = framesOf v := by
  refine hr.foldl_add (fun g hg => ?_) (hr.nodup_key_framesOf v)
  obtain ⟨f, hf, rfl⟩ := List.mem_map.1 hg
  exact hr.kept_ofText hv (by simpa using (List.mem_filter.1 hf).2)

/-- A valid tag gives the frames of its texts. -/
theorem buildFrames_eq (hr : rules.Lawful) {subject : Subject} {t : Tag}
    (hsubject : subject.tag? = some t) (ht : ∀ f, t.value f = .text (v f)) (hv : ValidTexts v)
    (hs : ∀ f, Text.strip (v f) = v f) : buildFrames rules subject = .ok (framesOf v) := by
  rw [buildFrames, hsubject, framesOf, ← List.filterMap_eq_map, List.filterMap_filter]
  refine congrArg Except.ok (List.filterMap_congr fun f _ => ?_)
  rw [Tag.frame?, Edit.fieldText_of_value (ht f) (hs f)]
  by_cases hne : v f = []
  · simp [hne]
  · simp [hne, hr.kept_ofText hv hne]

end FrameRules.Lawful

/-! ## Reading them back -/

theorem filter_framesOf (v : Field → Text) (f : Field) :
    (framesOf v).filter (·.id == f.frameId) =
      if v f = [] then [] else [Frame.ofText f.frameId (v f)] := by
  have hone : Field.all.filter (· == f) = [f] := by
    cases f <;> decide
  have hid : (fun g => ((·.id == f.frameId) ∘ fun g => Frame.ofText g.frameId (v g)) g &&
      decide (v g ≠ [])) = fun g => decide (v f ≠ []) && (g == f) := by
    funext g
    by_cases hg : g = f
    · simp [hg, Frame.ofText]
    · have hfield : (g == f) = false := beq_eq_false_iff_ne.2 hg
      have hframe : (g.frameId == f.frameId) = false :=
        beq_eq_false_iff_ne.2 fun h => hg (Field.frameId_injective h)
      simp [hfield, hframe, Frame.ofText]
  rw [framesOf, List.filter_map, List.filter_filter, hid]
  by_cases hv : v f = []
  · simp [hv]
  · simp [hv, hone]

/-- A field takes a valid text as it stands in a frame. -/
theorem partOf_eq_self (hv : ValidTexts v) (hne : v f ≠ []) : f.partOf (v f) = v f := by
  cases f with
  | trackNumber =>
    have hd := (hv.trackNumber.resolve_left hne).1
    refine List.takeWhile_eq_self_iff.2 fun c hc => ?_
    have hslash : c ≠ '/' := by
      rintro rfl
      exact absurd (hd _ hc) (by decide)
    simpa using hslash
  | year => exact List.take_of_length_le (Nat.le_of_eq (hv.year.resolve_left hne).1)
  | _ => rfl

theorem firstText?_cons (f : Frame) (rest : List Frame) :
    firstText? (f :: rest) =
      match f.items with
      | .error e => .error e
      | .ok texts =>
        match texts.find? fun t => !(Text.strip t).isEmpty with
        | some t => .ok (some (Text.strip t))
        | none => firstText? rest := by
  rw [firstText?]
  cases f.items <;> rfl

theorem firstText?_ofText {id s : Text} (hs : Text.strip s = s) (hne : s ≠ []) :
    firstText? [Frame.ofText id s] = .ok (some s) := by
  have hitems : (Frame.ofText id s).items = .ok [s] := rfl
  have hfind : [s].find? (fun t => !(Text.strip t).isEmpty) = some s := by
    simp [hs, hne]
  rw [firstText?_cons, hitems]
  simp only [hfind, hs]

namespace Edit

variable {frames : List Frame} {t : Tag} {ws : List Warning}

theorem readField_run (marker : Value) (frames : List Frame) (f : Field) (d : Draft) :
    readField marker frames f d =
      match firstText? (frames.filter (·.id == f.frameId)) with
      | .error e => .error (.fault e) d
      | .ok none => .ok () d
      | .ok (some raw) =>
        match storeText marker f (Text.strip (f.partOf raw)) d with
        | .ok _ d₁ => .ok () d₁
        | .error (.problem p) d₁ =>
          if p.kind = .validation then warn (.frameSkipped f.frameId (f.partOf raw) p) d₁
          else .error (.problem p) d₁
        | .error (.fault e) d₁ => .error (.fault e) d₁ := by
  rw [readField]
  rcases firstText? (frames.filter (·.id == f.frameId)) with e | (_ | raw)
  · rfl
  · rfl
  · rw [bind_of_ok (ofExcept_ok _ _)]
    simp only [tryCatch_run, discard_run]
    rcases storeText marker f (Text.strip (f.partOf raw)) d with ⟨a, d₁⟩ | ⟨p | e, d₁⟩
    · rfl
    · simp only
      split <;> rfl
    · rfl

/-- Reading the frame of a valid text puts the text into its field. -/
theorem readField_framesOf (marker : Option Text) (hv : ValidTexts v)
    (hs : ∀ f, Text.strip (v f) = v f) {u : Field → Text} (hu : ∀ f, u f = v f ∨ u f = [])
    (f : Field) :
    readField (.ofMarker marker) (framesOf v) f ⟨.editable (.ofTexts u), ws⟩ =
      .ok () ⟨.editable (.ofTexts (Function.update u f (v f))), ws⟩ := by
  rw [readField_run, filter_framesOf]
  by_cases hne : v f = []
  · have hsame : u f = v f := (hu f).elim id fun h => h.trans hne.symm
    rw [if_pos hne, ← hsame, Function.update_eq_self]
    rfl
  · rw [if_neg hne, firstText?_ofText (hs f) hne]
    simp only [partOf_eq_self hv hne, hs f]
    rw [storeText_valid hv hs hu hne]

theorem readFields_framesOf (marker : Option Text) (hv : ValidTexts v)
    (hs : ∀ f, Text.strip (v f) = v f) {u : Field → Text} (hu : ∀ f, u f = v f ∨ u f = [])
    (fields : List Field) :
    readFields (.ofMarker marker) (framesOf v) fields ⟨.editable (.ofTexts u), ws⟩ =
      .ok () ⟨.editable (.ofTexts fun f => if f ∈ fields then v f else u f), ws⟩ := by
  induction fields generalizing u with
  | nil => rfl
  | cons f fields ih =>
    have hlast : (fun g => if g ∈ fields then v g else Function.update u f (v f) g) =
        fun g => if g ∈ f :: fields then v g else u g := by
      funext g
      by_cases hg : g = f
      · rw [hg, Function.update_self, ite_self, if_pos List.mem_cons_self]
      · rw [Function.update_of_ne hg]
        simp only [List.mem_cons, hg, false_or]
    rw [readFields, bind_of_ok (readField_framesOf marker hv hs hu f),
      ih (Tag.eq_or_nil_update hu f), hlast]

end Edit

theorem readFrames_of_readFields {marker : Value} {frames : List Frame} {t : Tag}
    {ws : List Warning} (h : Edit.readFields marker frames Field.all ⟨.editable .empty, []⟩ =
      .ok () ⟨.editable t, ws⟩) : readFrames marker (.frames frames) = ⟨.ok t, ws⟩ := by
  have hrun : (do Edit.readFields marker frames Field.all; Edit.editable).run (.editable .empty) =
      (⟨.ok t, ws⟩, .editable t) :=
    Edit.run_eq_ok_iff.2 (by rw [bind_of_ok h, Edit.editable_run])
  exact congrArg Prod.fst hrun

/-- The frames of valid texts are read as these texts, without a warning. -/
theorem readFrames_framesOf (marker : Option Text) (hv : ValidTexts v)
    (hs : ∀ f, Text.strip (v f) = v f) :
    readFrames (.ofMarker marker) (.frames (framesOf v)) = ⟨.ok (.ofTexts v), []⟩ := by
  have hread : Edit.readFields (.ofMarker marker) (framesOf v) Field.all
      ⟨.editable (.ofTexts fun _ => []), []⟩ = _ :=
    Edit.readFields_framesOf marker hv hs (fun _ => .inr rfl) Field.all
  simp only [Field.mem_all, if_true] at hread
  exact readFrames_of_readFields hread

/-! ## Any frames -/

theorem firstText?_total {frames : List Frame} (h : ∀ f ∈ frames, ∃ texts, f.items = .ok texts) :
    ∃ first, firstText? frames = .ok first := by
  induction frames with
  | nil => exact ⟨none, rfl⟩
  | cons f frames ih =>
    obtain ⟨⟨texts, htexts⟩, hrest⟩ := List.forall_mem_cons.1 h
    rw [firstText?_cons, htexts]
    simp only
    split
    · exact ⟨_, rfl⟩
    · exact ih hrest

theorem Field.kind_refusal (f : Field) : f.refusal.kind = .validation := by
  cases f <;> rfl

namespace Edit

/-- A text that its field does not accept is skipped. -/
theorem readField_total (marker : Option Text) {frames : List Frame}
    (h : ∀ f ∈ frames, ∃ texts, f.items = .ok texts) (f : Field) {t : Tag} (ht : t.Textual)
    (ws : List Warning) :
    ∃ t' ws', readField (.ofMarker marker) frames f ⟨.editable t, ws⟩ =
      .ok () ⟨.editable t', ws'⟩ ∧ t'.Textual := by
  have hown : ∀ g ∈ frames.filter (·.id == f.frameId), ∃ texts, g.items = .ok texts :=
    fun g hg => h g (List.mem_of_mem_filter hg)
  obtain ⟨first, hfirst⟩ := firstText?_total hown
  rw [readField_run, hfirst]
  cases first with
  | none => exact ⟨t, ws, rfl, ht⟩
  | some raw =>
    simp only [storeText_textual ht]
    by_cases ha : f.accepts (Text.strip (f.partOf raw)) = true
    · rw [if_pos ha]
      exact ⟨_, _, rfl, ht.put f _⟩
    · rw [if_neg ha]
      simp only [f.kind_refusal, if_true, warn_run]
      exact ⟨t, _, rfl, ht⟩

theorem readFields_total (marker : Option Text) {frames : List Frame}
    (h : ∀ f ∈ frames, ∃ texts, f.items = .ok texts) (fields : List Field) {t : Tag}
    (ht : t.Textual) (ws : List Warning) :
    ∃ t' ws', readFields (.ofMarker marker) frames fields ⟨.editable t, ws⟩ =
      .ok () ⟨.editable t', ws'⟩ ∧ t'.Textual := by
  induction fields generalizing t ws with
  | nil => exact ⟨t, ws, rfl, ht⟩
  | cons f fields ih =>
    obtain ⟨t₁, ws₁, hread, ht₁⟩ := readField_total marker h f ht ws
    rw [readFields, bind_of_ok hread]
    exact ih ht₁ ws₁

end Edit

theorem exists_readFrames (marker : Option Text) {frames : List Frame}
    (h : ∀ f ∈ frames, ∃ texts, f.items = .ok texts) :
    ∃ t ws, readFrames (.ofMarker marker) (.frames frames) = ⟨.ok t, ws⟩ := by
  obtain ⟨t, ws, hread, -⟩ := Edit.readFields_total marker h Field.all Tag.textual_empty []
  exact ⟨t, ws, readFrames_of_readFields hread⟩

/-! ## Sessions -/

namespace Session

variable {s : Session} {subject : Subject}

/-- A result without warnings leaves nothing in the session. -/
theorem conclude_ok {α : Type} (a : α) (s : Session) :
    conclude ⟨.ok a, []⟩ s = (.ok ⟨.ok a, []⟩, s) := by
  obtain ⟨settings, pending, lastProblem⟩ := s
  rw [conclude_run, Outcome.report, noted, note, List.append_nil]
  rfl

theorem tagFromFrames_framesOf {rules : FrameRules} (hr : rules.Lawful) {marker : Option Text}
    (hm : s.settings.marker = .ofMarker marker) (hv : ValidTexts v)
    (hs : ∀ f, Text.strip (v f) = v f) :
    tagFromFrames (.frames (rules.set (framesOf v))) s = (.ok ⟨.ok (.ofTexts v), []⟩, s) := by
  show conclude (readFrames s.settings.marker _) s = _
  rw [hm, hr.set_framesOf hv, readFrames_framesOf marker hv hs, conclude_ok]

theorem tagToFrames_eq {rules : FrameRules} (hr : rules.Lawful) {t : Tag}
    (hsubject : subject.tag? = some t) (ht : ∀ f, t.value f = .text (v f)) (hv : ValidTexts v)
    (hs : ∀ f, Text.strip (v f) = v f) (s : Session) :
    tagToFrames rules subject s = (.ok ⟨.ok (framesOf v), []⟩, s) := by
  rw [tagToFrames, hr.buildFrames_eq hsubject ht hv hs]
  exact conclude_ok (framesOf v) s

/-- Under lawful rules, a tag of valid texts without blanks around them gives a frame for each text
that is not empty, in the order of the fields and with keys that differ, and whatever the marker is,
reading the set of these frames gives the same values without a warning. Without a marker, this holds
of every tag that is read from frames whose texts can be gone through. -/
theorem frames_roundtrip {rules : FrameRules} (hr : rules.Lawful) :
    (∀ (marker : Option Text) (s : Session) (subject : Subject) (t : Tag) (v : Field → Text),
      s.settings.marker = .ofMarker marker → subject.tag? = some t → t.Agree (.ofTexts v) →
      ValidTexts v → (∀ f, Text.strip (v f) = v f) →
      tagToFrames rules subject s = (.ok ⟨.ok (framesOf v), []⟩, s) ∧
      ((framesOf v).map rules.key).Nodup ∧
      ∃ t', t'.Agree t ∧
        tagFromFrames (.frames (rules.set (framesOf v))) s = (.ok ⟨.ok t', []⟩, s)) ∧
    ∀ (s : Session) (frames : List Frame), s.settings.marker = .null →
      (∀ f ∈ frames, ∃ texts, f.items = .ok texts) →
      ∃ t ws s', tagFromFrames (.frames frames) s = (.ok ⟨.ok t, ws⟩, s') ∧
        ∃ built, tagToFrames rules (.editable t) s' = (.ok ⟨.ok built, []⟩, s') ∧
          tagFromFrames (.frames (rules.set built)) s' = (.ok ⟨.ok t, []⟩, s') := by
  constructor
  · intro marker s subject t v hm hsubject ht hv hs
    have hvalue : ∀ f, t.value f = .text (v f) := fun f => by
      rw [ht.value_eq, Tag.value_ofTexts]
    exact ⟨tagToFrames_eq hr hsubject hvalue hv hs s, hr.nodup_key_framesOf v,
      Tag.ofTexts v, ht.symm, tagFromFrames_framesOf hr hm hv hs⟩
  · intro s frames hm hframes
    obtain ⟨t, ws, hread⟩ := exists_readFrames none hframes
    have hproper : True → Text.ProperMarker none := by
      rintro - m hm
      cases hm
    obtain ⟨v, rfl, hv, hright⟩ := Edit.sound_readFrames hproper hread
    have hnone : s.settings.marker = .ofMarker none := hm
    have hs : ∀ f, Text.strip (v f) = v f :=
      fun f => Text.strip_eq_self_iff.2 ⟨hv.leftStripped f, hright trivial f⟩
    refine ⟨.ofTexts v, ws, s.note (⟨.ok (Tag.ofTexts v), ws⟩ : Report Tag), ?_, framesOf v, ?_, ?_⟩
    · show conclude (readFrames s.settings.marker _) s = _
      rw [hm]
      exact congrArg (conclude · s) hread
    · exact tagToFrames_eq hr rfl (Tag.value_ofTexts v) hv hs _
    · exact tagFromFrames_framesOf hr hnone hv hs

/-- Zeros at the beginning stay, and a comment may fill what the track number leaves of it. A year that
is none is skipped, and the number of tracks is dropped. -/
theorem frames_roundtrip_zeros :
    let v : Field → Text := fun
      | .year => "0000".toList
      | .comment => List.replicate 28 'c'
      | .trackNumber => "0000000007".toList
      | _ => []
    let found : List Frame := [⟨"TDRC".toList, some (.list [.text "84".toList]), [], []⟩,
      ⟨"TRCK".toList, some (.list [.text "7/12".toList]), [], []⟩]
    (∃ t', t'.Agree (.ofTexts v) ∧
      tagFromFrames (.frames (FrameRules.standard.set (framesOf v))) {} =
        (.ok ⟨.ok t', []⟩, {})) ∧
    ∃ t ws s', tagFromFrames (.frames found) {} = (.ok ⟨.ok t, ws⟩, s') ∧
      ∃ built, tagToFrames .standard (.editable t) s' = (.ok ⟨.ok built, []⟩, s') ∧
        tagFromFrames (.frames (FrameRules.standard.set built)) s' = (.ok ⟨.ok t, []⟩, s') := by
  intro v found
  have hs : ∀ f, Text.strip (v f) = v f := by
    intro f
    cases f <;> decide
  have hv : ValidTexts v :=
    ⟨by decide, by decide, .inr (isYear_iff.1 (by decide)), .inr (isTrackNumber_iff.1 (by decide)),
      fun f => (Text.strip_eq_self_iff.1 (hs f)).1⟩
  have hfound : ∀ f ∈ found, ∃ texts, f.items = .ok texts := by
    intro f hf
    rcases List.mem_cons.1 hf with rfl | hf
    · exact ⟨_, rfl⟩
    · obtain rfl := List.mem_singleton.1 hf
      exact ⟨_, rfl⟩
  obtain ⟨hvalid, hany⟩ := frames_roundtrip FrameRules.standard_lawful
  exact ⟨(hvalid none {} (.readOnly (.ofTexts v)) _ v rfl rfl (.refl _) hv hs).2.2,
    hany {} found rfl hfound⟩

end Session

end NameTag
