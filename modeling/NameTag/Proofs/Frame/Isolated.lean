import NameTag.Proofs.Frame.RoundTrip

/-!
# Each field by itself

A field is read from its own frames, of which the first text that is not blank counts (`rawText`). What
the tag holds in the end is said field by field in `ReadFrom`: of two fields only the comment depends on
the other, the track number. The order of the fields does not matter (`Edit.readFields_textsAfter`), and
a field whose text is refused is left as if it had no frames (`readFrames_isolated`).
-/

namespace NameTag

/-! ## The text of a field -/

/-- The texts of a frame, if they can be gone through. -/
def Frame.textList (f : Frame) : List Text :=
  f.items.toOption.getD []

/-- The first text that is not blank in the frames of a field, stripped; empty if there is none. -/
def rawText (frames : List Frame) (f : Field) : Text :=
  Text.strip (((frames.filter (·.id == f.frameId)).findSome? fun frame =>
    frame.textList.find? (Text.strip · ≠ [])).getD [])

variable {frames : List Frame} {f g : Field}

theorem strip_rawText (frames : List Frame) (f : Field) :
    Text.strip (rawText frames f) = rawText frames f :=
  Text.strip_strip _

theorem firstText?_eq (h : ∀ f ∈ frames, ∃ texts, f.items = .ok texts) :
    firstText? frames =
      .ok ((frames.findSome? fun f => f.textList.find? (Text.strip · ≠ [])).map Text.strip) := by
  induction frames with
  | nil => rfl
  | cons f frames ih =>
    obtain ⟨⟨texts, htexts⟩, hrest⟩ := List.forall_mem_cons.1 h
    have hlist : f.textList = texts := by
      rw [Frame.textList, htexts]
      rfl
    have hblank : (fun t => !(Text.strip t).isEmpty) = fun t => decide (Text.strip t ≠ []) := by
      funext t
      cases Text.strip t <;> rfl
    rw [firstText?_cons, htexts, List.findSome?_cons, hlist]
    simp only [hblank]
    cases texts.find? fun t => decide (Text.strip t ≠ []) with
    | some t => rfl
    | none => exact ih hrest

/-- The search through the frames of a field finds its text. -/
theorem firstText?_own (h : ∀ f ∈ frames, ∃ texts, f.items = .ok texts) (f : Field) :
    firstText? (frames.filter (·.id == f.frameId)) =
      .ok (if rawText frames f = [] then none else some (rawText frames f)) := by
  rw [firstText?_eq fun g hg => h g (List.mem_of_mem_filter hg), rawText]
  cases hfind : (frames.filter (·.id == f.frameId)).findSome? fun frame =>
      frame.textList.find? (Text.strip · ≠ []) with
  | none => rfl
  | some t =>
    obtain ⟨frame, -, ht⟩ := List.exists_of_findSome?_eq_some hfind
    have hne : Text.strip t ≠ [] := by simpa using List.find?_some ht
    rw [Option.getD_some, if_neg hne]
    rfl

/-- The frames of other fields do not matter. -/
theorem rawText_filter_of_ne (h : g ≠ f) :
    rawText (frames.filter (·.id != f.frameId)) g = rawText frames g := by
  have hid : (fun frame : Frame => (frame.id == g.frameId) && (frame.id != f.frameId)) =
      fun frame => frame.id == g.frameId := by
    funext frame
    by_cases hg : frame.id = g.frameId
    · have hf : g.frameId ≠ f.frameId := fun he => h (Field.frameId_injective he)
      simp [hg, hf]
    · simp [hg]
  rw [rawText, List.filter_filter, hid, rawText]

theorem rawText_filter_self : rawText (frames.filter (·.id != f.frameId)) f = [] := by
  have hid : (fun frame : Frame => (frame.id == f.frameId) && (frame.id != f.frameId)) =
      fun _ => false := by
    funext frame
    simp [bne]
  rw [rawText, List.filter_filter, hid, List.filter_false]
  rfl

/-! ## What a field takes -/

namespace Field

/-- What a field takes of its text; nothing of a text that it refuses. -/
def taken (f : Field) (raw : Text) : Text :=
  if f.accepts (Text.strip (f.partOf raw)) then Text.strip (f.partOf raw) else []

/-- The most characters that a field may hold beside this track number. -/
def limitBeside (f : Field) (number : Text) : Option Nat :=
  if f = .comment ∧ number ≠ [] then Tag.shortComment else f.maxLength

theorem taken_nil (f : Field) : f.taken [] = [] := by
  cases f <;> decide

theorem taken_of_bounded (hf : f ≠ .year ∧ f ≠ .trackNumber) (raw : Text) :
    f.taken raw = Text.strip raw := by
  rw [taken, if_pos (accepts_of_bounded hf _)]
  cases f <;> simp_all [partOf]

theorem strip_taken (f : Field) (raw : Text) : Text.strip (f.taken raw) = f.taken raw := by
  rw [taken]
  split
  · exact Text.strip_strip _
  · rfl

/-- A year or a track number is never empty. -/
theorem ne_nil_of_accepts {t : Text} (hf : f = .year ∨ f = .trackNumber)
    (h : f.accepts t = true) : t ≠ [] := by
  rintro rfl
  rcases hf with rfl | rfl <;> exact absurd h (by decide)

/-- A text that is there and accepted is taken. -/
theorem taken_ne_nil {raw : Text} (hs : Text.strip raw = raw) (hne : raw ≠ [])
    (h : f.accepts (Text.strip (f.partOf raw)) = true) : f.taken raw ≠ [] := by
  by_cases hf : f ≠ .year ∧ f ≠ .trackNumber
  · rwa [taken_of_bounded hf, hs]
  · rw [taken, if_pos h]
    exact ne_nil_of_accepts (year_or_trackNumber hf) h

/-- A year fits its field. -/
theorem trim_taken_year (raw : Text) :
    Text.trim (taken .year raw) (some 4) none = taken .year raw := by
  have hlength : ∀ n ∈ some 4, (taken .year raw).length ≤ n := by
    rintro n ⟨⟩
    rw [taken]
    split
    · next h => exact (isYear_iff.1 h).1.le
    · exact Nat.zero_le 4
  exact Text.trim_eq_self none (strip_taken .year raw) hlength

end Field

theorem Tag.Textual.limit_eq_limitBeside {t : Tag} (ht : t.Textual) (f : Field) :
    t.limit f = f.limitBeside (t.text .trackNumber) :=
  limit_eq ht f

/-! ## The texts that are read -/

variable {raw : Field → Text} {read : List Field}

/-- The track number once some fields are read. -/
def numberAfter (raw : Field → Text) (read : List Field) : Text :=
  if .trackNumber ∈ read then Field.taken .trackNumber (raw .trackNumber) else []

/-- The texts in the fields once some of them are read, in whatever order. -/
def textsAfter (raw : Field → Text) (read : List Field) (f : Field) : Text :=
  if f ∈ read then
    Text.trim (f.taken (raw f)) ((f.limitBeside (numberAfter raw read)).map Nat.cast) none
  else []

theorem textsAfter_trackNumber (raw : Field → Text) (read : List Field) :
    textsAfter raw read .trackNumber = numberAfter raw read := by
  rw [textsAfter, numberAfter]
  split
  · exact Field.strip_taken _ _
  · rfl

theorem numberAfter_cons_of_ne (h : f ≠ .trackNumber) :
    numberAfter raw (f :: read) = numberAfter raw read := by
  simp only [numberAfter, List.mem_cons, Ne.symm h, false_or]

/-- A field that takes nothing changes nothing. -/
theorem textsAfter_cons_of_empty (hf : f ∉ read) (h : f.taken (raw f) = []) :
    textsAfter raw (f :: read) = textsAfter raw read := by
  have hnumber : numberAfter raw (f :: read) = numberAfter raw read := by
    by_cases hn : f = .trackNumber
    · subst hn
      rw [numberAfter, if_pos List.mem_cons_self, numberAfter, if_neg hf, h]
    · exact numberAfter_cons_of_ne hn
  funext g
  rw [textsAfter, textsAfter, hnumber]
  by_cases hg : g = f
  · subst hg
    rw [if_pos List.mem_cons_self, if_neg hf, h]
    cases g.limitBeside (numberAfter raw read) <;> rfl
  · simp only [List.mem_cons, hg, false_or]

/-- A field other than the track number changes its own text only. -/
theorem textsAfter_cons_of_ne (h : f ≠ .trackNumber) :
    textsAfter raw (f :: read) = Function.update (textsAfter raw read) f
      (Text.trim (f.taken (raw f)) ((f.limitBeside (numberAfter raw read)).map Nat.cast) none) := by
  funext g
  rw [Function.update_apply, textsAfter, textsAfter, numberAfter_cons_of_ne h]
  by_cases hg : g = f
  · subst hg
    rw [if_pos List.mem_cons_self, if_pos rfl]
  · simp only [List.mem_cons, hg, false_or, if_false]

/-- A track number that is taken cuts the comment, if there is one already. -/
theorem textsAfter_cons_trackNumber (hf : .trackNumber ∉ read)
    (h : Field.taken .trackNumber (raw .trackNumber) ≠ []) :
    textsAfter raw (.trackNumber :: read) =
      Function.update
        (Function.update (textsAfter raw read) .comment
          (Text.trim (textsAfter raw read .comment) (Tag.shortComment.map Nat.cast) none))
        .trackNumber (Field.taken .trackNumber (raw .trackNumber)) := by
  have hbefore : numberAfter raw read = [] := if_neg hf
  have hafter : numberAfter raw (.trackNumber :: read) ≠ [] := by
    rw [numberAfter, if_pos List.mem_cons_self]
    exact h
  funext g
  rw [Function.update_apply, Function.update_apply]
  by_cases hn : g = .trackNumber
  · rw [if_pos hn, hn, textsAfter_trackNumber, numberAfter, if_pos List.mem_cons_self]
  · rw [if_neg hn]
    by_cases hc : g = .comment
    · subst hc
      have hlimit : Field.limitBeside .comment (numberAfter raw (.trackNumber :: read)) =
          Tag.shortComment := if_pos ⟨rfl, hafter⟩
      have hlong : Field.limitBeside .comment (numberAfter raw read) = some 30 :=
        if_neg fun hb => hb.2 hbefore
      rw [if_pos rfl, textsAfter, textsAfter, hlimit, hlong]
      simp only [List.mem_cons, hn, false_or]
      split
      · exact (Text.trim_trim_of_le _ (by rintro m ⟨⟩) (by rintro m ⟨⟩) (by decide)).symm
      · rfl
    · have hlimit : ∀ number, g.limitBeside number = g.maxLength :=
        fun number => if_neg fun hb => hc hb.1
      rw [if_neg hc, textsAfter, textsAfter, hlimit, hlimit]
      simp only [List.mem_cons, hn, false_or]

/-- Reading a text that the field accepts is storing it. -/
theorem put_textsAfter (hf : f ∉ read)
    (h : f.accepts (Text.strip (f.partOf (raw f))) = true) :
    (Tag.ofTexts (textsAfter raw read)).put none f (Text.strip (f.partOf (raw f))) =
      .ofTexts (textsAfter raw (f :: read)) := by
  have htaken : f.taken (raw f) = Text.strip (f.partOf (raw f)) := if_pos h
  by_cases hn : f = .trackNumber
  · subst hn
    have hne : Field.taken .trackNumber (raw .trackNumber) ≠ [] := by
      rw [htaken]
      exact Field.ne_nil_of_accepts (.inr rfl) h
    rw [textsAfter_cons_trackNumber hf hne, htaken, Tag.put, if_pos rfl, Tag.shortened_ofTexts,
      Tag.setText_ofTexts, Tag.shortenedComment_ofTexts]
    rfl
  · rw [textsAfter_cons_of_ne hn, htaken, Tag.put, if_neg hn, Tag.setText_ofTexts]
    by_cases hy : f = .year
    · subst hy
      have hkept := Field.trim_taken_year (raw .year)
      rw [htaken] at hkept
      exact congrArg (fun s => Tag.ofTexts (Function.update _ _ s)) hkept.symm
    · rw [Tag.kept_of_bounded ⟨hy, hn⟩, (Tag.textual_ofTexts _).limit_eq_limitBeside,
        Tag.text_ofTexts, textsAfter_trackNumber]

/-! ## Reading -/

/-- The warning for a text that is skipped. -/
def skipped (raw : Field → Text) (f : Field) : Warning :=
  .frameSkipped f.frameId (f.partOf (raw f)) f.refusal

/-- The text of the field is there and refused. -/
def Refused (raw : Field → Text) (f : Field) : Prop :=
  raw f ≠ [] ∧ f.taken (raw f) = []

instance (raw : Field → Text) (f : Field) : Decidable (Refused raw f) :=
  inferInstanceAs (Decidable (_ ∧ _))

/-- Whether a warning says that a frame was skipped. -/
def Warning.isSkip : Warning → Bool
  | .frameSkipped .. => true
  | _ => false

theorem filter_isSkip_putWarnings {marker : Option Text} {t : Tag} {s : Text} :
    (t.putWarnings marker f s).filter Warning.isSkip = [] := by
  rw [Tag.putWarnings]
  split <;> split <;> rfl

namespace Edit

variable {ws : List Warning}

/-- Reading a field into a tag of texts stores its text, skips it or, if there is none, does
nothing. -/
theorem readField_textual (marker : Option Text)
    (h : ∀ f ∈ frames, ∃ texts, f.items = .ok texts) (f : Field) {t : Tag} (ht : t.Textual)
    (ws : List Warning) :
    readField (.ofMarker marker) frames f ⟨.editable t, ws⟩ = .ok ()
      (if rawText frames f = [] then ⟨.editable t, ws⟩
      else if f.accepts (Text.strip (f.partOf (rawText frames f))) then
        ⟨.editable (t.put marker f (Text.strip (f.partOf (rawText frames f)))),
          ws ++ t.putWarnings marker f (Text.strip (f.partOf (rawText frames f)))⟩
      else ⟨.editable t, ws ++ [skipped (rawText frames) f]⟩) := by
  rw [readField_run, firstText?_own h]
  by_cases hraw : rawText frames f = []
  · rw [if_pos hraw, if_pos hraw]
  · rw [if_neg hraw, if_neg hraw]
    simp only [storeText_textual ht]
    by_cases hf : f.accepts (Text.strip (f.partOf (rawText frames f))) = true
    · rw [if_pos hf, if_pos hf]
    · rw [if_neg hf, if_neg hf]
      simp only [f.kind_refusal, if_true]
      rfl

/-- One field: its text is added to those that are read, and only a refused text is skipped. -/
theorem readField_textsAfter (h : ∀ f ∈ frames, ∃ texts, f.items = .ok texts) (hf : f ∉ read)
    (ws : List Warning) :
    ∃ more, readField .null frames f ⟨.editable (.ofTexts (textsAfter (rawText frames) read)), ws⟩ =
        .ok () ⟨.editable (.ofTexts (textsAfter (rawText frames) (f :: read))), ws ++ more⟩ ∧
      more.filter Warning.isSkip =
        if Refused (rawText frames) f then [skipped (rawText frames) f] else [] := by
  have hrun := readField_textual none h f
    (Tag.textual_ofTexts (textsAfter (rawText frames) read)) ws
  by_cases hraw : rawText frames f = []
  · have htaken : f.taken (rawText frames f) = [] := by rw [hraw, Field.taken_nil]
    rw [if_pos hraw] at hrun
    rw [textsAfter_cons_of_empty hf htaken, if_neg fun hr => hr.1 hraw]
    exact ⟨[], by rw [List.append_nil]; exact hrun, rfl⟩
  · rw [if_neg hraw] at hrun
    by_cases hacc : f.accepts (Text.strip (f.partOf (rawText frames f))) = true
    · rw [if_pos hacc, put_textsAfter hf hacc] at hrun
      have htaken := Field.taken_ne_nil (strip_rawText frames f) hraw hacc
      rw [if_neg fun hr => htaken hr.2]
      exact ⟨_, hrun, filter_isSkip_putWarnings⟩
    · have htaken : f.taken (rawText frames f) = [] := if_neg hacc
      rw [if_neg hacc] at hrun
      rw [textsAfter_cons_of_empty hf htaken, if_pos ⟨hraw, htaken⟩]
      exact ⟨_, hrun, rfl⟩

/-- Some fields, one after the other in any order. -/
theorem readFields_textsAfter (h : ∀ f ∈ frames, ∃ texts, f.items = .ok texts)
    {fields : List Field} (hfields : fields.Nodup) (hread : ∀ f ∈ fields, f ∉ read)
    (ws : List Warning) :
    ∃ more, readFields .null frames fields
        ⟨.editable (.ofTexts (textsAfter (rawText frames) read)), ws⟩ =
        .ok () ⟨.editable (.ofTexts (textsAfter (rawText frames) (fields.reverse ++ read))),
          ws ++ more⟩ ∧
      more.filter Warning.isSkip =
        (fields.filter (Refused (rawText frames) ·)).map (skipped (rawText frames)) := by
  induction fields generalizing read ws with
  | nil => exact ⟨[], by rw [List.append_nil]; rfl, rfl⟩
  | cons f fields ih =>
    obtain ⟨hf, hrest⟩ := List.forall_mem_cons.1 hread
    obtain ⟨hnot, hnodup⟩ := List.nodup_cons.1 hfields
    obtain ⟨first, hfirst, hskip⟩ := readField_textsAfter h hf ws
    have hlater : ∀ g ∈ fields, g ∉ f :: read := by
      intro g hg hmem
      rcases List.mem_cons.1 hmem with rfl | hmem
      · exact hnot hg
      · exact hrest g hg hmem
    obtain ⟨more, hmore, hskips⟩ := ih hnodup hlater (ws ++ first)
    refine ⟨first ++ more, ?_, ?_⟩
    · rw [readFields, bind_of_ok hfirst, hmore, List.reverse_cons, List.append_assoc,
        List.append_assoc]
      rfl
    · rw [List.filter_append, hskip, hskips, List.filter_cons]
      by_cases hr : Refused (rawText frames) f
      · simp [hr]
      · simp [hr]

end Edit

/-! ## The tag that is read -/

/-- The texts of a tag that is read from frames whose fields have these texts. -/
structure ReadFrom (raw v : Field → Text) : Prop where
  text : ∀ f ∈ [Field.title, .artist, .album], v f = Text.trim (raw f) (some 30) none
  genre : v .genre = raw .genre
  year : v .year =
    let four := Text.strip ((raw .year).take 4)
    if four.length = 4 ∧ four.all isAsciiDigit then four else []
  trackNumber : v .trackNumber =
    let number := Text.strip ((raw .trackNumber).takeWhile (· != '/'))
    if number.all isAsciiDigit ∧ 1 ≤ Text.decimalValue number ∧ Text.decimalValue number ≤ 255 then
      number
    else []
  comment : v .comment =
    Text.trim (raw .comment) (some (if v .trackNumber = [] then 30 else 28)) none

variable {v w : Field → Text} {other : Field → Text}

theorem textsAfter_of_mem (hf : f ∈ read) :
    textsAfter raw read f =
      Text.trim (f.taken (raw f)) ((f.limitBeside (numberAfter raw read)).map Nat.cast) none :=
  if_pos hf

theorem textsAfter_year (hread : .year ∈ read) :
    textsAfter raw read .year = Field.taken .year (raw .year) :=
  (textsAfter_of_mem hread).trans (Field.trim_taken_year _)

/-- Once all fields are read, each holds what its text is worth. -/
theorem readFrom_textsAfter (hraw : ∀ f, Text.strip (raw f) = raw f) (hread : ∀ f, f ∈ read) :
    ReadFrom raw (textsAfter raw read) where
  text := by
    intro f hf
    have hbound : f ≠ .year ∧ f ≠ .trackNumber := by
      revert hf
      cases f <;> decide
    have hlimit : f.limitBeside (numberAfter raw read) = some 30 := by
      revert hf
      cases f <;> simp [Field.limitBeside, Field.maxLength]
    rw [textsAfter_of_mem (hread f), Field.taken_of_bounded hbound, hlimit, Text.trim_strip]
    rfl
  genre := by
    rw [textsAfter_of_mem (hread _), Field.taken_of_bounded (by decide), hraw]
    exact hraw _
  year := by
    rw [textsAfter_year (hread _), Field.taken]
    simp only [Field.accepts, isYear_iff, ← List.all_eq_true]
    rfl
  trackNumber := by
    rw [textsAfter_trackNumber, numberAfter, if_pos (hread _), Field.taken]
    simp only [Field.accepts, isTrackNumber_iff, ← List.all_eq_true]
    rfl
  comment := by
    rw [textsAfter_of_mem (hread _), Field.taken_of_bounded (by decide), Text.trim_strip,
      textsAfter_trackNumber]
    by_cases hn : numberAfter raw read = []
    · rw [Field.limitBeside, if_neg fun hb => hb.2 hn, if_pos hn]
      rfl
    · rw [Field.limitBeside, if_pos ⟨rfl, hn⟩, if_neg hn]
      rfl

/-- A field without a text is left empty. -/
theorem ReadFrom.eq_nil (h : ReadFrom raw v) (hf : raw f = []) : v f = [] := by
  cases f with
  | title => rw [h.text _ (by decide), hf]; rfl
  | artist => rw [h.text _ (by decide), hf]; rfl
  | album => rw [h.text _ (by decide), hf]; rfl
  | year => rw [h.year, hf]; rfl
  | comment => rw [h.comment, hf]; split <;> rfl
  | trackNumber => rw [h.trackNumber, hf]; rfl
  | genre => rw [h.genre, hf]

/-- The text of a field that is left empty does not matter to the others. -/
theorem ReadFrom.eq_of_empty (h : ReadFrom raw v) (hw : ReadFrom other w) (hf : v f = [])
    (hnone : other f = []) (hother : ∀ g, g ≠ f → other g = raw g) : w = v := by
  have hempty : w f = v f := by rw [hf, hw.eq_nil hnone]
  have hnumber : w .trackNumber = v .trackNumber := by
    by_cases hn : .trackNumber = f
    · rw [hn, hempty]
    · rw [hw.trackNumber, h.trackNumber, hother _ hn]
  funext g
  by_cases hg : g = f
  · rw [hg, hempty]
  · have hraw := hother g hg
    cases g with
    | title => rw [hw.text _ (by decide), h.text _ (by decide), hraw]
    | artist => rw [hw.text _ (by decide), h.text _ (by decide), hraw]
    | album => rw [hw.text _ (by decide), h.text _ (by decide), hraw]
    | year => rw [hw.year, h.year, hraw]
    | comment => rw [hw.comment, h.comment, hraw, hnumber]
    | trackNumber => exact hnumber
    | genre => rw [hw.genre, h.genre, hraw]

/-- Only a year or a track number is ever refused. -/
theorem filter_refused (hraw : ∀ f, Text.strip (raw f) = raw f) :
    Field.all.filter (Refused raw ·) = [Field.year, .trackNumber].filter (Refused raw ·) := by
  have hbound : ∀ f : Field, f ≠ .year ∧ f ≠ .trackNumber → ¬ Refused raw f := by
    rintro f hf ⟨hne, htaken⟩
    rw [Field.taken_of_bounded hf, hraw] at htaken
    exact hne htaken
  have htitle := hbound .title (by decide)
  have hartist := hbound .artist (by decide)
  have halbum := hbound .album (by decide)
  have hcomment := hbound .comment (by decide)
  have hgenre := hbound .genre (by decide)
  simp [Field.all, List.filter_cons, htitle, hartist, halbum, hcomment, hgenre]

/-- Frames are read into the tag that their texts describe, and what is refused is skipped. -/
theorem exists_readFrom (h : ∀ frame ∈ frames, ∃ texts, frame.items = .ok texts) :
    ∃ v ws, readFrames .null (.frames frames) = ⟨.ok (.ofTexts v), ws⟩ ∧
      ReadFrom (rawText frames) v ∧
      ws.filter Warning.isSkip =
        ([Field.year, .trackNumber].filter fun f => decide (rawText frames f ≠ [] ∧ v f = [])).map
          (skipped (rawText frames)) := by
  have hfirst : ∀ f ∈ Field.all, f ∉ ([] : List Field) := fun _ _ => List.not_mem_nil
  obtain ⟨ws, hrun, hskips⟩ :=
    Edit.readFields_textsAfter h (show Field.all.Nodup by decide) hfirst []
  have hread : ∀ f, f ∈ Field.all.reverse ++ [] := by
    intro f
    rw [List.append_nil, List.mem_reverse]
    exact Field.mem_all f
  have hnumber : textsAfter (rawText frames) (Field.all.reverse ++ []) .trackNumber =
      Field.taken .trackNumber (rawText frames .trackNumber) := by
    rw [textsAfter_trackNumber, numberAfter, if_pos (hread _)]
  refine ⟨_, ws, readFrames_of_readFields hrun,
    readFrom_textsAfter (strip_rawText frames) hread, ?_⟩
  rw [hskips, filter_refused (strip_rawText frames)]
  refine congrArg (List.map _) (List.filter_congr fun f hf => ?_)
  rcases List.mem_cons.1 hf with rfl | hf
  · rw [textsAfter_year (hread _)]
    rfl
  · obtain rfl := List.mem_singleton.1 hf
    rw [hnumber]
    rfl

/-- Frames whose texts can be gone through are always read, each field from its own frames: into a tag
that holds nothing but the texts of `ReadFrom`, with one warning of a skipped frame for a year and for a
track number that is there and refused. A field that is left empty changes no other: without its frames
the same tag is read. -/
theorem readFrames_isolated (h : ∀ frame ∈ frames, ∃ texts, frame.items = .ok texts) :
    ∃ v ws, readFrames .null (.frames frames) = ⟨.ok (.ofTexts v), ws⟩ ∧
      ReadFrom (rawText frames) v ∧
      ws.filter Warning.isSkip =
        ([Field.year, .trackNumber].filter fun f => decide (rawText frames f ≠ [] ∧ v f = [])).map
          (fun f => .frameSkipped f.frameId (f.partOf (rawText frames f)) f.refusal) ∧
      ∀ f, v f = [] → ∃ ws',
        readFrames .null (.frames (frames.filter (·.id != f.frameId))) = ⟨.ok (.ofTexts v), ws'⟩ := by
  obtain ⟨v, ws, hrun, hv, hskips⟩ := exists_readFrom h
  refine ⟨v, ws, hrun, hv, hskips, fun f hf => ?_⟩
  have hothers : ∀ frame ∈ frames.filter (·.id != f.frameId), ∃ texts, frame.items = .ok texts :=
    fun frame hmem => h frame (List.mem_of_mem_filter hmem)
  obtain ⟨w, ws', hrun', hw, -⟩ := exists_readFrom hothers
  obtain rfl : w = v :=
    hv.eq_of_empty hw hf rawText_filter_self fun g hg => rawText_filter_of_ne hg
  exact ⟨ws', hrun'⟩

/-- Two comments after one of blanks, a track number that shortens the first of them, and a year that is
none. -/
theorem readFrames_isolated_comments :
    let long := List.replicate 29 'c'
    let frames : List Frame :=
      [⟨"COMM".toList, some (.list [.text "  ".toList]), [], []⟩,
        ⟨"COMM".toList, some (.list [.text [], .text long]), "eng".toList, []⟩,
        ⟨"COMM".toList, some (.list [.text "more".toList]), "deu".toList, []⟩,
        ⟨"TDRC".toList, some (.list [.text "84-05".toList]), [], []⟩,
        ⟨"TRCK".toList, some (.list [.text "7 /12".toList]), [], []⟩]
    ∃ v ws, readFrames .null (.frames frames) = ⟨.ok (.ofTexts v), ws⟩ ∧
      v .comment = long.tail ∧ v .trackNumber = "7".toList ∧ v .year = [] ∧
      ws.filter Warning.isSkip = [.frameSkipped "TDRC".toList "84-0".toList .yearMalformed] ∧
      ∃ ws', readFrames .null (.frames (frames.filter (·.id != Field.year.frameId))) =
        ⟨.ok (.ofTexts v), ws'⟩ := by
  intro long frames
  have hitems : ∀ frame ∈ frames, ∃ texts, frame.items = .ok texts := by
    intro frame hmem
    simp only [frames, List.mem_cons, List.not_mem_nil, or_false] at hmem
    rcases hmem with rfl | rfl | rfl | rfl | rfl <;> exact ⟨_, rfl⟩
  obtain ⟨v, ws, hrun, hv, hskips, hempty⟩ := readFrames_isolated hitems
  have hyear : v .year = [] := hv.year.trans (by decide)
  have hnumber : v .trackNumber = "7".toList := hv.trackNumber.trans (by decide)
  have hcomment : v .comment = long.tail := by
    rw [hv.comment, hnumber]
    decide
  have hraw : rawText frames .year = "84-05".toList := by decide
  rw [List.filter_cons, List.filter_singleton, hyear, hnumber, hraw] at hskips
  exact ⟨v, ws, hrun, hcomment, hnumber, hyear, hskips, hempty .year hyear⟩

end NameTag
