import NameTag.Proofs.TrackNumber.Conversion
import NameTag.Proofs.Render.Outcome
import NameTag.Proofs.Session
import NameTag.Proofs.Store

/-!
# Track numbers stored and rendered

A text is stored as track number exactly if it is digits, between blanks, that denote a number from
1 to 255 (`storesNumber`, `refusesNumber`), and a track number of digits is rendered exactly if it is
below 1000 (`rendersNumber`). It is rendered as the one text of digits that has no more zeros in
front than two digits need (`IsPaddedDecimal.unique`). What is rendered of a number that was accepted
is accepted again and rendered as it is.
-/

namespace NameTag

namespace Text

variable {t s : Text} {n : Nat}

/-- Digits that denote a number between the bounds. -/
def NumberIn (low high : Nat) (t : Text) : Prop :=
  t ≠ [] ∧ t.Digits ∧ low ≤ t.decimalValue ∧ t.decimalValue ≤ high

instance (low high : Nat) (t : Text) : Decidable (t.NumberIn low high) :=
  inferInstanceAs (Decidable (_ ∧ _ ∧ _ ∧ _))

/-- A number in decimal: at least two digits, and a zero in front only of another one. -/
structure IsPaddedDecimal (n : Nat) (t : Text) : Prop where
  digits : t.Digits
  denotes : t.decimalValue = n
  two_le : 2 ≤ t.length
  head?_ne : 2 < t.length → t.head? ≠ some '0'

/-- Without a zero in front there are just as many digits as the number needs. -/
theorem IsPaddedDecimal.length_le (ht : t.IsPaddedDecimal n) (hs : s.IsPaddedDecimal n) :
    t.length ≤ s.length := by
  by_contra h
  have hlong : 2 < t.length := hs.two_le.trans_lt (Nat.lt_of_not_le h)
  have hne : t.head? ≠ some '0' := ht.head?_ne hlong
  cases t with
  | nil => simp at hlong
  | cons c t =>
    have hpow := pow_length_le_decimalValue (fun hc => hne (congrArg some hc)) ht.digits
    have hlt := decimalValue_lt hs.digits
    rw [ht.denotes] at hpow
    rw [hs.denotes] at hlt
    have := (Nat.pow_lt_pow_iff_right (by omega)).1 (hpow.trans_lt hlt)
    rw [List.length_cons] at h
    omega

/-- There is one way to write a number so. -/
theorem IsPaddedDecimal.unique (ht : t.IsPaddedDecimal n) (hs : s.IsPaddedDecimal n) : t = s :=
  eq_of_decimalValue_eq ht.digits hs.digits (Nat.le_antisymm (ht.length_le hs) (hs.length_le ht))
    (ht.denotes.trans hs.denotes.symm)

theorem isPaddedDecimal_ofNatPadded (n : Nat) : (ofNatPadded 2 n).IsPaddedDecimal n where
  digits := isAsciiDigit_ofNatPadded
  denotes := decimalValue_ofNatPadded
  two_le := by
    rw [ofNatPadded, List.length_append, List.length_replicate]
    omega
  head?_ne := by
    intro h
    rw [ofNatPadded, List.length_append, List.length_replicate] at h
    have hlong : 2 < (ofNat n).length := by omega
    rw [ofNatPadded, Nat.sub_eq_zero_of_le hlong.le]
    exact head?_ofNat_ne_zero (by omega)

end Text

/-- A track number is accepted by its digits. -/
theorem isTrackNumber_iff_numberIn {t : Text} : isTrackNumber t = true ↔ t.NumberIn 1 255 := by
  rw [isTrackNumber_iff]
  constructor
  · rintro ⟨hd, hlow, hhigh⟩
    refine ⟨?_, hd, hlow, hhigh⟩
    rintro rfl
    exact absurd hlow (by decide)
  · rintro ⟨-, h⟩
    exact h

/-- ASCII digits can be rendered exactly if they denote a number below 1000. -/
theorem renderTrackNumber?_of_digits {t : Text} (hne : t ≠ []) (hd : t.Digits) :
    renderTrackNumber? t =
      if t.decimalValue < 1000 then some (Text.ofNatPadded 2 t.decimalValue) else none := by
  have hdec : t.all isDecimalDigit = true :=
    List.all_eq_true.2 fun c hc => isDecimalDigit_of_isAsciiDigit (hd c hc)
  have hlen : 3 < (t.dropWhile (· == '0')).length ↔ ¬ t.decimalValue < 1000 := by
    constructor
    · intro h
      exact Nat.not_lt.2 (Text.le_decimalValue_of_length hd h)
    · intro h
      by_contra hle
      have hlt := Text.decimalValue_lt fun c (hc : c ∈ t.dropWhile (· == '0')) =>
        hd c (Text.mem_of_mem_dropWhile hc)
      have hpow := Nat.pow_le_pow_right (show 0 < 10 by decide) (Nat.le_of_not_lt hle)
      rw [Text.decimalValue_dropWhile_zero] at hlt
      omega
  simp only [renderTrackNumber?, List.isEmpty_eq_false_iff.2 hne, hdec, hlen,
    Text.decimalValue_dropWhile_zero]
  by_cases h : t.decimalValue < 1000 <;> simp [h]

/-! ## Storing -/

namespace Tag

/-- A comment that is there is a text. -/
def CommentIsText (t : Tag) : Prop :=
  (t.value .comment).isTrue = true → ∃ c, t.value .comment = .text c

end Tag

namespace Session

/-- Stored as track number of any tag, the text is kept as `stored`. -/
def StoresNumber (v stored : Text) : Prop :=
  ∀ (s : Session) (marker : Option Text) (t : Tag), s.settings.marker = .ofMarker marker →
    t.CommentIsText → ∃ after ws,
      (setField (.editable t) (.text "TRACKNUM".toList) (.text v) s).1 =
        (.ok ⟨.ok stored, ws⟩, .editable after) ∧ after.value .trackNumber = .text stored

/-- No tag takes the text as track number. -/
def RefusesNumber (v : Text) : Prop :=
  ∀ (s : Session) (t : Tag),
    (setField (.editable t) (.text "TRACKNUM".toList) (.text v) s).1 =
      (.ok ⟨.error .trackNumberMalformed, []⟩, .editable t)

/-- A name that is just the track number `value` is rendered with this result. -/
def RendersNumber (value : Text) (result : Except Problem Text) : Prop :=
  ∀ (s : Session) (subject : Subject) (t : Tag) (mode : Value), subject.tag? = some t →
    t.fieldText .trackNumber = value → ∃ ws,
      (render subject (.text "((TRACKNUM))".toList) mode s).1 = .ok ⟨result, ws⟩

end Session

namespace Edit

variable {t : Tag} {ws : List Warning}

theorem shrinkComment_of_text (marker : Option Text) (h : t.CommentIsText) (ws : List Warning) :
    ∃ after ws', shrinkComment (.ofMarker marker) ⟨.editable t, ws⟩ =
      .ok () ⟨.editable after, ws'⟩ := by
  rw [shrinkComment, bind_of_ok (editable_run t ws)]
  by_cases hc : (t.value .comment).isTrue = true
  · obtain ⟨c, hv⟩ := h hc
    rw [hv] at hc
    simp only [hv, hc, if_true, Value.trimTo_ofMarker]
    rw [bind_of_ok (ofExcept_ok _ _), bind_of_ok (setField_run _ _)]
    split
    · exact ⟨_, _, rfl⟩
    · exact ⟨_, _, rfl⟩
  · exact ⟨t, ws, by simp [hc]⟩

theorem store_trackNumber (m : Value) (v : Text) :
    store m (.text "TRACKNUM".toList) (.text v) ⟨.editable t, ws⟩ =
      storeText m .trackNumber (Text.strip v) ⟨.editable t, ws⟩ :=
  store_name m .trackNumber v

end Edit

namespace Session

variable {v value : Text}

theorem storesNumber (h : isTrackNumber (Text.strip v) = true) : StoresNumber v (Text.strip v) := by
  intro s marker t hmarker hcomment
  obtain ⟨after, ws, hshrink⟩ := Edit.shrinkComment_of_text marker hcomment []
  refine ⟨after.setText .trackNumber (Text.strip v), ws, ?_, ?_⟩
  · refine perform_eq_ok_iff.2 ?_
    rw [hmarker, Edit.store_trackNumber]
    simp [Edit.storeText, h, hshrink]
  · rw [Tag.value_setText, if_pos rfl]

theorem refusesNumber (h : isTrackNumber (Text.strip v) = false) : RefusesNumber v := by
  intro s t
  have hrun : Edit.store s.settings.marker (.text "TRACKNUM".toList) (.text v) ⟨.editable t, []⟩ =
      .error (.problem .trackNumberMalformed) ⟨.editable t, []⟩ := by
    rw [Edit.store_trackNumber]
    simp [Edit.storeText, h]
  rw [setField, perform_run, Edit.run_eq_error_iff.2 hrun]
  rfl

/-! ## Rendering a track number -/

theorem tokens_trackNumber :
    Pattern.tokens "((TRACKNUM))".toList = [.placeholder "TRACKNUM".toList] := by
  decide +kernel

theorem fields_trackNumber : Pattern.fields "((TRACKNUM))".toList = [.trackNumber] := by
  rw [Pattern.fields, tokens_trackNumber]
  rfl

theorem nameOf_trackNumber (t : Tag) :
    Edit.nameOf t "((TRACKNUM))".toList = rendered t.fieldText .trackNumber := by
  rw [Edit.nameOf, tokens_trackNumber, List.flatMap_singleton, Pattern.replaced]
  exact Pattern.valueOr_name _ .trackNumber

theorem inCase_digits (hd : value.Digits) (mode : Value) :
    (Value.inCase (.text value) mode).1 = .ok (.text value) := by
  cases mode with
  | null => rfl
  | _ =>
    simp only [Value.inCase]
    split
    · rfl
    · rw [Text.inCase_of_digits hd]

theorem rendersNumber (hne : value ≠ []) (hd : value.Digits) :
    RendersNumber value
      (if value.decimalValue < 1000 then .ok (Text.ofNatPadded 2 value.decimalValue)
      else .error (.trackNumberUnrenderable value)) := by
  rintro s subject t mode htag rfl
  have hnumber := renderTrackNumber?_of_digits hne hd
  rw [render_run]
  split_ifs with hlt
  · have hrenderable : Edit.Renderable t (Pattern.fields "((TRACKNUM))".toList) := by
      intro _ _
      rw [hnumber, if_pos hlt]
      exact Option.some_ne_none _
    have hempty : Edit.usedEmpty t (Pattern.fields "((TRACKNUM))".toList) Field.all = [] := by
      rw [fields_trackNumber, Edit.usedEmpty, List.filter_eq_nil_iff]
      intro f _ hf
      obtain ⟨hused, he⟩ := of_decide_eq_true hf
      exact hne (List.mem_singleton.1 hused ▸ he)
    obtain ⟨name, hname, hrun⟩ := Edit.render_of_renderable htag hrenderable mode []
    rw [if_pos hempty] at hrun
    rw [nameOf_trackNumber, rendered, if_pos ⟨rfl, hne⟩,
      inCase_digits Text.isAsciiDigit_ofNatPadded] at hname
    cases hname
    rw [Edit.run_eq_ok_iff.2 hrun]
    exact ⟨_, rfl⟩
  · have hnot : ¬ Edit.Renderable t (Pattern.fields "((TRACKNUM))".toList) := by
      intro h
      refine h ?_ hne ?_
      · rw [fields_trackNumber]
        exact List.mem_singleton_self _
      · rw [hnumber, if_neg hlt]
    obtain ⟨ws, hrun⟩ := Edit.render_of_not_renderable htag hnot mode []
    rw [Edit.run_eq_error_iff.2 hrun]
    exact ⟨ws, rfl⟩

theorem rendersNumber_of_lt (hne : value ≠ []) (hd : value.Digits) (h : value.decimalValue < 1000) :
    RendersNumber value (.ok (Text.ofNatPadded 2 value.decimalValue)) := by
  have hrender := rendersNumber hne hd
  rwa [if_pos h] at hrender

/-! ## In and out again -/

/-- A number from 1 to 255 is accepted again in the form in which it is rendered, which stays. -/
theorem stable_ofNatPadded {n : Nat} (hlow : 1 ≤ n) (hhigh : n ≤ 255) :
    StoresNumber (Text.ofNatPadded 2 n) (Text.ofNatPadded 2 n) ∧
      RendersNumber (Text.ofNatPadded 2 n) (.ok (Text.ofNatPadded 2 n)) := by
  have hd : (Text.ofNatPadded 2 n).Digits := Text.isAsciiDigit_ofNatPadded
  have hn : (Text.ofNatPadded 2 n).decimalValue = n := Text.decimalValue_ofNatPadded
  have hstrip := Text.strip_of_isAsciiDigit hd
  have htrack : isTrackNumber (Text.ofNatPadded 2 n) = true :=
    isTrackNumber_iff.2 ⟨hd, by rwa [hn], by rwa [hn]⟩
  have hne := (isTrackNumber_iff_numberIn.1 htrack).1
  constructor
  · have hstore := storesNumber (v := Text.ofNatPadded 2 n)
    rw [hstrip] at hstore
    exact hstore htrack
  · have hrender := rendersNumber_of_lt hne hd (by omega)
    rwa [hn] at hrender

/-- Storing a track number takes just the digits, between blanks, that denote a number from 1 to 255
and keeps them. Digits below 1000 are rendered in decimal with two digits or more, others are
refused. A number that was accepted comes out as a text that is accepted again, denotes the same
number and comes out as it is. No reader of integers is asked for more than three digits without
leading zeros: on the digits that the form of a track number captures, and on those that are
rendered, any that is right for three gives the same. -/
theorem trackNumber_stable :
    (∀ v, if (Text.strip v).NumberIn 1 255 then StoresNumber v (Text.strip v)
      else RefusesNumber v) ∧
    (∀ value : Text, value ≠ [] → value.Digits →
      if value.decimalValue < 1000 then
        ∃ number : Text, number.IsPaddedDecimal value.decimalValue ∧
          RendersNumber value (.ok number)
      else RendersNumber value (.error (.trackNumberUnrenderable value))) ∧
    (∀ v, (Text.strip v).NumberIn 1 255 →
      ∃ number : Text, RendersNumber (Text.strip v) (.ok number) ∧
        number.decimalValue = (Text.strip v).decimalValue ∧
        StoresNumber number number ∧ RendersNumber number (.ok number)) ∧
    Weed.Expr.read "0*([0-9]{1,3})".toList = .ok Text.numberForm ∧
    NumberReader.RightOnThree Text.readInteger ∧
    ∀ convert : NumberReader, convert.RightOnThree → ∀ t,
      isTrackNumberBy convert t = .ok (isTrackNumber t) ∧
        renderTrackNumberBy? convert t = .ok (renderTrackNumber? t) := by
  refine ⟨fun v => ?_, fun value hne hd => ?_, fun v h => ?_, Text.read_numberForm,
    rightOnThree_readInteger, fun convert h t => ?_⟩
  · split_ifs with h
    · exact storesNumber (isTrackNumber_iff_numberIn.2 h)
    · exact refusesNumber (Bool.eq_false_iff.2 fun ht => h (isTrackNumber_iff_numberIn.1 ht))
  · have hrender := rendersNumber hne hd
    split_ifs at hrender ⊢ with hlt
    · exact ⟨_, Text.isPaddedDecimal_ofNatPadded _, hrender⟩
    · exact hrender
  · obtain ⟨hne, hd, hlow, hhigh⟩ := h
    obtain ⟨hstore, hrender⟩ := stable_ofNatPadded hlow hhigh
    exact ⟨_, rendersNumber_of_lt hne hd (by omega), Text.decimalValue_ofNatPadded, hstore, hrender⟩
  · exact ⟨isTrackNumberBy_eq h t, renderTrackNumberBy?_eq h t⟩

/-- More zeros than a track number may have digits. -/
theorem trackNumber_stable_zeros :
    let v := " 0000000007 ".toList
    (∃ after ws, (setField (.editable .empty) (.text "TRACKNUM".toList) (.text v) {}).1 =
        (.ok ⟨.ok "0000000007".toList, ws⟩, .editable after) ∧
      after.value .trackNumber = .text "0000000007".toList) ∧
    RendersNumber "0000000007".toList (.ok "07".toList) ∧
    RendersNumber "01000".toList (.error (.trackNumberUnrenderable "01000".toList)) ∧
    isTrackNumberBy Text.readInteger v = .ok false := by
  intro v
  obtain ⟨hstore, hrender, -, -, hread, hconvert⟩ := trackNumber_stable
  have hstored := hstore v
  have hseven := hrender "0000000007".toList (by decide) (by decide)
  have hthousand := hrender "01000".toList (by decide) (by decide)
  rw [if_pos (by decide)] at hstored hseven
  rw [if_neg (by decide)] at hthousand
  obtain ⟨number, hnumber, hrendered⟩ := hseven
  have hpadded : "07".toList = number := (Text.isPaddedDecimal_ofNatPadded 7).unique hnumber
  refine ⟨hstored {} none .empty rfl ?_, hpadded ▸ hrendered, hthousand, ?_⟩
  · intro hc
    cases hc
  · rw [(hconvert Text.readInteger hread v).1]
    decide

end Session

end NameTag
