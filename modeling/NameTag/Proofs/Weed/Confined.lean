import NameTag.Weed.Parser

/-!
# Readings inside a text

A reading of an expression moves through its text, and what it takes stands there. So where it ends in
a fault, the text holds what leads to it (`Culprit`). `Reading.Confined` says this of a reading,
together with what holds of the value that it gives; the lemmas here are about single signs and names.
-/

namespace NameTag.Weed

/-- What stands in an expression that is read up to a fault: a number that is too large or too long, a
code point of eight digits, or letters for two classes of characters. -/
inductive Culprit (t : Text) : Fault → Prop
  | repetitions {digits : Text} (h : digits <:+: t) (hd : ∀ c ∈ digits, isAsciiDigit c = true)
      (hn : Reading.maxRepeat ≤ Text.decimalValue digits) : Culprit t .overflow
  | longNumber {digits : Text} (h : digits <:+: t) (hd : ∀ c ∈ digits, isAsciiDigit c = true)
      (hn : maxIntegerDigits < digits.length) :
      Culprit t (.badValue (.integer (.tooLong digits.length)))
  | codePoint {digits : Text} (hU : ['\\', 'U'] <:+: t) (h : digits <:+: t)
      (hd : ∀ c ∈ digits, Reading.isHexDigit c = true)
      (hn : 0x7fffffff < Reading.numberIn 16 digits) : Culprit t .overflow
  | classFlags (hq : '?' ∈ t) (ha : 'a' ∈ t) (hu : 'u' ∈ t) :
      Culprit t (.badValue .characterSetFlags)

/-- The reader is at a place in the text, and the flags for classes of characters come from it. -/
structure Reader.Inside (t : Text) (r : Reader) : Prop where
  rest : r.rest <:+ t
  ascii : r.flags.mode.ascii = true → '?' ∈ t ∧ 'a' ∈ t
  allScripts : r.flags.allScripts = true → '?' ∈ t ∧ 'u' ∈ t

namespace Reading

variable {t : Text} {α β : Type} {P Q : α → Prop} {R : β → Prop} {x : Reading α} {f : α → Reading β}

/-- A value with the property and a reader inside the text, a flaw, or a fault that the text accounts
for. -/
def Ends (t : Text) (P : α → Prop) : Except Refusal (α × Reader) → Prop
  | .ok (a, r) => P a ∧ r.Inside t
  | .error (.flawed _) => True
  | .error (.fault f) => Culprit t f

/-- From a place in the text the reading comes to such an end. -/
def Confined (t : Text) (x : Reading α) (P : α → Prop) : Prop :=
  ∀ r : Reader, r.Inside t → Ends t P (x r)

/-- A value of which nothing is said. -/
def Anything (_ : α) : Prop :=
  True

theorem confined_pure {a : α} (h : P a) : Confined t (pure a) P :=
  fun _ hr => ⟨h, hr⟩

theorem confined_give (a : α) : Confined t (pure a) Anything :=
  confined_pure trivial

theorem Confined.bind (hx : Confined t x P) (hf : ∀ a, P a → Confined t (f a) R) :
    Confined t (x >>= f) R := by
  intro r hr
  have hxr := hx r hr
  show Ends t R (x r >>= fun p => f p.1 p.2)
  rcases hrun : x r with (e | e) | ⟨a, r'⟩
  · trivial
  · rw [hrun] at hxr
    exact hxr
  · rw [hrun] at hxr
    exact hf a hxr.1 r' hxr.2

theorem Confined.map {g : α → β} (hx : Confined t x P) (hg : ∀ a, P a → R (g a)) :
    Confined t (g <$> x) R := by
  intro r hr
  have hxr := hx r hr
  show Ends t R (x r >>= fun p => pure (g p.1, p.2))
  rcases hrun : x r with (e | e) | ⟨a, r'⟩
  · trivial
  · rw [hrun] at hxr
    exact hxr
  · rw [hrun] at hxr
    exact ⟨hg a hxr.1, hxr.2⟩

theorem Confined.discard (hx : Confined t x P) : Confined t (discard x : Reading Unit) Anything :=
  hx.map fun _ _ => trivial

theorem confined_flaw (e : Error) : Confined t (throw (.flawed e) : Reading α) P :=
  fun _ _ => trivial

theorem confined_fault {e : Fault} (h : Culprit t e) :
    Confined t (throw (.fault e) : Reading α) P :=
  fun _ _ => h

theorem confined_refuse (flaw : Flaw) (back : Nat) : Confined t (refuse flaw back : Reading α) P :=
  fun _ _ => trivial

/-- A condition that ends the reading, before the rest. -/
theorem confined_guard {c : Prop} [Decidable c] {x : Reading Unit} {y : Unit → Reading β}
    (hx : c → Confined t x fun _ => False) (hy : ¬ c → Confined t (y ()) R) :
    Confined t (if c then x >>= y else y ()) R := by
  split
  · next h => exact (hx h).bind fun _ hfalse => hfalse.elim
  · next h => exact hy h

theorem confined_ite {c : Prop} [Decidable c] {x y : Reading α} (hx : c → Confined t x P)
    (hy : ¬ c → Confined t y P) : Confined t (if c then x else y) P := by
  split
  · next h => exact hx h
  · next h => exact hy h

theorem confined_get : Confined t (get : Reading Reader) (·.Inside t) :=
  fun _ hr => ⟨hr, hr⟩

theorem confined_set {r : Reader} (h : r.Inside t) : Confined t (set r : Reading Unit) Anything :=
  fun _ _ => ⟨trivial, h⟩

theorem confined_modify {g : Reader → Reader} (h : ∀ r, r.Inside t → (g r).Inside t) :
    Confined t (modify g : Reading Unit) Anything :=
  fun r hr => ⟨trivial, h r hr⟩

/-- A change that concerns neither what is left to read nor the flags. -/
theorem confined_note {g : Reader → Reader} (hrest : ∀ r, (g r).rest = r.rest)
    (hflags : ∀ r, (g r).flags = r.flags) : Confined t (modify g : Reading Unit) Anything := by
  refine confined_modify fun r hr => ⟨?_, ?_, ?_⟩
  · rw [hrest]
    exact hr.rest
  · rw [hflags]
    exact hr.ascii
  · rw [hflags]
    exact hr.allScripts

/-! ## Signs -/

theorem isPrefix_of_signOf {rest sign : Text} (h : signOf rest = some sign) : sign <+: rest := by
  unfold signOf at h
  split at h
  · cases h
  · cases h
    exact ⟨_, rfl⟩
  · cases h
    exact ⟨_, rfl⟩

/-- A sign stands in the text. -/
def InText (t : Text) (sign : Option Text) : Prop :=
  ∀ s ∈ sign, s <:+: t

theorem inText_signOf {r : Reader} (hr : r.Inside t) : InText t (signOf r.rest) := by
  intro s hs
  exact (isPrefix_of_signOf hs).isInfix.trans hr.rest.isInfix

theorem confined_next : Confined t next (InText t) :=
  confined_get.bind fun _ hr => confined_pure (inText_signOf hr)

theorem confined_lookOut : Confined t lookOut Anything := by
  refine confined_get.bind fun r _ => ?_
  split
  · exact confined_refuse _ _
  · exact confined_give _

theorem inside_drop {r : Reader} (hr : r.Inside t) (n k : Nat) :
    Reader.Inside t { r with rest := r.rest.drop n, position := k } where
  rest := (List.drop_suffix n r.rest).trans hr.rest
  ascii := hr.ascii
  allScripts := hr.allScripts

theorem confined_take : Confined t take (InText t) :=
  confined_next.bind fun _ hsign =>
    (confined_modify fun _ hr => inside_drop hr _ _).bind fun _ _ =>
      confined_lookOut.bind fun _ _ => confined_pure hsign

theorem confined_accept (c : Char) : Confined t (accept c) fun b => b = true → c ∈ t := by
  refine confined_next.bind fun sign hsign => ?_
  split
  · next h =>
    refine confined_take.discard.bind fun _ _ => confined_pure fun _ => ?_
    exact (hsign _ h).subset List.mem_cons_self
  · exact confined_pure fun h => by cases h

theorem confined_remaining : Confined t remaining Anything :=
  confined_get.bind fun _ _ => confined_give _

/-! ## Characters in a row -/

/-- Taking the sign of one character moves past it, or a backslash at the end comes next. -/
theorem take_run {r : Reader} {c : Char} {rest : Text} (hr : r.rest = c :: rest)
    (hc : signOf r.rest = some [c]) :
    (∃ e, take r = .error (.flawed e)) ∨
      take r = .ok (some [c], { r with rest := rest, position := r.position + 1 }) := by
  have htake : take r = (lookOut { r with
      rest := r.rest.drop ((signOf r.rest).getD []).length
      position := r.position + ((signOf r.rest).getD []).length } >>=
        fun p => .ok (signOf r.rest, p.2)) := rfl
  rw [hc, hr] at htake
  by_cases hend : rest = ['\\']
  · refine .inl ⟨⟨.endsInEscape, some (r.position + 1)⟩, ?_⟩
    rw [htake, hend]
    rfl
  · refine .inr ?_
    rw [htake]
    show ((if rest = ['\\'] then _ else _ : Reading Unit) { r with rest := rest, position := _ } >>= _) = _
    rw [if_neg hend]
    rfl

/-- The reader has moved past the characters, all of which have the property; or there is a flaw. -/
def Moves (p : Char → Bool) (r : Reader) : Except Refusal (Text × Reader) → Prop
  | .ok (taken, r') =>
    r.rest = taken ++ r'.rest ∧ (∀ c ∈ taken, p c = true) ∧ r'.flags = r.flags
  | .error (.flawed _) => True
  | .error (.fault _) => False

theorem takeWhile_run (p : Char → Bool) (n : Nat) (r : Reader) :
    takeWhile p (n + 1) r = (match signOf r.rest with
      | some [c] => if p c then do
          discard take
          pure (c :: (← takeWhile p n))
        else pure []
      | _ => pure [] : Reading Text) r := rfl

/-- A character with the property is taken and the reading goes on behind it, or there is a flaw. -/
theorem takeWhile_of_taken {p : Char → Bool} {r : Reader} {c : Char} {rest : Text} (n : Nat)
    (hr : r.rest = c :: rest) (hsign : signOf r.rest = some [c]) (hc : p c = true) :
    (∃ e, takeWhile p (n + 1) r = .error (.flawed e)) ∨
      takeWhile p (n + 1) r = (takeWhile p n { r with rest := rest, position := r.position + 1 } >>=
        fun q => .ok (c :: q.1, q.2)) := by
  have hrun : takeWhile p (n + 1) r =
      (take r >>= fun q => takeWhile p n q.2 >>= fun q => .ok (c :: q.1, q.2)) := by
    rw [takeWhile_run, hsign]
    simp only [if_pos hc]
    show ((take r >>= fun q => pure ((), q.2)) >>= _) = _
    cases take r <;> rfl
  rw [hrun]
  rcases take_run hr hsign with ⟨e, htaken⟩ | htaken
  · exact .inl ⟨e, by rw [htaken]; rfl⟩
  · exact .inr (by rw [htaken]; rfl)

theorem Moves.cons {p : Char → Bool} {r r₁ : Reader} {c : Char}
    {result : Except Refusal (Text × Reader)} (h : Moves p r₁ result)
    (hr : r.rest = c :: r₁.rest) (hflags : r₁.flags = r.flags) (hc : p c = true) :
    Moves p r (result >>= fun q => .ok (c :: q.1, q.2)) := by
  rcases result with (e | e) | ⟨taken, r'⟩
  · trivial
  · exact h
  · obtain ⟨hmoved, hall, hsame⟩ := h
    refine ⟨?_, List.forall_mem_cons.2 ⟨hc, hall⟩, hsame.trans hflags⟩
    rw [hr, hmoved, List.cons_append]

theorem moves_nothing (p : Char → Bool) (r : Reader) : Moves p r ((pure [] : Reading Text) r) :=
  ⟨rfl, by simp, rfl⟩

theorem moves_takeWhile (p : Char → Bool) (n : Nat) (r : Reader) : Moves p r (takeWhile p n r) := by
  induction n generalizing r with
  | zero => exact moves_nothing p r
  | succ n ih =>
    rcases hsign : signOf r.rest with _ | _ | ⟨c, _ | ⟨d, sign⟩⟩
    · rw [takeWhile_run, hsign]
      exact moves_nothing p r
    · rw [takeWhile_run, hsign]
      exact moves_nothing p r
    · by_cases hc : p c = true
      · obtain ⟨rest, hrest⟩ := isPrefix_of_signOf hsign
        rcases takeWhile_of_taken n hrest.symm hsign hc with ⟨e, hrun⟩ | hrun
        · rw [hrun]
          trivial
        · rw [hrun]
          exact (ih _).cons hrest.symm rfl hc
      · rw [takeWhile_run, hsign]
        simp only [if_neg hc]
        exact moves_nothing p r
    · rw [takeWhile_run, hsign]
      exact moves_nothing p r

theorem confined_takeWhile (p : Char → Bool) (n : Nat) :
    Confined t (takeWhile p n) fun taken => taken <:+: t ∧ ∀ c ∈ taken, p c = true := by
  intro r hr
  have hmoves := moves_takeWhile p n r
  rcases hrun : takeWhile p n r with (e | e) | ⟨taken, r'⟩
  · trivial
  · rw [hrun] at hmoves
    exact absurd hmoves not_false
  · rw [hrun] at hmoves
    obtain ⟨hmoved, hall, hflags⟩ := hmoves
    have htaken : taken <+: r.rest := ⟨_, hmoved.symm⟩
    have hrest : r'.rest <:+ r.rest := ⟨_, hmoved.symm⟩
    refine ⟨⟨htaken.isInfix.trans hr.rest.isInfix, hall⟩, ?_⟩
    exact ⟨hrest.trans hr.rest, by rw [hflags]; exact hr.ascii, by rw [hflags]; exact hr.allScripts⟩

theorem confined_takeName (terminator : Char) (what name : Text) (fuel : Nat) :
    Confined t (takeName terminator what name fuel) Anything := by
  induction fuel generalizing name with
  | zero => exact confined_give _
  | succ fuel ih =>
    refine confined_take.bind fun sign _ => ?_
    split
    · split
      · exact confined_refuse _ _
      · exact confined_refuse _ _
    · split
      · split
        · exact confined_refuse _ _
        · exact confined_give _
      · exact ih _

theorem confined_nameUpTo (terminator : Char) (what : String) :
    Confined t (nameUpTo terminator what) Anything :=
  confined_remaining.bind fun _ _ => confined_takeName _ _ _ _

/-! ## Groups -/

theorem confined_nextGroup : Confined t nextGroup Anything :=
  confined_get.bind fun _ _ => confined_give _

theorem confined_closedWidth? (index : Nat) : Confined t (closedWidth? index) Anything := by
  cases index with
  | zero => exact confined_give _
  | succ i => exact confined_get.bind fun _ _ => confined_give _

theorem confined_checkBehind (index : Nat) : Confined t (checkBehind index) Anything := by
  refine confined_get.bind fun r _ => ?_
  split
  · exact confined_give _
  · refine (confined_closedWidth? index).bind fun width _ => ?_
    refine confined_guard (fun _ => confined_refuse _ _) fun _ => ?_
    exact confined_ite (fun _ => confined_refuse _ _) fun _ => confined_give _

theorem confined_reference (m : Mode) (index back : Nat) :
    Confined t (reference m index back) Anything := by
  refine (confined_closedWidth? index).bind fun width _ => ?_
  cases width with
  | none => exact confined_refuse _ _
  | some w => exact (confined_checkBehind index).bind fun _ _ => confined_give _

theorem confined_openGroup (name : Option Text) : Confined t (openGroup name) Anything := by
  refine confined_nextGroup.bind fun index _ => ?_
  refine (confined_note (fun _ => by rfl) fun _ => by rfl).bind fun _ _ => ?_
  cases name with
  | none => exact confined_give _
  | some n =>
    refine confined_get.bind fun r _ => ?_
    split
    · exact confined_refuse _ _
    · exact (confined_note (fun _ => by rfl) fun _ => by rfl).bind fun _ _ => confined_give _

theorem confined_closeGroup (index : Nat) (body : Expr) :
    Confined t (closeGroup index body) Anything :=
  confined_note (fun _ => by rfl) fun _ => by rfl

theorem confined_checkName (name : Text) : Confined t (checkName name) Anything :=
  confined_ite (fun _ => confined_refuse _ _) fun _ => confined_give _

/-! ## Flags -/

/-- The letters of the flags that choose classes of characters stand in the text. -/
def FlagsInText (t : Text) (on : List Flag) : Prop :=
  (.ascii ∈ on → 'a' ∈ t) ∧ (.allScripts ∈ on → 'u' ∈ t)

theorem letter_of_ofChar? {c : Char} {flag : Flag} (h : Flag.ofChar? c = some flag) :
    (flag = .ascii → c = 'a') ∧ (flag = .allScripts → c = 'u') := by
  unfold Flag.ofChar? at h
  split at h <;> cases h <;> simp

theorem FlagsInText.snoc {on : List Flag} (hon : FlagsInText t on) {sign : Text} {flag : Flag}
    (hsign : sign <:+: t) (h : flagOf? sign = some flag) : FlagsInText t (on ++ [flag]) := by
  unfold flagOf? at h
  split at h
  · next c =>
    have hc : c ∈ t := hsign.subset List.mem_cons_self
    obtain ⟨ha, hu⟩ := letter_of_ofChar? h
    constructor
    · intro hmem
      rcases List.mem_append.1 hmem with hmem | hmem
      · exact hon.1 hmem
      · rw [← ha (List.mem_singleton.1 hmem).symm]
        exact hc
    · intro hmem
      rcases List.mem_append.1 hmem with hmem | hmem
      · exact hon.2 hmem
      · rw [← hu (List.mem_singleton.1 hmem).symm]
        exact hc
  · cases h

theorem confined_noFlag (sign : Text) (missing : String) :
    Confined t (noFlag sign missing : Reading α) P :=
  confined_ite (fun _ => confined_refuse _ _) fun _ => confined_refuse _ _

theorem confined_flagsOn {on : List Flag} {sign : Text} (hon : FlagsInText t on)
    (hsign : sign <:+: t) (fuel : Nat) :
    Confined t (flagsOn on sign fuel) fun result => FlagsInText t result.1 := by
  induction fuel generalizing on sign with
  | zero => exact confined_pure hon
  | succ fuel ih =>
    unfold flagsOn
    cases hflag : flagOf? sign with
    | none => exact confined_noFlag _ _
    | some flag =>
      have hmore := hon.snoc hsign hflag
      refine confined_guard (fun _ => confined_refuse _ _) fun _ => ?_
      refine confined_guard (fun _ => confined_refuse _ _) fun _ => ?_
      refine confined_take.bind fun next hnext => ?_
      cases next with
      | none => exact confined_refuse _ _
      | some sign =>
        exact confined_ite (fun _ => confined_pure hmore) fun _ => ih hmore (hnext _ rfl)

theorem confined_flagsOff (off : List Flag) (sign : Text) (missing : String) (fuel : Nat) :
    Confined t (flagsOff off sign missing fuel) Anything := by
  induction fuel generalizing off sign missing with
  | zero => exact confined_give _
  | succ fuel ih =>
    unfold flagsOff
    cases flagOf? sign with
    | none => exact confined_noFlag _ _
    | some flag =>
      refine confined_guard (fun _ => confined_refuse _ _) fun _ => ?_
      refine confined_take.bind fun next _ => ?_
      cases next with
      | none => exact confined_refuse _ _
      | some sign => exact confined_ite (fun _ => confined_give _) fun _ => ih _ _ _

theorem foldl_put_true (on : List Flag) (fs : Flags) :
    ((on.foldl (Flag.put true) fs).mode.ascii = true → fs.mode.ascii = true ∨ .ascii ∈ on) ∧
      ((on.foldl (Flag.put true) fs).allScripts = true →
        fs.allScripts = true ∨ .allScripts ∈ on) := by
  induction on generalizing fs with
  | nil => exact ⟨.inl, .inl⟩
  | cons flag on ih =>
    obtain ⟨ha, hu⟩ := ih (Flag.put true fs flag)
    rw [List.foldl_cons]
    constructor
    · intro h
      rcases ha h with h | h
      · cases flag <;> first | exact .inl h | exact .inr List.mem_cons_self
      · exact .inr (List.mem_cons_of_mem _ h)
    · intro h
      rcases hu h with h | h
      · cases flag <;> first | exact .inl h | exact .inr List.mem_cons_self
      · exact .inr (List.mem_cons_of_mem _ h)

/-- Flags for the whole expression come from the text. -/
theorem confined_setFlags {on : List Flag} (hq : '?' ∈ t) (hon : FlagsInText t on) :
    Confined t (modify fun r => { r with flags := on.foldl (Flag.put true) r.flags } : Reading Unit)
      Anything := by
  refine confined_modify fun r hr => ⟨hr.rest, fun h => ?_, fun h => ?_⟩
  · rcases (foldl_put_true on r.flags).1 h with h | h
    · exact hr.ascii h
    · exact ⟨hq, hon.1 h⟩
  · rcases (foldl_put_true on r.flags).2 h with h | h
    · exact hr.allScripts h
    · exact ⟨hq, hon.2 h⟩

theorem confined_bothFlags (on off : List Flag) :
    Confined t (do
      if off.contains .template then refuse .globalFlagOff 1
      if on.any off.contains then refuse .flagOnAndOff 1
      pure (some (on, off)) : Reading (Option (List Flag × List Flag))) Anything := by
  refine confined_guard (fun _ => confined_refuse _ _) fun _ => ?_
  exact confined_guard (fun _ => confined_refuse _ _) fun _ => confined_give _

/-- What follows the flags that are switched on. -/
theorem confined_afterFlags {on : List Flag} (hq : '?' ∈ t) (hon : FlagsInText t on)
    (stop : Text) :
    Confined t (do
      if stop = [')'] then
        modify fun r => { r with flags := on.foldl (Flag.put true) r.flags }
        pure none
      else
        if on.contains .template then refuse .globalFlagScoped 1
        let off ← if stop = ['-'] then
            match ← take with
            | none => refuse (.missing "flag".toList) 0
            | some sign => flagsOff [] sign "flag" (← remaining)
          else pure []
        if off.contains .template then refuse .globalFlagOff 1
        if on.any off.contains then refuse .flagOnAndOff 1
        pure (some (on, off)) : Reading (Option (List Flag × List Flag))) Anything := by
  refine confined_ite (fun _ => ?_) fun _ => ?_
  · exact (confined_setFlags hq hon).bind fun _ _ => confined_give _
  refine confined_guard (fun _ => confined_refuse _ _) fun _ => confined_ite (fun _ => ?_) fun _ => ?_
  · refine confined_take.bind fun next _ => ?_
    cases next with
    | none => exact (confined_refuse (P := Anything) _ _).bind fun off _ => confined_bothFlags on off
    | some sign =>
      exact confined_remaining.bind fun n _ =>
        (confined_flagsOff _ _ _ _).bind fun off _ => confined_bothFlags on off
  · exact (confined_give _).bind fun off _ => confined_bothFlags on off

theorem confined_groupFlags {sign : Text} (hq : '?' ∈ t) (hsign : sign <:+: t) :
    Confined t (groupFlags sign) Anything := by
  unfold groupFlags
  refine confined_ite (fun _ => ?_) fun _ => ?_
  · have hnone : FlagsInText t ([], sign).1 := ⟨by simp, by simp⟩
    exact (confined_pure (P := fun p => FlagsInText t p.1) hnone).bind fun p hp =>
      confined_afterFlags hq hp p.2
  · refine confined_remaining.bind fun n _ => ?_
    exact (confined_flagsOn ⟨by simp, by simp⟩ hsign n).bind fun p hp =>
      confined_afterFlags hq hp p.2

end Reading

end NameTag.Weed
