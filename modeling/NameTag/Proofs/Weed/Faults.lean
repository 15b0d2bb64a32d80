import NameTag.Proofs.Text.Integer
import NameTag.Proofs.Weed.Confined
import NameTag.Weed

/-!
# Faults of weed expressions

Every part of the reader is confined to the text that it reads, by induction on the fuel where it calls
itself. So an expression that cannot be compiled is refused with a problem, unless its text holds what
a fault needs (`Weed.culprit_of_compile`).
-/

namespace NameTag.Weed

namespace Reading

variable {t : Text} {c : Char}

/-! ## Escapes -/

theorem digitIn_lt (h : isHexDigit c = true) : digitIn c < 16 := by
  have hascii : c.toNat < 128 := by
    simp only [isHexDigit, isAsciiDigit, Bool.or_eq_true, Bool.and_eq_true, decide_eq_true_eq] at h
    rcases h with (h | h) | h
    · exact Nat.lt_of_le_of_lt h.2 (by decide)
    · exact Nat.lt_of_le_of_lt h.2 (by decide)
    · exact Nat.lt_of_le_of_lt h.2 (by decide)
  have hall : ∀ n < 128, isHexDigit (Char.ofNat n) = true → digitIn (Char.ofNat n) < 16 := by
    decide
  have hc := hall c.toNat hascii
  rw [Char.ofNat_toNat] at hc
  exact hc h

theorem numberIn_lt {digits : Text} (h : ∀ c ∈ digits, isHexDigit c = true) :
    numberIn 16 digits < 16 ^ digits.length := by
  induction digits using List.reverseRecOn with
  | nil => decide
  | append_singleton digits c ih =>
    have hc := digitIn_lt (h c (by simp))
    have hdigits := ih fun c hc => h c (List.mem_append_left _ hc)
    have hsnoc : numberIn 16 (digits ++ [c]) = 16 * numberIn 16 digits + digitIn c := by
      rw [numberIn, List.foldl_append]
      rfl
    rw [hsnoc, List.length_append, List.length_singleton, Nat.pow_succ]
    omega

/-- Only an escape of eight digits may be out of bounds. -/
theorem confined_hexEscape (escape : Text) {n : Nat} (h : n ≤ 4 ∨ ['\\', 'U'] <:+: t) :
    Confined t (hexEscape escape n) Anything := by
  refine (confined_takeWhile isHexDigit n).bind fun digits hdigits => ?_
  refine confined_guard (fun _ => confined_refuse _ _) fun hlength => ?_
  refine confined_guard (fun hlarge => confined_fault ?_) fun _ => ?_
  · rcases h with h | h
    · have hlt := numberIn_lt hdigits.2
      have hpow : 16 ^ digits.length ≤ 16 ^ 4 := Nat.pow_le_pow_right (by decide) (by omega)
      omega
    · exact .codePoint h hdigits.1 hdigits.2 hlarge
  · exact confined_guard (fun _ => confined_refuse _ _) fun _ => confined_give _

theorem confined_namedEscape : Confined t namedEscape Anything := by
  refine (confined_accept _).bind fun b _ => ?_
  refine confined_guard (fun _ => confined_refuse _ _) fun _ => ?_
  refine (confined_nameUpTo _ _).bind fun name _ => ?_
  split
  · exact confined_give _
  · exact confined_refuse _ _

theorem confined_checkOctal (escape : Text) : Confined t (checkOctal escape) Anything := by
  unfold checkOctal
  exact confined_guard (fun _ => confined_refuse _ _) fun _ => confined_give _

theorem confined_codeEscape (hc : ['\\', c] <:+: t) : Confined t (codeEscape c) Anything := by
  unfold codeEscape
  split
  · exact confined_hexEscape _ (.inl (by decide))
  · exact confined_hexEscape _ (.inl (by decide))
  · exact confined_hexEscape _ (.inr hc)
  · exact confined_namedEscape
  · exact confined_ite (fun _ => confined_refuse _ _) fun _ => confined_give _

theorem confined_setEscape (hc : ['\\', c] <:+: t) : Confined t (setEscape c) Anything := by
  unfold setEscape
  split
  · exact confined_give _
  · exact confined_give _
  · refine confined_ite (fun _ => ?_) fun _ => ?_
    · exact (confined_takeWhile _ _).bind fun _ _ =>
        (confined_checkOctal _).bind fun _ _ => confined_give _
    · exact (confined_codeEscape hc).bind fun _ _ => confined_give _

theorem confined_digitEscape (m : Mode) (c : Char) : Confined t (digitEscape m c) Anything := by
  have hthird : ∀ (second third : Text), Confined t (do
      let escape := '\\' :: c :: second ++ third
      if !third.isEmpty then pure (.one m (.set false [.code (← checkOctal escape)]))
      else
        let index := numberIn 10 (c :: second)
        if index < (← nextGroup) then reference m index escape.length
        else refuse (.noSuchGroup index) (escape.length - 1)) Anything := by
    intro second third
    refine confined_ite (fun _ => ?_) fun _ => ?_
    · exact (confined_checkOctal _).bind fun _ _ => confined_give _
    · exact confined_nextGroup.bind fun _ _ =>
        confined_ite (fun _ => confined_reference _ _ _) fun _ => confined_refuse _ _
  unfold digitEscape
  refine confined_ite (fun _ => ?_) fun _ => ?_
  · exact (confined_takeWhile _ _).bind fun _ _ => confined_give _
  · refine (confined_takeWhile _ _).bind fun second _ => confined_ite (fun _ => ?_) fun _ => ?_
    · exact (confined_takeWhile _ _).bind fun third _ => hthird second third
    · exact (confined_give _).bind fun third _ => hthird second third

theorem confined_escape (m : Mode) (hc : ['\\', c] <:+: t) : Confined t (escape m c) Anything := by
  unfold escape
  split
  · exact confined_give _
  · exact confined_give _
  · exact confined_give _
  · refine confined_ite (fun _ => confined_digitEscape m c) fun _ => ?_
    exact (confined_codeEscape hc).bind fun _ _ => confined_give _

/-! ## Sets -/

theorem confined_setSign {sign : Text} (hsign : sign <:+: t) :
    Confined t (setSign sign) Anything := by
  unfold setSign
  split
  · exact confined_give _
  · exact confined_setEscape hsign
  · exact confined_give _

theorem confined_takeInSet (start : Nat) :
    Confined t (do
      match ← take with
      | some sign => pure sign
      | none => refuse .openSet ((← get).position - start) : Reading Text) (· <:+: t) := by
  refine confined_take.bind fun sign hsign => ?_
  cases sign with
  | some sign => exact confined_pure (hsign _ rfl)
  | none => exact confined_get.bind fun _ _ => confined_refuse _ _

theorem confined_setItems (start : Nat) (items : List SetItem) (fuel : Nat) :
    Confined t (setItems start items fuel) Anything := by
  induction fuel generalizing items with
  | zero => exact confined_give _
  | succ fuel ih =>
    unfold setItems
    refine (confined_takeInSet start).bind fun sign hsign =>
      confined_ite (fun _ => confined_give _) fun _ => ?_
    refine (confined_setSign hsign).bind fun first _ => ?_
    refine (confined_accept _).bind fun _ _ => confined_ite (fun _ => ih _) fun _ => ?_
    refine (confined_takeInSet start).bind fun other hother =>
      confined_ite (fun _ => confined_give _) fun _ => ?_
    refine (confined_setSign hother).bind fun last _ => ?_
    split
    · exact confined_guard (fun _ => confined_refuse _ _) fun _ => ih _
    · exact confined_refuse _ _

theorem confined_charSet (m : Mode) : Confined t (charSet m) Anything :=
  confined_get.bind fun _ _ => (confined_accept _).bind fun _ _ =>
    confined_remaining.bind fun _ _ => (confined_setItems _ _ _).bind fun _ _ => confined_give _

/-! ## Repetitions -/

theorem confined_repeatBound {digits : Text} (h : digits <:+: t)
    (hd : ∀ c ∈ digits, isAsciiDigit c = true) (hne : digits ≠ []) :
    Confined t (repeatBound digits) Anything := by
  unfold repeatBound
  have hd' : ∀ c ∈ digits, isDecimalDigit c = true := fun c hc =>
    isDecimalDigit_of_isAsciiDigit (hd c hc)
  rw [Text.readNatural_of_isDecimalDigit hd' hne]
  by_cases hlong : maxIntegerDigits < digits.length
  · rw [if_pos hlong]
    exact confined_fault (.longNumber h hd hlong)
  · rw [if_neg hlong]
    exact confined_ite (fun hlarge => confined_fault (.repetitions h hd hlarge)) fun _ =>
      confined_give _

/-- The digits of a bound. -/
def IsBound (t digits : Text) : Prop :=
  digits <:+: t ∧ ∀ c ∈ digits, isAsciiDigit c = true

theorem confined_bounds : Confined t bounds Anything := by
  have hend : ∀ (before : Reader) (least : Nat) (most : Option Nat), Confined t (do
      if most.any (· < least) then throw (.flawed ⟨.repeatBounds, some before.position⟩)
      pure (some (least, most)) : Reading (Option (Nat × Option Nat))) Anything := by
    intro before least most
    exact confined_guard (fun _ => confined_flaw _) fun _ => confined_give _
  have hmost : ∀ (before : Reader) (hi : Text) (least : Nat), IsBound t hi → Confined t (do
      let most ← if hi.isEmpty then pure none else some <$> repeatBound hi
      if most.any (· < least) then throw (.flawed ⟨.repeatBounds, some before.position⟩)
      pure (some (least, most)) : Reading (Option (Nat × Option Nat))) Anything := by
    intro before hi least hhi
    refine confined_ite (fun _ => ?_) fun hne => ?_
    · exact (confined_give _).bind fun most _ => hend before least most
    · have hbound := confined_repeatBound hhi.1 hhi.2 (by simpa using hne)
      exact (hbound.map (R := Anything) fun _ _ => trivial).bind fun most _ =>
        hend before least most
  have hclose : ∀ (before : Reader) (lo hi : Text), before.Inside t → IsBound t lo → IsBound t hi →
      Confined t (do
        if !(← accept '\x7d') then
          set before
          pure none
        else
          let least ← if lo.isEmpty then pure 0 else repeatBound lo
          let most ← if hi.isEmpty then pure none else some <$> repeatBound hi
          if most.any (· < least) then throw (.flawed ⟨.repeatBounds, some before.position⟩)
          pure (some (least, most)) : Reading (Option (Nat × Option Nat))) Anything := by
    intro before lo hi hbefore hlo hhi
    refine (confined_accept _).bind fun _ _ => confined_ite (fun _ => ?_) fun _ => ?_
    · exact (confined_set hbefore).bind fun _ _ => confined_give _
    · refine confined_ite (fun _ => ?_) fun hne => ?_
      · exact (confined_give _).bind fun least _ => hmost before hi least hhi
      · exact (confined_repeatBound hlo.1 hlo.2 (by simpa using hne)).bind fun least _ =>
          hmost before hi least hhi
  unfold bounds
  refine confined_get.bind fun before hbefore => confined_next.bind fun _ _ => ?_
  refine confined_ite (fun _ => confined_give _) fun _ => ?_
  refine confined_remaining.bind fun _ _ => (confined_takeWhile _ _).bind fun lo hlo => ?_
  refine (confined_accept _).bind fun _ _ => confined_ite (fun _ => ?_) fun _ => ?_
  · exact confined_remaining.bind fun _ _ => (confined_takeWhile _ _).bind fun hi hhi =>
      hclose before lo hi hbefore hlo hhi
  · exact (confined_pure (P := IsBound t) hlo).bind fun hi hhi => hclose before lo hi hbefore hlo hhi

theorem confined_greed : Confined t greed Anything := by
  refine (confined_accept _).bind fun _ _ => confined_ite (fun _ => confined_give _) fun _ => ?_
  exact (confined_accept _).bind fun _ _ =>
    confined_ite (fun _ => confined_give _) fun _ => confined_give _

theorem confined_repeatLast (start least : Nat) (most : Option Nat) (done : List Expr) :
    Confined t (repeatLast start least most done) Anything := by
  unfold repeatLast
  split
  · exact confined_flaw _
  · exact confined_flaw _
  · exact confined_flaw _
  · exact confined_greed.bind fun _ _ => confined_give _

/-! ## Openings -/

theorem confined_comment (start fuel : Nat) : Confined t (comment start fuel) Anything := by
  induction fuel with
  | zero => exact confined_give _
  | succ fuel ih =>
    refine confined_next.bind fun sign _ => ?_
    cases sign with
    | none => exact confined_get.bind fun _ _ => confined_refuse _ _
    | some sign =>
      exact confined_take.bind fun _ _ => confined_ite (fun _ => confined_give _) fun _ => ih

theorem confined_namedOpening (m : Mode) : Confined t (namedOpening m) Anything := by
  refine (confined_accept _).bind fun _ _ => confined_ite (fun _ => ?_) fun _ => ?_
  · exact (confined_nameUpTo _ _).bind fun _ _ =>
      (confined_checkName _).bind fun _ _ => confined_give _
  · refine (confined_accept _).bind fun _ _ => confined_ite (fun _ => ?_) fun _ => ?_
    · refine (confined_nameUpTo _ _).bind fun _ _ => (confined_checkName _).bind fun _ _ => ?_
      refine confined_get.bind fun _ _ => ?_
      split
      · exact confined_refuse _ _
      · exact (confined_reference _ _ _).bind fun _ _ => confined_give _
    · refine confined_take.bind fun sign _ => ?_
      cases sign with
      | none => exact confined_refuse _ _
      | some sign => exact confined_refuse _ _

theorem confined_conditionOpening : Confined t conditionOpening Anything := by
  have hindex : ∀ index : Nat, Confined t (do
      checkBehind index
      pure (.condition index) : Reading Opening) Anything :=
    fun index => (confined_checkBehind index).bind fun _ _ => confined_give _
  unfold conditionOpening
  refine (confined_nameUpTo _ _).bind fun name _ => confined_ite (fun _ => ?_) fun _ => ?_
  · refine confined_get.bind fun _ _ => ?_
    split
    · exact (confined_refuse (P := Anything) _ _).bind fun index _ => hindex index
    · exact (confined_give _).bind fun index _ => hindex index
  · split
    · refine confined_guard (fun _ => confined_refuse _ _) fun _ => ?_
      refine confined_guard (fun _ => confined_refuse _ _) fun _ => ?_
      refine (confined_note ?_ ?_).bind fun _ _ => (confined_give _).bind fun index _ => hindex index
      · intro r
        split <;> rfl
      · intro r
        split <;> rfl
    · exact (confined_refuse (P := Anything) _ _).bind fun index _ => hindex index

theorem confined_opening (m : Mode) (start : Nat) : Confined t (opening m start) Anything := by
  refine (confined_accept _).bind fun b hb => confined_ite (fun _ => confined_give _) fun h => ?_
  have hq : '?' ∈ t := hb (by simpa using h)
  refine confined_take.bind fun sign hsign => ?_
  split
  · exact confined_refuse _ _
  · exact confined_namedOpening m
  · exact confined_give _
  · exact confined_remaining.bind fun _ _ => (confined_comment _ _).bind fun _ _ => confined_give _
  · exact confined_give _
  · exact confined_give _
  · refine confined_take.bind fun behind _ => ?_
    split
    · exact confined_refuse _ _
    · exact confined_give _
    · exact confined_give _
    · exact confined_refuse _ _
  · exact confined_conditionOpening
  · exact confined_give _
  · refine confined_ite (fun _ => ?_) fun _ => confined_refuse _ _
    refine (confined_groupFlags hq (hsign _ rfl)).bind fun flags _ => ?_
    cases flags with
    | none => exact confined_give _
    | some flags => exact confined_give _

theorem confined_skipLine (fuel : Nat) : Confined t (skipLine fuel) Anything := by
  induction fuel with
  | zero => exact confined_give _
  | succ fuel ih =>
    refine confined_take.bind fun sign _ => ?_
    split
    · exact confined_give _
    · exact confined_give _
    · exact ih

theorem confined_closeBracket (start : Nat) : Confined t (closeBracket start) Anything := by
  refine (confined_accept _).bind fun _ _ => confined_ite (fun _ => ?_) fun _ => confined_give _
  exact confined_get.bind fun _ _ => confined_refuse _ _

/-! ## Expressions -/

/-- The reader calls itself with less fuel. With this much both its parts are confined. -/
structure ConfinedWith (t : Text) (fuel : Nat) : Prop where
  alternatives : ∀ fs top first, Confined t (alternatives fs top first fuel) Anything
  items : ∀ fs first done, Confined t (items fs first done fuel) Anything

namespace ConfinedWith

variable {fuel : Nat}

theorem group (h : ConfinedWith t fuel) (fs inner : Flags) (first : Bool) (done : List Expr)
    (start : Nat) (close : Expr → Expr) :
    Confined t (do
      let body ← Reading.alternatives inner false false fuel
      closeBracket start
      Reading.items fs first (close body :: done) fuel) Anything :=
  (h.alternatives inner false false).bind fun body _ =>
    (confined_closeBracket start).bind fun _ _ => h.items fs first (close body :: done)

theorem look (h : ConfinedWith t fuel) (fs : Flags) (first : Bool) (done : List Expr)
    (behind negated : Bool) (start : Nat) (outer : Option Nat) :
    Confined t (do
      let body ← Reading.alternatives fs false false fuel
      modify fun r => { r with behindFrom := if behind then outer else r.behindFrom }
      closeBracket start
      Reading.items fs first
        ((if behind then .lookBehind negated body else .lookAhead negated body) :: done) fuel)
      Anything :=
  (h.alternatives fs false false).bind fun _ _ =>
    (confined_note (fun _ => by rfl) fun _ => by rfl).bind fun _ _ =>
      (confined_closeBracket start).bind fun _ _ => h.items fs first _

theorem condition (h : ConfinedWith t fuel) (fs : Flags) (first : Bool) (done : List Expr)
    (start index : Nat) (yes no : Expr) :
    Confined t (do
      closeBracket start
      Reading.items fs first (.ifGroup index yes no :: done) fuel) Anything :=
  (confined_closeBracket start).bind fun _ _ => h.items fs first _

theorem repeated (h : ConfinedWith t fuel) (fs : Flags) (first : Bool) (done : List Expr)
    (start least : Nat) (most : Option Nat) :
    Confined t (do
      Reading.items fs first (← repeatLast start least most done) fuel) Anything :=
  (confined_repeatLast start least most done).bind fun done _ => h.items fs first done

theorem alternatives_succ (h : ConfinedWith t fuel) (fs : Flags) (top first : Bool) :
    Confined t (Reading.alternatives fs top first (fuel + 1)) Anything := by
  unfold Reading.alternatives
  refine (h.items _ _ _).bind fun e _ => (confined_accept _).bind fun _ _ => ?_
  refine confined_ite (fun _ => ?_) fun _ => confined_give _
  exact confined_get.bind fun _ _ => (h.alternatives _ _ _).bind fun _ _ => confined_give _

theorem items_succ (h : ConfinedWith t fuel) (fs : Flags) (first : Bool) (done : List Expr) :
    Confined t (Reading.items fs first done (fuel + 1)) Anything := by
  have hmore : ∀ e, Confined t (Reading.items fs first (e :: done) fuel) Anything :=
    fun e => h.items fs first (e :: done)
  unfold Reading.items
  refine confined_next.bind fun sign hsign => ?_
  split
  · exact confined_give _
  · exact confined_give _
  · exact confined_give _
  · next sign _ _ =>
    refine confined_take.discard.bind fun _ _ => ?_
    split
    · next c _ _ _ =>
      split
      · exact (confined_charSet _).bind fun e _ => hmore e
      · exact hmore _
      · exact hmore _
      · exact hmore _
      -- An opening bracket: one case for each kind of group.
      · refine confined_get.bind fun r _ => (confined_opening _ _).bind fun opening _ => ?_
        split
        · exact h.items _ _ _
        · exact hmore _
        · refine confined_ite (fun _ => ?_) fun _ => ?_
          · exact confined_get.bind fun _ _ =>
              (confined_refuse (P := fun _ => False) _ _).bind fun _ hfalse => hfalse.elim
          · exact confined_get.bind fun _ _ => h.items _ _ _
        · refine (confined_openGroup _).bind fun index _ => ?_
          exact (h.alternatives _ _ _).bind fun body _ => (confined_closeBracket _).bind fun _ _ =>
            (confined_closeGroup _ _).bind fun _ _ => hmore _
        · exact h.group _ _ _ _ _ _
        · exact h.group _ _ _ _ _ _
        · exact h.group _ _ _ _ _ _
        · refine confined_get.bind fun r _ => confined_ite (fun _ => ?_) fun _ => h.look _ _ _ _ _ _ _
          exact confined_nextGroup.bind fun _ _ =>
            (confined_note (fun _ => by rfl) fun _ => by rfl).bind fun _ _ => h.look _ _ _ _ _ _ _
        · refine (h.items _ _ _).bind fun yes _ => (confined_accept _).bind fun _ _ => ?_
          refine confined_ite (fun _ => ?_) fun _ => ?_
          · refine (h.items _ _ _).bind fun no _ => confined_next.bind fun _ _ => ?_
            refine confined_guard (fun _ => confined_refuse _ _) fun _ => ?_
            exact (confined_give _).bind fun no _ => h.condition _ _ _ _ _ yes no
          · exact (confined_give _).bind fun no _ => h.condition _ _ _ _ _ yes no
      -- Any other character: a blank, a comment, a repetition or itself.
      · refine confined_get.bind fun r _ => confined_ite (fun _ => h.items _ _ _) fun _ => ?_
        refine confined_ite (fun _ => ?_) fun _ => ?_
        · exact confined_remaining.bind fun _ _ =>
            (confined_skipLine _).bind fun _ _ => h.items _ _ _
        · refine confined_ite (fun _ => h.repeated _ _ _ _ _ _) fun _ => ?_
          refine confined_ite (fun _ => h.repeated _ _ _ _ _ _) fun _ => ?_
          refine confined_ite (fun _ => h.repeated _ _ _ _ _ _) fun _ => ?_
          refine confined_ite (fun _ => ?_) fun _ => hmore _
          refine confined_bounds.bind fun found _ => ?_
          cases found with
          | none => exact hmore _
          | some found => exact h.repeated _ _ _ _ _ _
    · next c _ _ _ => exact (confined_escape _ (hsign _ rfl)).bind fun e _ => hmore e
    · exact h.items _ _ _

end ConfinedWith

theorem confined_items (fuel : Nat) : ConfinedWith t fuel := by
  induction fuel with
  | zero =>
    refine ⟨fun fs top first => ?_, fun fs first done => ?_⟩
    · unfold alternatives
      exact confined_give _
    · unfold items
      exact confined_give _
  | succ fuel ih => exact ⟨ih.alternatives_succ, ih.items_succ⟩

end Reading

open Reading

theorem confined_whole (t : Text) : Confined t Expr.whole Anything := by
  refine confined_lookOut.bind fun _ _ => confined_remaining.bind fun n _ => ?_
  refine ((confined_items _).1 _ _ _).bind fun e _ => confined_get.bind fun r hr => ?_
  refine confined_guard (fun h => confined_fault ?_) fun _ => ?_
  · exact .classFlags (hr.ascii h.1).1 (hr.ascii h.1).2 (hr.allScripts h.2).2
  · refine confined_guard (fun _ => confined_refuse _ _) fun _ => ?_
    split
    · simp only
      split
      · exact (confined_flaw (P := Anything) _).bind fun _ _ => confined_flaw _
      · exact confined_flaw _
    · simp only
      split
      · exact (confined_flaw (P := Anything) _).bind fun _ _ => confined_give _
      · exact confined_give _

/-- Where compiling an expression ends in a fault, its text accounts for it. -/
theorem culprit_of_compile {t : Text} {f : Fault} (h : compile (.text t) = .error (.fault f)) :
    Culprit t f := by
  have hstart : Reader.Inside t { rest := t, position := 0 } := by
    refine ⟨List.suffix_rfl, ?_, ?_⟩
    · intro hascii
      cases hascii
    · intro hall
      cases hall
  have hwhole := confined_whole t _ hstart
  rw [compile, Expr.read, StateT.run] at h
  rcases hrun : Expr.whole { rest := t, position := 0 } with (e | e) | p
  · rw [hrun] at h
    cases h
  · rw [hrun] at h hwhole
    cases h
    exact hwhole
  · rw [hrun] at h
    cases h

end NameTag.Weed
