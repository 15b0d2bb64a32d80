import NameTag.Proofs.Extract.Outcome
import NameTag.Proofs.Pattern.Canonical

/-!
# Extractions that succeed

An extraction succeeds exactly if its arguments can be used, the name can be read along the pattern
and the captured texts can be stored (`Edit.extract_eq_ok_iff`). Only the last of these depends on
the tag.
-/

namespace NameTag.Edit

variable {marker source pattern mode weed : Value} {c : Conversion} {t : Tag} {ws : List Warning}
  {d d' : Draft} {n : Nat}

/-- An extraction that succeeds has found arguments that can be used. -/
theorem exists_readable (h : extract marker source pattern mode weed d = .ok n d') :
    ∃ q p c, source = .text q ∧ pattern = .text p ∧ Readable q p ∧
      Conversion.wanted? marker mode weed = some c := by
  obtain ⟨name, d₁, hs, h₁⟩ := bind_eq_ok_iff.1 h
  obtain ⟨p', d₂, hp, h₂⟩ := bind_eq_ok_iff.1 h₁
  obtain ⟨t, d₃, -, h₃⟩ := bind_eq_ok_iff.1 h₂
  obtain ⟨m, d₄, hm, h₄⟩ := bind_eq_ok_iff.1 h₃
  cases source with
  | text q =>
    cases pattern with
    | text p =>
      have hw : ∃ w, Weed.wanted? weed = some w := by
        by_cases hn : weed = .null
        · exact ⟨none, by rw [hn]; rfl⟩
        · rw [Weed.wanted?.eq_2 _ hn]
          cases hcompile : Weed.compile weed with
          | error e => simp [hcompile] at h₄
          | ok w => exact ⟨some w, rfl⟩
      obtain ⟨w, hw⟩ := hw
      exact ⟨q, p, ⟨marker, w, m⟩, rfl, rfl, readable_of_extract h,
        Conversion.wanted?_eq_some.2 ⟨rfl, hw, (strictMode_eq_ok_iff.1 hm).1⟩⟩
    | _ => cases hp
  | _ => cases hs

/-- An extraction succeeds exactly if its arguments can be used, the name can be read along the
pattern and what is captured can be stored. -/
theorem extract_eq_ok_iff (ht : t.keys.Nodup) :
    extract marker source pattern mode weed ⟨.editable t, ws⟩ = .ok n d' ↔
      ∃ q p c ks, source = .text q ∧ pattern = .text p ∧ Readable q p ∧
        Conversion.wanted? marker mode weed = some c ∧
        Pattern.read? (Pattern.tokens (Text.strip p)) (Text.strip q) none [] = some ks ∧
        storeEach marker (c.stores ks) ⟨.editable t, ws⟩ = .ok () d' ∧
        n = (c.stores ks).length := by
  constructor
  · intro h
    obtain ⟨q, p, c, rfl, rfl, hr, hc⟩ := exists_readable h
    rw [extract_of_readable hr hc, Pattern.tokens_normalize, onCopy_readAlong_eq_ok_iff ht,
      (Conversion.wanted?_eq_some.1 hc).1] at h
    obtain ⟨ks, hread, hstore, hn⟩ := h
    exact ⟨q, p, c, ks, rfl, rfl, hr, hc, hread, hstore, hn⟩
  · rintro ⟨q, p, c, ks, rfl, rfl, hr, hc, hread, hstore, hn⟩
    rw [extract_of_readable hr hc, Pattern.tokens_normalize, onCopy_readAlong_eq_ok_iff ht,
      (Conversion.wanted?_eq_some.1 hc).1]
    exact ⟨ks, hread, hstore, hn⟩

end NameTag.Edit
