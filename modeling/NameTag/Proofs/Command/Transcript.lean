import Mathlib.Data.List.Basic
import NameTag.Command.Transcript

/-!
# Parts of a transcript

What a part of a run adds to the transcript: records and nothing else (`Logged`), or events on the
stream for errors with something said after them (`Says`). A transcript `Prints` a text when that is
all it has for standard output and it is written last; cut anywhere, it prints the text, its
beginning or nothing (`Prints.upTo`).
-/

namespace NameTag.Command.Transcript

variable {t t₁ t' said quiet : Transcript}

/-! ## What is added -/

/-- The second transcript is the first with records after it. -/
def Logged (t t' : Transcript) : Prop :=
  ∃ records : Transcript, (∀ e ∈ records, e.record?.isSome = true) ∧ t' = t ++ records

theorem Logged.refl (t : Transcript) : t.Logged t :=
  ⟨[], by simp, (List.append_nil t).symm⟩

theorem Logged.trans (h : t.Logged t₁) (h₁ : t₁.Logged t') : t.Logged t' := by
  obtain ⟨records, hr, rfl⟩ := h
  obtain ⟨more, hm, rfl⟩ := h₁
  exact ⟨records ++ more, List.forall_mem_append.2 ⟨hr, hm⟩, by rw [List.append_assoc]⟩

/-- The second transcript goes on where the first ends, with events on the stream for errors and
then with what is said. -/
def Says (t said t' : Transcript) : Prop :=
  ∃ quiet : Transcript, (∀ e ∈ quiet, e.stream = .errors) ∧ t' = t ++ quiet ++ said

theorem Says.refl (t : Transcript) : t.Says [] t :=
  ⟨[], List.forall_mem_nil _, by simp⟩

theorem Says.trans (h : t.Says [] t₁) (h₁ : t₁.Says said t') : t.Says said t' := by
  obtain ⟨quiet, hq, rfl⟩ := h
  obtain ⟨quiet₁, hq₁, rfl⟩ := h₁
  exact ⟨quiet ++ quiet₁, List.forall_mem_append.2 ⟨hq, hq₁⟩, by simp⟩

theorem upTo_append_of_lt {n : Nat} (h : n < quiet.length) (said : Transcript) (k : Nat) :
    (quiet ++ said).upTo n k = quiet.upTo n k := by
  rw [upTo, upTo, List.take_append_of_le_length (Nat.le_of_lt h), List.getElem?_append_left h]

theorem upTo_append_of_le {n : Nat} (h : quiet.length ≤ n) (said : Transcript) (k : Nat) :
    (quiet ++ said).upTo n k = quiet ++ said.upTo (n - quiet.length) k := by
  rw [upTo, upTo, List.take_append, List.take_of_length_le h, List.getElem?_append_right h,
    List.append_assoc]

/-- What there is of an event is on the stream of the event. -/
theorem stream_of_mem_upTo {e : Event} {n k : Nat} (he : e ∈ t.upTo n k) :
    ∃ e' ∈ t, e.stream = e'.stream := by
  rcases List.mem_append.1 he with he | he
  · exact ⟨e, List.mem_of_mem_take he, rfl⟩
  · obtain ⟨e', hmem, hbegun⟩ := Option.bind_eq_some_iff.1 (Option.mem_toList.1 he)
    refine ⟨e', List.mem_of_getElem? hmem, ?_⟩
    cases e' with
    | write s text =>
      cases hbegun
      rfl
    | record s r => cases hbegun

/-! ## What is printed -/

/-- Standard output gets the text, by one write at the end or none. -/
def Prints (t : Transcript) (output : Text) : Prop :=
  ∃ quiet : Transcript, (∀ e ∈ quiet, e.stream = .errors) ∧
    (t = quiet ∧ output = [] ∨ t = quiet ++ [.write .output output])

theorem Prints.events {output : Text} (h : t.Prints output) :
    ∀ e ∈ t, e.stream = .errors ∨ e = .write .output output := by
  obtain ⟨quiet, hquiet, ⟨rfl, rfl⟩ | rfl⟩ := h
  · exact fun e he => .inl (hquiet e he)
  · intro e he
    exact (List.mem_append.1 he).imp (hquiet e) List.mem_singleton.1

/-- Of a text that is printed at the end, a run that is cut prints all, the beginning or nothing. -/
theorem Prints.upTo {output : Text} (h : t.Prints output) (n k : Nat) :
    ∃ shown, (t.upTo n k).Prints shown ∧ (shown = [] ∨ shown = output ∨ shown = output.take k) := by
  obtain ⟨quiet, hquiet, ht⟩ := h
  have hcut : ∀ e ∈ quiet.upTo n k, e.stream = .errors := by
    intro e he
    obtain ⟨e', he', hstream⟩ := stream_of_mem_upTo he
    exact hstream.trans (hquiet e' he')
  rcases ht with ⟨rfl, rfl⟩ | rfl
  · exact ⟨[], ⟨_, hcut, .inl ⟨rfl, rfl⟩⟩, .inl rfl⟩
  · by_cases hn : n < quiet.length
    · rw [upTo_append_of_lt hn]
      exact ⟨[], ⟨_, hcut, .inl ⟨rfl, rfl⟩⟩, .inl rfl⟩
    · rw [upTo_append_of_le (Nat.le_of_not_lt hn)]
      -- the cut is in the last write or after it
      cases n - quiet.length with
      | zero => exact ⟨output.take k, ⟨quiet, hquiet, .inr rfl⟩, .inr (.inr rfl)⟩
      | succ m => exact ⟨output, ⟨quiet, hquiet, .inr (by simp [Transcript.upTo])⟩, .inr (.inl rfl)⟩

theorem Says.prints {text : Text} (h : Says [] [.write .output text] t) : t.Prints text := by
  obtain ⟨quiet, hquiet, rfl⟩ := h
  exact ⟨quiet, hquiet, .inr rfl⟩

end NameTag.Command.Transcript
