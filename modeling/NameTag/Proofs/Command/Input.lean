import NameTag.Proofs.Command.Warnings

/-!
# Names on the input

A line that holds more than blanks is a name, with all its characters. So an input that lists names
one to a line, with any blank lines between them (`Lists`), is read as these names (`Lists.namesIn`),
and a run that finds them there does what a run does that is given them as arguments
(`run_of_listed`).
-/

namespace NameTag.Command

/-! ## Lines -/

/-- No character of the text ends a line. -/
def IsLine (t : Text) : Prop :=
  '\n' ∉ t ∧ '\r' ∉ t

/-- The character ends a line. -/
def EndsLine (e : Char) : Prop :=
  e = '\n' ∨ e = '\r'

/-- The input consists of lines, of which those that are not blank are the names. -/
inductive Lists : Text → List Text → Prop
  | blank {line : Text} (hline : IsLine line) (hblank : ∀ c ∈ line, isBlank c = true) :
      Lists line []
  | name {line : Text} (hline : IsLine line) (hname : ∃ c ∈ line, isBlank c = false) :
      Lists line [line]
  | next {line input : Text} {first names : List Text} {e : Char} (hline : IsLine line)
      (hfirst : Lists line first) (he : EndsLine e) (hrest : Lists input names) :
      Lists (line ++ e :: input) (first ++ names)

variable {line input : Text} {e : Char} {names : List Text}

theorem isLine_cons {c : Char} : IsLine (c :: line) ↔ ¬ EndsLine c ∧ IsLine line := by
  simp only [IsLine, EndsLine, List.mem_cons, not_or, eq_comm (a := c)]
  exact and_and_and_comm

theorem lines_cons {c : Char} (hc : ¬ EndsLine c) (input : Text) :
    lines (c :: input) = match lines input with
      | [] => [[c]]
      | line :: others => (c :: line) :: others := by
  obtain ⟨hn, hr⟩ := not_or.1 hc
  rw [lines.eq_def]
  split
  · next h => cases h
  · next h => exact absurd (List.cons.inj h).1 hr
  · next h => exact absurd (List.cons.inj h).1 hr
  · next h => exact absurd (List.cons.inj h).1 hn
  · next h =>
    cases h
    rfl

/-- The end of a line comes after what is on it: nothing, if there is no more before. -/
theorem lines_end (he : EndsLine e) (input : Text) :
    ∃ others, lines (e :: input) = [] :: others ∧
      others.filter (fun line => !(Text.strip line).isEmpty) = namesIn input := by
  rcases he with rfl | rfl
  · exact ⟨lines input, rfl, rfl⟩
  · cases input with
    | nil => exact ⟨[], rfl, rfl⟩
    | cons c rest =>
      by_cases hc : c = '\n'
      · -- both characters end the same line
        subst hc
        exact ⟨lines rest, rfl, rfl⟩
      · refine ⟨lines (c :: rest), ?_, rfl⟩
        rw [lines]
        exact fun rest' hr => hc (List.cons.inj hr).1

theorem IsLine.lines_append (hline : IsLine line) {input : Text} {others : List Text}
    (h : lines input = [] :: others) : lines (line ++ input) = line :: others := by
  induction line with
  | nil => exact h
  | cons c line ih =>
    obtain ⟨hc, hline⟩ := isLine_cons.1 hline
    rw [List.cons_append, lines_cons hc, ih hline]

theorem IsLine.lines_eq (hline : IsLine line) (h : line ≠ []) : lines line = [line] := by
  induction line with
  | nil => exact absurd rfl h
  | cons c line ih =>
    obtain ⟨hc, hline⟩ := isLine_cons.1 hline
    rw [lines_cons hc]
    by_cases hl : line = []
    · rw [hl]
      rfl
    · rw [ih hline hl]

/-! ## Names -/

/-- A line without an end counts as one with an end. -/
theorem IsLine.namesIn_eq (hline : IsLine line) :
    namesIn line = [line].filter fun line => !(Text.strip line).isEmpty := by
  by_cases h : line = []
  · rw [h]
    rfl
  · rw [namesIn, hline.lines_eq h]

theorem IsLine.namesIn_append (hline : IsLine line) (he : EndsLine e) (input : Text) :
    namesIn (line ++ e :: input) = namesIn line ++ namesIn input := by
  obtain ⟨others, hlines, hothers⟩ := lines_end he input
  rw [hline.namesIn_eq, namesIn, hline.lines_append hlines, ← List.singleton_append,
    List.filter_append, hothers]

/-- An input is read as the names that it lists. -/
theorem Lists.namesIn (h : Lists input names) : namesIn input = names := by
  induction h with
  | blank hline hblank =>
    rw [hline.namesIn_eq, List.filter_singleton, Text.strip_eq_nil_iff.2 hblank]
    rfl
  | @name line hline hname =>
    obtain ⟨c, hc, hblank⟩ := hname
    have hne : Text.strip line ≠ [] := fun he =>
      Bool.false_ne_true (hblank.symm.trans (Text.strip_eq_nil_iff.1 he c hc))
    rw [hline.namesIn_eq, List.filter_singleton, List.isEmpty_eq_false_iff.2 hne]
    rfl
  | next hline hfirst he hrest ihfirst ihrest => rw [hline.namesIn_append he, ihfirst, ihrest]

/-! ## Runs -/

variable {s s' : Surroundings} {i : Invocation} {g g' : Given} {texts texts' : List Text}

/-- Where the names come from does not matter. -/
theorem runParse_of_names (hnames : g'.namesToParse s' = g.namesToParse s)
    (hgiven : g' = { g with names := g'.names }) (horigin : s'.origin = s.origin) (p : Text) :
    runParse s' g' p = runParse s g p := by
  have hparse : parseNames s'.origin g' p = parseNames s.origin g p := by
    rw [hgiven, horigin]
    rfl
  rw [Given.namesToParse, Given.namesToParse] at hnames
  rw [runParse, runParse, hparse]
  simp only [hnames]

/-- A run of `parse` that finds names on the input, one to a line, does what a run does that is given
these names as arguments: it ends in the same way, writes and logs the same in the same order and
leaves the same session. -/
theorem run_of_listed (hread : read texts = .ok i) (hverb : i.verb = .parse)
    (hsome : i.given.names ≠ [])
    (hread' : read texts' = .ok { i with given := { i.given with names := [] } })
    (hinput : s'.input = some input) (hlists : Lists input i.given.names)
    (henv : s'.environment = s.environment) (hopens : s'.opens = s.opens)
    (horigin : s'.origin = s.origin) (c : Console) : run s' texts' c = run s texts c := by
  obtain ⟨p, hpattern⟩ := exists_pattern hread (by rw [hverb]; decide)
  have hnames : ({ i.given with names := [] } : Given).namesToParse s' =
      i.given.namesToParse s := by
    rw [Given.namesToParse, Given.namesToParse, hinput,
      if_neg (mt List.isEmpty_iff.1 hsome)]
    exact congrArg some hlists.namesIn
  have hcommand : runCommand s' { i with given := { i.given with names := [] } } =
      runCommand s i := by
    simp only [runCommand, hverb, hpattern]
    exact runParse_of_names hnames rfl horigin p
  have hlog : openLog s' { i with given := { i.given with names := [] } } = openLog s i := by
    have hfile : s'.logFile? = s.logFile? := by
      funext v
      cases v <;> simp only [Surroundings.logFile?, hopens]
    simp only [openLog, hfile]
  rw [run_of_read hread, run_of_read hread', perform, perform, hcommand, hlog, henv, horigin]
  rfl

/-- A name with blanks at its ends and one with a line separator, which does not end a line. -/
theorem run_of_listed_blanks :
    let parse := ["parse".toList, "--json".toList, "((TITLE))".toList]
    run { input := some "\t\n  Song \r\n\na\u2028b".toList } parse { session := {} } =
      run {} (parse ++ ["  Song ".toList, "a\u2028b".toList]) { session := {} } := by
  intro parse
  let i : Invocation := ⟨false, .parse, { pattern := some "((TITLE))".toList, json := true
                                          names := ["  Song ".toList, "a\u2028b".toList] }⟩
  have hread : read (parse ++ ["  Song ".toList, "a\u2028b".toList]) = .ok i := by decide +kernel
  have hread' : read parse = .ok { i with given := { i.given with names := [] } } := by
    decide +kernel
  have htab : IsLine "\t".toList := ⟨by decide +kernel, by decide +kernel⟩
  have hblank : ∀ c ∈ "\t".toList, isBlank c = true := List.all_eq_true.1 (by decide +kernel)
  have hnil : IsLine [] := ⟨List.not_mem_nil, List.not_mem_nil⟩
  have hempty : Lists [] [] := .blank hnil fun _ hc => absurd hc List.not_mem_nil
  have hsong : IsLine "  Song ".toList := ⟨by decide +kernel, by decide +kernel⟩
  have hletter : ∃ c ∈ "  Song ".toList, isBlank c = false := ⟨'S', by decide, by decide⟩
  have hseparator : IsLine "a\u2028b".toList := ⟨by decide +kernel, by decide +kernel⟩
  have hlast : ∃ c ∈ "a\u2028b".toList, isBlank c = false := ⟨'a', by decide, by decide⟩
  have hlists : Lists ("\t".toList ++ '\n' :: ("  Song ".toList ++ '\r' :: ([] ++ '\n' ::
      ([] ++ '\n' :: "a\u2028b".toList)))) i.given.names :=
    .next htab (.blank htab hblank) (.inl rfl) <|
      .next hsong (.name hsong hletter) (.inr rfl) <|
        .next hnil hempty (.inl rfl) <| .next hnil hempty (.inl rfl) <| .name hseparator hlast
  exact run_of_listed hread rfl (by decide) hread' rfl hlists rfl rfl rfl _

end NameTag.Command
