import NameTag.Command.Word
import NameTag.Number.Integer

/-!
# Reading a command line

`read` turns the words of a command line into an invocation: a command with its arguments and options.
Otherwise the run ends there, with a help text that was asked for or with a complaint. Options are
taken up from left to right, and the first thing that ends the run decides.

The arguments of a command are those of the first run of arguments that holds any; arguments in later
runs are left over. Words that are left over are complained about at the end, all at once.
-/

namespace NameTag.Command

/-- What ends a run before it has begun. -/
inductive Ending
  | help (l : Level)
  | complaint (l : Level) (c : Complaint)
  deriving DecidableEq, Repr

/-- What is given to a command. -/
structure Given where
  pattern : Option Text := none
  names : List Text := []
  caseMode : Option Int := none
  weed : Option Text := none
  assignments : List Text := []
  stripExtension : Bool := false
  showEmpty : Bool := false
  threads : Option Int := none
  json : Bool := false
  /-- The words that are left over. -/
  extra : List Text := []
  deriving DecidableEq, Repr

structure Invocation where
  verbose : Bool
  verb : Verb
  given : Given
  deriving DecidableEq, Repr

/-- Whether the names to parse stand on the input. -/
def Invocation.readsInput (i : Invocation) : Bool :=
  i.verb == .parse && i.given.names.isEmpty

namespace Given

def wholeNumber (l : Level) (o : Opt) (value : Text) : Except Ending Int :=
  match Text.readInteger value with
  | .ok n => .ok n
  | .error _ => .error (.complaint l (.notWhole o value))

/-- Takes up an option with its value. -/
def withValue (g : Given) (l : Level) (o : Opt) (value : Text) : Except Ending Given :=
  match o with
  | .caseMode => (wholeNumber l o value).map fun n => { g with caseMode := some n }
  | .threads => (wholeNumber l o value).map fun n => { g with threads := some n }
  | .weed => .ok { g with weed := some value }
  | .assign => .ok { g with assignments := g.assignments ++ [value] }
  | _ => .ok g

/-- Takes up an option that has no value. -/
def withSwitch (g : Given) : Opt → Given
  | .stripExtension => { g with stripExtension := true }
  | .showEmpty => { g with showEmpty := true }
  | .json => { g with json := true }
  | _ => g

/-- The pattern that a run of arguments begins with, and what follows. A `--` beside the pattern is
dropped. -/
def leadingPattern? : List Word → Option (Text × List Word)
  | .stop :: .argument p :: rest | .argument p :: .stop :: rest | .argument p :: rest => some (p, rest)
  | _ => none

/-- Takes up a run of arguments. The first `--` among the names is dropped. -/
def withArguments (g : Given) (v : Verb) (run : List Word) : Given :=
  match v, g.pattern, leadingPattern? run with
  | .parse, none, some (p, rest) =>
    { g with pattern := some p, names := (rest.map Word.written).erase stopText }
  | .format, none, some (p, rest) =>
    { g with pattern := some p, extra := g.extra ++ rest.map Word.written }
  | _, _, _ => { g with extra := g.extra ++ run.map Word.written }

end Given

/-- What an option without a value is refused for: the value attached to it. Several letters after one
dash are options of their own, of which only the one for help exists; an unknown one ends the row. -/
def refusedRow : Text → Option Text
  | '-' :: rest => some ('-' :: rest)
  | 'h' :: '=' :: rest => some rest
  | 'h' :: rest => refusedRow rest
  | _ => none

def Attached.refused : Attached → Option Text
  | nothing => none
  | afterEquals value => some value
  | afterLetter row => refusedRow row

/-- Takes up an option that has no value; help ends the run. -/
def takeSwitch (g : Given) (l : Level) (o : Opt) (attached : Attached) : Except Ending Given :=
  match attached.refused with
  | some value => .error (.complaint l (.needsNoValue o value))
  | none => if o = .help then .error (.help l) else .ok (g.withSwitch o)

/-- Takes up an option and the run of arguments after it, the first of which may be its value. -/
def takeOption (v : Verb) (g : Given) : Word × List Word → Except Ending Given
  | (.option o attached _, run) => do
    let l := Level.verb v
    if o.takesValue then
      match attached, run with
      | .nothing, .argument value :: rest => (g.withValue l o value).map (·.withArguments v rest)
      | .nothing, _ => .error (.complaint l (.needsValue o))
      | .afterEquals value, run | .afterLetter value, run =>
        (g.withValue l o value).map (·.withArguments v run)
    else (takeSwitch g l o attached).map (·.withArguments v run)
  | (w, run) =>
    .ok ({ g with extra := g.extra ++ [w.written] }.withArguments v run)

/-- The arguments before the first option, and each option with the arguments after it. -/
def sections : List Word → List Word × List (Word × List Word)
  | [] => ([], [])
  | w :: rest =>
    let (run, more) := sections rest
    if w.isOption then ([], (w, run) :: more) else (w :: run, more)

/-- The sections hold all words in their order. -/
theorem sections_flatten (words : List Word) :
    (sections words).1 ++ (sections words).2.flatMap (fun s => s.1 :: s.2) = words := by
  induction words with
  | nil => rfl
  | cons w rest ih =>
    rw [sections]
    by_cases h : w.isOption <;> simp [h, ih]

/-- Reads what follows a command. -/
def readVerb (v : Verb) (texts : List Text) : Except Ending Given := do
  let l := Level.verb v
  match l.words texts with
  | .error c => .error (.complaint l c)
  | .ok words =>
    let (run, options) := sections words
    let g ← options.foldlM (takeOption v) (({} : Given).withArguments v run)
    if g.pattern.isNone ∧ !l.required.isEmpty then .error (.complaint l (.missing l.required))
    else .ok g

/-- Reads from the program's own options on; `extra` are the words left over so far. -/
def readProgram (verbose : Bool) (extra : List Text) : List Word → Except Ending Invocation
  | [] | [.stop] => .error (.complaint .program (.missing Level.program.required))
  | .stop :: _ => .error (.complaint .program (.unknownCommand stopText))
  | .unknown t :: rest => readProgram verbose (extra ++ [t]) rest
  | .option o attached _ :: rest => do
    let _ ← takeSwitch {} .program o attached
    readProgram (verbose || o == .verbose) extra rest
  | .argument t :: rest => do
    match Verb.ofName? t with
    | none => .error (.complaint .program (.unknownCommand t))
    | some v =>
      let g ← readVerb v (rest.map Word.written)
      match extra ++ g.extra with
      | [] => .ok ⟨verbose, v, g⟩
      | words => .error (.complaint .program (.unrecognized words))

def read (texts : List Text) : Except Ending Invocation :=
  match Level.program.words texts with
  | .error c => .error (.complaint .program c)
  | .ok words => readProgram false [] words

end NameTag.Command
