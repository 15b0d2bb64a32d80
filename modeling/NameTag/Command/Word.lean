import NameTag.Command.Usage
import NameTag.Text.Digit

/-!
# The words of a command line

On its level a word is an argument or an option. An option may be cut to a beginning that no other
option shares, and may bring its value along after an equals sign. A negative number and anything with
a space in it are arguments, and so is every word after the first `--`. No word gets lost
(`map_written_words`).
-/

namespace NameTag.Command

/-- A value that stands in the same word as its option. -/
inductive Attached
  | nothing
  | afterEquals (value : Text)
  | afterLetter (value : Text)
  deriving DecidableEq, Repr

inductive Word
  | argument (written : Text)
  /-- The `--` after which all words are arguments. -/
  | stop
  | option (o : Opt) (attached : Attached) (written : Text)
  | unknown (written : Text)
  deriving DecidableEq, Repr

def stopText : Text :=
  "--".toList

namespace Word

def written : Word → Text
  | argument t | option _ _ t | unknown t => t
  | stop => stopText

def isOption : Word → Bool
  | option .. | unknown _ => true
  | _ => false

end Word

/-- A minus sign and digits, maybe with a point, maybe with a line break at the end. -/
def isNegativeNumber (t : Text) : Bool :=
  let t := if t.getLast? = some '\n' then t.dropLast else t
  match t with
  | '-' :: rest =>
    match rest.dropWhile isDecimalDigit with
    | [] => !rest.isEmpty
    | '.' :: fraction => !fraction.isEmpty && fraction.all isDecimalDigit
    | _ => false
  | _ => false

/-- The text before the first equals sign, and what follows it as an attached value. -/
def splitValue (t : Text) : Text × Attached :=
  match Text.cut? ['='] t with
  | some (name, value) => (name, .afterEquals value)
  | none => (t, .nothing)

namespace Level

/-- The spellings that a word may be meant as, with what it attaches: those that begin with it, or for
a single dash the one letter. -/
def candidates (l : Level) (t : Text) : List (Text × Opt × Attached) :=
  if (Text.after? stopText t).isSome then
    let (name, attached) := splitValue t
    (l.spellings.filter fun (s, _) => (Text.after? name s).isSome).map fun (s, o) => (s, o, attached)
  else
    (l.spellings.filter fun (s, _) => s = t.take 2).map fun (s, o) => (s, o, .afterLetter (t.drop 2))

/-- A word that begins with a dash and goes on. -/
def dashed (l : Level) (t : Text) : Except Complaint Word :=
  match l.spellings.lookup t, l.spellings.lookup (splitValue t).1 with
  | some o, _ => .ok (.option o .nothing t)
  | none, some o => .ok (.option o (splitValue t).2 t)
  | none, none =>
    match l.candidates t with
    | [(_, o, attached)] => .ok (.option o attached t)
    | [] => .ok (if isNegativeNumber t || t.contains ' ' then .argument t else .unknown t)
    | several => .error (.ambiguous t (several.map (·.1)))

def word (l : Level) (t : Text) : Except Complaint Word :=
  match t with
  | '-' :: _ :: _ => l.dashed t
  | t => .ok (.argument t)

/-- The words of a level; the first that is ambiguous is refused. -/
def words (l : Level) : List Text → Except Complaint (List Word)
  | [] => .ok []
  | t :: rest => do
    if t = stopText then pure (.stop :: rest.map .argument)
    else
      let w ← l.word t
      let ws ← l.words rest
      pure (w :: ws)

theorem written_dashed {l : Level} {t : Text} {w : Word} (h : l.dashed t = .ok w) : w.written = t := by
  unfold dashed at h
  split at h
  · cases h; rfl
  · cases h; rfl
  · split at h
    · cases h; rfl
    · cases h
      split <;> rfl
    · cases h

theorem written_word {l : Level} {t : Text} {w : Word} (h : l.word t = .ok w) : w.written = t := by
  unfold word at h
  split at h
  · exact written_dashed h
  · cases h; rfl

theorem map_written_words {l : Level} {texts : List Text} {ws : List Word}
    (h : l.words texts = .ok ws) : ws.map Word.written = texts := by
  induction texts generalizing ws with
  | nil => cases h; rfl
  | cons t rest ih =>
    unfold words at h
    split at h
    · next ht =>
      cases h
      simp [ht, Word.written, Function.comp_def]
    · cases hw : l.word t with
      | error c => simp [hw, bind, Except.bind] at h
      | ok w =>
        cases hr : l.words rest with
        | error c => simp [hw, hr, bind, Except.bind] at h
        | ok ws' =>
          simp only [hw, hr, bind, Except.bind, pure, Except.pure, Except.ok.injEq] at h
          subst h
          simp [written_word hw, ih hr]

end Level

end NameTag.Command
