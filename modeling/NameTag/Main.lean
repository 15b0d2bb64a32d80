import NameTag.Command.Run
import Std.Time

/-!
# The program

Hands the command line, the environment and the input to a run, then writes what the run wrote.
-/

namespace NameTag.Command

/-- The variables that are set. -/
def readEnvironment : IO Settings.Environment := do
  let mut env := []
  for name in Settings.variableNames do
    if let some t ← IO.getEnv (String.ofList name) then env := env ++ [(name, t.toList)]
  pure env

partial def readAll (input : IO.FS.Stream) (text : String) : IO String := do
  let line ← input.getLine
  if line.isEmpty then pure text else readAll input (text ++ line)

/-- The input, where the command line makes the run read it. -/
def readInput (texts : List Text) : IO Text := do
  match read texts with
  | .ok i => if i.readsInput then (·.toList) <$> readAll (← IO.getStdin) "" else pure []
  | .error _ => pure []

def writeEvents (time : Text) (events : Transcript) : IO Unit := do
  for e in events do
    let text := String.ofList (e.text time)
    match e.stream with
    | .output => IO.print text
    | .errors => IO.eprint text

/-- Makes the directory of a file if need be, and opens the file to append to it. -/
def openFile (file : Text) : IO IO.FS.Handle := do
  let directory := file.take (file.length - (Text.baseName file).length)
  if !directory.isEmpty then IO.FS.createDirAll (String.ofList directory)
  IO.FS.Handle.mk (String.ofList file) .append

def canOpen (file : Text) : IO Bool := do
  try
    let _ ← openFile file
    pure true
  catch _ => pure false

/-- Appends the records to the log file. -/
def writeLog (time file : Text) (events : Transcript) : IO Unit := do
  let handle ← openFile file
  handle.putStr (String.ofList (events.logText time))

/-- Runs the program with the log file that it names, or without a file where it cannot be opened. -/
def executeLogged (s : Surroundings) (texts : List Text) : IO Process := do
  let process := execute none s texts {}
  match process.logFile with
  | some file =>
    if ← canOpen file then pure process
    else pure (execute none { s with opens := (· != file) } texts {})
  | none => pure process

end NameTag.Command

open NameTag NameTag.Command in
def main (arguments : List String) : IO UInt32 := do
  let texts := arguments.map String.toList
  let surroundings : Surroundings :=
    { environment := ← readEnvironment, input := some (← readInput texts) }
  let process ← executeLogged surroundings texts
  let time := ((← Std.Time.PlainDateTime.now).format "uuuu-MM-dd HH:mm:ss,SSS").toList
  writeEvents time process.written
  match process.logFile with
  | some file => writeLog time file process.written
  | none => pure ()
  pure process.exit.code.toUInt32
