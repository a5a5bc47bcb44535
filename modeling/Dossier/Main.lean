import Dossier.CommandLine.Run
import Std.Time.DateTime.Timestamp

/-!
# The program

Reads the words of the command line and the file they name, runs the command at the present time, and
prints what it says. A command that fails ends with 1, words that are no command with 2.
-/

namespace Dossier

def openedText (file : String) : IO (Option String) := do
  try return some (← IO.FS.readFile file)
  catch _ => return none

def present : IO Instant := do
  let now ← Std.Time.Timestamp.now
  return Instant.epoch.addSeconds now.toSecondsSinceUnixEpoch.val.toNat

def usageText : String :=
  String.intercalate "\n"
    ["Usage:",
      "  schema check FILE",
      "  schema fields FILE ENTITY",
      "  filter compile --schema FILE --entity NAME --filters JSON [--sort ORDER]",
      "  condition compile --schema FILE --entity NAME --condition JSON [--tenant ID] --user ID [--role NAME]...",
      "Add --json for documents instead of text."]

end Dossier

def main (words : List String) : IO UInt32 := do
  match Dossier.Invocation.read? words with
  | none =>
    IO.eprintln Dossier.usageText
    return 2
  | some invocation =>
    let text ← Dossier.openedText invocation.command.file
    let outcome := invocation.run (← Dossier.present) text
    IO.print outcome.output
    match outcome.error with
    | some error =>
      IO.eprintln ("Error: " ++ error.message)
      return 1
    | none => return 0
