/-
  The program: the command with the files and the clock of the machine it runs on.
-/
import SpriteScript.Command.Run

namespace SpriteScript

/-- What is printed when the arguments ask for help. -/
def usage : String :=
  "Run block-based sprite scripts with collision-driven animation swapping.\n\n" ++
  "Usage: sprite-script [OPTIONS] [INPUT]\n\n" ++
  "  --trace            print the full event trace as JSON instead of the summary\n" ++
  "  --summary          print the final sprite poses and collisions (default)\n" ++
  "  --output PATH      also write the event trace JSON to this path\n" ++
  "  --realtime         sleep through every delay instead of simulating the timeline\n" ++
  "  --move-ms MS       delay after each move block (default 250)\n" ++
  "  --turn-ms MS       delay after each turn block (default 150)\n" ++
  "  --goto-ms MS       delay after each goto block (default 250)\n" ++
  "  --flash-ms MS      how long sprites flash after a collision (default 300)\n" ++
  "  --banner-ms MS     how long the collision banner stays up (default 3000)\n" ++
  "  --max-repeat N     upper limit for repeat counts (default 50)\n"

/-- Whether a path leads to a file, which may yet be unreadable. -/
def leadsToFile (path : String) : IO Bool := do
  try
    let _ ← IO.FS.readBinFile path
    return true
  catch
    | .noFileOrDirectory .. | .inappropriateType .. => return false
    | _ => return true

/-- The files, the clock and the streams of the machine. -/
def machine : Shell IO where
  isFile := leadsToFile
  read path := do
    try return .ok (← IO.FS.readBinFile path)
    catch e => return .error (toString e)
  write path text := do
    try
      IO.FS.writeFile path text
      return true
    catch _ => return false
  progress := IO.eprintln
  print := IO.print
  wait ms := IO.sleep (UInt32.ofNat (min ms 4294967295))

/-- The wording of refused arguments. -/
def UsageError.message : UsageError → String
  | unknownArgument => "unexpected argument"
  | badValue => "invalid value"
  | missingValue => "a value is required"
  | unneededValue => "unexpected value"
  | repeatedOption => "the argument cannot be used multiple times"
  | helpAsked => usage

/-- The lines that tell of a failure. -/
def failureText : List String → String
  | [] => ""
  | [message] => "Error: " ++ message
  | message :: causes =>
    "Error: " ++ message ++ "\n\nCaused by:" ++ String.join (causes.map fun c => "\n    " ++ c)

end SpriteScript

open SpriteScript in
/-- Runs the command with the arguments of the program. -/
def main (args : List String) : IO UInt32 := do
  match Arguments.parse args with
  | .error .helpAsked =>
    IO.print usage
    return 0
  | .error e =>
    IO.eprintln ("error: " ++ e.message ++ "\n\n" ++ usage)
    return 2
  | .ok args =>
    let seed := UInt64.ofNat (← IO.rand 0 18446744073709551615)
    let ids : RandomIds SplitMix := ⟨⟨seed⟩⟩
    match ← (Command.run machine args ids).run with
    | .ok () => return 0
    | .error e =>
      IO.eprintln (failureText e.chain)
      return 1
