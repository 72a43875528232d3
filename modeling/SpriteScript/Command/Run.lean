/-
  The command: load a project, run it, and tell what happened.

  * `Shell` is what the command needs of the world around it, in any monad;
  * `Command.run` is the command, `CommandError` how it can fail and `CommandError.chain` the
    messages of a failure, the outermost first;
  * `progressLine` is what is shown at each stage.
-/
import SpriteScript.Command.Arguments
import SpriteScript.Project.Reader
import SpriteScript.Run.Recorder

namespace SpriteScript

/-! ## The world around -/

/-- What the command needs of the world around it. -/
structure Shell (m : Type → Type) where
  /-- Whether a path leads to a file. -/
  isFile : String → m Bool
  /-- The content of a file, or why it cannot be read. -/
  read : String → m (Except String ByteArray)
  /-- Writes a file; tells whether that worked. -/
  write : String → String → m Bool
  /-- Shows a line of progress. -/
  progress : String → m Unit
  /-- Prints a text. -/
  print : String → m Unit
  /-- Waits for some milliseconds. -/
  wait : Nat → m Unit

/-! ## Failures -/

/-- How the command can fail. -/
inductive CommandError where
  | traceWithSummary
  | realtimeWithOutput
  | inputNotFound (path : String)
  | notLoaded (path : String) (e : ProjectError)
  | noRounds
  | notWritten (path : String)
  deriving DecidableEq, Repr, Inhabited

/-- A path as it is shown to people: the mark `\\?\` of a literal path is left out. -/
def shownPath (path : String) : String :=
  match path.toList with
  | '\\' :: '\\' :: '?' :: '\\' :: cs => String.ofList cs
  | _ => path

/-- The messages of a failure, the outermost first. -/
def CommandError.chain : CommandError → List String
  | traceWithSummary => ["--trace cannot be used with --summary."]
  | realtimeWithOutput => ["--realtime cannot be used with --output."]
  | inputNotFound path => ["Input file not found: " ++ shownPath path]
  | notLoaded path e => ["failed to load " ++ shownPath path, e.message]
  | noRounds => ["--max-repeat must be at least 1."]
  | notWritten path => ["failed to write trace to " ++ path]

/-! ## Progress -/

/-- The number of cells of a progress bar. -/
def barWidth : Nat := 14

/-- A bar of cells, filled in proportion to the stage, to the nearest cell. -/
def progressBar (width stage total : Nat) : String :=
  let filled := min width ((stage * width + total / 2) / total)
  "[" ++ String.ofList (List.replicate filled '=' ++ List.replicate (width - filled) '-') ++ "]"

/-- The line that is shown at a stage. -/
def progressLine (label : String) (stage total : Nat) : String :=
  "[Run] " ++ label ++ "... (" ++ toString stage ++ "/" ++ toString total ++ ") " ++
    progressBar barWidth stage total

/-! ## The command -/

namespace Command

/-- The settings that the arguments ask for. -/
def settings (args : Arguments) : Except CommandError Settings :=
  let base : Settings := {}
  let maxRepeat := args.maxRepeat.getD base.maxRepeat
  if maxRepeat = 0 then .error .noRounds
  else .ok {
    moveDelay := args.moveMs.getD base.moveDelay
    turnDelay := args.turnMs.getD base.turnDelay
    gotoDelay := args.gotoMs.getD base.gotoDelay
    maxRepeat := maxRepeat
    flashTime := args.flashMs.getD base.flashTime
    bannerTime := args.bannerMs.getD base.bannerTime
    clock := if args.realtime then .realtime else .simulated }

section
variable {m : Type → Type} [Monad m] (shell : Shell m) {ι : Type} [IdSource ι]

/-- The project in a file. -/
def loadProject (path : String) (ids : ι) : ExceptT CommandError m Project := do
  if !(← shell.isFile path) then throw (.inputNotFound path)
  let bytes ← match ← shell.read path with
    | .ok bytes => pure bytes
    | .error reason => throw (.notLoaded path (.unreadable path reason))
  match String.fromUTF8? bytes with
  | none => throw (.notLoaded path (.unreadable path "stream did not contain valid UTF-8"))
  | some text =>
    match Project.ofText text ids with
    | .ok (p, _) => return p
    | .error e => throw (.notLoaded path e)

/-- The project to run: the one in the input, or the demonstration. -/
def chooseProject (args : Arguments) (total : Nat) (ids : ι) : ExceptT CommandError m Project := do
  match args.input with
  | some path =>
    shell.progress (progressLine "Loading project" 1 total)
    loadProject shell path ids
  | none =>
    shell.progress (progressLine "Building demo project" 1 total)
    return (Project.demo ids).1

/-- Writes the trace to a file. -/
def writeTrace (path : String) (trace : String) (total : Nat) : ExceptT CommandError m Unit := do
  shell.progress (progressLine "Writing trace" 3 total)
  if !(← shell.write path trace) then throw (.notWritten path)

/-- Loads a project, runs it, and prints the summary or the trace. -/
def run (args : Arguments) (ids : ι) : ExceptT CommandError m Unit := do
  if args.trace && args.summary then throw .traceWithSummary
  if args.realtime && args.output.isSome then throw .realtimeWithOutput
  let total := if args.output.isSome then 3 else 2
  let p ← chooseProject shell args total ids
  shell.progress (progressLine "Running scripts" 2 total)
  let cfg ← settings args
  let (p, _, outcome) := p.run { settings := cfg } Recorder.observer {}
  if cfg.clock = .realtime then outcome.waits.forM fun ms => shell.wait ms
  let trace := outcome.watcher.toJson.pretty
  if let some path := args.output then writeTrace shell path trace total
  if args.trace then shell.print (trace ++ "\n")
  else shell.print (summary p.sprites outcome.report)

end

/-- Runs a project given as JSON text with the usual settings; tells the time it took, whether it
was stopped, and all events, as JSON text. -/
def runText {ι : Type} [IdSource ι] (text : String) (ids : ι) : Except ProjectError String := do
  let (p, _) ← Project.ofText text ids
  let (_, _, outcome) := p.run {} Recorder.observer {}
  return (Json.ofFields [("elapsed_ms", .int outcome.report.elapsed),
    ("stopped", .bool outcome.report.stopped), ("events", outcome.watcher.toJson)]).compact

end Command

end SpriteScript
