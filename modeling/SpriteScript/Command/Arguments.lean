/-
  Arguments of the command line.

  * `Arguments` is what they ask for, `Arguments.parse` reads them one after the other;
  * `UsageError` is why arguments are refused.

  An option takes its value from the same argument, after an equals sign, or from the next one. Such
  a next value, and the name of the input, is looked at only when the argument after it is read: a
  name that is unknown is reported before a value that is wrong.
-/

namespace SpriteScript

/-- What the command line asks for. -/
structure Arguments where
  input : Option String := none
  trace : Bool := false
  summary : Bool := false
  output : Option String := none
  realtime : Bool := false
  moveMs : Option Nat := none
  turnMs : Option Nat := none
  gotoMs : Option Nat := none
  flashMs : Option Nat := none
  bannerMs : Option Nat := none
  maxRepeat : Option Nat := none
  deriving DecidableEq, Repr, Inhabited

/-- Why arguments are refused. -/
inductive UsageError where
  /-- An option that does not exist, or a second input. -/
  | unknownArgument
  /-- A value that is not a number in range. -/
  | badValue
  /-- An option without a value, or an empty path. -/
  | missingValue
  /-- A value for an option that takes none. -/
  | unneededValue
  /-- An option that is given twice. -/
  | repeatedOption
  /-- The arguments ask for help. -/
  | helpAsked
  deriving DecidableEq, Repr, Inhabited

namespace Arguments

/-! ## Numbers -/

/-- A number of decimal digits. -/
def digits? (s : List Char) : Option Nat :=
  if s.isEmpty || !s.all Char.isDigit then none
  else some (s.foldl (fun n c => 10 * n + (c.toNat - '0'.toNat)) 0)

/-- A number of 64 bits; a plus sign may stand in front. -/
def duration? (s : String) : Option Nat :=
  (digits? (match s.toList with
    | '+' :: cs => cs
    | cs => cs)).filter (· ≤ 18446744073709551615)

/-- A number of 32 bits; either sign may stand in front. -/
def count? (s : String) : Option Nat :=
  match s.toList with
  | '-' :: cs => (digits? cs).filter (· = 0)
  | '+' :: cs => (digits? cs).filter (· ≤ 4294967295)
  | cs => (digits? cs).filter (· ≤ 4294967295)

/-! ## Options -/

/-- Options that stand alone. -/
inductive Flag where
  | trace
  | summary
  | realtime
  deriving DecidableEq, Repr

/-- Places for values. -/
inductive Slot where
  | input
  | output
  | moveMs
  | turnMs
  | gotoMs
  | flashMs
  | bannerMs
  | maxRepeat
  deriving DecidableEq, Repr

/-- An option, by its name. -/
inductive Name where
  | flag (f : Flag)
  | slot (s : Slot)
  | help
  deriving DecidableEq, Repr

/-- The option with a name. -/
def Name.ofText? : String → Option Name
  | "trace" => some (.flag .trace)
  | "summary" => some (.flag .summary)
  | "realtime" => some (.flag .realtime)
  | "output" => some (.slot .output)
  | "move-ms" => some (.slot .moveMs)
  | "turn-ms" => some (.slot .turnMs)
  | "goto-ms" => some (.slot .gotoMs)
  | "flash-ms" => some (.slot .flashMs)
  | "banner-ms" => some (.slot .bannerMs)
  | "max-repeat" => some (.slot .maxRepeat)
  | "help" => some .help
  | _ => none

/-- Whether a flag is given. -/
def hasFlag (a : Arguments) : Flag → Bool
  | .trace => a.trace
  | .summary => a.summary
  | .realtime => a.realtime

/-- The arguments with a flag given. -/
def withFlag (a : Arguments) : Flag → Arguments
  | .trace => { a with trace := true }
  | .summary => { a with summary := true }
  | .realtime => { a with realtime := true }

/-- Whether a value is given. -/
def hasSlot (a : Arguments) : Slot → Bool
  | .input => a.input.isSome
  | .output => a.output.isSome
  | .moveMs => a.moveMs.isSome
  | .turnMs => a.turnMs.isSome
  | .gotoMs => a.gotoMs.isSome
  | .flashMs => a.flashMs.isSome
  | .bannerMs => a.bannerMs.isSome
  | .maxRepeat => a.maxRepeat.isSome

/-- A value, or an error. -/
def orError {α : Type} (v : Option α) (e : UsageError) : Except UsageError α :=
  match v with
  | some v => .ok v
  | none => .error e

/-- A path is not empty. -/
def path (s : String) : Except UsageError String :=
  if s.isEmpty then .error .missingValue else .ok s

/-- The arguments with a value given. -/
def withSlot (a : Arguments) (slot : Slot) (v : String) : Except UsageError Arguments :=
  match slot with
  | .input => do return { a with input := some (← path v) }
  | .output => do return { a with output := some (← path v) }
  | .moveMs => do return { a with moveMs := some (← orError (duration? v) .badValue) }
  | .turnMs => do return { a with turnMs := some (← orError (duration? v) .badValue) }
  | .gotoMs => do return { a with gotoMs := some (← orError (duration? v) .badValue) }
  | .flashMs => do return { a with flashMs := some (← orError (duration? v) .badValue) }
  | .bannerMs => do return { a with bannerMs := some (← orError (duration? v) .badValue) }
  | .maxRepeat => do return { a with maxRepeat := some (← orError (count? v) .badValue) }

/-- Takes a value for an option, which is given only once. -/
def take (a : Arguments) (slot : Slot) (v : String) : Except UsageError Arguments :=
  if a.hasSlot slot then .error .repeatedOption else a.withSlot slot v

/-! ## Reading -/

/-- A place for a value that was named last, and the value if it was read but not looked at. -/
abbrev Pending := Option (Slot × Option String)

/-- The arguments read so far. -/
structure State where
  known : Arguments := {}
  pending : Pending := none
  /-- Whether the input was named. -/
  named : Bool := false
  /-- Whether only inputs may follow. -/
  trailing : Bool := false

namespace State

/-- Looks at a value that was read. -/
def resolve (s : State) : Except UsageError State :=
  match s.pending with
  | none => .ok s
  | some (_, none) => .error .missingValue
  | some (slot, some v) => do
    let known ← s.known.take slot v
    return { s with known, pending := none }

/-- Reads an option by its name and the value behind the equals sign. -/
def readOption (s : State) (name : String) (v : Option String) : Except UsageError State :=
  match Name.ofText? name, v with
  | none, _ => .error .unknownArgument
  | some .help, none => do
    let _ ← s.resolve
    .error .helpAsked
  | some .help, some _ => .error .unneededValue
  | some (.flag _), some _ => .error .unneededValue
  | some (.flag f), none => do
    let s ← s.resolve
    if s.known.hasFlag f then .error .repeatedOption
    else return { s with known := s.known.withFlag f }
  | some (.slot slot), none => do
    let s ← s.resolve
    return { s with pending := some (slot, none) }
  | some (.slot slot), some v => do
    let s ← s.resolve
    return { s with known := ← s.known.take slot v }

/-- Reads a short option; help is the only one. -/
def readShort (s : State) (c : Char) : Except UsageError State :=
  if c = 'h' then do
    let _ ← s.resolve
    .error .helpAsked
  else .error .unknownArgument

/-- Reads the name of the input; there is only one. -/
def readInput (s : State) (v : String) : Except UsageError State :=
  if s.named then .error .unknownArgument
  else do
    let s ← s.resolve
    return { s with pending := some (.input, some v), named := true }

/-- Reads an argument that is no option: a value that is waited for, or the input. -/
def readPlain (s : State) (v : String) : Except UsageError State :=
  match s.pending with
  | some (slot, none) => .ok { s with pending := some (slot, some v) }
  | _ => s.readInput v

/-- Splits an option at its first equals sign. -/
def splitOption (cs : List Char) : String × Option String :=
  let name := cs.takeWhile (· != '=')
  (String.ofList name,
    match cs.drop name.length with
    | _ :: v => some (String.ofList v)
    | [] => none)

/-- Reads an argument. -/
def read (s : State) (arg : String) : Except UsageError State :=
  if s.trailing then s.readInput arg
  else
    match arg.toList with
    | ['-', '-'] => .ok { s with trailing := true }
    | '-' :: '-' :: cs =>
      let (name, v) := splitOption cs
      s.readOption name v
    | '-' :: c :: _ => s.readShort c
    | _ => s.readPlain arg

end State

/-- Reads all arguments. -/
def parse (args : List String) : Except UsageError Arguments := do
  let s ← args.foldlM State.read {}
  let s ← s.resolve
  return s.known

end Arguments

end SpriteScript
