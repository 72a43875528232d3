/-
  Recorders: observers that keep what they hear.

  * `Recorder` holds the notices it heard with the instant it believed it to be; the clock tells it
    the time and leaves no event;
  * `Recorder.observer` is the recorder as an observer, which never asks for a stop;
  * `Recorder.toJson` writes the events.
-/
import SpriteScript.Json.Value
import SpriteScript.Run.Notice

namespace SpriteScript

/-- A notice that was heard at an instant. -/
structure Recorded where
  time : Nat
  notice : Notice
  deriving Inhabited

/-- What was heard so far. -/
structure Recorder where
  /-- The time the clock told last. -/
  now : Nat := 0
  /-- What was heard, the latest first. -/
  heard : List Recorded := []
  deriving Inhabited

namespace Recorder

/-- Hears a notice. -/
def hear (r : Recorder) : Notice → Recorder
  | .clock now => { r with now }
  | n => { r with heard := ⟨r.now, n⟩ :: r.heard }

/-- The recorder as an observer. -/
def observer : Observer Recorder := ⟨fun r n => (r.hear n, false)⟩

/-- What was heard, the earliest first. -/
def events (r : Recorder) : List Recorded := r.heard.reverse

/-- The sprites with an id in the updates that were heard. -/
def updatesFor (r : Recorder) (id : String) : List Sprite :=
  r.events.filterMap fun e => match e.notice with
    | .update s => if s.id = id then some s else none
    | _ => none

/-- The ids of the sprites that met. -/
def collisions (r : Recorder) : List (String × String) :=
  r.events.filterMap fun e => match e.notice with
    | .collision a b => some (a.id, b.id)
    | _ => none

/-! ## As JSON -/

/-- A bubble with its text and kind. -/
def bubbleJson (b : Bubble) : Json :=
  .ofFields [("text", .string b.text), ("kind", .string b.kind.name)]

/-- What a notice says, by names. -/
def noticeFields : Notice → List (String × Json)
  | .update s =>
    [("event", .string "update"), ("sprite", .string s.id), ("name", .string s.name),
      ("x", .string (numberText s.pose.x)), ("y", .string (numberText s.pose.y)),
      ("rotation", .string (numberText s.pose.rotation)),
      ("animation", .ofString? (s.transient.animation.map BlockKind.name)),
      ("bubble", (s.transient.bubble.map bubbleJson).getD .null),
      ("flash", .bool s.transient.flash)]
  | .speech kind s text ms =>
    [("event", .string kind.name), ("sprite", .string s.id), ("text", .string text),
      ("ms", .int ms)]
  | .collision a b => [("event", .string "collision"), ("a", .string a.id), ("b", .string b.id)]
  | .banner text => [("event", .string "banner"), ("text", .ofString? text)]
  | .clock now => [("event", .string "clock"), ("now", .int now)]

/-- An event with its instant. -/
def recordedJson (e : Recorded) : Json :=
  .ofFields (noticeFields e.notice ++ [("at_ms", .int e.time)])

/-- All events, the earliest first. -/
def toJson (r : Recorder) : Json := .array (r.events.map recordedJson)

end Recorder

end SpriteScript
