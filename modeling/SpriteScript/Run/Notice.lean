/-
  Notices and observers.

  * `Notice` is what an observer of a run is told, `Notice.topic` what it is about;
  * `Observer` hears notices one at a time, keeps a state of its own and may ask for a stop;
  * `Observer.silent` never asks, `Observer.stopAt` asks at one chosen notice.
-/
import SpriteScript.Sprite.Basic

namespace SpriteScript

/-- What an observer is told. Sprites are as they are at that moment. -/
inductive Notice where
  /-- A sprite has changed. -/
  | update (s : Sprite)
  /-- A sprite speaks for some milliseconds; an empty text and no time end its bubble. -/
  | speech (kind : SpeechKind) (s : Sprite) (text : String) (ms : Nat)
  /-- Two sprites have met. -/
  | collision (a b : Sprite)
  /-- The banner has changed. -/
  | banner (text : Option String)
  /-- Time has moved on. -/
  | clock (now : Nat)
  deriving Inhabited

/-- What a notice is about. -/
inductive Topic where
  | update
  | speech (kind : SpeechKind)
  | collision
  | banner
  | clock
  deriving DecidableEq, Repr, Inhabited

namespace Notice

/-- What a notice is about. -/
def topic : Notice → Topic
  | update _ => .update
  | speech kind .. => .speech kind
  | collision .. => .collision
  | banner _ => .banner
  | clock _ => .clock

/-- The sprite that a notice is about, the first one of two. -/
def sprite? : Notice → Option Sprite
  | update s | speech _ s .. | collision s _ => some s
  | banner _ | clock _ => none

end Notice

/-! ## Observers -/

/-- Someone who hears notices: what a notice makes of the state of the observer, and whether the
observer asks for a stop. -/
structure Observer (σ : Type) where
  hear : σ → Notice → σ × Bool

namespace Observer

/-- The observer who never asks for a stop. -/
def silent : Observer Unit := ⟨fun _ _ => ((), false)⟩

end Observer

/-- A choice of one notice. -/
structure Trigger where
  topic : Topic
  /-- The id of the sprite that the notice is about, if that matters. -/
  sprite : Option String := none
  /-- The number of the notice among those chosen, counted from 1. -/
  nth : Nat
  deriving DecidableEq, Repr, Inhabited

/-- Whether a notice is among those that the topic and the sprite of a trigger choose. -/
def Trigger.covers (t : Trigger) (n : Notice) : Bool :=
  n.topic == t.topic && t.sprite.all fun id => n.sprite?.any (·.id == id)

/-- The observer that asks for a stop at one chosen notice, after hearing it; the state counts the
notices that the trigger covers. -/
def Observer.stopAt {σ : Type} (o : Observer σ) (trigger : Option Trigger) :
    Observer (σ × Nat) where
  hear := fun (s, count) n =>
    let (s, stop) := o.hear s n
    match trigger with
    | some t =>
      if t.covers n then ((s, count + 1), stop || count + 1 == t.nth) else ((s, count), stop)
    | none => ((s, count), stop)

end SpriteScript
