import SpriteScript.Command.Directory
import SpriteScript.Main
import SpriteScript.Proofs.Staging
import SpriteScript.Proofs.Advance
import SpriteScript.Proofs.Plot
import SpriteScript.Proofs.Course
import SpriteScript.Proofs.Simulation
import SpriteScript.Proofs.Ending
import SpriteScript.Proofs.Elapsed
import SpriteScript.Proofs.Encounters
import SpriteScript.Proofs.FirstRound
import SpriteScript.Proofs.Conservation
import SpriteScript.Proofs.Passes
import SpriteScript.Proofs.Quiet
import SpriteScript.Proofs.Without
import SpriteScript.Proofs.Bystander
import SpriteScript.Proofs.Deeds
import SpriteScript.Proofs.Tasks
import SpriteScript.Proofs.Leftovers
import SpriteScript.Proofs.Speech
import SpriteScript.Proofs.View
import SpriteScript.Proofs.Stopping
import SpriteScript.Proofs.Aftermath
import SpriteScript.Proofs.Punctual
import SpriteScript.Proofs.Shadows
import SpriteScript.Proofs.Recorders
import SpriteScript.Proofs.Timestamps
import SpriteScript.Proofs.Poses
import SpriteScript.Proofs.Wakeups
import SpriteScript.Proofs.Signals
import SpriteScript.Proofs.Performance
import SpriteScript.Proofs.Loops
import SpriteScript.Proofs.CleanSlate
import SpriteScript.Proofs.Voices
import SpriteScript.Proofs.Format
import SpriteScript.Proofs.Documents
import SpriteScript.Proofs.Outline
import SpriteScript.Proofs.Copies
import SpriteScript.Proofs.Edits
import SpriteScript.Proofs.WellFormed
import SpriteScript.Proofs.Editing
import SpriteScript.Proofs.Register
import SpriteScript.Proofs.Armings
import SpriteScript.Proofs.NewSprites
import SpriteScript.Proofs.Numbering
import SpriteScript.Proofs.Locality
import SpriteScript.Proofs.FloatValues
import SpriteScript.Proofs.NumberTexts
