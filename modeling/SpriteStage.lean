import SpriteStage.Engine.Basic
import SpriteStage.Geometry.Affine
import SpriteStage.Proofs.Asset.Loading
import SpriteStage.Proofs.Asset.Resolver
import SpriteStage.Proofs.Colour.RoundTrip
import SpriteStage.Proofs.Colour.Slices
import SpriteStage.Proofs.Deferred.Settlement
import SpriteStage.Proofs.Engine.CollisionPass
import SpriteStage.Proofs.Engine.Elapsed
import SpriteStage.Proofs.Engine.FigureCalls
import SpriteStage.Proofs.Engine.Halt
import SpriteStage.Proofs.Engine.HeldKeys
import SpriteStage.Proofs.Engine.Images
import SpriteStage.Proofs.Engine.Invariant
import SpriteStage.Proofs.Engine.KeyNames
import SpriteStage.Proofs.Engine.KeyRouting
import SpriteStage.Proofs.Engine.Lending
import SpriteStage.Proofs.Engine.Loads
import SpriteStage.Proofs.Engine.Picture
import SpriteStage.Proofs.Engine.Pledges
import SpriteStage.Proofs.Engine.Queue
import SpriteStage.Proofs.Engine.Removal
import SpriteStage.Proofs.Engine.Reset
import SpriteStage.Proofs.Engine.Sizes
import SpriteStage.Proofs.Engine.StopRequest
import SpriteStage.Proofs.Engine.Tickets
import SpriteStage.Proofs.Engine.Timers
import SpriteStage.Proofs.Engine.Twins
import SpriteStage.Proofs.Figure.Lives
import SpriteStage.Proofs.Number.NearestByte
import SpriteStage.Proofs.Prompt.Caret
import SpriteStage.Proofs.Prompt.Drawing
import SpriteStage.Proofs.Prompt.Line
import SpriteStage.Proofs.Prompt.Overtaking
import SpriteStage.Proofs.Prompt.Tail
import SpriteStage.Proofs.Script.Pledges
import SpriteStage.Proofs.Script.Twins
import SpriteStage.Proofs.Settings.Partial
import SpriteStage.Proofs.Surface.Fills
import SpriteStage.Proofs.Surface.Quota
import SpriteStage.Proofs.Surface.Sprites
import SpriteStage.Proofs.Text.Basic
import SpriteStage.Proofs.Window.Batches
import SpriteStage.Proofs.Window.Deliveries
import SpriteStage.Proofs.Window.Holds
import SpriteStage.Settings.Discover
import SpriteStage.Starter
import SpriteStage.Surface.Either
import SpriteStage.Surface.Quota
import SpriteStage.Text.Letters
import SpriteStage.Window.Translator
