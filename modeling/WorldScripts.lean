import WorldScripts.Binary32.Circular
import WorldScripts.Exchange.Call
import WorldScripts.Exchange.Files
import WorldScripts.Exchange.World
import WorldScripts.Json.Reader
import WorldScripts.Main
import WorldScripts.Proofs.Decode.Layout
import WorldScripts.Proofs.Engine.Cancelling
import WorldScripts.Proofs.Engine.SequenceRun
import WorldScripts.Proofs.Engine.Replay
import WorldScripts.Proofs.Engine.History
import WorldScripts.Proofs.Manager.Reloading
import WorldScripts.Proofs.Scripts.Building
import WorldScripts.Proofs.Step.Readiness
import WorldScripts.Proofs.Step.Refusal
import WorldScripts.Proofs.Engine.Quiet
import WorldScripts.Proofs.Texts.Contents
import WorldScripts.Proofs.Registry.Dispatch
import WorldScripts.Proofs.Scripts.Speech
import WorldScripts.Proofs.Decode.Spelling
import WorldScripts.Proofs.World.Frame
import WorldScripts.Proofs.World.Lifetime
import WorldScripts.Proofs.Step.Resolving
import WorldScripts.Proofs.World.Nearest
import WorldScripts.Proofs.Step.Terminating
import WorldScripts.Proofs.Step.Summoning
import WorldScripts.Proofs.Engine.OnMap
import WorldScripts.Proofs.Waypoints.Paths
import WorldScripts.Proofs.Registry.Bindings
import WorldScripts.Proofs.Texts.Performing
import WorldScripts.Proofs.Manager.Radius
import WorldScripts.Proofs.Schedule.Guarded
import WorldScripts.Proofs.Manager.Report
