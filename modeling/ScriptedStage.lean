import ScriptedStage.Event.Conversation
import ScriptedStage.Frame.Program
import ScriptedStage.Main
import ScriptedStage.Project.Save
import ScriptedStage.Proofs.BlockForms
import ScriptedStage.Proofs.BuiltStages
import ScriptedStage.Proofs.CollidingRounds
import ScriptedStage.Proofs.CollisionLog
import ScriptedStage.Proofs.EditAcceptance
import ScriptedStage.Proofs.EditedRuns
import ScriptedStage.Proofs.FirstMoves
import ScriptedStage.Proofs.Insertions
import ScriptedStage.Proofs.IntentEffects
import ScriptedStage.Proofs.IntentForms
import ScriptedStage.Proofs.IntentFrames
import ScriptedStage.Proofs.IssuedIds
import ScriptedStage.Proofs.LateTriggers
import ScriptedStage.Proofs.LoadFailures
import ScriptedStage.Proofs.LoopHistories
import ScriptedStage.Proofs.MirroredStates
import ScriptedStage.Proofs.MoveReversal
import ScriptedStage.Proofs.NestedDeliveries
import ScriptedStage.Proofs.OpenIds
import ScriptedStage.Proofs.Recordings
import ScriptedStage.Proofs.Removals
import ScriptedStage.Proofs.Restarts
import ScriptedStage.Proofs.RosterOrder
import ScriptedStage.Proofs.SafeExecution
import ScriptedStage.Proofs.SavedStages
import ScriptedStage.Proofs.SeparateRuns
import ScriptedStage.Proofs.StaleProgress
import ScriptedStage.Proofs.StoreRuns
import ScriptedStage.Proofs.Subscriptions
import ScriptedStage.Proofs.WithdrawnFrames
import ScriptedStage.Recording.Sinks
import ScriptedStage.Stage.Same
import ScriptedStage.Stage.Store
