import AssessmentChat.Main
import AssessmentChat.Rehearsal.Performance
import AssessmentChat.Rehearsal.Watching
import AssessmentChat.Wire.Config
import AssessmentChat.Wire.Message
import AssessmentChat.Wire.Session
import AssessmentChat.Proofs.ProcedureCourse
import AssessmentChat.Proofs.ConversationCourse
import AssessmentChat.Proofs.Interaction
import AssessmentChat.Proofs.SessionRun
import AssessmentChat.Proofs.SequentialHandling
import AssessmentChat.Proofs.ConversationWellFormed
import AssessmentChat.Proofs.Apology
import AssessmentChat.Proofs.PlanCancellation
import AssessmentChat.Proofs.SnapshotCoherence
import AssessmentChat.Proofs.FollowingPaths
import AssessmentChat.Proofs.FolderOfFiles
import AssessmentChat.Proofs.KeptPlans
import AssessmentChat.Proofs.ChatRun
import AssessmentChat.Proofs.FaultBlindness
import AssessmentChat.Proofs.FaultNoninterference
import AssessmentChat.Proofs.Disposal
import AssessmentChat.Proofs.Recollection
import AssessmentChat.Proofs.NamesSinceRestart
import AssessmentChat.Proofs.GoingWell
import AssessmentChat.Proofs.CancellationScope
import AssessmentChat.Proofs.OpenSessions
import AssessmentChat.Proofs.AuthenticationGate
import AssessmentChat.Proofs.WatchTimetable
import AssessmentChat.Proofs.TransientFailures
import AssessmentChat.Proofs.RoundTrips
import AssessmentChat.Proofs.SessionIsolation
import AssessmentChat.Proofs.PhaseTable
import AssessmentChat.Proofs.ShownInOrder
import AssessmentChat.Proofs.PlanCalls
import AssessmentChat.Proofs.WordsPassedOn
import AssessmentChat.Proofs.SigningInAndOut
import AssessmentChat.Proofs.SavingPlans
import AssessmentChat.Proofs.OfferedPlans
import AssessmentChat.Proofs.ExportedPlans
import AssessmentChat.Proofs.SavedPlaces
import AssessmentChat.Proofs.RegistryCalls
import AssessmentChat.Proofs.EmptyWorkspaces
import AssessmentChat.Proofs.PackedWorkspaces
import AssessmentChat.Proofs.TouchedFiles
import AssessmentChat.Proofs.StoredInside
import AssessmentChat.Proofs.KeptApart
import AssessmentChat.Proofs.OperationOutcomes
import AssessmentChat.Proofs.TokenSecrecy
import AssessmentChat.Proofs.RefusedCommands
import AssessmentChat.Proofs.LeftOutFiles
import AssessmentChat.Proofs.GivenSettings
import AssessmentChat.Proofs.SettingsDocuments
import AssessmentChat.Proofs.LayeredSettings
import AssessmentChat.Proofs.PickedSuggestions
