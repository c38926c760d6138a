import Quiesce.Json.MergePatch
import Quiesce.Main
import Quiesce.World.Timeline
import Quiesce.World.Transcript
import Quiesce.Proofs.DecisionTable
import Quiesce.Proofs.TickCases
import Quiesce.Proofs.WorldSteps
import Quiesce.Proofs.Unregistered
import Quiesce.Proofs.Interleaving
import Quiesce.Proofs.Versions
import Quiesce.Proofs.WriteOnce
import Quiesce.Proofs.Elapsing
import Quiesce.Proofs.RunnerIds
import Quiesce.Proofs.Spending
import Quiesce.Proofs.Underway
import Quiesce.Proofs.DrainEnds
import Quiesce.Proofs.Perseverance
import Quiesce.Proofs.Atomicity
import Quiesce.Proofs.GraceRuns
import Quiesce.Proofs.GraceKept
import Quiesce.Proofs.GraceConverges
import Quiesce.Proofs.Stranded
import Quiesce.Proofs.Completion
import Quiesce.Proofs.FailureTexts
import Quiesce.Proofs.RemovalResponses
import Quiesce.Proofs.Listing
import Quiesce.Proofs.Dialogues
import Quiesce.Proofs.StepEffects
import Quiesce.Proofs.Indifference
import Quiesce.Proofs.RecordedNumber
import Quiesce.Proofs.AnnotationPatch
import Quiesce.Proofs.Digits
import Quiesce.Proofs.JsonText
import Quiesce.Proofs.TimestampText
import Quiesce.Proofs.Documents
import Quiesce.Proofs.Independence
import Quiesce.Proofs.Usability
import Quiesce.Proofs.ShrinkingListing
import Quiesce.Proofs.Attempts
import Quiesce.Proofs.Answers
import Quiesce.Proofs.FailedPages
import Quiesce.Proofs.Throttling
import Quiesce.Proofs.LeapSeconds
import Quiesce.Proofs.RepositoryNames
import Quiesce.Proofs.Addresses
import Quiesce.Proofs.Registering
import Quiesce.Proofs.ObjectParts
import Quiesce.Proofs.RunnerContainer
import Quiesce.Proofs.IntegerTexts
import Quiesce.Proofs.Backoff
import Quiesce.Proofs.Environments
import Quiesce.Proofs.LegibleMarks
import Quiesce.Proofs.PageRequests
