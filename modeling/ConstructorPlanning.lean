import ConstructorPlanning.Proofs.Messages
import ConstructorPlanning.Proofs.Matching
import ConstructorPlanning.Proofs.Parameters
import ConstructorPlanning.Proofs.Resolution
import ConstructorPlanning.Proofs.SessionSteps
import ConstructorPlanning.Proofs.LogSettings
import ConstructorPlanning.Proofs.Naming
import ConstructorPlanning.Proofs.PlanningOutcome
import ConstructorPlanning.Proofs.AcceptedPlan
import ConstructorPlanning.Proofs.Binding
import ConstructorPlanning.Proofs.Consumption
import ConstructorPlanning.Proofs.NormalName
import ConstructorPlanning.Proofs.OwnDelegate
import ConstructorPlanning.Proofs.Cancellation
import ConstructorPlanning.Proofs.SnapshotOrder
import ConstructorPlanning.Proofs.DeclaredParameters
import ConstructorPlanning.Proofs.PickedCall
import ConstructorPlanning.Proofs.AllMembers
import ConstructorPlanning.Proofs.TextReading
import ConstructorPlanning.Proofs.SpelledText
import ConstructorPlanning.Proofs.WrittenDraft
import ConstructorPlanning.Proofs.RecordReading
import ConstructorPlanning.Proofs.SnapshotReading
import ConstructorPlanning.Proofs.EntryOrder
import ConstructorPlanning.Proofs.PlanReading
import ConstructorPlanning.Proofs.SetMatching
import ConstructorPlanning.Proofs.OptionFilters
import ConstructorPlanning.Proofs.Stages
import ConstructorPlanning.Proofs.RunOutcome
import ConstructorPlanning.Proofs.CatalogWriting
import ConstructorPlanning.Proofs.ArgumentSources
import ConstructorPlanning.Proofs.BindingPreference
import ConstructorPlanning.Proofs.ExplicitSelection
import ConstructorPlanning.Proofs.SelectionOrder
import ConstructorPlanning.Proofs.ExactSpelling
import ConstructorPlanning.Proofs.NumberSearch
import ConstructorPlanning.Proofs.WordBoundaries
import ConstructorPlanning.Proofs.ViableMembers
import ConstructorPlanning.Proofs.ColourStripping
import ConstructorPlanning.Proofs.RunLog
import ConstructorPlanning.Proofs.PlanningLog
import ConstructorPlanning.Proofs.CommandLine
import ConstructorPlanning.Proofs.MemberTable
