import NodeVariables.Json.Reader.Tree
import NodeVariables.Main
import NodeVariables.Menu
import NodeVariables.Prompt
import NodeVariables.Proofs.Bytes
import NodeVariables.Proofs.LowestIds
import NodeVariables.Proofs.Linking
import NodeVariables.Proofs.OwnLinkIds
import NodeVariables.Proofs.Dangling
import NodeVariables.Proofs.Bare
import NodeVariables.Proofs.Source
import NodeVariables.Proofs.Pass
import NodeVariables.Proofs.UpToDate
import NodeVariables.Proofs.Frame
import NodeVariables.Proofs.Wiring
import NodeVariables.Proofs.Refresh
import NodeVariables.Proofs.Convergence
import NodeVariables.Proofs.EditRuns
import NodeVariables.Proofs.Targeted
import NodeVariables.Proofs.EditFrame
import NodeVariables.Proofs.Upkeep
import NodeVariables.Proofs.Displays
import NodeVariables.Proofs.Written
import NodeVariables.Proofs.OwnIds
import NodeVariables.Proofs.PassOutcome
import NodeVariables.Proofs.Staleness
import NodeVariables.Proofs.Entries
import NodeVariables.Proofs.TimerRuns
import NodeVariables.Proofs.SingleSweeps
import NodeVariables.Proofs.Ticks
import NodeVariables.Proofs.LinkEvents
import NodeVariables.Proofs.Hooks
import NodeVariables.Proofs.Json.Containers
import NodeVariables.Proofs.SavedGraphs
import NodeVariables.Proofs.Messages
import NodeVariables.Proofs.Loading
import NodeVariables.Proofs.Reports
import NodeVariables.Proofs.Duplicates
import NodeVariables.Proofs.Purging
import NodeVariables.Proofs.Json.Members
import NodeVariables.Proofs.Prompts
import NodeVariables.Proofs.Removal
import NodeVariables.Proofs.Departures
import NodeVariables.Proofs.Deadlines
import NodeVariables.Proofs.Overrides
import NodeVariables.Proofs.Counters
import NodeVariables.Proofs.Replacing
import NodeVariables.Proofs.ColorTexts
import NodeVariables.Proofs.LastWrites
import NodeVariables.Proofs.Accounting
