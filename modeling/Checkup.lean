import Checkup.Main
import Checkup.Console.Literal
import Checkup.Console.Style
import Checkup.Proofs.Questions
import Checkup.Proofs.Files
import Checkup.Proofs.Footprint
import Checkup.Proofs.Isolation
import Checkup.Proofs.Switches
import Checkup.Proofs.Totality
import Checkup.Proofs.Crash
import Checkup.Proofs.Console
import Checkup.Proofs.Changes
import Checkup.Proofs.DiffScan
import Checkup.Proofs.EntryPoints
import Checkup.Proofs.ExitStatus
import Checkup.Proofs.Offers
import Checkup.Proofs.Batches
import Checkup.Proofs.Remainder
import Checkup.Proofs.Restoration
import Checkup.Proofs.SearchOrder
import Checkup.Proofs.Places
import Checkup.Proofs.Spellings
import Checkup.Proofs.Tallies
import Checkup.Proofs.Aborts
import Checkup.Proofs.Traffic
import Checkup.Proofs.Repeats
import Checkup.Proofs.Requests
import Checkup.Proofs.Advice
import Checkup.Proofs.Precedence
import Checkup.Proofs.Mending
import Checkup.Proofs.Obstacles
import Checkup.Proofs.Packing
import Checkup.Proofs.Points
import Checkup.Proofs.ChangeScope
import Checkup.Proofs.Motion
import Checkup.Proofs.Inventory
import Checkup.Proofs.Readings
import Checkup.Proofs.Tries
import Checkup.Proofs.Messages
import Checkup.Proofs.Grouping
import Checkup.Proofs.RuleKeys
import Checkup.Proofs.Patterns
import Checkup.Proofs.Directories
import Checkup.Proofs.Summaries
import Checkup.Proofs.Installations
import Checkup.Proofs.Naming
import Checkup.Proofs.Links
import Checkup.Proofs.Copies
import Checkup.Proofs.Listings
import Checkup.Proofs.Expansions
import Checkup.Proofs.Launches
import Checkup.Proofs.Verbatim
import Checkup.Proofs.SourceCount
