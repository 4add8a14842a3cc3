import Bystander.Bot.Command
import Bystander.Config.Tree
import Bystander.Host.Script
import Bystander.Main
import Bystander.Proofs.Deeds
import Bystander.Proofs.Chronicle
import Bystander.Proofs.Delivery
import Bystander.Proofs.Limbs
import Bystander.Proofs.Outings
import Bystander.Proofs.Joints
import Bystander.Proofs.Arms
import Bystander.Proofs.Chances
import Bystander.Proofs.WaveEnds
import Bystander.Proofs.Box
import Bystander.Proofs.Doubles
import Bystander.Proofs.Alone
import Bystander.Proofs.Clocks
import Bystander.Proofs.Rounding
import Bystander.Proofs.Course
import Bystander.Proofs.Rotations
import Bystander.Proofs.Upright
import Bystander.Proofs.Answers
import Bystander.Proofs.Completion
import Bystander.Proofs.Silence
import Bystander.Proofs.Removal
import Bystander.Proofs.Isolation
import Bystander.Proofs.Draws
import Bystander.Proofs.Outcomes
import Bystander.Proofs.Cues
import Bystander.Proofs.TwoRuns
import Bystander.Proofs.Cosmetics
import Bystander.Proofs.Accounts
import Bystander.Proofs.Bookkeeping
import Bystander.Proofs.Lifecycle
import Bystander.Proofs.WrittenBack
import Bystander.Proofs.Undeclared
import Bystander.Proofs.Loading
import Bystander.Proofs.Arrangement
import Bystander.Proofs.Transcript
import Bystander.Proofs.FaultIsolation
import Bystander.Proofs.Enclosure
import Bystander.Proofs.Gait
import Bystander.Proofs.Arrival
import Bystander.Proofs.Leftovers
import Bystander.Proofs.Overrides
import Bystander.Proofs.Mixtures
import Bystander.Proofs.Targets
import Bystander.Proofs.Glances
import Bystander.Proofs.Axes
import Bystander.Proofs.Stranded
import Bystander.Proofs.Airtime
import Bystander.Proofs.Exact
import Bystander.Proofs.Refresh
import Bystander.Proofs.DueTimers
