import ReceivingLink.Config.Document
import ReceivingLink.Program.Run
import ReceivingLink.Proofs.Accounts
import ReceivingLink.Proofs.Fragments
import ReceivingLink.Proofs.Gap
import ReceivingLink.Proofs.Honest
import ReceivingLink.Proofs.Loss
import ReceivingLink.Proofs.Origin
import ReceivingLink.Proofs.Supply
import ReceivingLink.Proofs.Window
import ReceivingLink.Scenario.Run
import ReceivingLink.Proofs.Containment
import ReceivingLink.Proofs.Order
import ReceivingLink.Proofs.Forsaken
import ReceivingLink.Proofs.Spools
import ReceivingLink.Proofs.Review
import ReceivingLink.Proofs.Closed
import ReceivingLink.Proofs.Schedules
import ReceivingLink.Proofs.Prompts
import ReceivingLink.Proofs.Agreement
import ReceivingLink.Proofs.Elsewhere
import ReceivingLink.Proofs.Oblivious
import ReceivingLink.Proofs.Stale
import ReceivingLink.Proofs.Tasks
import ReceivingLink.Proofs.Queue
import ReceivingLink.Proofs.Polling
import ReceivingLink.Proofs.Conservation
import ReceivingLink.Proofs.Incomplete
import ReceivingLink.Proofs.Refusal
import ReceivingLink.Proofs.Closing
import ReceivingLink.Proofs.Erasure
import ReceivingLink.Proofs.Errors
import ReceivingLink.Proofs.TopUp
import ReceivingLink.Proofs.Overdraft
import ReceivingLink.Proofs.Headers
import ReceivingLink.Proofs.Scopes
import ReceivingLink.Proofs.Metering
import ReceivingLink.Proofs.Pressure
