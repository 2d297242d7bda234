import StackCalculator.Browser
import StackCalculator.Main
import StackCalculator.Proofs.Accusations
import StackCalculator.Proofs.Bottom
import StackCalculator.Proofs.Combs
import StackCalculator.Proofs.Failures
import StackCalculator.Proofs.Histories
import StackCalculator.Proofs.Number.Canonical
import StackCalculator.Proofs.Number.Results
import StackCalculator.Proofs.Operations
import StackCalculator.Proofs.Queue
import StackCalculator.Proofs.Reductions
import StackCalculator.Proofs.RoundTrip
import StackCalculator.Proofs.Sequences
import StackCalculator.Proofs.Stretches
import StackCalculator.Proofs.Tally
import StackCalculator.Proofs.Terminal.Answers
import StackCalculator.Proofs.Terminal.Calls
import StackCalculator.Proofs.Terminal.LineEnds
import StackCalculator.Proofs.Terminal.Requests
import StackCalculator.Proofs.Terminal.Unreadable
import StackCalculator.Proofs.Terminal.Uses
import StackCalculator.Proofs.Truncation
import StackCalculator.Proofs.Underflow
import StackCalculator.Proofs.Writing
import StackCalculator.Session
import StackCalculator.Stacks.Command
