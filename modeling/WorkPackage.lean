import WorkPackage.Execution
import WorkPackage.Main
import WorkPackage.Proofs.Wire.Reading
import WorkPackage.Proofs.Wire.Field
import WorkPackage.Proofs.Wire.Structure
import WorkPackage.Proofs.Wire.Limit
import WorkPackage.Proofs.Wire.Frame
import WorkPackage.Proofs.Wire.Confinement
import WorkPackage.Wire.Message
import WorkPackage.Proofs.Wire.Message
import WorkPackage.Proofs.Wire.Stream
import WorkPackage.Proofs.Wire.Truncation
import WorkPackage.Execution.Schedule
import WorkPackage.Proofs.Completion
import WorkPackage.Proofs.Execution.Ending
import WorkPackage.Proofs.Execution.Account
import WorkPackage.Proofs.Execution.Outcome
import WorkPackage.Proofs.Execution.Resumption
import WorkPackage.Proofs.Execution.Numbering
import WorkPackage.History
import WorkPackage.Proofs.Population
import WorkPackage.Proofs.Marking
import WorkPackage.Proofs.History.Contents
import WorkPackage.Proofs.History.Marks
import WorkPackage.Proofs.Typing
import WorkPackage.Proofs.Build.Assembly
import WorkPackage.Proofs.Completion.Order
import WorkPackage.Marking
import WorkPackage.Proofs.Marking.Call
import WorkPackage.Proofs.Marking.Interleaving
import WorkPackage.Completion.Session
import WorkPackage.Proofs.Completion.Session
import WorkPackage.Proofs.Completion.Accounts
import WorkPackage.Proofs.Outcome
import WorkPackage.Proofs.Binding
import WorkPackage.Proofs.Number.Narrowing
import WorkPackage.Proofs.Number.Spelling
import WorkPackage.Proofs.Typing.Agreement
import WorkPackage.Proofs.Build.Planning
import WorkPackage.Proofs.Build.Delivery
import WorkPackage.Proofs.Population.Batch
import WorkPackage.Proofs.Completion.Queue
import WorkPackage.Proofs.Build.Settings
import WorkPackage.Proofs.Build.Precedence
import WorkPackage.Proofs.Rendering
import WorkPackage.Proofs.Listing
import WorkPackage.Proofs.Table.Quoting
import WorkPackage.Proofs.Table.Position
import WorkPackage.Proofs.Typing.Integers
import WorkPackage.Lifecycle
import WorkPackage.Proofs.Lifecycle
