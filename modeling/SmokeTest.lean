import SmokeTest.Main
import SmokeTest.Outcome.Json
import SmokeTest.Proofs.CommandLine.Exits
import SmokeTest.Proofs.Directive.Grammar
import SmokeTest.Proofs.Document.Acceptance
import SmokeTest.Proofs.Document.Filtering
import SmokeTest.Proofs.Document.Variables
import SmokeTest.Proofs.Marker.Agreement
import SmokeTest.Proofs.Marker.Membership
import SmokeTest.Proofs.Marker.Pieces
import SmokeTest.Proofs.Overrides
import SmokeTest.Proofs.Pool.Cancellation
import SmokeTest.Proofs.Pool.Commands
import SmokeTest.Proofs.Pool.Overlooked
import SmokeTest.Proofs.Pool.Passing
import SmokeTest.Proofs.Pool.Schedule
import SmokeTest.Proofs.Retagging
import SmokeTest.Proofs.Scan.Acceptance
import SmokeTest.Proofs.Scan.Commands
import SmokeTest.Proofs.Scan.Filtering
import SmokeTest.Proofs.Scan.Positional
import SmokeTest.Proofs.Scan.Settings
import SmokeTest.Proofs.Document.Listed
import SmokeTest.Proofs.Filter
import SmokeTest.Proofs.Document.Values
import SmokeTest.Proofs.Document.Faults
import SmokeTest.Proofs.CommandLine.Writing
import SmokeTest.Proofs.Pool.Refusal
import SmokeTest.Proofs.Summary
import SmokeTest.Proofs.Scan.LineEndings
import SmokeTest.Proofs.Outcome
import SmokeTest.Proofs.Report
import SmokeTest.Proofs.Pool.Waiting
