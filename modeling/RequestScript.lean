import RequestScript.CommandLine.Launcher
import RequestScript.Endpoint
import RequestScript.Main
import RequestScript.Proofs.RoundTrip
import RequestScript.Proofs.Scan.Definition
import RequestScript.Proofs.Scan.History
import RequestScript.Proofs.Scan.WellFormed
import RequestScript.Proofs.Scan.Places
import RequestScript.Proofs.Scan.Isolation
import RequestScript.Proofs.Scan.Extension
import RequestScript.Proofs.Scan.Newlines
import RequestScript.Proofs.Text.Cuts
import RequestScript.Proofs.Commands
import RequestScript.Proofs.Scan.Failures
import RequestScript.Proofs.Commands.Decoding
import RequestScript.Proofs.Commands.Shell
import RequestScript.Proofs.Surfaces
import RequestScript.Proofs.Conversion.Outputs
import RequestScript.Proofs.Conversion.Independence
import RequestScript.Proofs.Conversion.Repetition
import RequestScript.Proofs.Conversion.Log
import RequestScript.Proofs.Scan.Insertion
import RequestScript.Proofs.CommandLine.Endings
import RequestScript.Proofs.Service
import RequestScript.Proofs.Scan.Continuation
import RequestScript.Proofs.Substitution.Separation
import RequestScript.Proofs.Scan.LookUp
import RequestScript.Proofs.Scan.Transcript
import RequestScript.Proofs.BoundFields
import RequestScript.Proofs.Scan.Coverage
import RequestScript.Proofs.Scan.Variables
import RequestScript.Proofs.Yaml.Keys
import RequestScript.Proofs.Settings.Precedence
import RequestScript.Proofs.CommandLine.Precedence
