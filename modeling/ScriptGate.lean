import ScriptGate.Main
import ScriptGate.Proofs.EcmaScript.Containment
import ScriptGate.Proofs.EcmaScript.Envelope
import ScriptGate.Proofs.Expression.Acceptance
import ScriptGate.Proofs.Expression.Detection
import ScriptGate.Proofs.Remote.Run
import ScriptGate.Proofs.Screening.Spacing
import ScriptGate.Workbench
import ScriptGate.Proofs.Run.Report
import ScriptGate.Proofs.Catalog
import ScriptGate.Proofs.Workbench
import ScriptGate.Proofs.Run.Wording
import ScriptGate.Proofs.Gates
import ScriptGate.Proofs.CommandLine.Markup
import ScriptGate.Proofs.Lint.Warning
import ScriptGate.Proofs.Number.Seconds
import ScriptGate.Proofs.Remote.Sending
import ScriptGate.Proofs.CommandLine.Arguments
import ScriptGate.Proofs.CommandLine.Session
import ScriptGate.Proofs.Expression.Outline
import ScriptGate.Proofs.Expression.Comments
import ScriptGate.Proofs.Expression.Keywords
import ScriptGate.Proofs.Expression.LineBreaks
import ScriptGate.Proofs.Expression.Layout
import ScriptGate.Proofs.Expression.Offset
import ScriptGate.Proofs.Expression.Unwrapping
import ScriptGate.Proofs.Lint.Calls
import ScriptGate.Proofs.Lint.Chaining
import ScriptGate.Proofs.Lint.Pairs
import ScriptGate.Proofs.Lint.Statements
import ScriptGate.Proofs.Lint.InnerCalls
import ScriptGate.Proofs.Lint.FieldFlags
import ScriptGate.Proofs.Lint.Conditions
import ScriptGate.Proofs.Scan.Site
import ScriptGate.Proofs.Lint.CallSites
import ScriptGate.Proofs.Lint.Parentheses
import ScriptGate.Proofs.Scan.Operations
import ScriptGate.Proofs.Scan.Surrounding
import ScriptGate.Proofs.Lint.Surrounding
import ScriptGate.Proofs.Lint.Location
import ScriptGate.Proofs.Remote.Bodies
import ScriptGate.Proofs.Run.Records
import ScriptGate.Proofs.Run.Truncation
import ScriptGate.Proofs.Catalog.Merging
import ScriptGate.Proofs.Pattern.Whole
import ScriptGate.Proofs.Settings.Hostname
import ScriptGate.Proofs.Text.Lowercase
import ScriptGate.Proofs.Settings.Address
import ScriptGate.Proofs.Settings.InstanceUrl
import ScriptGate.Proofs.Settings.Instance
import ScriptGate.Proofs.Number.Literal
import ScriptGate.Proofs.Settings.Bounds
import ScriptGate.Proofs.Settings.Pipeline
