import VoidScript.Machine.StandIn
import VoidScript.Main
import VoidScript.Proofs.Text.Unbroken
import VoidScript.Proofs.Text.Blank
import VoidScript.Proofs.Source.Lines
import VoidScript.Proofs.Source.Splitter
import VoidScript.Proofs.Metadata
import VoidScript.Proofs.Script
import VoidScript.Proofs.Composition
import VoidScript.Proofs.Script.Deletion
import VoidScript.Proofs.Script.Padding
import VoidScript.Proofs.Directive.Capture
import VoidScript.Proofs.Directive.Grammar
import VoidScript.Proofs.Directive.Written
import VoidScript.Proofs.Plugin.Layout
import VoidScript.Proofs.Text.Quoted
import VoidScript.Proofs.Listing
import VoidScript.Proofs.Yaml.Number
import VoidScript.Proofs.Yaml.Scalar
import VoidScript.Proofs.Plugin.Descriptor
import VoidScript.Proofs.Path
import VoidScript.Proofs.FileSystem
import VoidScript.Proofs.Machine
import VoidScript.Proofs.CommandLine.Arguments
import VoidScript.Proofs.Build
import VoidScript.Proofs.Build.Containment
import VoidScript.Proofs.Build.Agreement
import VoidScript.Proofs.Build.Strict
import VoidScript.Proofs.Directive.Suffix
import VoidScript.Proofs.Script.Headers
import VoidScript.Proofs.Build.Failures
import VoidScript.Proofs.Build.Packaging
import VoidScript.Proofs.Directive.Enclosed
import VoidScript.Proofs.Directive.Literal
import VoidScript.Proofs.Plugin.Entries
import VoidScript.Proofs.Text.Capital
import VoidScript.Proofs.Text.Title
import VoidScript.Proofs.Plugin.Generator
import VoidScript.Proofs.Build.Losses
