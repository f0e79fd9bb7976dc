import TextDomain.Command
import TextDomain.FileSystem.Changes
import TextDomain.Main
import TextDomain.Proofs.Check.Frame
import TextDomain.Proofs.Config.Failure
import TextDomain.Proofs.FileSystem.Sources
import TextDomain.Proofs.Fixing.Arguments
import TextDomain.Proofs.Fixing.Contract
import TextDomain.Proofs.Fixing.Fixpoint
import TextDomain.Proofs.Fixing.Kept
import TextDomain.Proofs.Fixing.Listing
import TextDomain.Proofs.Fixing.Passes
import TextDomain.Proofs.Fixing.Permitted
import TextDomain.Proofs.Fixing.Scan
import TextDomain.Proofs.Message.Rendering
import TextDomain.Proofs.Output.Lines
import TextDomain.Proofs.Output.RoundTrip
import TextDomain.Proofs.Rule.Loosening
import TextDomain.Proofs.Rule.Replacement
import TextDomain.Proofs.Rule.Settled
import TextDomain.Proofs.Rule.Table
import TextDomain.Proofs.Source.Column
import TextDomain.Proofs.Source.Cut
import TextDomain.Proofs.Source.Order
import TextDomain.Proofs.Source.Traversal
import TextDomain.Session
