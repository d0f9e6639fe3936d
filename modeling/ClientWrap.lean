import ClientWrap.Main
import ClientWrap.Proofs.Schema.Reordering
import ClientWrap.Proofs.Document.Records
import ClientWrap.Proofs.Schema.Loading
import ClientWrap.Proofs.Wrapper.Methods
import ClientWrap.Proofs.Clientset.Walkable
import ClientWrap.Proofs.Clientset.Exclusion
import ClientWrap.Proofs.Path
import ClientWrap.Proofs.Settings.Outputs
import ClientWrap.Proofs.Code.Pieces
import ClientWrap.Proofs.Wrapper.Imports
import ClientWrap.Proofs.FileTree.Changes
import ClientWrap.Proofs.Project.Runs
import ClientWrap.Proofs.Project.Failures
import ClientWrap.Proofs.Code.Declarations
import ClientWrap.Proofs.Naming.Alias
import ClientWrap.Proofs.Naming.SnakeCase
import ClientWrap.Proofs.GoType.Aliased
import ClientWrap.Proofs.Method.Detection
import ClientWrap.Proofs.Wrapper.Declarations
import ClientWrap.Proofs.Project.Identifiers
import ClientWrap.Proofs.Code.ImportBlock
import ClientWrap.Proofs.Project.ImportBlocks
import ClientWrap.Proofs.Schema.Addition
import ClientWrap.Proofs.Code.Tokens
import ClientWrap.Proofs.Code.Uses
import ClientWrap.Proofs.Code.Bodies
import ClientWrap.Proofs.Wrapper.Passing
import ClientWrap.Proofs.Wrapper.Spans
import ClientWrap.Proofs.Wrapper.Forwarding
import ClientWrap.Proofs.Code.Braced
import ClientWrap.Proofs.Code.Calling
import ClientWrap.Proofs.Wrapper.Bodies
import ClientWrap.Proofs.Wrapper.Reports
import ClientWrap.Proofs.Code.Outline
import ClientWrap.Proofs.Wrapper.Linking
import ClientWrap.Proofs.Listing.Summary
import ClientWrap.Proofs.Settings.Overriding
import ClientWrap.Proofs.Text.LineEnds
import ClientWrap.Proofs.FileTree.Above
import ClientWrap.Proofs.FileTree.Ensuring
import ClientWrap.Proofs.Code.Scanning
import ClientWrap.Proofs.Wrapper.Literals
