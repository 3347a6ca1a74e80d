import Pagewright.Files.Changes
import Pagewright.Main
import Pagewright.Proofs.Markup.Document
import Pagewright.Proofs.Markup.Forest
import Pagewright.Proofs.Markup.Reading
import Pagewright.Proofs.Component.Induction
import Pagewright.Proofs.Markup.Leaves
import Pagewright.Proofs.Markup.Pieces
import Pagewright.Proofs.Markup.RoundTrip
import Pagewright.Proofs.Validation.Acceptance
import Pagewright.Proofs.Validation.Paths
import Pagewright.Proofs.Validation.Reports
import Pagewright.Proofs.Page.Members
import Pagewright.Proofs.Files.Ancestors
import Pagewright.Proofs.Files.Places
import Pagewright.Proofs.Files.Operations
import Pagewright.Proofs.Files.Trees
import Pagewright.Proofs.Page.Files
import Pagewright.Proofs.Run.Attempts
import Pagewright.Proofs.Run.Jobs
import Pagewright.Proofs.Run.Outcome
import Pagewright.Proofs.Run.Failures
import Pagewright.Proofs.Markup.Texts
import Pagewright.Proofs.Markup.Spelling
import Pagewright.Proofs.Markup.Interpolation
import Pagewright.Proofs.Markup.Angles
import Pagewright.Proofs.Markup.Bindings
import Pagewright.Proofs.Markup.Choices
import Pagewright.Proofs.Text.Tokens
import Pagewright.Proofs.Text.Statements
import Pagewright.Proofs.Page.Names
import Pagewright.Proofs.Page.ClassHead
import Pagewright.Proofs.Barrel.Sources
import Pagewright.Proofs.Barrel.Routes
import Pagewright.Proofs.Barrel.References
import Pagewright.Proofs.Json.Scalars
import Pagewright.Proofs.Json.Values
import Pagewright.Proofs.Component.Fields
import Pagewright.Proofs.Json.Nesting
import Pagewright.Proofs.Json.Records
import Pagewright.Proofs.Json.Yields
import Pagewright.Proofs.Json.Lawful
import Pagewright.Proofs.Component.RoundTrip
import Pagewright.Proofs.Page.RoundTrip
import Pagewright.Proofs.Markup.Children
import Pagewright.Proofs.Page.Collisions
import Pagewright.Proofs.Page.Outputs
import Pagewright.Proofs.Barrel.Scope
import Pagewright.Proofs.Markup.Remarks
import Pagewright.Proofs.Page.Properties
import Pagewright.Proofs.Text.Calls
import Pagewright.Proofs.Page.Clicks
import Pagewright.Proofs.Text.Lines
import Pagewright.Proofs.Markup.Layout
import Pagewright.Proofs.Page.ClassLines
import Pagewright.Proofs.Json.Syntax
import Pagewright.Proofs.Json.Tokens
import Pagewright.Proofs.Json.Passing
import Pagewright.Proofs.Json.Meaning
import Pagewright.Proofs.Json.Members
import Pagewright.Proofs.Component.Meaning
import Pagewright.Proofs.Page.Rearranged
import Pagewright.Proofs.Page.Stylesheets
import Pagewright.Proofs.Run.Configuration
import Pagewright.Proofs.Validation.Duplicates
import Pagewright.Proofs.Text.Casing
import Pagewright.Proofs.Run.Layers
import Pagewright.Proofs.Text.Blocks
import Pagewright.Proofs.Page.Styles
import Pagewright.Proofs.Markup.Comments
import Pagewright.Proofs.Page.CamelCase
