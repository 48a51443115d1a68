import SinglePage.CommandLine.Basic
import SinglePage.CommandLine.Parser
import SinglePage.CommandLine.Run
import SinglePage.Error
import SinglePage.FileSystem.Access
import SinglePage.FileSystem.Disk
import SinglePage.FileSystem.Host
import SinglePage.FileSystem.Item
import SinglePage.FileSystem.Place
import SinglePage.FileSystem.Tree
import SinglePage.Filter.Action
import SinglePage.Filter.Call
import SinglePage.Filter.Rank
import SinglePage.Filter.Registry
import SinglePage.KeyOrder
import SinglePage.Log.Directive
import SinglePage.Log.Event
import SinglePage.Log.Level
import SinglePage.Main
import SinglePage.Path.Basic
import SinglePage.Path.Name
import SinglePage.Pattern.Brackets
import SinglePage.Pattern.Escape
import SinglePage.Pattern.Group
import SinglePage.Post
import SinglePage.Proofs.FileSystem.Descending
import SinglePage.Proofs.FileSystem.Entering
import SinglePage.Proofs.FileSystem.Growing
import SinglePage.Proofs.FileSystem.Naming
import SinglePage.Proofs.FileSystem.PathSteps
import SinglePage.Proofs.FileSystem.Replacing
import SinglePage.Proofs.Site.AllOrNothing
import SinglePage.Proofs.Site.BuiltinPage
import SinglePage.Proofs.Site.Looking
import SinglePage.Proofs.Site.OutputFiles
import SinglePage.Proofs.Site.Reading
import SinglePage.Proofs.Site.Writing
import SinglePage.Proofs.Template.Layout
import SinglePage.Proofs.Template.Scan
import SinglePage.Proofs.Template.Span
import SinglePage.Site.Build
import SinglePage.Site.Listing
import SinglePage.Site.Options
import SinglePage.Site.Output
import SinglePage.Site.Render
import SinglePage.Site.Source
import SinglePage.SortedMap
import SinglePage.Template.Apply
import SinglePage.Template.Basic
import SinglePage.Template.Builtin
import SinglePage.Template.Parser
import SinglePage.Text.Alphanumeric
import SinglePage.Text.Blank
import SinglePage.Text.Bytes
import SinglePage.Text.Decimal
import SinglePage.Text.Digits
import SinglePage.Timestamp
import SinglePage.Value
import SinglePage.Proofs.Path.PostNames
import SinglePage.Proofs.Text.ByteOrder
import SinglePage.Proofs.FileSystem.FilesBelow
import SinglePage.Proofs.Site.PostOrder
import SinglePage.Proofs.Site.ListedPosts
import SinglePage.Proofs.Filter.Stages
import SinglePage.Proofs.Template.Printing
import SinglePage.Proofs.Site.SafeTemplates
import SinglePage.Proofs.Filter.Termination
import SinglePage.Proofs.Template.Joining
import SinglePage.Proofs.FileSystem.LinkFree
import SinglePage.Proofs.Site.Rebuilding
import SinglePage.Proofs.Site.FaultOrder
import SinglePage.Proofs.Filter.SiteScope
import SinglePage.Proofs.Site.FilledTexts
import SinglePage.Proofs.CommandLine.Parts
import SinglePage.Proofs.CommandLine.Lines
import SinglePage.Proofs.CommandLine.BuildForms
import SinglePage.Proofs.CommandLine.VerboseAnywhere
import SinglePage.Proofs.Filter.Locality
import SinglePage.Proofs.Template.Unclosed
import SinglePage.Proofs.Timestamp.Acceptance
import SinglePage.Proofs.Filter.Verbatim
import SinglePage.Proofs.Filter.Concatenation
import SinglePage.Proofs.Site.Chronology
import SinglePage.Proofs.Path.NamingConvention
import SinglePage.Proofs.Template.Truncation
import SinglePage.Proofs.Map.Merging
import SinglePage.Proofs.Filter.Registrations
import SinglePage.Proofs.Site.Assignments
import SinglePage.Proofs.Site.FileNames
import SinglePage.Proofs.Map.Written
import SinglePage.Proofs.Filter.Sameness
import SinglePage.Proofs.Filter.LastWrites
