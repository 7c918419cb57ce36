import ApiBook.Main
import ApiBook.Proofs.Order.StableSort
import ApiBook.Proofs.Path.Component
import ApiBook.Proofs.Workspace.Forest
import ApiBook.Proofs.Workspace.Grouping
import ApiBook.Proofs.Workspace.Contents
import ApiBook.Proofs.Workspace.Outline
import ApiBook.Proofs.Workspace.Rank
import ApiBook.Proofs.Workspace.Hierarchy
import ApiBook.Proofs.Json.Quoted
import ApiBook.Proofs.Number.Digits
import ApiBook.Proofs.Json.Numeral
import ApiBook.Proofs.Number.Rounding
import ApiBook.Proofs.Json.Float
import ApiBook.Proofs.Value.Members
import ApiBook.Proofs.Json.RoundTrip
import ApiBook.Proofs.Json.Reading
import ApiBook.Proofs.Json.Writer
import ApiBook.Proofs.Json.Limit
import ApiBook.Proofs.Record.Sheet
import ApiBook.Proofs.Record.RoundTrip
import ApiBook.Proofs.Record.Encoding
import ApiBook.Proofs.Record.Schema
import ApiBook.Proofs.Record.Refusal
import ApiBook.Proofs.Record.Acceptance
import ApiBook.Proofs.Record.NormalForm
import ApiBook.Proofs.Record.Reencoding
import ApiBook.Proofs.Record.Itemwise
import ApiBook.Proofs.Record.Respelling
import ApiBook.Proofs.Workspace.Levels
import ApiBook.Proofs.Setting.Table
import ApiBook.Proofs.Setting.Keyed
import ApiBook.Proofs.Config.Dotted
import ApiBook.Proofs.Config.Merged
import ApiBook.Proofs.Config.Variable
import ApiBook.Proofs.Config.Layers
import ApiBook.Proofs.Text.Word
import ApiBook.Proofs.Number.Typed
import ApiBook.Proofs.Config.Argument
import ApiBook.Proofs.Markdown.Tree
import ApiBook.Proofs.Book.Chapter
import ApiBook.Proofs.Book.Coverage
import ApiBook.Proofs.Workspace.Rearranged
import ApiBook.Proofs.Workspace.Growth
import ApiBook.Proofs.Text.Trimmed
import ApiBook.Proofs.Text.Utf8
import ApiBook.Proofs.Text.Percent
import ApiBook.Proofs.Path.Address
import ApiBook.Proofs.Book.Page
import ApiBook.Proofs.Book.SharedPage
import ApiBook.Proofs.Workspace.Locations
import ApiBook.Proofs.Workspace.Selection
import ApiBook.Proofs.Workspace.Listing
import ApiBook.Proofs.Workspace.Agreement
import ApiBook.Proofs.Workspace.Block
import ApiBook.Proofs.Workspace.Atomic
import ApiBook.Proofs.Book.Part
import ApiBook.Proofs.Book.Numbering
import ApiBook.Proofs.Book.Position
import ApiBook.Proofs.Preprocess.Handled
import ApiBook.Proofs.Export.Outcome
import ApiBook.Proofs.Disk.Tree
import ApiBook.Proofs.Preprocess.Settings
import ApiBook.Proofs.Setting.Key
import ApiBook.Proofs.Config.Overlay
