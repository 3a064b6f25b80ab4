import Stencil.Bundled
import Stencil.Configuration
import Stencil.Embed.Call
import Stencil.Pass.Language
import Stencil.Pass.Posts
import Stencil.Theme.Inspect
import Stencil.Variable.Pattern
import Stencil.Proofs.Block.Tag
import Stencil.Proofs.Text.Occurrence
import Stencil.Proofs.Block.Region
import Stencil.Proofs.Block.Scan
import Stencil.Proofs.Block.Cleanup
import Stencil.Proofs.Block.Seam
import Stencil.Proofs.Forest.Basic
import Stencil.Proofs.Forest.Scan
import Stencil.Proofs.Theme.History
import Stencil.Proofs.Unicode.Fold
import Stencil.Proofs.Unicode.Case
import Stencil.Proofs.Variable.Form
import Stencil.Proofs.Variable.Substitute
import Stencil.Proofs.Variable.Fill
import Stencil.Proofs.Forest.Substitute
import Stencil.Proofs.Cursor.Visit
import Stencil.Proofs.Cursor.Commute
import Stencil.Proofs.Template.Copies
import Stencil.Proofs.Cursor.Agree
import Stencil.Proofs.Posts.Copies
import Stencil.Proofs.Context.History
import Stencil.Proofs.Context.Once
import Stencil.Proofs.FileTree.Place
import Stencil.Proofs.Value.Level
import Stencil.Proofs.Context.DataFile
import Stencil.Proofs.Context.Failure
import Stencil.Proofs.Context.Write
import Stencil.Proofs.Context.Order
import Stencil.Proofs.Context.EmptyKey
import Stencil.Proofs.Configuration.Preload
import Stencil.Proofs.Text.Order
import Stencil.Proofs.Text.Html
import Stencil.Proofs.Text.JsonString
import Stencil.Proofs.Text.FormEncoding
import Stencil.Proofs.Embed.Manifest
import Stencil.Proofs.Calendar.Date
import Stencil.Proofs.Text.Numeral
import Stencil.Proofs.Time.Tag
import Stencil.Proofs.Forest.Choice
import Stencil.Proofs.Value.Merge
import Stencil.Proofs.Theme.Language
import Stencil.Proofs.Context.Locale
import Stencil.Proofs.Context.TopLevel
import Stencil.Proofs.Decimal.Nearest
import Stencil.Proofs.Time.Age
import Stencil.Proofs.Time.Beats
import Stencil.Proofs.Variable.Lossless
import Stencil.Proofs.Theme.Strings
import Stencil.Proofs.Value.Texts
import Stencil.Proofs.Variable.Tagged
import Stencil.Proofs.Posts.Time
import Stencil.Proofs.Forest.TopLevel
import Stencil.Proofs.Posts.Selection
import Stencil.Proofs.FileTree.Below
import Stencil.Proofs.FileTree.Order
import Stencil.Proofs.Embed.Directory
import Stencil.Proofs.Variable.Pattern
import Stencil.Proofs.Unicode.Alphanumeric
import Stencil.Proofs.Embed.ModuleName
