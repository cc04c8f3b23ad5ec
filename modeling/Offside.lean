import Offside.Error.Checked
import Offside.Expr.Display
import Offside.Parse.Source
import Offside.Token.Reader
import Offside.Proofs.Alignment
import Offside.Proofs.Bindings
import Offside.Proofs.CommentLines
import Offside.Proofs.Comments
import Offside.Proofs.Dedents
import Offside.Proofs.Extent
import Offside.Proofs.Grammar
import Offside.Proofs.Grouping
import Offside.Proofs.Histories
import Offside.Proofs.Joining
import Offside.Proofs.LineBreaks
import Offside.Proofs.LineFeeds
import Offside.Proofs.Nesting
import Offside.Proofs.OpenParens
import Offside.Proofs.Placement
import Offside.Proofs.PlainScan
import Offside.Proofs.PrefixForm
import Offside.Proofs.Progress
import Offside.Proofs.RightNesting
import Offside.Proofs.Sites
import Offside.Proofs.Splicing
import Offside.Proofs.TokenLists
import Offside.Proofs.Unclosed
import Offside.Proofs.Written
import Offside.Proofs.Yield
