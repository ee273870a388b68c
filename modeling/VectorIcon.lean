import VectorIcon.Main
import VectorIcon.Session.Operation
import VectorIcon.Tool.Server
import VectorIcon.Proofs.Component.RoundTrip
import VectorIcon.Proofs.Document.RoundTrip
import VectorIcon.Proofs.Session.Determined
import VectorIcon.Proofs.Preview.ReadBack
import VectorIcon.Proofs.Document.Drawable
import VectorIcon.Proofs.Session.Coherent
import VectorIcon.Proofs.Component.Accepted
import VectorIcon.Proofs.Component.Regenerated
import VectorIcon.Proofs.Component.Refused
import VectorIcon.Proofs.Component.Inconsistent
import VectorIcon.Proofs.Preview.Writable
import VectorIcon.Proofs.Preview.Accepted
import VectorIcon.Proofs.Preview.Namespace
import VectorIcon.Proofs.Preview.Keys
import VectorIcon.Proofs.Session.Cleared
import VectorIcon.Proofs.Tool.Coherent
import VectorIcon.Proofs.Number.Rank
import VectorIcon.Proofs.Number.Decimal
import VectorIcon.Proofs.Number.Written
import VectorIcon.Proofs.Number.ReadBack
import VectorIcon.Proofs.Number.Nearest
import VectorIcon.Proofs.Number.Longest
import VectorIcon.Proofs.Number.Whole
import VectorIcon.Proofs.Number.Agreement
import VectorIcon.Proofs.Frame.ReadBack
import VectorIcon.Proofs.Comparison.First
import VectorIcon.Proofs.Session.Failure
import VectorIcon.Proofs.Source
import VectorIcon.Proofs.Document.Names
import VectorIcon.Proofs.Document.Descendants
import VectorIcon.Proofs.Attribute.Folded
import VectorIcon.Proofs.Style.Respelled
import VectorIcon.Proofs.Gallery.Escaped
import VectorIcon.Proofs.OrderedMap.Insertions
import VectorIcon.Proofs.Preview.Agreement
import VectorIcon.Proofs.Component.Lines
