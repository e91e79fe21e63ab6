import Faultline.Fragment.Unchecked
import Faultline.Main
import Faultline.Script
import Faultline.Proofs.Term.Segment
import Faultline.Proofs.Term.Grammar
import Faultline.Proofs.Term.Machine
import Faultline.Proofs.Term.Soundness
import Faultline.Proofs.Term.Acceptance
import Faultline.Proofs.Number.Numeral
import Faultline.Proofs.Term.Lexing
import Faultline.Proofs.Term.RoundTrip
import Faultline.Proofs.Fragment.Message
import Faultline.Proofs.Term.LongNumeral
import Faultline.Proofs.Term.Unwritable
import Faultline.Proofs.Fragment.Ending
import Faultline.Proofs.Fragment.Table
import Faultline.Proofs.Term.Position
import Faultline.Proofs.Term.ViablePrefix
import Faultline.Proofs.Term.Equality
import Faultline.Proofs.Term.Cells
import Faultline.Proofs.Term.ListForm
import Faultline.Proofs.Editor.History
import Faultline.Proofs.Session.Reporting
import Faultline.Proofs.Session.Delivery
import Faultline.Proofs.Session.Isolation
import Faultline.Proofs.Fragment.Shape
import Faultline.Proofs.Term.BinaryText
import Faultline.Proofs.Term.SegmentText
import Faultline.Proofs.Term.SegmentSize
import Faultline.Proofs.Path.Place
import Faultline.Proofs.Path.Address
import Faultline.Proofs.Term.Spacing
import Faultline.Proofs.Number.Loose
import Faultline.Proofs.Term.IntegerLiteral
import Faultline.Proofs.Term.Spelling
import Faultline.Proofs.Location.Keywords
import Faultline.Proofs.Term.Reuse
import Faultline.Proofs.Diagnostic.Raising
import Faultline.Proofs.Session.Warning
import Faultline.Proofs.Session.NodePlace
import Faultline.Proofs.Console.Coloring
