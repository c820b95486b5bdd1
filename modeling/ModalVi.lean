import ModalVi.Clipboard
import ModalVi.Cursor
import ModalVi.Edit.Basic
import ModalVi.Edit.Reflow
import ModalVi.Ex.Substitute
import ModalVi.History
import ModalVi.Key
import ModalVi.LastChange
import ModalVi.Library
import ModalVi.Main
import ModalVi.Mode
import ModalVi.Motion.Resolve
import ModalVi.Prompt
import ModalVi.Proofs.Count
import ModalVi.Proofs.Edit.WordOrder
import ModalVi.Proofs.Ex.LineLocal
import ModalVi.Proofs.Ex.Replacement
import ModalVi.Proofs.Ex.RoundTrip
import ModalVi.Proofs.History.Insertion
import ModalVi.Proofs.History.Journal
import ModalVi.Proofs.History.Minimality
import ModalVi.Proofs.History.Noting
import ModalVi.Proofs.Motion.BackwardSearch
import ModalVi.Proofs.Motion.Block
import ModalVi.Proofs.Motion.EmptyLine
import ModalVi.Proofs.Motion.Heading
import ModalVi.Proofs.Motion.InnerWord
import ModalVi.Proofs.Notation
import ModalVi.Proofs.Regex.Engine
import ModalVi.Proofs.Regex.Spelling
import ModalVi.Proofs.Script
import ModalVi.Proofs.Search.Cache
import ModalVi.Proofs.Search.First
import ModalVi.Proofs.Search.Last
import ModalVi.Proofs.Search.Literal
import ModalVi.Proofs.Search.WholeWord
import ModalVi.Proofs.Session.Abreast
import ModalVi.Proofs.Session.Absence
import ModalVi.Proofs.Session.Account
import ModalVi.Proofs.Session.Alike
import ModalVi.Proofs.Session.Attribution
import ModalVi.Proofs.Session.BrokenOff
import ModalVi.Proofs.Session.Burst
import ModalVi.Proofs.Session.CaseSwap
import ModalVi.Proofs.Session.ControlKeys
import ModalVi.Proofs.Session.CountProduct
import ModalVi.Proofs.Session.CountedDot
import ModalVi.Proofs.Session.Dot
import ModalVi.Proofs.Session.Duplicating
import ModalVi.Proofs.Session.Failure
import ModalVi.Proofs.Session.FirstNonBlank
import ModalVi.Proofs.Session.HostEdit
import ModalVi.Proofs.Session.HostTyping
import ModalVi.Proofs.Session.InStep
import ModalVi.Proofs.Session.Inside
import ModalVi.Proofs.Session.Joining
import ModalVi.Proofs.Session.LineAnchor
import ModalVi.Proofs.Session.LineObject
import ModalVi.Proofs.Session.LineRange
import ModalVi.Proofs.Session.NextMatch
import ModalVi.Proofs.Session.ObjectSelection
import ModalVi.Proofs.Session.Operand
import ModalVi.Proofs.Session.Operator
import ModalVi.Proofs.Session.Peers
import ModalVi.Proofs.Session.Pending
import ModalVi.Proofs.Session.Pieces
import ModalVi.Proofs.Session.Refusal
import ModalVi.Proofs.Session.Remembering
import ModalVi.Proofs.Session.Repetition
import ModalVi.Proofs.Session.Respect
import ModalVi.Proofs.Session.Retrace
import ModalVi.Proofs.Session.Reversal
import ModalVi.Proofs.Session.Shifting
import ModalVi.Proofs.Session.Shorthand
import ModalVi.Proofs.Session.Steady
import ModalVi.Proofs.Session.Stepwise
import ModalVi.Proofs.Session.Substituting
import ModalVi.Proofs.Session.TakingBack
import ModalVi.Proofs.Session.TellingApart
import ModalVi.Proofs.Session.WholeLines
import ModalVi.Proofs.Session.WordSearch
import ModalVi.Proofs.Strict.Change
import ModalVi.Proofs.Strict.Command
import ModalVi.Proofs.Strict.Edit
import ModalVi.Proofs.Strict.Keys
import ModalVi.Proofs.Strict.Motion
import ModalVi.Proofs.Strict.Search
import ModalVi.Proofs.Text.Numbering
import ModalVi.Proofs.Text.Window
import ModalVi.Regex.Engine
import ModalVi.Regex.Match
import ModalVi.Search
import ModalVi.Session.Command
import ModalVi.Session.Keys
import ModalVi.Session.State
import ModalVi.Surface
import ModalVi.Text.Line
import ModalVi.Unicode.Alphanumeric
import ModalVi.Unicode.Casing
import ModalVi.Unicode.Category
import ModalVi.Unicode.Script
import ModalVi.Unicode.WordCharacter
