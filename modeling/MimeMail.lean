import MimeMail.Main
import MimeMail.Date.Read
import MimeMail.Message.Session
import MimeMail.Settings.Paths
import MimeMail.Storage.Tree
import MimeMail.Proofs.Content.Entities
import MimeMail.Proofs.Content.Isolation
import MimeMail.Proofs.Content.Lookup
import MimeMail.Proofs.Content.Multiparts
import MimeMail.Proofs.Content.Trees
import MimeMail.Proofs.Date.Calendar
import MimeMail.Proofs.Date.Counting
import MimeMail.Proofs.Date.Forms
import MimeMail.Proofs.Date.HeaderText
import MimeMail.Proofs.Date.Layouts
import MimeMail.Proofs.Date.Representable
import MimeMail.Proofs.Date.WrittenDates
import MimeMail.Proofs.Date.Zones
import MimeMail.Proofs.Header.Addresses
import MimeMail.Proofs.Header.Descriptors
import MimeMail.Proofs.Header.Fields
import MimeMail.Proofs.Header.MediaTypes
import MimeMail.Proofs.Header.RoundTrip
import MimeMail.Proofs.Header.Words
import MimeMail.Proofs.Header.Written
import MimeMail.Proofs.Text.Blanks
import MimeMail.Proofs.Text.Digits
import MimeMail.Proofs.Text.Lines
import MimeMail.Proofs.Text.Lowercase
import MimeMail.Proofs.Text.Marks
import MimeMail.Proofs.Text.Utf8
import MimeMail.Proofs.Transfer.Base64
import MimeMail.Proofs.Header.Injection
import MimeMail.Proofs.Message.Append
import MimeMail.Proofs.Text.LineBreaks
import MimeMail.Proofs.Content.LineBreaks
import MimeMail.Proofs.Message.LineBreaks
import MimeMail.Proofs.Message.Records
import MimeMail.Proofs.Transfer.QuotedPrintable
import MimeMail.Proofs.Message.Sent
import MimeMail.Proofs.Charset.Ascii
import MimeMail.Proofs.Content.Leaves
import MimeMail.Proofs.Message.SinglePart
import MimeMail.Proofs.Content.Delimiters
import MimeMail.Proofs.Content.HeaderEnd
import MimeMail.Proofs.Header.Gaps
import MimeMail.Proofs.Header.WrittenWords
import MimeMail.Proofs.Header.Mailboxes
import MimeMail.Proofs.Header.Recipients
import MimeMail.Proofs.Header.Grouping
import MimeMail.Proofs.Header.Folding
import MimeMail.Proofs.Header.Parameters
import MimeMail.Proofs.Content.Levels
import MimeMail.Proofs.Transfer.Escapes
import MimeMail.Proofs.Content.Decoding
import MimeMail.Proofs.Content.Separators
import MimeMail.Proofs.Header.SpamScores
import MimeMail.Proofs.Message.LeafTypes
import MimeMail.Proofs.Message.Sorting
import MimeMail.Proofs.Message.Faults
import MimeMail.Proofs.Command.Table
import MimeMail.Proofs.Toml.Documents
import MimeMail.Proofs.Toml.Integers
import MimeMail.Proofs.Toml.Quoted
import MimeMail.Proofs.Toml.Scalars
import MimeMail.Proofs.Toml.Statements
import MimeMail.Proofs.Settings.RoundTrip
import MimeMail.Proofs.Message.Flags
import MimeMail.Proofs.Header.QEncoding
import MimeMail.Proofs.Charset.Fallback
import MimeMail.Proofs.Header.Lookup
import MimeMail.Proofs.Header.ParamSyntax
import MimeMail.Proofs.Header.DescriptorValues
