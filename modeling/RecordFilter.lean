import RecordFilter.Declaration.Expansion
import RecordFilter.Declaration.Lexer
import RecordFilter.Document.Codec
import RecordFilter.Predicate.Stream
import RecordFilter.Predicate.Trace
import RecordFilter.Value.Scalar
import RecordFilter.Declaration.Grammar.Expression
import RecordFilter.Declaration.Grammar.Item
import RecordFilter.Declaration.Grammar.Phrase
import RecordFilter.Declaration.Reader
import RecordFilter.Proofs.Filter.History
import RecordFilter.Proofs.Predicate.Compile
import RecordFilter.Proofs.Predicate.Fault
import RecordFilter.Proofs.Predicate.LeftFold
import RecordFilter.Proofs.Expression.Basic
import RecordFilter.Proofs.Expression.Reader
import RecordFilter.Proofs.Expression.Lexer
import RecordFilter.Proofs.Expression.RoundTrip
import RecordFilter.Proofs.Binary.Number
import RecordFilter.Proofs.Binary.Exact
import RecordFilter.Proofs.Value.Exact
import RecordFilter.Proofs.Predicate.Exact
import RecordFilter.Proofs.Predicate.Native
import RecordFilter.Proofs.Filter.Interference
import RecordFilter.Proofs.Filter.Typed
import RecordFilter.Proofs.Declaration.Description
import RecordFilter.Proofs.Predicate.Trace
import RecordFilter.Proofs.Filter.Equality
import RecordFilter.Proofs.Predicate.Duality
import RecordFilter.Proofs.Decimal.Plain
import RecordFilter.Proofs.Binary.Text
import RecordFilter.Proofs.Value.Text
import RecordFilter.Proofs.Filter.Spelling
import RecordFilter.Proofs.Value.Loss
import RecordFilter.Proofs.Document.Codec
import RecordFilter.Proofs.Declaration.Pruning
import RecordFilter.Proofs.Value.Quote
import RecordFilter.Proofs.Value.Word
import RecordFilter.Proofs.Predicate.Kinds
import RecordFilter.Proofs.Predicate.Operators
import RecordFilter.Proofs.Predicate.Decision
import RecordFilter.Proofs.Filter.Exchange
import RecordFilter.Proofs.Selection.Linear
import RecordFilter.Proofs.Filter.Lookup
import RecordFilter.Proofs.Predicate.Stream
import RecordFilter.Proofs.Declaration.Attribute
import RecordFilter.Proofs.Declaration.Visibility
import RecordFilter.Proofs.Declaration.Expansion
import RecordFilter.Proofs.Selection.Quotation
import RecordFilter.Proofs.Predicate.Bytes
import RecordFilter.Proofs.Text.Bytes
