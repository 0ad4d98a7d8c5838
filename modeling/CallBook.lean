import CallBook.Entry.Decode
import CallBook.Http.Prepared
import CallBook.Main
import CallBook.Proofs.Catalog.Edits
import CallBook.Proofs.Catalog.Formats
import CallBook.Proofs.Catalog.Quotes
import CallBook.Proofs.Client.Listed
import CallBook.Proofs.Command.Outcome
import CallBook.Proofs.Http.Failures
import CallBook.Proofs.Http.Received
import CallBook.Proofs.Query.Limit
import CallBook.Proofs.Request.Headers
import CallBook.Proofs.Request.Injection
import CallBook.Proofs.Request.Provider
import CallBook.Proofs.Template.Composed
import CallBook.Proofs.Template.Paths
import CallBook.Query.Programs
import CallBook.Proofs.Entry.Rereading
import CallBook.Proofs.Catalog.Keys
import CallBook.Proofs.Query.Answers
import CallBook.Proofs.Catalog.Described
import CallBook.Proofs.Catalog.Histories
import CallBook.Proofs.Http.Handing
import CallBook.Proofs.Settings.Merging
import CallBook.Proofs.Settings.Written
import CallBook.Proofs.Settings.Environment
