import DocStub.Main
import DocStub.Proofs.Command.Input
import DocStub.Proofs.Command.Site
import DocStub.Proofs.Doc.Anchors
import DocStub.Proofs.Doc.Chunks
import DocStub.Proofs.Doc.IndependentSearch
import DocStub.Proofs.Doc.IteratorType
import DocStub.Proofs.Doc.Layout
import DocStub.Proofs.Doc.RoundTrip
import DocStub.Proofs.Identifier
import DocStub.Proofs.Page.ClassPage
import DocStub.Proofs.Page.Index
import DocStub.Proofs.Site.FailedPages
import DocStub.Proofs.Site.Interleaving
import DocStub.Proofs.Site.Partition
import DocStub.Proofs.Site.StaleStubs
import DocStub.Proofs.Site.StubLines
import DocStub.Proofs.Site.StubPath
import DocStub.Proofs.Stub.Comments
import DocStub.Proofs.Stub.LineEnds
import DocStub.Proofs.Stub.UniqueReading
import DocStub.Proofs.Text.Collapse
