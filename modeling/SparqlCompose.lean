import SparqlCompose.Draft.Display
import SparqlCompose.Main
import SparqlCompose.Proofs.Draft.Access
import SparqlCompose.Proofs.Draft.QueryRuns
import SparqlCompose.Proofs.Draft.GroupRuns
import SparqlCompose.Proofs.Composition.Operation
import SparqlCompose.Proofs.Composition.Change
import SparqlCompose.Proofs.Nesting.Acyclic
import SparqlCompose.Proofs.Draft.Projection
import SparqlCompose.Proofs.Draft.Journal
import SparqlCompose.Proofs.Draft.Frame
import SparqlCompose.Proofs.Provider.SiteFlag
import SparqlCompose.Proofs.Provider.Marked
import SparqlCompose.Proofs.Pipeline.Visit
import SparqlCompose.Proofs.Pipeline.Effect
import SparqlCompose.Proofs.Pipeline.Selection
import SparqlCompose.Proofs.Composition.Atomic
import SparqlCompose.Proofs.Strictness.InStep
import SparqlCompose.Proofs.Strictness.Agreement
import SparqlCompose.Proofs.Identifier
import SparqlCompose.Proofs.Variables.Plain
import SparqlCompose.Proofs.Nesting.Text
import SparqlCompose.Proofs.Endpoint.Outcome
import SparqlCompose.Proofs.Draft.Fresh
import SparqlCompose.Proofs.Draft.Lines
import SparqlCompose.Proofs.Provider.SourceList
import SparqlCompose.Proofs.Provider.DataText
import SparqlCompose.Proofs.Layout.Line
import SparqlCompose.Proofs.Layout.Outline
import SparqlCompose.Proofs.Composition.History
import SparqlCompose.Proofs.Pipeline.Steps
import SparqlCompose.Proofs.Variables.Nodes
import SparqlCompose.Proofs.Variables.Interning
import SparqlCompose.Proofs.Composition.LastWriter
import SparqlCompose.Proofs.Sharing.Naming
import SparqlCompose.Proofs.Sharing.Mirror
import SparqlCompose.Proofs.Sharing.Follows
import SparqlCompose.Proofs.Sharing.Paired
import SparqlCompose.Proofs.Sharing.Operations
import SparqlCompose.Proofs.Sharing.Visits
import SparqlCompose.Proofs.Sharing.Requests
import SparqlCompose.Proofs.Draft.Growth
import SparqlCompose.Proofs.Composition.NamedGraphs
import SparqlCompose.Proofs.Computed.Phrase
import SparqlCompose.Proofs.Computed.Spelling
import SparqlCompose.Proofs.Writing.FirstFailure
import SparqlCompose.Proofs.Writing.Offences
import SparqlCompose.Proofs.Writing.GraphNames
import SparqlCompose.Proofs.Draft.FirstUse
import SparqlCompose.Proofs.Composition.OrderedSelection
import SparqlCompose.Proofs.Number.Rounding
import SparqlCompose.Proofs.Search.Matching
import SparqlCompose.Proofs.Search.Walk
import SparqlCompose.Proofs.Search.Exact
import SparqlCompose.Proofs.Search.Growing
import SparqlCompose.Proofs.Pipeline.Returning
import SparqlCompose.Proofs.Pipeline.Commuting
import SparqlCompose.Proofs.Text.Runs
import SparqlCompose.Proofs.Number.Numeral
import SparqlCompose.Proofs.Request
import SparqlCompose.Proofs.Provider.Exchange
import SparqlCompose.Proofs.Provider.Tables
import SparqlCompose.Proofs.Provider.CountQuery
import SparqlCompose.Proofs.Provider.Counting
import SparqlCompose.Proofs.Pipeline.Domains
import SparqlCompose.Proofs.Pipeline.Measurements
import SparqlCompose.Proofs.Config.Acceptable
import SparqlCompose.Proofs.Config.Search
import SparqlCompose.Proofs.Endpoint.Derivation
import SparqlCompose.Proofs.Pipeline.Assembly
import SparqlCompose.Proofs.Pipeline.Standard
import SparqlCompose.Proofs.CommandLine.Parameters
import SparqlCompose.Proofs.Provider.Methods
import SparqlCompose.Proofs.Pipeline.Calling
import SparqlCompose.Proofs.CommandLine.Printing
import SparqlCompose.Proofs.CommandLine.Calls
