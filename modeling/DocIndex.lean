import DocIndex.Text.RangeTable
import DocIndex.Text.Word
import DocIndex.Text.Basic
import DocIndex.Text.Upper
import DocIndex.Text.Printable
import DocIndex.Text.Integer
import DocIndex.Text.CaseData
import DocIndex.Text.Case
import DocIndex.Data.Value
import DocIndex.Data.Shortest
import DocIndex.Data.Show
import DocIndex.Data.Json
import DocIndex.Search.Token
import DocIndex.Search.Score
import DocIndex.Failure
import DocIndex.Data.Fault
import DocIndex.Document.Basic
import DocIndex.Document.Encode
import DocIndex.Document.Decode
import DocIndex.Document.Validate
import DocIndex.Search.Entry
import DocIndex.Search.Ranking
import DocIndex.Search.Inverted
import DocIndex.Search.Limit
import DocIndex.Text.Docstring
import DocIndex.Text.Paragraph
import DocIndex.Markdown.Heading
import DocIndex.Disk.Path
import DocIndex.Python.Page
import DocIndex.Go.Page
import DocIndex.Cancel
import DocIndex.Settings
import DocIndex.Access
import DocIndex.Disk.Tree
import DocIndex.Disk.Walk
import DocIndex.Extract.Extractor
import DocIndex.Extract.Registry
import DocIndex.Text.Utf8
import DocIndex.Go.Module
import DocIndex.Python.Lexer
import DocIndex.Python.Syntax
import DocIndex.Python.Extract
import DocIndex.Go.Lexer
import DocIndex.Go.Syntax
import DocIndex.Go.Extract
import DocIndex.Yaml.Token
import DocIndex.Yaml.Problem
import DocIndex.Yaml.Token.Read
import DocIndex.Yaml.Token.Stream
import DocIndex.Yaml.Tag
import DocIndex.Yaml.Node
import DocIndex.Data.Decimal
import DocIndex.Text.Numeral
import DocIndex.Text.Base64
import DocIndex.Data.Key
import DocIndex.Yaml.Scalar
import DocIndex.Yaml.Load
import DocIndex.Markdown.FrontMatter
import DocIndex.Markdown.Page
import DocIndex.Markdown.Extract
import DocIndex.Store.Basic
import DocIndex.Search.Engine
import DocIndex.Indexing
import DocIndex.Cli.Arguments
import DocIndex.Cli.Grammar
import DocIndex.Host
import DocIndex.Cli.Run
import DocIndex.Service
import DocIndex.Main
import DocIndex.Proofs.Text.Order
import DocIndex.Proofs.Search.Postings
import DocIndex.Proofs.Search.Query
import DocIndex.Proofs.Store.Records
import DocIndex.Proofs.Store.Refinement
import DocIndex.Proofs.Search.Cache
import DocIndex.Proofs.Document.RoundTrip
import DocIndex.Proofs.Document.Refusal
import DocIndex.Proofs.Search.Scope
import DocIndex.Proofs.Document.WellFormed
import DocIndex.Proofs.Disk.WalkPaths
import DocIndex.Proofs.Extract.HeadingStack
import DocIndex.Proofs.Extract.Python
import DocIndex.Proofs.Extract.Go
import DocIndex.Proofs.Extract.Markdown
import DocIndex.Proofs.Indexing.Run
import DocIndex.Proofs.Indexing.Pool
import DocIndex.Proofs.Extract.Admissible
import DocIndex.Proofs.Indexing.Project
import DocIndex.Proofs.Service.Access
import DocIndex.Proofs.Extract.Dispatch
import DocIndex.Proofs.Cancel.FirstCheckpoint
import DocIndex.Proofs.Search.Tokens
import DocIndex.Proofs.Search.Alignment
import DocIndex.Proofs.Extract.Keys
import DocIndex.Proofs.Search.OwnPath
import DocIndex.Proofs.Search.BestAlignment
import DocIndex.Proofs.Search.Flatten
import DocIndex.Proofs.Extract.HeadingKeys
import DocIndex.Proofs.Extract.HeadingTree
import DocIndex.Proofs.Extract.HeadingBlocks
import DocIndex.Proofs.Extract.PythonPages
import DocIndex.Proofs.Extract.GoPages
import DocIndex.Proofs.Document.Violations
import DocIndex.Proofs.Search.Pieces
import DocIndex.Proofs.Extract.Registration
import DocIndex.Proofs.Disk.WalkOrder
import DocIndex.Proofs.Cancel.Signal
