import GrammarTables.Main
import GrammarTables.Markup.Selector.Reader
import GrammarTables.Page
import GrammarTables.Service.Answer
import GrammarTables.Proofs.FirstDefect
import GrammarTables.Proofs.FirstFollow.Defects
import GrammarTables.Proofs.Markup.DocumentOrder
import GrammarTables.Proofs.Markup.Written
import GrammarTables.Proofs.Markup.Query
import GrammarTables.Proofs.Page.FirstFollow
import GrammarTables.Proofs.Page.ParseTable
import GrammarTables.Proofs.ParseTable.Defects
import GrammarTables.Proofs.Documents
import GrammarTables.Proofs.OrderedMap
import GrammarTables.Proofs.Rendering
import GrammarTables.Proofs.ParseTable.Denotation
import GrammarTables.Proofs.Literal.ParseTable
import GrammarTables.Proofs.Literal.FirstFollow
import GrammarTables.Proofs.Literal.Lines
import GrammarTables.Proofs.Literal.Number
import GrammarTables.Proofs.Literal.Text
import GrammarTables.Proofs.Presentation
import GrammarTables.Proofs.Service.Entries
import GrammarTables.Proofs.Surfaces
import GrammarTables.Proofs.FirstFollow.Denotation
import GrammarTables.Proofs.Conservation
import GrammarTables.Proofs.ParseTable.Spelling
import GrammarTables.Proofs.Requests
import GrammarTables.Proofs.Export.Csv
import GrammarTables.Proofs.Export.Sets
import GrammarTables.Proofs.Export.Productions
import GrammarTables.Proofs.Export.Files
import GrammarTables.Proofs.Export.CellTypes
import GrammarTables.Proofs.ReportedNames
import GrammarTables.Proofs.Messages
