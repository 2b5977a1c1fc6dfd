import TableForge.Main
import TableForge.Proofs.Table.Embedding
import TableForge.Proofs.Table.Parameters
import TableForge.Proofs.Table.Rows
import TableForge.Proofs.Table.Seed
import TableForge.Proofs.Generator.Writing
import TableForge.Proofs.Code.Declaration
import TableForge.Proofs.Code.Enumeration
import TableForge.Proofs.Code.Interface
import TableForge.Proofs.Code.Projection
import TableForge.Proofs.Store.Catalog
import TableForge.Proofs.Table.Enumeration
import TableForge.Proofs.Table.Projections
import TableForge.Proofs.Script.Layout
import TableForge.Proofs.Patch.Command
import TableForge.Proofs.Patch.Reading
import TableForge.Proofs.Patch.Coverage
import TableForge.Proofs.Generator.Selection
import TableForge.Proofs.Table.Naming
import TableForge.Proofs.Generator.Naming
import TableForge.Proofs.Dump
import TableForge.Proofs.Patch.Marking
import TableForge.Proofs.Table.LineEnds
import TableForge.Proofs.Table.Members
import TableForge.Proofs.CommandLine.Run
import TableForge.Proofs.Table.SeedCode
import TableForge.Proofs.Table.SeedEmbedding
import TableForge.Proofs.Query.Slots
import TableForge.Proofs.Code.OneLine
import TableForge.Proofs.Patch.Addressing
import TableForge.Proofs.Table.Scopes
import TableForge.Proofs.Patch.Agreement
import TableForge.Proofs.Table.Building
import TableForge.Proofs.Decimal.ReadBack
import TableForge.Proofs.Table.Constants
import TableForge.Proofs.Table.Search
