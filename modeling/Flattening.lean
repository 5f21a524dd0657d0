import Flattening.Block.Dye
import Flattening.Block.State
import Flattening.Block.Tags
import Flattening.Block.Text
import Flattening.Bytes
import Flattening.Chunk.Basic
import Flattening.Chunk.BlockEntities
import Flattening.Chunk.UpgradeData
import Flattening.CommandLine
import Flattening.Document
import Flattening.Entries
import Flattening.Geometry.Cell
import Flattening.Geometry.Sides
import Flattening.Gzip.Code
import Flattening.Gzip.Inflate
import Flattening.Gzip.Member
import Flattening.Legacy.Catalogue
import Flattening.Legacy.IdSet
import Flattening.Legacy.Numbering
import Flattening.Legacy.RowsA
import Flattening.Legacy.RowsB
import Flattening.Legacy.RowsC
import Flattening.Legacy.RowsD
import Flattening.Legacy.RowsE
import Flattening.Legacy.RowsF
import Flattening.Legacy.RowsG
import Flattening.Legacy.RowsH
import Flattening.Legacy.RowsI
import Flattening.Legacy.RowsJ
import Flattening.Proofs.Alpha
import Flattening.Proofs.Block.Brief
import Flattening.Proofs.Block.Text
import Flattening.Proofs.Chunk.Boundary
import Flattening.Proofs.Chunk.Brief
import Flattening.Proofs.Chunk.Conservation
import Flattening.Proofs.Chunk.Doors
import Flattening.Proofs.Chunk.FlatRun
import Flattening.Proofs.Chunk.Frame
import Flattening.Proofs.Chunk.Held
import Flattening.Proofs.Chunk.History
import Flattening.Proofs.Chunk.Layout
import Flattening.Proofs.Chunk.Listed
import Flattening.Proofs.Chunk.Neighbours
import Flattening.Proofs.Chunk.OneBlock
import Flattening.Proofs.Chunk.Order
import Flattening.Proofs.Chunk.Placement
import Flattening.Proofs.Chunk.Plain
import Flattening.Proofs.Chunk.Plants
import Flattening.Proofs.Chunk.ReadBack
import Flattening.Proofs.Chunk.Readable
import Flattening.Proofs.Chunk.Reading
import Flattening.Proofs.Chunk.RecordList
import Flattening.Proofs.Chunk.RecordStates
import Flattening.Proofs.Chunk.SectionKey
import Flattening.Proofs.Chunk.Shape
import Flattening.Proofs.Chunk.Simulation
import Flattening.Proofs.Chunk.Taken
import Flattening.Proofs.Chunk.UpgradeLists
import Flattening.Proofs.Chunk.UpgradeTag
import Flattening.Proofs.Chunk.Written
import Flattening.Proofs.Document
import Flattening.Proofs.Entries
import Flattening.Proofs.Geometry.Packing
import Flattening.Proofs.Geometry.Sides
import Flattening.Proofs.Legacy.IdSet
import Flattening.Proofs.Legacy.Names
import Flattening.Proofs.ListOrder
import Flattening.Proofs.Rule.Alpha
import Flattening.Proofs.Rule.Brief
import Flattening.Proofs.Rule.Doors
import Flattening.Proofs.Rule.Edits
import Flattening.Proofs.Rule.Independence
import Flattening.Proofs.Rule.Reach
import Flattening.Proofs.Rule.RecordStates
import Flattening.Proofs.Rule.Records
import Flattening.Proofs.Rule.Refinement
import Flattening.Proofs.Rule.Run
import Flattening.Proofs.Rule.Settled
import Flattening.Proofs.Rule.Sight
import Flattening.Proofs.Rule.Turns
import Flattening.Proofs.Rule.Views
import Flattening.Proofs.Section.Accepted
import Flattening.Proofs.Section.BitString
import Flattening.Proofs.Section.Calls
import Flattening.Proofs.Section.Decode
import Flattening.Proofs.Section.Growth
import Flattening.Proofs.Section.OneNumber
import Flattening.Proofs.Section.ReadBack
import Flattening.Proofs.Section.Scan
import Flattening.Proofs.Tag.Bounds
import Flattening.Proofs.Tag.Cut
import Flattening.Proofs.Tag.Nodes
import Flattening.Proofs.Tag.ReadBytes
import Flattening.Proofs.Tag.ReadOutput
import Flattening.Proofs.Tag.Readable
import Flattening.Proofs.Tag.Reordered
import Flattening.Proofs.Tag.RoundTrip
import Flattening.Proofs.Tag.Rounds
import Flattening.Proofs.Tag.Sorted
import Flattening.Proofs.Tag.Spelling
import Flattening.Proofs.Tag.Written
import Flattening.Proofs.Traversal
import Flattening.Proofs.Upgrade
import Flattening.Proofs.WellFormed
import Flattening.Report.Event
import Flattening.Report.Fault
import Flattening.Report.Malformed
import Flattening.Report.Severity
import Flattening.Rule.Basic
import Flattening.Rule.Effect
import Flattening.Rule.Plan
import Flattening.Rule.Store
import Flattening.Section.Basic
import Flattening.Section.Flat
import Flattening.Section.Nibbles
import Flattening.Section.Packed
import Flattening.Section.Palette
import Flattening.Table
import Flattening.Tag.Basic
import Flattening.Tag.Equality
import Flattening.Tag.Reader
import Flattening.Tag.Shape
import Flattening.Tag.Writer
import Flattening.Text.Blank
import Flattening.Text.Printable
import Flattening.Text.Quoted
import Flattening.Upgrade
import Flattening.Main
