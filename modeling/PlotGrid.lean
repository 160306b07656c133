import PlotGrid.Coord
import PlotGrid.Voxel
import PlotGrid.Compass.Bearing
import PlotGrid.Registry.Turn
import PlotGrid.Bucket
import PlotGrid.Chunk.Section
import PlotGrid.Chunk.Cells
import PlotGrid.Chunk.Export
import PlotGrid.Doc.Toml.Text
import PlotGrid.Fragment.Load
import PlotGrid.Registry.Config
import PlotGrid.Grid.Anchors
import PlotGrid.Grid.Cell
import PlotGrid.Grid.Column
import PlotGrid.Grid.Region
import PlotGrid.Overlay.Build
import PlotGrid.Main
import PlotGrid.Proofs.Grid.Limits
import PlotGrid.Proofs.Area.Arrival
import PlotGrid.Proofs.Chunk.History
import PlotGrid.Proofs.Chunk.Sections
import PlotGrid.Proofs.Registry.Layout
import PlotGrid.Proofs.Registry.Values
import PlotGrid.Proofs.Registry.Turn
import PlotGrid.Proofs.Overlay.Biomes
import PlotGrid.Proofs.Overlay.Arms
import PlotGrid.Proofs.Overlay.Priority
import PlotGrid.Proofs.Overlay.Grid
import PlotGrid.Proofs.Registry.Codec
import PlotGrid.Proofs.Registry.Keys
import PlotGrid.Proofs.Fragment.Loading
import PlotGrid.Proofs.Area.History
import PlotGrid.Proofs.Area.Plain
import PlotGrid.Proofs.Area.Ownership
import PlotGrid.Proofs.Area.Roadless
import PlotGrid.Proofs.Service.Answers
import PlotGrid.Proofs.Service.Addresses
import PlotGrid.Proofs.Service.Conservation
import PlotGrid.Proofs.Service.Interleaving
import PlotGrid.Proofs.Service.Schedule
import PlotGrid.Proofs.Grid.Range
import PlotGrid.Proofs.Registry.Updates
import PlotGrid.Proofs.Area.Bounds
import PlotGrid.Proofs.Chunk.Traces
import PlotGrid.Proofs.Area.Contract
import PlotGrid.Proofs.Bucket.Draws
import PlotGrid.Proofs.Bucket.Reading
import PlotGrid.Proofs.Registry.Entries
import PlotGrid.Proofs.Registry.Survival
import PlotGrid.Proofs.Registry.Lookup
import PlotGrid.Proofs.Registry.Air
import PlotGrid.Proofs.Registry.Rotation
import PlotGrid.Proofs.Chunk.Layers
import PlotGrid.Proofs.Fragment.Content
import PlotGrid.Proofs.Chunk.Index
import PlotGrid.Proofs.Service.Report
