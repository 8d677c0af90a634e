import ComponentLog.Archetype
import ComponentLog.Archetype.Conversion
import ComponentLog.Archetype.Instance
import ComponentLog.Archetype.Record
import ComponentLog.Batch
import ComponentLog.Chunk
import ComponentLog.Columnar.Cell
import ComponentLog.Columnar.DataType
import ComponentLog.Columnar.Describe
import ComponentLog.Columnar.Series
import ComponentLog.ComponentType
import ComponentLog.Config
import ComponentLog.Datatype
import ComponentLog.Datatype.Group
import ComponentLog.Datatype.Leaf
import ComponentLog.Datatype.MagnificationFilter
import ComponentLog.Datatype.Mat3x3
import ComponentLog.Datatype.Quaternion
import ComponentLog.Datatype.Range1D
import ComponentLog.Datatype.Rotation
import ComponentLog.Datatype.Vec3D
import ComponentLog.Datatype.ViewCoordinates
import ComponentLog.Descriptor
import ComponentLog.EntityPath
import ComponentLog.Error
import ComponentLog.Input.Json
import ComponentLog.Input.Token
import ComponentLog.Input.Value
import ComponentLog.Numeric.Binary
import ComponentLog.Numeric.Rounding
import ComponentLog.Numeric.Word
import ComponentLog.Proofs.Archetype.Columns
import ComponentLog.Proofs.Archetype.Construction
import ComponentLog.Proofs.Archetype.Documents
import ComponentLog.Proofs.Archetype.ExplicitRows
import ComponentLog.Proofs.Archetype.Reachable
import ComponentLog.Proofs.Archetype.Record
import ComponentLog.Proofs.Archetype.Setters
import ComponentLog.Proofs.Archetype.Warnings
import ComponentLog.Proofs.Batch.Complete
import ComponentLog.Proofs.Batch.Construction
import ComponentLog.Proofs.Chunk.Assembly
import ComponentLog.Proofs.Chunk.Serialization
import ComponentLog.Proofs.Columnar.Cells
import ComponentLog.Proofs.Datatype.CanonicalValues
import ComponentLog.Proofs.Datatype.Coordinates
import ComponentLog.Proofs.Datatype.Decoding
import ComponentLog.Proofs.Datatype.DirectionNames
import ComponentLog.Proofs.Datatype.Encoding
import ComponentLog.Proofs.Datatype.ForeignColumns
import ComponentLog.Proofs.Datatype.Grouping
import ComponentLog.Proofs.Datatype.Matrix
import ComponentLog.Proofs.Datatype.Reading
import ComponentLog.Proofs.Datatype.Rotations
import ComponentLog.Proofs.Datatype.RoundTrip
import ComponentLog.Proofs.Datatype.Rows
import ComponentLog.Proofs.Descriptor
import ComponentLog.Proofs.EntityPath.Parsing
import ComponentLog.Proofs.EntityPath.Reachable
import ComponentLog.Proofs.Input.Entries
import ComponentLog.Proofs.Input.LeafCount
import ComponentLog.Proofs.Input.Shape
import ComponentLog.Proofs.Input.Uniform
import ComponentLog.Proofs.Numeric.Widening
import ComponentLog.Proofs.Recording.Calls
import ComponentLog.Proofs.Recording.Failure
import ComponentLog.Proofs.Recording.Handover
import ComponentLog.Proofs.Recording.History
import ComponentLog.Proofs.Recording.Moments
import ComponentLog.Proofs.Recording.Run
import ComponentLog.Proofs.Recording.Serialization
import ComponentLog.Proofs.Recording.Timelines
import ComponentLog.Proofs.Rows.Boundaries
import ComponentLog.Proofs.Rows.GivenLengths
import ComponentLog.Proofs.Rows.Inference
import ComponentLog.Proofs.Rows.Overflow
import ComponentLog.Proofs.Rows.Repartition
import ComponentLog.Proofs.Sink.Framing
import ComponentLog.Proofs.Sink.TornFrames
import ComponentLog.Proofs.Traversal
import ComponentLog.Recording
import ComponentLog.Recording.Command
import ComponentLog.Rows.Column
import ComponentLog.Rows.Cut
import ComponentLog.Rows.Offsets
import ComponentLog.Rows.Plan
import ComponentLog.Sink.Basic
import ComponentLog.Sink.Framed
import ComponentLog.Text.Blank
import ComponentLog.Text.Case
import ComponentLog.Text.Printable
import ComponentLog.Text.Quoted
