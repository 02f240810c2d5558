import DocGateway.Bson.Content
import DocGateway.Bson.Decode
import DocGateway.Bson.Element
import DocGateway.Bson.Encode
import DocGateway.Bson.ExtendedJson
import DocGateway.Bson.Reread
import DocGateway.Bson.SpelledValue
import DocGateway.Bson.TypedKey
import DocGateway.Bson.Value
import DocGateway.Bytes.LittleEndian
import DocGateway.Bytes.Slice
import DocGateway.Command.Error
import DocGateway.Command.ErrorCode
import DocGateway.Command.Parse
import DocGateway.Command.Registry
import DocGateway.CommandLine
import DocGateway.Compression.Adler32
import DocGateway.Compression.BitWriter
import DocGateway.Compression.Bits
import DocGateway.Compression.Codec
import DocGateway.Compression.Compressor
import DocGateway.Compression.Deflate.CodeLengths
import DocGateway.Compression.Deflate.Encode
import DocGateway.Compression.Deflate.Parse
import DocGateway.Compression.Deflate.Window
import DocGateway.Compression.History
import DocGateway.Compression.Inflate
import DocGateway.Compression.PrefixCode
import DocGateway.Compression.Snappy
import DocGateway.Compression.Zlib
import DocGateway.Compression.Zstd.BackwardBits
import DocGateway.Compression.Zstd.BlockEncode
import DocGateway.Compression.Zstd.Early.Edition
import DocGateway.Compression.Zstd.Early.Extras
import DocGateway.Compression.Zstd.Early.Frame
import DocGateway.Compression.Zstd.Early.Literals
import DocGateway.Compression.Zstd.Early.Sequences
import DocGateway.Compression.Zstd.Encode
import DocGateway.Compression.Zstd.Frame
import DocGateway.Compression.Zstd.Fse
import DocGateway.Compression.Zstd.FseEncode
import DocGateway.Compression.Zstd.Huffman
import DocGateway.Compression.Zstd.HuffmanEncode
import DocGateway.Compression.Zstd.Lanes
import DocGateway.Compression.Zstd.Literals
import DocGateway.Compression.Zstd.Matches
import DocGateway.Compression.Zstd.Sequences
import DocGateway.Compression.Zstd.Window
import DocGateway.Compression.Zstd.XxHash64
import DocGateway.Config.Configuration
import DocGateway.Config.Environment
import DocGateway.Config.FromYaml
import DocGateway.Config.Load
import DocGateway.Connection.State
import DocGateway.Cursor.Cache
import DocGateway.Cursor.Sidecar
import DocGateway.Cursor.Track
import DocGateway.Gateway.Basic
import DocGateway.Gateway.Drain
import DocGateway.Gateway.Expiry
import DocGateway.Gateway.Handle
import DocGateway.Gateway.Session
import DocGateway.Gateway.Settings
import DocGateway.Gateway.Worker
import DocGateway.Legacy.Reply
import DocGateway.Legacy.Request
import DocGateway.Logging.Excerpt
import DocGateway.Main
import DocGateway.Metrics.Endpoint
import DocGateway.Metrics.Exposition
import DocGateway.Metrics.Histogram
import DocGateway.Metrics.Http
import DocGateway.Metrics.Registry
import DocGateway.Metrics.Series
import DocGateway.Net.Network
import DocGateway.Net.SocketAddress
import DocGateway.Number.Binary64
import DocGateway.Number.Decimal128
import DocGateway.Number.DoubleDigits
import DocGateway.Number.DoubleText
import DocGateway.Number.ShortestDecimal
import DocGateway.Number.Sum
import DocGateway.Pipeline.Run
import DocGateway.Pipeline.Scene
import DocGateway.Pipeline.SelfAnswering
import DocGateway.Stages.CommandFilter
import DocGateway.Stages.HintRemoval
import DocGateway.Stages.InLimit
import DocGateway.Stages.ReadDefaults
import DocGateway.Stages.Registry
import DocGateway.Stages.Settings
import DocGateway.Stages.SlowLog
import DocGateway.Stages.WriteConcern
import DocGateway.Text.Base64
import DocGateway.Text.Blank
import DocGateway.Text.Hex
import DocGateway.Text.Integer
import DocGateway.Text.Scan
import DocGateway.Text.Utf8
import DocGateway.Time.Instant
import DocGateway.Wire.Crc32c
import DocGateway.Wire.Decode
import DocGateway.Wire.Encode
import DocGateway.Wire.Envelope
import DocGateway.Wire.Error
import DocGateway.Wire.Flags
import DocGateway.Wire.Header
import DocGateway.Wire.Message
import DocGateway.Wire.Opcode
import DocGateway.Wire.Reader
import DocGateway.Wire.Stream
import DocGateway.Yaml.Datum
import DocGateway.Yaml.Decoder
import DocGateway.Yaml.Event
import DocGateway.Yaml.Reader
import DocGateway.Yaml.Scalar
import DocGateway.Yaml.Tag
import DocGateway.Yaml.Token
import DocGateway.Proofs.Wire.Framing
import DocGateway.Proofs.Wire.Grammar
import DocGateway.Proofs.Wire.Reading
import DocGateway.Proofs.Wire.Acceptance
import DocGateway.Proofs.Bson.Settled
import DocGateway.Proofs.Bson.RoundTrip
import DocGateway.Proofs.Bson.NormalForm
import DocGateway.Proofs.Bson.Fields
import DocGateway.Proofs.Compression.Snappy
import DocGateway.Proofs.Compression.Inflate
import DocGateway.Proofs.Compression.Zlib
import DocGateway.Proofs.Compression.Zstd
import DocGateway.Proofs.Wire.FixedPoint
import DocGateway.Proofs.Wire.Checksum
import DocGateway.Proofs.Cursor.Cache
import DocGateway.Proofs.Cursor.Lifetimes
import DocGateway.Proofs.Cursor.Handles
import DocGateway.Proofs.Legacy.Reply
import DocGateway.Proofs.Gateway.Dispatch
import DocGateway.Proofs.Gateway.Replies
import DocGateway.Proofs.Gateway.Envelopes
import DocGateway.Proofs.Gateway.Exhaustion
import DocGateway.Proofs.Gateway.Traffic
import DocGateway.Proofs.Gateway.Alone
import DocGateway.Proofs.Gateway.Runs
import DocGateway.Proofs.Gateway.Tiling
import DocGateway.Proofs.Gateway.Provenance
import DocGateway.Proofs.Stages.BuiltIn
import DocGateway.Proofs.Command.Quotes
import DocGateway.Proofs.Gateway.OwnDocuments
import DocGateway.Proofs.Gateway.Encodable
import DocGateway.Proofs.Metrics.Samples
import DocGateway.Proofs.Pipeline.Onion
import DocGateway.Proofs.Gateway.Hidden
import DocGateway.Proofs.Bson.Canonical
import DocGateway.Proofs.Wire.Transparency
import DocGateway.Proofs.Cursor.Expiry
import DocGateway.Proofs.Gateway.Cleanup
import DocGateway.Proofs.Stages.MembershipLimit
import DocGateway.Proofs.Wire.Nesting
import DocGateway.Proofs.Metrics.Counts
import DocGateway.Proofs.Gateway.Counting
import DocGateway.Proofs.Cursor.Views
import DocGateway.Proofs.Gateway.Effects
import DocGateway.Proofs.Gateway.Likeness
import DocGateway.Proofs.Stages.Isolating
import DocGateway.Proofs.Gateway.Isolation
import DocGateway.Proofs.Legacy.Sections
import DocGateway.Proofs.Legacy.Options
import DocGateway.Proofs.Legacy.Queries
import DocGateway.Proofs.Legacy.FindQueries
import DocGateway.Proofs.Gateway.Failures
import DocGateway.Proofs.Command.Kinds
import DocGateway.Proofs.Cursor.Tracking
import DocGateway.Proofs.Stages.Edits
import DocGateway.Proofs.Stages.Order
import DocGateway.Proofs.Stages.Spellings
import DocGateway.Proofs.Compression.Agreement
import DocGateway.Proofs.Wire.DeclaredSize
import DocGateway.Proofs.Wire.Accounting
import DocGateway.Proofs.Gateway.Principals
import DocGateway.Proofs.Wire.Checked
import DocGateway.Proofs.Wire.CheckedReading
import DocGateway.Proofs.Wire.Faultless
import DocGateway.Proofs.Text.Boundaries
import DocGateway.Proofs.Logging.Truncation
import DocGateway.Proofs.Connection.Idleness
