import MessageEngine.Address
import MessageEngine.Bytes
import MessageEngine.Bytes.Hex
import MessageEngine.Cipher.ChaCha20
import MessageEngine.Cipher.Poly1305
import MessageEngine.Cipher.Sealed
import MessageEngine.Compression.BitSource
import MessageEngine.Compression.Bits
import MessageEngine.Compression.CodeLengths
import MessageEngine.Compression.Deflate
import MessageEngine.Compression.Huffman
import MessageEngine.Compression.Inflate
import MessageEngine.Compression.Match
import MessageEngine.Compression.Room
import MessageEngine.Compression.Token
import MessageEngine.Compression.Zlib
import MessageEngine.Config.Basic
import MessageEngine.Config.Document
import MessageEngine.Config.Engine
import MessageEngine.Config.Load
import MessageEngine.Engine
import MessageEngine.Error
import MessageEngine.Frame
import MessageEngine.Lifecycle
import MessageEngine.Message
import MessageEngine.Node.Basic
import MessageEngine.Node.Connection
import MessageEngine.Node.Endpoint
import MessageEngine.Node.Group
import MessageEngine.Node.Lifetime
import MessageEngine.Node.Record
import MessageEngine.Node.Server
import MessageEngine.Node.Worker
import MessageEngine.Pool
import MessageEngine.Queue
import MessageEngine.Rate
import MessageEngine.Reaction
import MessageEngine.Registry
import MessageEngine.Text
import MessageEngine.Text.Printable
import MessageEngine.Toml.Document
import MessageEngine.Toml.Number
import MessageEngine.Toml.Text
import MessageEngine.Toml.Value
import MessageEngine.Transform
import MessageEngine.Transform.Simple
import MessageEngine.Transport.Link
import MessageEngine.Wire.Encode
import MessageEngine.Wire.Name
import MessageEngine.Wire.Reader
import MessageEngine.Wire.Type
import MessageEngine.Wire.Writer
import MessageEngine.Proofs.Bystander
import MessageEngine.Proofs.ConfiguredProtocol
import MessageEngine.Proofs.Delivery
import MessageEngine.Proofs.FrameParsing
import MessageEngine.Proofs.NodeAccess
import MessageEngine.Proofs.OutboundFrames
import MessageEngine.Proofs.Pipe
import MessageEngine.Proofs.Reception
import MessageEngine.Proofs.StreamRoundTrip
import MessageEngine.Proofs.WireRoundTrip
import MessageEngine.Proofs.CanonicalWire
import MessageEngine.Proofs.FrameGrammar
import MessageEngine.Proofs.Disconnect
import MessageEngine.Proofs.Runs
import MessageEngine.Proofs.AfterDisconnect
import MessageEngine.Proofs.Handling
import MessageEngine.Proofs.DisconnectedData
import MessageEngine.Proofs.EndingMachine
import MessageEngine.Proofs.Calls
import MessageEngine.Proofs.SingleEnd
import MessageEngine.Proofs.Tenancy
import MessageEngine.Proofs.ServerBook
import MessageEngine.Proofs.Guests
import MessageEngine.Proofs.Lobby
import MessageEngine.Proofs.Admission
import MessageEngine.Proofs.ServerNotices
import MessageEngine.Proofs.Parting
import MessageEngine.Proofs.JobHistory
import MessageEngine.Proofs.ExactlyOnce
import MessageEngine.Proofs.Hosting
import MessageEngine.Proofs.Sharing
import MessageEngine.Proofs.Holdings
import MessageEngine.Proofs.OutboundDrain
import MessageEngine.Proofs.WrittenValues
import MessageEngine.Proofs.RateCeiling
import MessageEngine.Proofs.Intake
import MessageEngine.Proofs.Broadcasts
import MessageEngine.Proofs.OneSpelling
import MessageEngine.Proofs.Truncation
import MessageEngine.Proofs.Unpacking
import MessageEngine.Proofs.TrailingOctets
import MessageEngine.Proofs.StrictVersions
import MessageEngine.Proofs.UnpackingLimit
import MessageEngine.Proofs.CheckedReading
import MessageEngine.Proofs.CheckedParsing
import MessageEngine.Proofs.IdentityTransforms
import MessageEngine.Proofs.WiderSettings
import MessageEngine.Proofs.UncheckedCounts
import MessageEngine.Proofs.OctetSequences
import MessageEngine.Proofs.Registrations
import MessageEngine.Proofs.RegistryTables
import MessageEngine.Proofs.Dispatching
import MessageEngine.Proofs.PoolDisposal
import MessageEngine.Proofs.SettingTexts
import MessageEngine.Proofs.LayeredSettings
import MessageEngine.Proofs.PartwiseReading
import MessageEngine.Proofs.ReaderPositions
