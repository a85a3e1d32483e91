import HubLink.Binary.Float
import HubLink.BindingError
import HubLink.Chat
import HubLink.Decimal.Basic
import HubLink.Decimal.FloatText
import HubLink.Decimal.Numeral
import HubLink.Decimal.Shortest
import HubLink.Error
import HubLink.Frame.Decoder
import HubLink.Frame.Header
import HubLink.Frame.Mask
import HubLink.Frame.OpCode
import HubLink.Frame.Reader
import HubLink.Hub.Buffer
import HubLink.Hub.Encode
import HubLink.Hub.Envelope
import HubLink.Hub.Fields
import HubLink.Hub.Message
import HubLink.Hub.MessageType
import HubLink.Hub.MethodTable
import HubLink.Hub.Parse
import HubLink.Main
import HubLink.Proofs.BigEndian
import HubLink.Proofs.FrameDecoding
import HubLink.Proofs.FrameHeader
import HubLink.Proofs.Mask
import HubLink.Proofs.MsgPack
import HubLink.Proofs.Utf8
import HubLink.MsgPack.Marker
import HubLink.MsgPack.Read
import HubLink.MsgPack.Write
import HubLink.Session
import HubLink.Text.GraphemeExtend
import HubLink.Text.Hex
import HubLink.Text.Printable
import HubLink.Text.Quote
import HubLink.Text.Utf8
import HubLink.Value.Basic
import HubLink.Value.Catalogue
import HubLink.Value.Debug
import HubLink.Value.Decode
import HubLink.Value.Encode
import HubLink.Value.Resolver
import HubLink.Value.Type
import HubLink.Proofs.Fields
import HubLink.Proofs.Envelope
import HubLink.Proofs.HubCodec
import HubLink.Proofs.FirstEnvelope
import HubLink.Proofs.MessageBuffer
import HubLink.Proofs.FrameReading
import HubLink.Proofs.Session
import HubLink.Proofs.DecoderStates
import HubLink.Proofs.FrameStream
import HubLink.Proofs.Reassembly
import HubLink.Proofs.CanonicalForm
import HubLink.Proofs.MessageFaults
import HubLink.Proofs.LengthPrefix
import HubLink.Proofs.RefusedHeaders
import HubLink.Proofs.SizeLimit
import HubLink.Proofs.WholeItems
import HubLink.Proofs.Binding
import HubLink.Proofs.TrailingItems
import HubLink.Proofs.MessageWriting
import HubLink.Proofs.HeaderHint
import HubLink.Proofs.FatalFaults
