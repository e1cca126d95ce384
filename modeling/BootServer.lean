import BootServer.Binaries
import BootServer.BootUrl
import BootServer.Client.Arch
import BootServer.Client.Kind
import BootServer.Config.Basic
import BootServer.Config.CommandLine
import BootServer.Config.Flag
import BootServer.Config.Listeners
import BootServer.Config.Options
import BootServer.Config.Resolve
import BootServer.Dhcp.BootOptions
import BootServer.Dhcp.Codes
import BootServer.Dhcp.DomainSearch
import BootServer.Dhcp.MessageType
import BootServer.Dhcp.Packet
import BootServer.Dhcp.PacketOption
import BootServer.Dhcp.Reply
import BootServer.Dhcp.Request
import BootServer.Dhcp.Responder
import BootServer.Domain.CodePoints
import BootServer.Domain.Composite
import BootServer.Domain.Direction
import BootServer.Domain.Joining
import BootServer.Domain.Mark
import BootServer.Domain.Name
import BootServer.Domain.NormalForm
import BootServer.Domain.Permitted
import BootServer.Domain.Punycode
import BootServer.FileTree
import BootServer.Http.Failure
import BootServer.Http.Forwarded
import BootServer.Http.Header
import BootServer.Http.Message
import BootServer.Http.Range
import BootServer.Http.Site
import BootServer.Http.Status
import BootServer.Image.Error
import BootServer.Image.Location
import BootServer.Image.Marker
import BootServer.Image.Patched
import BootServer.Image.Payload
import BootServer.Image.Remote
import BootServer.Image.Scanner
import BootServer.Image.Source
import BootServer.Json.Basic
import BootServer.Json.Parser
import BootServer.Main
import BootServer.Mode
import BootServer.Net.Address
import BootServer.Net.HardwareAddress
import BootServer.Net.Ipv4
import BootServer.Net.Ipv6
import BootServer.Net.Network
import BootServer.Net.Receive
import BootServer.Octets
import BootServer.Proofs.Binaries
import BootServer.Proofs.BinaryPath
import BootServer.Proofs.Config.AutoProxy
import BootServer.Proofs.Config.BinaryScript
import BootServer.Proofs.Config.BootPaths
import BootServer.Proofs.Config.Contract
import BootServer.Proofs.Config.Detection
import BootServer.Proofs.Config.Resolved
import BootServer.Proofs.Dhcp.Datagram
import BootServer.Proofs.Dhcp.DomainSearch
import BootServer.Proofs.Dhcp.Modes
import BootServer.Proofs.Dhcp.OptionArea
import BootServer.Proofs.Dhcp.OptionGrammar
import BootServer.Proofs.Dhcp.OptionOrder
import BootServer.Proofs.Dhcp.Options
import BootServer.Proofs.Dhcp.Replies
import BootServer.Proofs.Dhcp.Reservation
import BootServer.Proofs.Dhcp.Signature
import BootServer.Proofs.Dhcp.VendorOptions
import BootServer.Proofs.Dhcp.Wire
import BootServer.Proofs.Except
import BootServer.Proofs.Http.BinaryPage
import BootServer.Proofs.Http.FixedPages
import BootServer.Proofs.Http.Forwarded
import BootServer.Proofs.Http.HeadAndGet
import BootServer.Proofs.Http.ImagePage
import BootServer.Proofs.Http.ImageResponse
import BootServer.Proofs.Http.Range
import BootServer.Proofs.Http.Script
import BootServer.Proofs.Http.ScriptLocation
import BootServer.Proofs.Http.ShortAnswers
import BootServer.Proofs.Http.Site
import BootServer.Proofs.Http.TrustList
import BootServer.Proofs.Image.Faults
import BootServer.Proofs.Image.Feeds
import BootServer.Proofs.Image.History
import BootServer.Proofs.Image.Occurrence
import BootServer.Proofs.Image.Patch
import BootServer.Proofs.Image.Recall
import BootServer.Proofs.Image.Remote
import BootServer.Proofs.Image.RemoteRange
import BootServer.Proofs.Image.Scanner
import BootServer.Proofs.Image.Search
import BootServer.Proofs.Image.Source
import BootServer.Proofs.Image.Streaming
import BootServer.Proofs.Json.RoundTrip
import BootServer.Proofs.Listeners
import BootServer.Proofs.Net.Address
import BootServer.Proofs.Net.Bits
import BootServer.Proofs.Net.HardwareAddress
import BootServer.Proofs.Net.Ipv4
import BootServer.Proofs.Net.Ipv6
import BootServer.Proofs.Net.Network
import BootServer.Proofs.Octets
import BootServer.Proofs.Permission
import BootServer.Proofs.Record.Formats
import BootServer.Proofs.Script.Composition
import BootServer.Proofs.Script.Form
import BootServer.Proofs.Script.Parameters
import BootServer.Proofs.Store.Coherence
import BootServer.Proofs.Store.File
import BootServer.Proofs.Syslog
import BootServer.Proofs.Text.Blank
import BootServer.Proofs.Text.Digits
import BootServer.Proofs.Text.Fields
import BootServer.Proofs.Text.Percent
import BootServer.Proofs.Text.Pieces
import BootServer.Proofs.Text.Utf8
import BootServer.Proofs.Tftp.Blocks
import BootServer.Proofs.Tftp.Fields
import BootServer.Proofs.Tftp.Files
import BootServer.Proofs.Tftp.Link
import BootServer.Proofs.Tftp.Ports
import BootServer.Proofs.Tftp.Reader
import BootServer.Proofs.Tftp.Refusals
import BootServer.Proofs.Tftp.RequestGrammar
import BootServer.Proofs.Tftp.Terms
import BootServer.Proofs.Tftp.Timeline
import BootServer.Proofs.Url.AddressHost
import BootServer.Proofs.Url.Exchange
import BootServer.Proofs.Url.Injection
import BootServer.Proofs.Url.Parser
import BootServer.Proofs.Url.Path
import BootServer.Proofs.Yaml.CoreSchema
import BootServer.Record.Basic
import BootServer.Record.Field
import BootServer.Record.OfJson
import BootServer.Record.OfYaml
import BootServer.Script.Composer
import BootServer.Script.Context
import BootServer.Script.Template
import BootServer.Store.Basic
import BootServer.Store.File
import BootServer.Syslog
import BootServer.Text.Blank
import BootServer.Text.Decimal
import BootServer.Text.Duration
import BootServer.Text.Fields
import BootServer.Text.Hex
import BootServer.Text.Percent
import BootServer.Text.Utf8
import BootServer.Tftp.Packet
import BootServer.Tftp.Request
import BootServer.Tftp.Server
import BootServer.Tftp.Terms
import BootServer.Tftp.Transfer
import BootServer.Url.Basic
import BootServer.Url.Host
import BootServer.Url.Parser
import BootServer.Url.Path
import BootServer.Yaml.CoreSchema
import BootServer.Yaml.Cursor
import BootServer.Yaml.Layout
import BootServer.Yaml.Node
import BootServer.Yaml.Scalar
import BootServer.Yaml.Token
