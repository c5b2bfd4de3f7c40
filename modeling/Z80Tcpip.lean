import Z80Tcpip.Foundation.ByteStuffing
import Z80Tcpip.Slip.Codec
import Z80Tcpip.Slip.BridgeDecoder
import Z80Tcpip.Slip.BridgeRoundTrip
import Z80Tcpip.Foundation.Buffer
import Z80Tcpip.Foundation.Words
import Z80Tcpip.Platform
import Z80Tcpip.Slip.RecvPacket
import Z80Tcpip.Slip.SpectrumRoundTrip
import Z80Tcpip.Slip.AbortedFrame
import Z80Tcpip.Slip.SerialGaps
import Z80Tcpip.Slip.IdleLine
import Z80Tcpip.Foundation.OnesComplement
import Z80Tcpip.Ip.Checksum
import Z80Tcpip.Ip.Datagram
import Z80Tcpip.Tcp.Transmit
import Z80Tcpip.Tcp.Link
import Z80Tcpip.Tcp.Stack
import Z80Tcpip.Tcp.SentSegments
import Z80Tcpip.Tcp.Input
import Z80Tcpip.Tcp.Connected
import Z80Tcpip.Tcp.ScriptRuns
import Z80Tcpip.Tcp.StreamIntegrity
import Z80Tcpip.Tcp.Retransmissions
import Z80Tcpip.Tcp.SendAcknowledged
import Z80Tcpip.Slip.LossyLine
import Z80Tcpip.Tcp.LostBytes
import Z80Tcpip.Foundation.Program
import Z80Tcpip.Slip.DecodersAgree
import Z80Tcpip.Tcp.LostAcks
import Z80Tcpip.SlipTun.MainLoop
import Z80Tcpip.SlipTun.Sessions
import Z80Tcpip.Client.Console
import Z80Tcpip.Client.Screen
import Z80Tcpip.Client.Rows
import Z80Tcpip.Client.Session
import Z80Tcpip.Irc.Strings
import Z80Tcpip.Irc.State
import Z80Tcpip.Irc.MainLoop
import Z80Tcpip.Client.Invariants
import Z80Tcpip.Irc.Invariants
import Z80Tcpip.Irc.ServerLines
import Z80Tcpip.Irc.Pongs
import Z80Tcpip.Irc.TypedLines
import Z80Tcpip.Irc.SentLines
import Z80Tcpip.Irc.ScreenLog
import Z80Tcpip.Irc.RoundTrip
import Z80Tcpip.Chat.MainLoop
import Z80Tcpip.Chat.State
import Z80Tcpip.Chat.Invariants
import Z80Tcpip.Tcp.Connect
import Z80Tcpip.Polling.Connection
import Z80Tcpip.Polling.WindowFlag
import Z80Tcpip.Polling.LostWindowUpdate
import Z80Tcpip.Polling.Arrivals
import Z80Tcpip.Polling.ServerClosed
import Z80Tcpip.Foundation.Trace
import Z80Tcpip.Tcp.Runs
import Z80Tcpip.Tcp.ConnectOutcome
import Z80Tcpip.Tcp.SequenceNumbers
import Z80Tcpip.Tcp.AcceptedPayload
import Z80Tcpip.Tcp.MalformedPackets
import Z80Tcpip.Tcp.RepeatedSegments
import Z80Tcpip.Tcp.ForeignSegments
import Z80Tcpip.Slip.FrameGrammar
import Z80Tcpip.Slip.Transparency
import Z80Tcpip.Foundation.Cutting
import Z80Tcpip.Chat.LoggedRows
import Z80Tcpip.Client.Address
import Z80Tcpip.Ip.EchoRequest
import Z80Tcpip.Ip.InternetChecksum
import Z80Tcpip.Irc.LineAssembly
import Z80Tcpip.Irc.Nicks
import Z80Tcpip.SlipTun.ClientWrites
import Z80Tcpip.Tcp.Activations
import Z80Tcpip.Foundation.Memory
import Z80Tcpip.Foundation.Returns
import Z80Tcpip.Irc.InPlace
import Z80Tcpip.Irc.Tokens
import Z80Tcpip.Irc.Machine
import Z80Tcpip.Irc.MachineLoop
import Z80Tcpip.Irc.Represents
import Z80Tcpip.Irc.LinesInMemory
import Z80Tcpip.Irc.KeysInMemory
import Z80Tcpip.Client.Delivered
import Z80Tcpip.Foundation.Simulation
import Z80Tcpip.Irc.Beside
import Z80Tcpip.Irc.CommandsBeside
import Z80Tcpip.Irc.Refinement
import Z80Tcpip.SlipTun.Relay
import Z80Tcpip.SlipTun.RelayedSessions
import Z80Tcpip.SlipTun.EndToEnd
import Z80Tcpip.Tcp.ClientRuns
import Z80Tcpip.Foundation.Reassembly
import Z80Tcpip.Tcp.Agreement
import Z80Tcpip.Tcp.ClientMachine
import Z80Tcpip.Client.Requests
import Z80Tcpip.Chat.TypedLines
import Z80Tcpip.Chat.LinesArrive
import Z80Tcpip.Chat.ScreenLog
import Z80Tcpip.Client.Segments
import Z80Tcpip.Irc.CommandsArrive
import Z80Tcpip.Chat.Machine
import Z80Tcpip.Chat.Questions
import Z80Tcpip.Client.SideBySide
import Z80Tcpip.Chat.Represents
import Z80Tcpip.Foundation.Filling
import Z80Tcpip.Chat.ArraysBeside
import Z80Tcpip.Chat.QuestionsInMemory
import Z80Tcpip.Chat.WholeRuns
import Z80Tcpip.Chat.ServerAsked
import Z80Tcpip.Chat.WholeScreen
import Z80Tcpip.Ip.PingRequests
import Z80Tcpip.SlipTun.PingThrough
import Z80Tcpip.Client.Prompts
import Z80Tcpip.Irc.Questions
import Z80Tcpip.Chat.CalledServer
import Z80Tcpip.Irc.WholeRuns
