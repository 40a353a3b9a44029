import Threader.Base.LittleEndian
import Threader.Base.FixedWidth
import Threader.Base.MachineInt
import Threader.Base.StreamExtraction
import Threader.Base.FramedChannel
import Threader.Base.ItemByItem
import Threader.Base.Ledger
import Threader.Base.Loop
import Threader.Base.Settling
import Threader.Base.Selection
import Threader.Base.BoundedPipe
import Threader.Base.Digest
import Threader.Base.ShiftRegister
import Threader.Base.ValueLayout
import Threader.Base.Breaks
import Threader.Base.Splitting
import Threader.Base.Memo
import Threader.Base.SlidingWindow
import Threader.Base.Table
import Threader.Base.Placement
import Threader.Base.CyclicCounter
import Threader.Base.Budget
import Threader.Base.Replacing
import Threader.Base.Searching
import Threader.Base.Entities
import Threader.Base.Collecting
import Threader.Qt.ByteArray
import Threader.Qt.Text
import Threader.Qt.Utf8
import Threader.Utils.CrcUtils
import Threader.Utils.CrcBitwise
import Threader.Utils.IpMask
import Threader.Utils.IpFilter
import Threader.Utils.DottedQuads
import Threader.Utils.TrafficCounter
import Threader.Utils.DataStream
import Threader.Utils.DataStreamValues
import Threader.Utils.DataStreamCuts
import Threader.Frames.DataFramesCommon
import Threader.Frames.DefinitionsLoading
import Threader.Frames.DefinitionsSharing
import Threader.Frames.DefinitionsContent
import Threader.Frames.DataAtoms
import Threader.Frames.TypedStream
import Threader.Frames.StreamBounds
import Threader.Frames.DataFrames
import Threader.Frames.AtomImages
import Threader.Frames.DataFramesFactory
import Threader.Frames.FrameRoundTrip
import Threader.Frames.FrameListRoundTrip
import Threader.Frames.FrameSize
import Threader.Frames.FrameTruncation
import Threader.Frames.RowWiseReading
import Threader.Frames.AtomIndices
import Threader.Frames.CapacityFromAtoms
import Threader.Frames.ReadFramesTermination
import Threader.Frames.DataFrameRawData
import Threader.Base.Heap
import Threader.Frames.DataFramesPackets
import Threader.Frames.PacketExtraction
import Threader.Frames.PacketRoundTrip
import Threader.Frames.PacketResynchronisation
import Threader.Frames.PacketCorruption
import Threader.Base.EventMachine
import Threader.Base.LiveObjects
import Threader.Frames.QueueDataFrames
import Threader.Frames.QueuePriorities
import Threader.Frames.DeclaredPriorities
import Threader.Frames.QueueLedger
import Threader.Frames.QueueProgress
import Threader.Frames.QueueTickets
import Threader.Frames.QueueThreads
import Threader.Frames.RawDataSnapshots
import Threader.Frames.RawDataDefinitions
import Threader.Frames.DecodersAgree
import Threader.Frames.DataFramesMask
import Threader.Frames.DataFramesLiterals
import Threader.Frames.DataFramesContractBuilder
import Threader.Frames.GeneratedContract
import Threader.Frames.ContractConsistency
import Threader.Threads.ThreadHandler
import Threader.Threads.PacketFactoryAsciiLines
import Threader.Threads.LineRoundTrip
import Threader.Threads.ThreadDataFrames
import Threader.Threads.TicketQueue
import Threader.Threads.TicketRefinement
import Threader.Threads.TicketRuns
import Threader.Threads.PassedPackets
import Threader.Threads.PacketContinuity
import Threader.Threads.PacketIdCycle
import Threader.Threads.HandlerInvariant
import Threader.Threads.SendFrameOutcome
import Threader.Threads.Retransmission
import Threader.Threads.Emission
import Threader.Threads.Link
import Threader.Threads.Delivery
import Threader.Threads.Acknowledgement
import Threader.Threads.OutputStream
import Threader.Utils.SocketUtils
import Threader.Threads.HandlerBase
import Threader.Threads.HandlerTcpSocket
import Threader.Threads.HandlerUdpSocket
import Threader.Threads.DeviceReading
import Threader.Threads.HandlerSerialPort
import Threader.Threads.Pollings
import Threader.Threads.PollerRegistration
import Threader.Threads.ClientThread
import Threader.Threads.ClientRuns
import Threader.Threads.ThreadListenSocket
import Threader.Threads.ListenSocketRuns
import Threader.Threads.QueueMessages
import Threader.Threads.WakeUp
import Threader.Threads.PollingsWindows
import Threader.Threads.SignalsWindows
import Threader.Threads.TerminateRequests
import Threader.Threads.MessageOrder
import Threader.Threads.ChildThreads
import Threader.Threads.ThreadTimer
import Threader.Threads.WriterLogs
import Threader.Threads.ThreadLogs
import Threader.Threads.LogFiles
import Threader.ThirdParty.Mustache
import Threader.ThirdParty.QtVariantContext
import Threader.ThirdParty.TagPositions
import Threader.ThirdParty.TemplateTree
import Threader.ThirdParty.RenderedTemplates
import Threader.ThirdParty.FlatTemplates
import Threader.Frames.RenderedContract
import Threader.Frames.EscapedContract
import Threader.Frames.DecodedContract
import Threader.Demo.PacketFactorySimple
import Threader.Demo.SimplePacketStream
import Threader.Demo.SimplePacketRoundTrip
import Threader.Demo.SimpleSockets
import Threader.Demo.SimpleConversation
import Threader.Demo.SimpleHeartbeat
