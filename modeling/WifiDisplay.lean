import WifiDisplay.LockSystem
import WifiDisplay.DispatcherLocks
import WifiDisplay.DispatcherDeadlock
import WifiDisplay.RtpPacketSortorRuns
import WifiDisplay.RtpEncoderH264
import WifiDisplay.RtpDecoderH264
import WifiDisplay.RtpH264RoundTrip
import WifiDisplay.RtspCommon
import WifiDisplay.RtspSession
import WifiDisplay.RtspSegmentation
import WifiDisplay.RtspSessionRuns
import WifiDisplay.BufferDispatcher
import WifiDisplay.BufferDispatcherReceivers
import WifiDisplay.BufferDispatcherInput
import WifiDisplay.BufferDispatcherDrops
import WifiDisplay.BufferDispatcherRuns
import WifiDisplay.BufferDispatcherSteps
import WifiDisplay.BufferDispatcherReads
import WifiDisplay.BufferDispatcherWrites
import WifiDisplay.BufferDispatcherSlots
import WifiDisplay.DispatcherIndexes
import WifiDisplay.DispatcherDelivery
import WifiDisplay.DispatcherActivation
import WifiDisplay.BufferDispatcherHistory
import WifiDisplay.DispatcherReadFlags
import WifiDisplay.DispatcherReadFlagRuns
import WifiDisplay.RtspNumbers
import WifiDisplay.RtspFields
import WifiDisplay.RtspBodies
import WifiDisplay.RtspRequestRoundTrip
import WifiDisplay.InputStream
import WifiDisplay.InputStreamGrammar
import WifiDisplay.WfdMessages
import WifiDisplay.RtspResponseTexts
import WifiDisplay.RtspResponseRoundTrip
import WifiDisplay.RtspResponseLaws
import WifiDisplay.SinkCapabilities
import WifiDisplay.EventLog
import WifiDisplay.WfdSourceSession
import WifiDisplay.WfdSourceHandshake
import WifiDisplay.Rtcp
import WifiDisplay.RtcpRoundTrip
import WifiDisplay.RtpPacketSortorArrivals
import WifiDisplay.RtpPacketSortorStreams
import WifiDisplay.RtpPacketSortorReordering
import WifiDisplay.VideoNegotiation
import WifiDisplay.WfdSinkScene
import WifiDisplay.ResourceLedger
import WifiDisplay.WfdSinkSceneEffects
import WifiDisplay.WfdSinkSceneLimits
import WifiDisplay.WfdSinkSceneAgents
import WifiDisplay.RtpDecoderH264Losses
import WifiDisplay.RtpDecoderH264Gate
import WifiDisplay.Adts
import WifiDisplay.RtpAac
import WifiDisplay.RtpAacRoundTrip
import WifiDisplay.RtspReuse
import WifiDisplay.ByteBlock
import WifiDisplay.RtcpBye
import WifiDisplay.WfdSourcePlayback
import WifiDisplay.WfdSinkApp
import WifiDisplay.WfdSinkSession
import WifiDisplay.WfdSinkSteps
import WifiDisplay.WfdSinkCSeqs
import WifiDisplay.WfdSinkStopping
import WifiDisplay.WfdSinkHandshake
import WifiDisplay.WfdSinkSupervision
import WifiDisplay.WfdSinkSupervisionRuns
import WifiDisplay.RtcpSdes
import WifiDisplay.NumberExtent
import WifiDisplay.RtcpLoss
import WifiDisplay.RtpEncoderStream
import WifiDisplay.TimeoutTimerLoop
import WifiDisplay.EventSystem
import WifiDisplay.EventSystemProgress
import WifiDisplay.Agent
import WifiDisplay.AgentSteps
import WifiDisplay.AgentTearDown
import WifiDisplay.AgentGate
import WifiDisplay.AgentCaching
import WifiDisplay.AgentCachingRuns
import WifiDisplay.Context
import WifiDisplay.ContextHierarchy
import WifiDisplay.ContextManager
import WifiDisplay.ContextManagerRuns
import WifiDisplay.ContextHierarchyRuns
import WifiDisplay.BufferDispatcherPops
import WifiDisplay.DispatcherCounters
import WifiDisplay.DispatcherCapacity
import WifiDisplay.MediaController
import WifiDisplay.WfdSourceScene
import WifiDisplay.WfdSourceSceneAgents
import WifiDisplay.WfdSourceSceneCasts
import WifiDisplay.WfdSourceSceneRuns
import WifiDisplay.MediaChannel
import WifiDisplay.MediaChannelAnswers
import WifiDisplay.TcpClient
import WifiDisplay.TcpClientClosing
import WifiDisplay.TcpServer
import WifiDisplay.TcpServerLocks
import WifiDisplay.SinkPlayer
import WifiDisplay.SinkPlayerCalls
import WifiDisplay.SinkPlayerRuns
import WifiDisplay.DispatcherSlots
import WifiDisplay.RtpPacketSortorShift
import WifiDisplay.RtpDecoderH264Aggregation
import WifiDisplay.RtpPacketFormat
import WifiDisplay.RtpAacSections
import WifiDisplay.RtpDecoderG711
import WifiDisplay.RtpDecoderTs
import WifiDisplay.RtpUnpackImpl
import WifiDisplay.SplitH264
import WifiDisplay.SinkPlayerHangs
import WifiDisplay.DispatcherOrder
import WifiDisplay.DispatcherOrderRuns
import WifiDisplay.FrameMerger
import WifiDisplay.FrameMergerGroups
import WifiDisplay.FrameMergerSplit
import WifiDisplay.RtcpFB
import WifiDisplay.RtcpWire
import WifiDisplay.WfdCodecEntries
import WifiDisplay.WfdTrackSelection
import WifiDisplay.WfdSinkHandlers
import WifiDisplay.WfdSourceKeepAlive
import WifiDisplay.MediaDescription
import WifiDisplay.WfdSinkSceneRepeats
import WifiDisplay.MediaDescriptionReads
import WifiDisplay.EmulationPrevention
import WifiDisplay.MediaDescriptionRbsp
import WifiDisplay.SequenceParameterSet
import WifiDisplay.MediaDescriptionSyntax
import WifiDisplay.MediaDescriptionSize
import WifiDisplay.Base64
import WifiDisplay.SpropParameterSets
import WifiDisplay.DataBuffer
import WifiDisplay.DataBufferContents
import WifiDisplay.DataBufferRuns
import WifiDisplay.SyncEventRuns
import WifiDisplay.WfdConnectionTimer
import WifiDisplay.WfdConnectionTimerRuns
import WifiDisplay.UdpServer
import WifiDisplay.TcpSessionRegistry
import WifiDisplay.AudioAvCodecDecoder
import WifiDisplay.AudioAvCodecDecoderRuns
import WifiDisplay.RtpPacketSortorBounds
import WifiDisplay.VideoAudioSync
import WifiDisplay.VideoSinkDecoder
import WifiDisplay.VideoSinkDecoderRuns
import WifiDisplay.EventDescriptorListener
import WifiDisplay.InteractionManager
import WifiDisplay.Config
import WifiDisplay.ConfigRuns
import WifiDisplay.JsonParser
import WifiDisplay.JsonParserRoundTrip
import WifiDisplay.BufferNotifications
import WifiDisplay.AudioPcmProcessor
import WifiDisplay.AudioPcmProcessorRuns
import WifiDisplay.RtpPayloadPaths
import WifiDisplay.WfdConversationRuns
import WifiDisplay.InterIpc
