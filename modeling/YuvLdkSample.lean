import YuvLdkSample.Descriptor
import YuvLdkSample.Store
import YuvLdkSample.Consolidation
import YuvLdkSample.SweepBatch
import YuvLdkSample.Pipeline
import YuvLdkSample.Uninterrupted
import YuvLdkSample.Durability
import YuvLdkSample.Provenance
import YuvLdkSample.Erasure
import YuvLdkSample.PaymentStore
import YuvLdkSample.PaymentThreads
import YuvLdkSample.PaymentRecords
import YuvLdkSample.LineEditor
import YuvLdkSample.KeysSeed
import YuvLdkSample.ChannelConfig
import YuvLdkSample.OnionMessage
import YuvLdkSample.ChannelCommands
import YuvLdkSample.SignMessage
import YuvLdkSample.EventHandler
