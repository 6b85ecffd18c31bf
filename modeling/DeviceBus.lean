import DeviceBus.Backoff
import DeviceBus.BusError
import DeviceBus.Bytes
import DeviceBus.CommandLine.Arguments
import DeviceBus.CommandLine.Forwarder
import DeviceBus.CommandLine.Log
import DeviceBus.CommandLine.Tap
import DeviceBus.Config.Endpoints
import DeviceBus.Config.Fault
import DeviceBus.Config.KeyPath
import DeviceBus.Config.Layer
import DeviceBus.Config.Load
import DeviceBus.Config.Reading
import DeviceBus.Config.Settings
import DeviceBus.Config.Value
import DeviceBus.Device.Activity
import DeviceBus.Device.Operations
import DeviceBus.Endpoint.Publisher
import DeviceBus.Endpoint.State
import DeviceBus.Endpoint.Subscriber
import DeviceBus.Fanout
import DeviceBus.Files.Tree
import DeviceBus.Filters
import DeviceBus.Main
import DeviceBus.Message
import DeviceBus.Number.Binary64
import DeviceBus.Number.Integer
import DeviceBus.Path
import DeviceBus.Proofs.Bytes
import DeviceBus.Proofs.CommandLine.Arguments
import DeviceBus.Proofs.Config.Layers
import DeviceBus.Proofs.Config.Precedence
import DeviceBus.Proofs.Config.Reading
import DeviceBus.Proofs.Device.Account
import DeviceBus.Proofs.Device.Delivery
import DeviceBus.Proofs.Device.Publication
import DeviceBus.Proofs.Files.Below
import DeviceBus.Proofs.Files.Change
import DeviceBus.Proofs.Files.Tree
import DeviceBus.Proofs.Files.Walk
import DeviceBus.Proofs.Message.Codec
import DeviceBus.Proofs.Number
import DeviceBus.Proofs.Path
import DeviceBus.Proofs.Proxy.Serving
import DeviceBus.Proofs.Publisher.Addressing
import DeviceBus.Proofs.Queue.Admission
import DeviceBus.Proofs.Queue.Retry
import DeviceBus.Proofs.Queue.Ring
import DeviceBus.Proofs.Queue.Sharing
import DeviceBus.Proofs.Receive.Deliveries
import DeviceBus.Proofs.Registry.Criterion
import DeviceBus.Proofs.Registry.Growth
import DeviceBus.Proofs.Registry.Lookup
import DeviceBus.Proofs.Registry.Passages
import DeviceBus.Proofs.Retention.Bound
import DeviceBus.Proofs.Retention.Failure
import DeviceBus.Proofs.Retention.Naming
import DeviceBus.Proofs.Retention.Room
import DeviceBus.Proofs.Retention.Saving
import DeviceBus.Proofs.Retention.Source
import DeviceBus.Proofs.Retention.Trimming
import DeviceBus.Proofs.Retention.Visit
import DeviceBus.Proofs.Runs
import DeviceBus.Proofs.SingletonLock.Contents
import DeviceBus.Proofs.SingletonLock.Record
import DeviceBus.Proofs.SingletonLock.Run
import DeviceBus.Proofs.Subscriber.Cancellation
import DeviceBus.Proofs.Subscriber.Lifecycle
import DeviceBus.Proofs.Subscriber.Resumption
import DeviceBus.Proofs.Subscriber.Routing
import DeviceBus.Proofs.Subscriber.Selection
import DeviceBus.Proofs.Text
import DeviceBus.Proofs.Transport.Reach
import DeviceBus.Proofs.Transport.RoundTrip
import DeviceBus.Proofs.Url
import DeviceBus.Proxy
import DeviceBus.Queue.Bounded
import DeviceBus.Queue.Deque
import DeviceBus.Queue.Envelope
import DeviceBus.Queue.Error
import DeviceBus.Queue.Ring
import DeviceBus.Receive
import DeviceBus.Registry
import DeviceBus.Retention
import DeviceBus.Router
import DeviceBus.SingletonLock
import DeviceBus.SystemFault
import DeviceBus.Text.Blank
import DeviceBus.Text.Case
import DeviceBus.Text.Hexadecimal
import DeviceBus.Text.Printable
import DeviceBus.Text.Quoted
import DeviceBus.Text.Utf8
import DeviceBus.Topic
import DeviceBus.Topic.Vocabulary
import DeviceBus.Transport.Frame
import DeviceBus.Transport.Network
import DeviceBus.Transport.Stream
import DeviceBus.Url
import DeviceBus.Yaml.Cursor
import DeviceBus.Yaml.Node
import DeviceBus.Yaml.Reader
