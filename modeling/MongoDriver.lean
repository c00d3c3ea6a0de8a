import MongoDriver.Topology.Basic
import MongoDriver.Wiremessage.Bytes
import MongoDriver.Topology.Framing
import MongoDriver.Topology.ReadFailure
import MongoDriver.Wiremessage.Compression
import MongoDriver.Topology.Handle
import MongoDriver.Topology.Envelope
import MongoDriver.Topology.Negotiation
import MongoDriver.Topology.Pinning
import MongoDriver.Topology.Connect
import MongoDriver.Topology.System
import MongoDriver.Topology.Establish
import MongoDriver.Topology.Connecting
import MongoDriver.Topology.SocketClose
import MongoDriver.Topology.NilSocket
import MongoDriver.Topology.Progress
import MongoDriver.Options.ClientOptions
import MongoDriver.Options.X509
import MongoDriver.Options.Setters
import MongoDriver.Options.Validate
import MongoDriver.Options.Certificates
import MongoDriver.Options.URI
