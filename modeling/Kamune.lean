import Kamune.Wire.Integers
import Kamune.Wire.Protobuf
import Kamune.Messages
import Kamune.Padding
import Kamune.Crypto
import Kamune.Conn
import Kamune.Serde
import Kamune.Transport
import Kamune.Lib.Interleaving
import Kamune.ConcurrentSend
import Kamune.Lib.Dialogue
import Kamune.Handshake
import Kamune.RelayConn
import Kamune.Storage
import Kamune.Transactions
import Kamune.Chat
import Kamune.Rotation
import Kamune.RotationRace
import Kamune.Resume
import Kamune.RelaySessions
import Kamune.BrokerCodec
import Kamune.Broker
import Kamune.Lib.SlidingWindow
import Kamune.RateLimit
import Kamune.RelayRead
import Kamune.Exchange
import Kamune.Lib.Table
import Kamune.RelayPairing
import Kamune.RelayTokens
import Kamune.RelayForward
import Kamune.RelayRegister
import Kamune.Introduction
