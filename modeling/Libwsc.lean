import Libwsc.Trace
import Libwsc.Receiver
import Libwsc.Compression
import Libwsc.Utf8
import Libwsc.Handlers
import Libwsc.Framing
import Libwsc.OnData
import Libwsc.CloseFrame
import Libwsc.Lifecycle
import Libwsc.FrameEncoding
import Libwsc.Inflate
import Libwsc.Chunking
import Libwsc.Messages
import Libwsc.Deflate
import Libwsc.Violations
import Libwsc.Utf8Encoding
import Libwsc.Effects
import Libwsc.Runs
import Libwsc.TLSContext
import Libwsc.TextDelivery
