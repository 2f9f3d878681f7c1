import QuicHttp3.Wire.Bytes
import QuicHttp3.Wire.QuicVarint
import QuicHttp3.Qpack.HpackInteger
import QuicHttp3.Qpack.Instruction
import QuicHttp3.Qpack.InstructionEncoder
import QuicHttp3.Qpack.RoundTrip
import QuicHttp3.Qpack.Huffman
import QuicHttp3.Qpack.EncoderStream
import QuicHttp3.Http.Frames
import QuicHttp3.Http.Decoder
import QuicHttp3.Http.ReceiveControlStream
import QuicHttp3.Http.Termination
import QuicHttp3.Http.TraceRun
import QuicHttp3.Http.Policy
import QuicHttp3.Http.Consumption
import QuicHttp3.Http.Invariants
import QuicHttp3.Http.WholeRun
