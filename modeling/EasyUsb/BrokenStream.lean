import EasyUsb.Duplex

namespace EasyUsb

open Foundation

/-- The bytes that messages come to on a connection that takes everything: the
encodings of those that are not refused, under the numbers they are sent with. -/
def TcpSession.stream : TcpSession → List Frame → List UInt8
  | _, [] => []
  | session, message :: messages =>
    (match encodeHeader (session.stamp message.1) message.2 with
      | .ok buf => buf
      | _ => []) ++ session.counted.stream messages

section

variable {o : Owned} {room : Nat} {text : String} (opened : o.session.closed = false)
variable (unshut : o.socket.writeShut = false) (breaks : o.socket.fault = some (room, text))

include opened unshut breaks

end

end EasyUsb
