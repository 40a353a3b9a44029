import Threader.Threads.ThreadHandler
import Threader.Utils.SocketUtils

/-! `HandlerBase`: what the handlers of a device emit, and the events of `poll` they react to. -/

namespace Threader

/-- The signals of `HandlerBase`, with what they are emitted with. -/
inductive HandlerSignal
  | onConnectionStateChanged (oldState newState : ConnectionState)
  | onReadyRead
  | onReadyWrite
  | onError (errorCode : Int)
deriving DecidableEq, Repr

/-- `pollfd`, as `poll` hands it back. -/
structure PollFd where
  fd : Descriptor
  revents : UInt16
deriving DecidableEq, Repr

def POLLIN : UInt16 := 0x0001
def POLLOUT : UInt16 := 0x0004
def POLLERR : UInt16 := 0x0008
def POLLHUP : UInt16 := 0x0010
def POLLNVAL : UInt16 := 0x0020
def POLLRDHUP : UInt16 := 0x2000

/-- `event.revents & mask` as a condition. -/
def PollFd.has (event : PollFd) (mask : UInt16) : Bool := event.revents &&& mask != 0

end Threader
