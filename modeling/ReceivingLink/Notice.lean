import ReceivingLink.Delivery
import ReceivingLink.Error
import ReceivingLink.Handler
import ReceivingLink.Text.Quoted

/-!
# Notices

What the receiving side has to tell whoever reads its log, and the line it is told in.
-/

namespace ReceivingLink

/-- How much a notice matters. -/
inductive Level where
  | warn
  | debug
  deriving DecidableEq

def Level.text : Level → String
  | warn => "WARN"
  | debug => "DEBUG"

/-- One entry of the log. -/
inductive Notice where
  | taskDropped (handler : HandlerId)
  | loopFinished (handler : HandlerId)
  | creditReplenished (link : String) (credit pending grant : UInt32)
  | largeStarted (id : LargeMessageId) (format : UInt32) (initial : Nat)
  | bytesDropped (id : LargeMessageId) (count : Nat)
  | largeFinished (id : LargeMessageId) (size : Nat)
  | largeDiscarded (id : LargeMessageId)
  | deleteFailed (id : LargeMessageId) (cause : Failure)
  | receiverNotOpen (link : String) (delivery : DeliveryId)
  | staleDelivery (link : String) (delivery : DeliveryId)
  | processingFailed (link : String) (delivery : DeliveryId) (error : ReceiverError)
  | deliveryAborted (link : String) (delivery : DeliveryId)
  | routingFailed (link : String) (delivery : DeliveryId) (error : RoutingError)
  | flowReceived (link : String) (credits : UInt32) (drain : Bool)
  | cleanupPanicked (link : String) (panic : Panic)
  | receiverClosed (link : String) (remoteInitiated : Bool)
  deriving DecidableEq

namespace Notice

def level : Notice → Level
  | deleteFailed .. | processingFailed .. | routingFailed .. | cleanupPanicked .. => .warn
  | _ => .debug

def text : Notice → String
  | taskDropped h => s!"handler loop stopped; dropping task: handler={h.text}"
  | loopFinished h => s!"handler loop finished: handler={h.text}"
  | creditReplenished link credit pending grant =>
    s!"credit replenished link={Text.quoted link} credit={credit.toNat} " ++
      s!"pending={pending.toNat} grant={grant.toNat}"
  | largeStarted id format initial =>
    s!"large message started: id={id.text}, format={format.toNat}, initial_bytes={initial}"
  | bytesDropped id count =>
    s!"dropping bytes for incomplete large message: id={id.text}, bytes={count}"
  | largeFinished id size => s!"large message finished: id={id.text}, size={size}"
  | largeDiscarded id => s!"large message discarded: id={id.text}"
  | deleteFailed id cause =>
    s!"failed to delete large message spool: id={id.text}, error={cause.text}"
  | receiverNotOpen link d =>
    s!"ignoring delivery on closed receiver: link={link}, delivery={d.text}"
  | staleDelivery link d => s!"ignoring stale delivery: link={link}, delivery={d.text}"
  | processingFailed link d error =>
    s!"delivery processing failed: link={link}, delivery={d.text}, error={error.message}"
  | deliveryAborted link d => s!"delivery aborted: link={link}, delivery={d.text}"
  | routingFailed link d error =>
    s!"routing failed; settling delivery: link={link}, delivery={d.text}, error={error.message}"
  | flowReceived link credits drain =>
    s!"flow received: link={link}, credits={credits.toNat}, drain={drain}"
  | cleanupPanicked link panic =>
    s!"large message cleanup panicked: link={link}, panic={panic.message}"
  | receiverClosed link remote => s!"receiver closed: link={link}, remote_initiated={remote}"

end Notice

end ReceivingLink
