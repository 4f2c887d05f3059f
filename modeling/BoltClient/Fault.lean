import BoltClient.Pool.Fault
import BoltClient.Protocol.Fault
import BoltClient.Settings.Fault

/-!
Whatever can go wrong for a user of the library. Faults of the codec and of the
protocol speak for themselves; the others say where they come from.
-/

namespace BoltClient

inductive Fault where
  | codec (fault : CodecFault)
  | protocol (fault : ProtocolFault)
  | pool (fault : PoolFault)
  | transport (fault : TransportFault)
  | settings (fault : SettingsFault)
  deriving DecidableEq, Repr

namespace Fault

def message : Fault → String
  | codec fault => fault.message
  | protocol fault => fault.message
  | pool fault => "Pool error: " ++ fault.message
  | transport fault => "IO error: " ++ fault.text
  | settings fault => "Configuration error: " ++ fault.text

def protocol? : Fault → Option ProtocolFault
  | protocol fault => some fault
  | _ => none

/-- The code and the message of a failure that the server reported. -/
def failure? (fault : Fault) : Option (String × String) :=
  fault.protocol?.bind ProtocolFault.failure?

end Fault
end BoltClient
