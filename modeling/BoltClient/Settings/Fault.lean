/-!
What can be wrong with a setting.
-/

namespace BoltClient

inductive SettingsFault where
  | reported (text : String)
  | invalidValue (key value : String)
  | notSwitch (key value : String)
  deriving DecidableEq, Repr

def SettingsFault.text : SettingsFault → String
  | reported text => text
  | invalidValue key value => s!"invalid value for {key}: \x27{value}\x27"
  | notSwitch key value => s!"{key} must be true or false, got \x27{value}\x27"

end BoltClient
