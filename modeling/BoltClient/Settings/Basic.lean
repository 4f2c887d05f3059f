import BoltClient.Message.Request
import BoltClient.Settings.Fault
import BoltClient.Wire.Handshake

/-!
Settings: where a server is, how a session introduces itself, and how many
connections a pool holds. Named texts, such as environment variables, override
the defaults one after the other; those before a fault stay in force.
-/

namespace BoltClient

/-- Where and how a connection reaches its server. -/
structure ConnectionSettings where
  host : String := "localhost"
  port : Nat := 7687
  tls : Bool := false
  connectMillis : Nat := 10000
  versions : List Version := Handshake.defaultVersions

def ConnectionSettings.address (settings : ConnectionSettings) : String :=
  s!"{settings.host}:{settings.port}"

/-- How a session opens and authenticates a connection. -/
structure SessionSettings where
  connection : ConnectionSettings := {}
  client : ClientInfo := {}
  auth : Auth := .anonymous

/-- How many connections a pool holds, and how long a borrower waits for one. -/
structure PoolSettings where
  limit : Nat := 10
  timeoutMillis : Nat := 30000
  deriving DecidableEq, Repr

structure Settings where
  session : SessionSettings := {}
  pool : PoolSettings := {}
  contexts : Nat := 1

namespace Settings

/-- A number in decimal digits up to `limit`, with or without a plus sign. -/
def readNumber? (limit : Nat) (text : String) : Option Nat :=
  let digits := match text.toList with
    | '+' :: rest => rest
    | all => all
  if digits.isEmpty || !digits.all Char.isDigit then none
  else
    let number := digits.foldl (fun number digit => number * 10 + (digit.toNat - '0'.toNat)) 0
    if number ≤ limit then some number else none

def readNumber (limit : Nat) (key text : String) : Except SettingsFault Nat :=
  match readNumber? limit text with
  | some number => .ok number
  | none => .error (.invalidValue key text)

/-- Some words for yes and no, in letters of either case. -/
def readSwitch (key text : String) : Except SettingsFault Bool :=
  let word := String.ofList (text.toList.map Char.toLower)
  if ["1", "true", "yes"].contains word then .ok true
  else if ["0", "false", "no"].contains word then .ok false
  else .error (.notSwitch key word)

/-- What is known by name. -/
abbrev Lookup := String → Option String

/-- The text behind a name, unless it is empty. -/
def Lookup.filled? (lookup : Lookup) (key : String) : Option String :=
  (lookup key).filter fun text => !text.isEmpty

/-- Changes settings by the text behind a name. -/
structure Override where
  key : String
  change : Lookup → (key text : String) → Settings → Except SettingsFault Settings

def withConnection (settings : Settings) (connection : ConnectionSettings) : Settings :=
  { settings with session := { settings.session with connection } }

/-- The overrides in the order in which they are applied. -/
def overrides : List Override :=
  [⟨"BOLT_HOST", fun _ _ host settings =>
      .ok (settings.withConnection { settings.session.connection with host })⟩,
    ⟨"BOLT_PORT", fun _ key text settings => do
      let port ← readNumber 65535 key text
      return settings.withConnection { settings.session.connection with port }⟩,
    ⟨"BOLT_TLS", fun _ key text settings => do
      let tls ← readSwitch key text
      return settings.withConnection { settings.session.connection with tls }⟩,
    ⟨"BOLT_PASSWORD", fun lookup _ password settings =>
      let auth := Auth.basic (lookup.filled? "BOLT_USER") password
      .ok { settings with session := { settings.session with auth } }⟩,
    ⟨"BOLT_MAX_CONNECTIONS", fun _ key text settings => do
      let limit ← readNumber 0xFFFFFFFFFFFFFFFF key text
      return { settings with pool := { settings.pool with limit } }⟩,
    ⟨"BOLT_REQUEST_TIMEOUT_MS", fun _ key text settings => do
      let timeoutMillis ← readNumber 0xFFFFFFFFFFFFFFFF key text
      return { settings with pool := { settings.pool with timeoutMillis } }⟩]

def Override.apply (override : Override) (lookup : Lookup) (settings : Settings) :
    Except SettingsFault Settings :=
  match lookup.filled? override.key with
  | none => .ok settings
  | some text => override.change lookup override.key text settings

/-- Applies overrides up to the first that is wrong. -/
def applyInOrder (lookup : Lookup) :
    List Override → Settings → Option SettingsFault × Settings
  | [], settings => (none, settings)
  | override :: rest, settings =>
    match override.apply lookup settings with
    | .error fault => (some fault, settings)
    | .ok changed => applyInOrder lookup rest changed

def applyOverrides (lookup : Lookup) (settings : Settings) : Option SettingsFault × Settings :=
  applyInOrder lookup overrides settings

/-- The defaults with all overrides, or nothing when one of them is wrong. -/
def ofLookup (lookup : Lookup) : Except SettingsFault Settings :=
  match applyOverrides lookup {} with
  | (some fault, _) => .error fault
  | (none, settings) => .ok settings

end Settings
end BoltClient
