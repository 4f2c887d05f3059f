import BoltClient.Value.Basic

/-!
Credentials. They travel as one map: the parameters of the scheme, and the name
of the scheme under a key that no parameter can take.
-/

namespace BoltClient

structure Auth where
  scheme : String
  parameters : Entries Value

namespace Auth

def defaultUser : String := "neo4j"

def schemeKey : String := "scheme"

/-- A user and a password. -/
def basic (user? : Option String) (password : String) : Auth :=
  ⟨"basic", [("principal", .string (user?.getD defaultUser)), ("credentials", .string password)]⟩

/-- A token that speaks for itself. -/
def bearer (token : String) : Auth := ⟨"bearer", [("credentials", .string token)]⟩

/-- No credentials, for servers that ask for none. -/
def anonymous : Auth := ⟨"none", []⟩

def entries (auth : Auth) : Entries Value :=
  auth.parameters.erase schemeKey ++ [(schemeKey, .string auth.scheme)]

def toValue (auth : Auth) : Value := .map auth.entries

/-- The scheme and the names of the parameters, without what they hold. -/
def redacted (auth : Auth) : String :=
  "Auth \x7b scheme: " ++ Quoted.quote auth.scheme ++ ", parameters: " ++
    Quoted.quoteList auth.parameters.sorted.keys ++ ", .. \x7d"

end Auth
end BoltClient
