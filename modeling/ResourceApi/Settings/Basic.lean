import ResourceApi.Json.Printer
import ResourceApi.Settings.Address

/-!
# Settings

What the operator of a server may choose, by variables of the environment: where it listens, where the API is
mounted, and how much it logs. Nothing is checked before it is used.
-/

namespace ResourceApi

/-- The settings of a server. -/
structure Settings where
  /-- The address to listen on. -/
  listen : String := "0.0.0.0:8800"
  /-- The path under which the API is mounted. -/
  apiPrefix : String := "api/v1"
  /-- The least level of messages that are logged. -/
  logLevel : String := "info"
  deriving DecidableEq, Repr

namespace Settings

/-- What is wrong with a setting. -/
inductive Problem where
  /-- The address to listen on cannot be read. -/
  | badAddress (listen : String)
  deriving DecidableEq, Repr

/-- A problem in words. -/
def Problem.message : Problem → String
  | badAddress listen =>
    "configuration error: invalid listen address " ++ listen ++ ": invalid socket address syntax"

/-- The settings of an environment; a variable that is not set leaves the default. -/
def ofEnvironment (valueOf : String → Option String) : Settings :=
  let default : Settings := {}
  { listen := (valueOf "SOYFR_LISTEN").getD default.listen
    apiPrefix := (valueOf "SOYFR_API_PREFIX").getD default.apiPrefix
    logLevel := (valueOf "LOG_LEVEL").getD default.logLevel }

/-- Settings as a JSON object. -/
def json (s : Settings) : Json :=
  .obj [("listen", .str s.listen), ("apiPrefix", .str s.apiPrefix), ("logLevel", .str s.logLevel)]

/-- The address to listen on. -/
def listenAddress (s : Settings) : Except Problem SocketAddress :=
  match SocketAddress.ofText? s.listen with
  | some address => .ok address
  | none => .error (.badAddress s.listen)

end Settings

end ResourceApi
