import Mqtt.Broker.Credentials
import Mqtt.QoS
import Mqtt.Text.Blank
import Mqtt.Text.Numeral

/-!
# Configuration

Where the broker listens, which QoS it grants, and whom it lets in. The place comes from the
arguments, everything else from the environment. Of several faults the first one is reported: the
place comes before the QoS, and the QoS before the credentials.
-/

namespace Mqtt

/-- Where the broker listens. -/
inductive Bind where
  | tcp (host : String) (port : Nat)
  | unix (path : String)
deriving DecidableEq

/-- The written form of a place to listen. -/
def Bind.name : Bind → String
  | .tcp host port => host ++ ":" ++ toString port
  | .unix path     => "unix:" ++ path

/-- Settings of the broker. -/
structure Config where
  bind : Bind
  /-- The highest QoS granted to a subscription. -/
  maxQoS : QoS
  /-- The user name and password that every client must have, if there are any. -/
  credentials : Option (String × String)
deriving DecidableEq

/-- What is wrong with the arguments or the environment. -/
inductive ConfigError where
  | invalidPort (text : String) (fault : Text.NumeralFault)
  | tooManyArguments
  | invalidMaxQoS (text : String) (fault : Text.NumeralFault)
  | maxQoSOutOfRange (level : Nat)
  | passwordWithoutUserName
deriving DecidableEq

namespace Config

/-! ### Names -/

/-- The variable that holds the user name. -/
def userNameVariable : String := "MQTT_BROKER_USERNAME"

/-- The variable that holds the password. -/
def passwordVariable : String := "MQTT_BROKER_PASSWORD"

/-- The variable that holds the highest QoS. -/
def maxQoSVariable : String := "MQTT_BROKER_MAX_QOS"

/-- How the program is called. -/
def usage : String := "usage: mqtt-stream-broker [<host> <port> | <port> | <unix socket path>]"

/-- The host to listen on when none is given. -/
def defaultHost : String := "127.0.0.1"

/-- The port to listen on when none is given. -/
def defaultPort : Nat := 1883

/-- The greatest port. -/
def maxPort : Nat := 65535

/-- The greatest level that is read at all. -/
def maxLevel : Nat := 255

/-- The settings without arguments and in an empty environment. -/
def default : Config := ⟨.tcp defaultHost defaultPort, .atMostOnce, none⟩

/-! ### Reading -/

/-- The place that the arguments name. A single argument that is no port is a path. -/
def readBind : List String → Except ConfigError Bind
  | []           => .ok (.tcp defaultHost defaultPort)
  | [text]       =>
    match Text.Numeral.parse maxPort text.toList with
    | .ok port => .ok (.tcp defaultHost port)
    | .error _ => .ok (.unix text)
  | [host, text] =>
    match Text.Numeral.parse maxPort text.toList with
    | .ok port     => .ok (.tcp host port)
    | .error fault => .error (.invalidPort text fault)
  | _            => .error .tooManyArguments

/-- The highest QoS that a variable names; blanks around the level do not count. -/
def readMaxQoS : Option String → Except ConfigError QoS
  | none      => .ok .atMostOnce
  | some text =>
    match Text.Numeral.parse maxLevel (Text.trim text.toList) with
    | .error fault => .error (.invalidMaxQoS text fault)
    | .ok level    =>
      match QoS.ofLevel? level with
      | some qos => .ok qos
      | none     => .error (.maxQoSOutOfRange level)

/-- The credentials that two variables name; without a password it is empty. -/
def readCredentials :
    Option String → Option String → Except ConfigError (Option (String × String))
  | some userName, password => .ok (some (userName, password.getD ""))
  | none, some _            => .error .passwordWithoutUserName
  | none, none              => .ok none

/-- The settings that the arguments and the environment give. -/
def read (arguments : List String) (environment : String → Option String) :
    Except ConfigError Config := do
  let bind ← readBind arguments
  let maxQoS ← readMaxQoS (environment maxQoSVariable)
  let credentials ← readCredentials (environment userNameVariable) (environment passwordVariable)
  pure ⟨bind, maxQoS, credentials⟩

/-- The check that lets in those with the configured credentials, or everyone without them. -/
def credentialCheck (config : Config) : CredentialCheck :=
  match config.credentials with
  | none                      => .anyone
  | some (userName, password) => .only userName (Text.utf8 password)

end Config

/-- The wording of a configuration error. -/
def ConfigError.message : ConfigError → String
  | .invalidPort text fault   => "Invalid port: " ++ text ++ ": " ++ fault.message
  | .tooManyArguments         => "Too many arguments\n" ++ Config.usage
  | .invalidMaxQoS text fault =>
    "Invalid " ++ Config.maxQoSVariable ++ ": " ++ text ++ ": " ++ fault.message
  | .maxQoSOutOfRange level   =>
    Config.maxQoSVariable ++ " must be 0, 1 or 2, got " ++ toString level
  | .passwordWithoutUserName  =>
    Config.passwordVariable ++ " is set without " ++ Config.userNameVariable

end Mqtt
