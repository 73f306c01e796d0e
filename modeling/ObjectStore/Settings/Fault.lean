import ObjectStore.Http.Message
import ObjectStore.Text.Number
import ObjectStore.Text.Quoted
/-!
# Why settings cannot be used

Settings fail to load, or a profile in them does not describe a client.  `message` words the
fault itself and `causes` what lies behind it.
-/

namespace ObjectStore

inductive SettingsFault where
  /-- The settings file could not be read. -/
  | file (path : String) (cause : InputFault)
  /-- The settings file is no document, or not one of settings. -/
  | document
  /-- The settings file has no profile of the name that was asked for. -/
  | unknownProfile (name : String)
  /-- A variable holds no switch. -/
  | switch (name value : String)
  /-- A variable holds no number. -/
  | number (name value : String) (cause : Text.NumberFault)
  /-- A session token without the keys of the session. -/
  | tokenWithoutKeys
  /-- One key of a pair without the other. -/
  | halfPair
  /-- An endpoint with a scheme that is not spoken. -/
  | scheme (name : String)
  /-- An endpoint without a host. -/
  | noHost
  deriving Repr, DecidableEq

namespace SettingsFault

def message : SettingsFault → String
  | .file path _ => "Failed to read config file: " ++ Text.quotedPath path
  | .document => "Failed to parse YAML configuration"
  | .unknownProfile name => "Profile '" ++ name ++ "' not found in config file"
  | .switch name value => "Invalid boolean for " ++ name ++ ": " ++ Text.quoted value
  | .number name value _ => "Invalid value for " ++ name ++ ": " ++ Text.quoted value
  | .tokenWithoutKeys => "session_token set without access_key and secret_key"
  | .halfPair => "access_key and secret_key must be set together"
  | .scheme name => "Unsupported endpoint scheme '" ++ name ++ "'"
  | .noHost => "Endpoint host is empty"

def causes : SettingsFault → List String
  | .file _ cause => [cause.message]
  | .number _ _ cause => [cause.message]
  | _ => []

end SettingsFault

end ObjectStore
