/-
**Settings.**

* `Settings` — what the service is set up with, in four parts;
* `Settings.defaults` — the settings of an environment;
* `Settings.ofVariables` — the same with what environment variables say; a value that cannot be read
  leaves the setting as it was;
* settings as JSON: the password is read but never written.
-/

import Syllabus.Codec.Fields
import Syllabus.Text.Blank

namespace Syllabus

open Text

/-! ### Environments and backends -/

/-- Where the service runs. -/
inductive Environment where
  | development
  | staging
  | production
  deriving DecidableEq

namespace Environment

/-- The word for an environment. -/
def text : Environment → String
  | .development => "Development"
  | .staging => "Staging"
  | .production => "Production"

/-- The environment that a variable names; development where it names none. -/
def ofVariable : Option String → Environment
  | some "production" | some "prod" => .production
  | some "staging" | some "stage" => .staging
  | _ => .development

end Environment

/-- What records are kept in. -/
inductive BackendKind where
  | mongo
  | memory
  deriving DecidableEq

namespace BackendKind

/-- The word for a backend. -/
def text : BackendKind → String
  | .mongo => "Mongo"
  | .memory => "Memory"

/-- The report of a name that no backend has. -/
def unknownName (name : String) : String :=
  "unknown store backend '" ++ name ++ "'"

/-- The backend of a name, in any case, or a report. -/
def ofName (name : String) : Except String BackendKind :=
  match name.map Char.toLower with
  | "mongo" | "mongodb" => .ok .mongo
  | "memory" | "mem" => .ok .memory
  | other => .error (unknownName other)

end BackendKind

/-- Decodes a value that is one of a few words, or an object with the word as its one key and null
as its value. -/
def decodeWord {α : Type} (values : List (String × α)) (draft : Draft) : Except Fault α :=
  let word := match draft with
    | .string word => some word
    | .object [(some word, .null)] .closed => some word
    | _ => none
  match word.bind fun word => values.lookup word with
  | some value => .ok value
  | none => .error draft.fault

instance : Codec Environment where
  json environment := .string environment.text
  decode := decodeWord
    ([.development, .staging, .production].map fun environment => (environment.text, environment))

instance : Codec BackendKind where
  json backend := .string backend.text
  decode := decodeWord ([.mongo, .memory].map fun backend => (backend.text, backend))

/-! ### The settings -/

/-- Settings of the connection to the database. -/
structure DatabaseSettings where
  backend : BackendKind
  uri : Option String
  username : Option String
  password : Option String
  appName : String
  maxPoolSize : UInt32
  connectTimeoutMs : UInt64
  /-- The deadline of every call to the store. -/
  operationTimeoutMs : UInt64
  deriving DecidableEq

/-- Settings of the interface. -/
structure ApiSettings where
  /-- The number that requests arrive at. -/
  portNumber : UInt16
  requestTimeoutMs : UInt64
  enableRequestLogging : Bool
  maxRequestSizeBytes : UInt64
  deriving DecidableEq

/-- Settings on other origins. -/
structure SecuritySettings where
  enableCors : Bool
  corsOrigins : List String
  deriving DecidableEq

/-- What the service is set up with. -/
structure Settings where
  environment : Environment
  database : DatabaseSettings
  api : ApiSettings
  security : SecuritySettings
  deriving DecidableEq

/-! ### Settings as JSON -/

instance : Fielded DatabaseSettings where
  blank := ⟨.mongo, none, none, none, "", 0, 0, 0⟩
  fields := [
    .mandatory "backend" (·.backend) fun value settings => { settings with backend := value },
    .optional "uri" (·.uri) fun value settings => { settings with uri := value },
    .optional "username" (·.username) fun value settings => { settings with username := value },
    .secret "password" fun (value : Option String) settings => { settings with password := value },
    .mandatory "app_name" (·.appName) fun value settings => { settings with appName := value },
    .mandatory "max_pool_size" (·.maxPoolSize)
      fun value settings => { settings with maxPoolSize := value },
    .mandatory "connect_timeout_ms" (·.connectTimeoutMs)
      fun value settings => { settings with connectTimeoutMs := value },
    .mandatory "operation_timeout_ms" (·.operationTimeoutMs)
      fun value settings => { settings with operationTimeoutMs := value }]

instance : Fielded ApiSettings where
  blank := ⟨0, 0, false, 0⟩
  fields := [
    .mandatory "port" (·.portNumber)
      fun value settings => { settings with portNumber := value },
    .mandatory "request_timeout_ms" (·.requestTimeoutMs)
      fun value settings => { settings with requestTimeoutMs := value },
    .mandatory "enable_request_logging" (·.enableRequestLogging)
      fun value settings => { settings with enableRequestLogging := value },
    .mandatory "max_request_size_bytes" (·.maxRequestSizeBytes)
      fun value settings => { settings with maxRequestSizeBytes := value }]

instance : Fielded SecuritySettings where
  blank := ⟨false, []⟩
  fields := [
    .mandatory "enable_cors" (·.enableCors)
      fun value settings => { settings with enableCors := value },
    .mandatory "cors_origins" (·.corsOrigins)
      fun value settings => { settings with corsOrigins := value }]

instance : Fielded Settings where
  blank := ⟨.development, Fielded.blank, Fielded.blank, Fielded.blank⟩
  fields := [
    .mandatory "environment" (·.environment)
      fun value settings => { settings with environment := value },
    .mandatory "database" (·.database) fun value settings => { settings with database := value },
    .mandatory "api" (·.api) fun value settings => { settings with api := value },
    .mandatory "security" (·.security) fun value settings => { settings with security := value }]

/-! ### Defaults and environment variables -/

namespace Settings

/-- The settings of an environment. A server has to be named wherever the service is not being
developed. -/
def defaults : Environment → Settings
  | .development => {
      environment := .development
      database := ⟨.mongo, some "mongodb://localhost:27017", none, none, "praromvik-api",
        10, 10000, 10000⟩
      api := ⟨3000, 30000, true, 10 * 1024 * 1024⟩
      security := ⟨true, ["*"]⟩ }
  | .staging => {
      environment := .staging
      database := ⟨.mongo, none, none, none, "praromvik-api", 20, 5000, 5000⟩
      api := ⟨3000, 15000, true, 5 * 1024 * 1024⟩
      security := ⟨true, ["https://staging.praromvik.com"]⟩ }
  | .production => {
      environment := .production
      database := ⟨.mongo, none, none, none, "praromvik-api", 50, 5000, 3000⟩
      api := ⟨3000, 10000, false, 2 * 1024 * 1024⟩
      security := ⟨true, ["https://praromvik.com"]⟩ }

/-- The truth value that a variable names. -/
def flag? : String → Option Bool
  | "true" => some true
  | "false" => some false
  | _ => none

/-- A text split at its commas. -/
def splitCommas : List Char → List (List Char)
  | [] => [[]]
  | ',' :: rest => [] :: splitCommas rest
  | c :: rest =>
    match splitCommas rest with
    | part :: others => (c :: part) :: others
    | [] => [[c]]

/-- The origins that a variable lists, without the blanks around them. -/
def origins (value : String) : List String :=
  (splitCommas value.toList).map fun part => String.ofList (trimBlanks part)

/-- The value of a setting after a variable was looked at: what could be read of it, or the value
from before. -/
def override {α : Type} (setting? : Option String) (read? : String → Option α) (before : α) : α :=
  (setting?.bind read?).getD before

/-- The number that a variable names, up to a bound. -/
def number? (bound : Nat) (value : String) : Option Nat :=
  unsigned? bound value.toList

/-- A number of 16 bits. -/
def number16? (value : String) : Option UInt16 :=
  (number? (UInt16.size - 1) value).map (·.toUInt16)

/-- A number of 32 bits. -/
def number32? (value : String) : Option UInt32 :=
  (number? (UInt32.size - 1) value).map (·.toUInt32)

/-- A number of 64 bits. -/
def number64? (value : String) : Option UInt64 :=
  (number? (UInt64.size - 1) value).map (·.toUInt64)

/-- Database settings with what variables say. An empty user name is none. -/
def overrideDatabase (setting? : String → Option String) (before : DatabaseSettings) :
    DatabaseSettings where
  backend := override (setting? "DATABASE_BACKEND")
    (fun name => (BackendKind.ofName name).toOption) before.backend
  uri := override (setting? "MONGODB_URI") (some ∘ some) before.uri
  username := override (setting? "MONGODB_USERNAME")
    (fun name => some (if name.isEmpty then none else some name)) before.username
  password := override (setting? "MONGODB_PASSWORD") (some ∘ some) before.password
  appName := override (setting? "DATABASE_APP_NAME") some before.appName
  maxPoolSize := override (setting? "DATABASE_MAX_POOL_SIZE") number32? before.maxPoolSize
  connectTimeoutMs :=
    override (setting? "DATABASE_CONNECT_TIMEOUT_MS") number64? before.connectTimeoutMs
  operationTimeoutMs :=
    override (setting? "DATABASE_OPERATION_TIMEOUT_MS") number64? before.operationTimeoutMs

/-- Settings of the interface with what variables say. The port number has two variables, and the
second is looked at only where the first is missing. -/
def overrideApi (setting? : String → Option String) (before : ApiSettings) : ApiSettings where
  portNumber :=
    override ((setting? "PRAROMVIK_API_PORT").or (setting? "PORT")) number16? before.portNumber
  requestTimeoutMs :=
    override (setting? "API_REQUEST_TIMEOUT_MS") number64? before.requestTimeoutMs
  enableRequestLogging :=
    override (setting? "API_ENABLE_REQUEST_LOGGING") flag? before.enableRequestLogging
  maxRequestSizeBytes :=
    override (setting? "API_MAX_REQUEST_SIZE_BYTES") number64? before.maxRequestSizeBytes

/-- Settings on other origins with what variables say. -/
def overrideSecurity (setting? : String → Option String) (before : SecuritySettings) :
    SecuritySettings where
  enableCors := override (setting? "SECURITY_ENABLE_CORS") flag? before.enableCors
  corsOrigins := override (setting? "SECURITY_CORS_ORIGINS") (some ∘ origins) before.corsOrigins

/-- The settings that environment variables ask for. -/
def ofVariables (setting? : String → Option String) : Settings :=
  let before := defaults (Environment.ofVariable (setting? "APP_ENV"))
  { before with
    database := overrideDatabase setting? before.database
    api := overrideApi setting? before.api
    security := overrideSecurity setting? before.security }

/-- The service runs for its users. -/
def isProduction (settings : Settings) : Bool :=
  settings.environment == .production

end Settings

end Syllabus
