import RideQuestions.Config.Form
import RideQuestions.Query.Conventions

/-! The forms of the service's configuration: the database, the ride domain, the compiler, the
HTTP server and the log, each with the values that it is read into.
-/

namespace RideQuestions.Config

open Number RideQuestions.Query

private def textField (name default : String) : Field :=
  .mk name .text (some (.text default))

private def boolField (name : String) (default : Bool) : Field :=
  .mk name .bool (some (.bool default))

private def intField (name : String) (default low high : Int) : Field :=
  .mk name (.int (some (low, high))) (some (.int default))

private def textsField (name : String) (default : List String) : Field :=
  .mk name .texts (some (.list (default.map .text)))

/-- The connection to the store. -/
def databaseForm : Form :=
  {
    name := "DatabaseConfig",
    trims := true,
    assignment := .checked,
    fields :=
      [
        .mk "host" .text none,
        intField "port" 5432 1 65535,
        .mk "database" .text none,
        textField "schema_name" "public",
        textField "sslmode" "prefer",
        .mk "username" .text none,
        .mk "password" .secret none,
        intField "max_connections" 20 1 100,
        intField "idle_timeout_seconds" 30 1 3600,
        intField "connect_timeout_seconds" 2 1 300
      ]
  }

structure DatabaseConfig where
  host : String
  port : Int := 5432
  database : String
  schemaName : String := "public"
  sslMode : String := "prefer"
  username : String
  password : String
  maxConnections : Int := 20
  idleTimeout : Int := 30
  connectTimeout : Int := 2

def DatabaseConfig.ofRecord (r : Record) : DatabaseConfig :=
  {
    host := r.text "host" "",
    port := r.int "port" 5432,
    database := r.text "database" "",
    schemaName := r.text "schema_name" "public",
    sslMode := r.text "sslmode" "prefer",
    username := r.text "username" "",
    password := r.text "password" "",
    maxConnections := r.int "max_connections" 20,
    idleTimeout := r.int "idle_timeout_seconds" 30,
    connectTimeout := r.int "connect_timeout_seconds" 2
  }

/-- How the pool of connections is set up. -/
structure PoolOptions where
  size : Int
  overflow : Int
  timeout : Int
  recycle : Int
  prePing : Bool
  connectTimeout : Int
  sslMode : String
  applicationName : String

def DatabaseConfig.poolOptions (c : DatabaseConfig) : PoolOptions :=
  {
    size := c.maxConnections,
    overflow := 0,
    timeout := c.connectTimeout,
    recycle := c.idleTimeout,
    prePing := true,
    connectTimeout := c.connectTimeout,
    sslMode := c.sslMode,
    applicationName := "ride-query-service"
  }

/-- The dialect of the store and the driver that speaks it. -/
def dialect : String := "postgresql"
def driverName : String := "psycopg2"

/-- The names of the ride domain, with the values that hold unless others are given. -/
def conventionsFields : List Field :=
  [
    textField "fact_table" "trips",
    textField "fact_start_column" "started_at",
    textField "fact_end_column" "ended_at",
    textField "fact_station_key" "start_station_id",
    textField "fact_gender_column" "rider_gender",
    textField "station_table" "stations",
    textField "station_key" "station_id",
    textField "station_name_column" "station_name",
    textField "weather_table" "daily_weather",
    textField "weather_date_column" "weather_date",
    textField "precipitation_column" "precipitation_mm",
    textField "location_pattern" "%Congress Avenue%"
  ]

def conventionsForm : Form :=
  { name := "DomainConventions", fields := conventionsFields, assignment := .frozen }

def conventionsOfRecord (r : Record) : Conventions :=
  let d : Conventions := {}
  {
    factTable := r.text "fact_table" d.factTable,
    factStartColumn := r.text "fact_start_column" d.factStartColumn,
    factEndColumn := r.text "fact_end_column" d.factEndColumn,
    factStationKey := r.text "fact_station_key" d.factStationKey,
    factGenderColumn := r.text "fact_gender_column" d.factGenderColumn,
    stationTable := r.text "station_table" d.stationTable,
    stationKey := r.text "station_key" d.stationKey,
    stationNameColumn := r.text "station_name_column" d.stationNameColumn,
    weatherTable := r.text "weather_table" d.weatherTable,
    weatherDateColumn := r.text "weather_date_column" d.weatherDateColumn,
    precipitationColumn := r.text "precipitation_column" d.precipitationColumn,
    locationPattern := r.text "location_pattern" d.locationPattern
  }

def compilerFields : List Field :=
  [
    .mk "min_similarity" (.float (Binary64.zeroOf false) (Binary64.ofInt 1))
      (some (.float Matching.defaultMinScore)),
    intField "reference_year" 2025 1900 2100,
    intField "match_cache_size" 1024 1 1000000,
    .mk "conventions" (.nested conventionsFields) (some (.map conventionsForm.defaults))
  ]

def compilerForm : Form :=
  { name := "CompilerConfig", fields := compilerFields }

def compilerOfRecord (r : Record) : CompilerConfig :=
  let d : CompilerConfig := {}
  {
    minSimilarity := r.float "min_similarity" d.minSimilarity,
    referenceYear := r.int "reference_year" d.referenceYear,
    cacheCapacity := (Capacity.ofInt? (r.int "match_cache_size" 1024)).getD d.cacheCapacity,
    conventions := ((r.nested? "conventions").map conventionsOfRecord).getD d.conventions
  }

def serverFields : List Field :=
  [
    textField "host" "0.0.0.0",
    intField "port" 3000 1 65535,
    textsField "cors_origins" ["*"]
  ]

def serverForm : Form :=
  { name := "ServerConfig", fields := serverFields }

structure ServerConfig where
  host : String := "0.0.0.0"
  port : Int := 3000
  corsOrigins : List String := ["*"]

def ServerConfig.ofRecord (r : Record) : ServerConfig :=
  {
    host := r.text "host" "0.0.0.0",
    port := r.int "port" 3000,
    corsOrigins := r.texts "cors_origins"
  }

def noisyLoggers : List String :=
  ["sqlalchemy.engine", "sqlalchemy.pool", "uvicorn.access", "urllib3.connectionpool"]

def logFormat : String :=
  "%(asctime)s - %(name)s - %(levelname)s - [%(request_id)s] %(message)s"

def dateFormat : String := "%Y-%m-%d %H:%M:%S"

def loggingFields : List Field :=
  [
    textField "level" "INFO",
    textField "format" logFormat,
    textField "date_format" dateFormat,
    boolField "enable_file_logging" true,
    textField "log_file_path" "logs/query_service.log",
    intField "max_file_size_mb" 20 1 1000,
    intField "backup_count" 5 1 50,
    boolField "enable_console_logging" true,
    textField "console_level" "INFO",
    boolField "enable_json_logging" false,
    .mk "component_levels" .textMap (some (.map [])),
    boolField "suppress_noisy_loggers" true,
    textsField "noisy_loggers" noisyLoggers
  ]

def loggingForm : Form :=
  { name := "LoggingConfig", fields := loggingFields }

structure LoggingConfig where
  level : String := "INFO"
  format : String := logFormat
  dateFormat : String := Config.dateFormat
  toFile : Bool := true
  filePath : String := "logs/query_service.log"
  fileMegabytes : Int := 20
  backupCount : Int := 5
  toConsole : Bool := true
  consoleLevel : String := "INFO"
  json : Bool := false
  componentLevels : List (String × String) := []
  suppressNoisy : Bool := true
  noisy : List String := noisyLoggers

def LoggingConfig.ofRecord (r : Record) : LoggingConfig :=
  {
    level := r.text "level" "INFO",
    format := r.text "format" logFormat,
    dateFormat := r.text "date_format" Config.dateFormat,
    toFile := r.bool "enable_file_logging" true,
    filePath := r.text "log_file_path" "logs/query_service.log",
    fileMegabytes := r.int "max_file_size_mb" 20,
    backupCount := r.int "backup_count" 5,
    toConsole := r.bool "enable_console_logging" true,
    consoleLevel := r.text "console_level" "INFO",
    json := r.bool "enable_json_logging" false,
    componentLevels := r.textMap "component_levels",
    suppressNoisy := r.bool "suppress_noisy_loggers" true,
    noisy := r.texts "noisy_loggers"
  }

/-- The forms by name. -/
def forms : List Form :=
  [databaseForm, conventionsForm, compilerForm, serverForm, loggingForm]

end RideQuestions.Config
