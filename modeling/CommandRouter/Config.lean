import CommandRouter.Fault
import CommandRouter.Number.Reading
import CommandRouter.Table
import CommandRouter.Text.LetterCase
import CommandRouter.Value.Operators

/-!
# Configuration

The configuration comes from the environment, a table of texts. Every setting has a default; the
numbers are read from their texts, and a text that is not a number is a fault. A program may also
give the settings one by one, as values; then the token must be among them. Such values are kept as
they are: one of the wrong kind does no harm until the setting is used.

## Main definitions

* `Config` holds the settings, with `Config.validate` for those that must not be as they are.
* `Config.environment` is the environment that values make, if they can stand in it.
* `Config.ofEnvironment` reads settings from an environment, and `Config.ofFields` from values.
* `splitModules` reads a list of module paths.
-/

namespace CommandRouter

/-- The settings of a bot. -/
structure Config where
  /-- The access token. -/
  token : Value
  /-- The address of the database; empty if there is none. -/
  databaseUrl : Value := .text ""
  /-- The TCP port number on which the status server listens. -/
  tcpPort : Value := .int 11186
  /-- The address on which the status server listens. -/
  host : Value := .text "0.0.0.0"
  /-- Whether the status server runs. -/
  keepAlive : Value := .bool true
  /-- The paths of the command modules. -/
  modules : Value := .list []
  /-- How long the settings of a guild are served from memory. -/
  cacheLifetime : Value := .float (.ofInt 300)
  /-- Whether debugging messages are logged. -/
  debug : Value := .bool false

/-- The module paths in a text: what stands between commas, without blanks around it. -/
def splitModules (text : String) : List String :=
  ((splitAt ',' text).map trim).filter fun path => !path.isEmpty

example : splitModules " a, ,b.c,a" = ["a", "b.c", "a"] := by decide +kernel

namespace Config

/-! ### The environment -/

/-- An entry of the environment. Values are texts, the characters by which entries are told apart
must not occur in them, and a name must not be empty. -/
def entry (name : String) (value : Value) : Except Fault (String × String) :=
  match value with
  | .text text =>
    if name.contains '\x00' || text.contains '\x00' then .error .nulCharacter
    else if name.contains '=' then .error .illegalName
    else if name.isEmpty then .error .emptyName
    else .ok (name, text)
  | value => .error (.wrongKind value.kindName "str")

/-- The environment that consists of some entries. -/
def environment (entries : List (String × Value)) : Except Fault (Table String String) :=
  (entries.mapM fun given => entry given.1 given.2).map .ofList

/-- The value of a setting, or its default. -/
def setting (environment : Table String String) (name default : String) : String :=
  (environment.get? name).getD default

/-- The integer in a text. -/
def integer (text : String) : Except Fault Int :=
  match readInt text with
  | .ok n => .ok n
  | .error .malformed => .error (.notInteger text)
  | .error (.tooManyDigits count) => .error (.tooManyDigits count)

/-- Whether a text says yes. -/
def flag (text : String) : Bool :=
  lower text == "true"

/-- The settings in an environment. -/
def ofEnvironment (environment : Table String String) : Except Fault Config := do
  let setting := setting environment
  let tcpPort ← integer (setting "PORT" "11186")
  let lifetime ← Value.readNumber (setting "GUILD_CACHE_TTL" "300")
  return {
    token := .text (setting "DISCORD_TOKEN" "")
    databaseUrl := .text (setting "DATABASE_URL" "")
    tcpPort := .int tcpPort
    host := .text (setting "HOST" "0.0.0.0")
    keepAlive := .bool (flag (setting "KEEP_ALIVE" "true"))
    modules := .list ((splitModules (setting "COMMAND_MODULES" "")).map .text)
    cacheLifetime := .float lifetime
    debug := .bool (flag (setting "DEBUG" "false")) }

/-! ### Settings given one by one -/

/-- The names of the settings. -/
def settingNames : List String := [
  "DISCORD_TOKEN", "DATABASE_URL", "PORT", "HOST", "KEEP_ALIVE", "COMMAND_MODULES",
  "GUILD_CACHE_TTL", "DEBUG"]

/-- The settings with one of them replaced, if there is one of that name. -/
def withSetting (config : Config) (name : String) (value : Value) : Except Fault Config :=
  match name with
  | "DISCORD_TOKEN" => .ok { config with token := value }
  | "DATABASE_URL" => .ok { config with databaseUrl := value }
  | "PORT" => .ok { config with tcpPort := value }
  | "HOST" => .ok { config with host := value }
  | "KEEP_ALIVE" => .ok { config with keepAlive := value }
  | "COMMAND_MODULES" => .ok { config with modules := value }
  | "GUILD_CACHE_TTL" => .ok { config with cacheLifetime := value }
  | "DEBUG" => .ok { config with debug := value }
  | _ => .error (.unknownSetting name)

/-- The settings in a table of values. A setting that does not exist is noticed before one that is
missing. -/
def ofFields (fields : Table String Value) : Except Fault Config := do
  let config ← fields.toList.foldlM (fun config field => config.withSetting field.1 field.2)
    { token := .null }
  if fields.contains "DISCORD_TOKEN" then return config
  else throw (.missingSetting "DISCORD_TOKEN")

/-- Whether the settings can be used: there must be a token, and the lifetime must not be less
than zero. -/
def validate (config : Config) : Except Fault Unit := do
  if !config.token.truthy then throw .missingToken
  if ← Value.compare .less config.cacheLifetime (.int 0) then throw .negativeLifetime

end Config

end CommandRouter
