import BlocksGenesis.Python.Hostname
import BlocksGenesis.Python.Query

/-! How a connection string of the cache becomes a URL, and what redis-py reads of it. -/

namespace BlocksGenesis.Cache
open Python Python.Url

/-- A setting of the client; `quotient` is a float, the one number divided by the other. -/
inductive Setting where
  | text (s : String)
  | number (n : Int)
  | truth (b : Bool)
  | real (x : PyFloat)
  | quotient (n : Int) (d : Nat)
deriving DecidableEq, Repr

abbrev Config := Dict String Setting

def Setting.truthy : Setting → Bool
  | .text s => !s.isEmpty
  | .number n => n != 0
  | .truth b => b
  | .real x => !x.zero
  | .quotient n _ => n != 0

/-- What `int(s)` raises. -/
def intError (s : String) : Exc :=
  let digits := (s.toList.filter Char.isDigit).length
  .valueError (
    if maxStrDigits < digits then
      "Exceeds the limit (4300 digits) for integer string conversion: value has " ++ Nat.repr digits ++
        " digits; use sys.set_int_max_str_digits() to increase the limit"
    else "invalid literal for int() with base 10: '" ++ s ++ "'")

/-- `int(setting)`. -/
def Setting.toInt : Setting → Except Exc Int
  | .text s =>
    match Python.toInt s with
    | some n => .ok n
    | none => .error (intError s)
  | .number n => .ok n
  | .truth b => .ok (if b then 1 else 0)
  | .real x =>
    match x.whole with
    | some n => .ok n
    | none => .error (if x.repr == "nan" then .valueError "cannot convert float NaN to integer" else .overflow)
  -- Not reached: what has been divided is under another name.
  | .quotient n d => .ok (n.tdiv d)

/-- No float is near a number as large as this: it is halfway from the largest float to the next power of two. -/
@[irreducible] def floatBound : Nat := Nat.pow 2 1024 - Nat.pow 2 970

/-- `int(setting) / 1000`. -/
def Setting.seconds (setting : Setting) : Except Exc Setting := do
  let milliseconds ← setting.toInt
  if milliseconds.natAbs < floatBound * 1000 then .ok (.quotient milliseconds 1000) else .error .overflow

/-- redis-py, and the parsers it has for some options. The options read here it leaves as they are. Of `str.lower`
it matters that something is left of a text. -/
structure RedisPy where
  library : Library
  lowers : ∀ s, s ≠ "" → library.lower s ≠ ""
  parsers : String → Option (String → Except Exc Setting)
  unknown : ∀ name ∈ ["port", "password", "username", "user", "ssl", "connectTimeout", "syncTimeout"],
    parsers name = none

/-! ## `parse_url` -/

/-- The user name and the password before the host, if there are any. -/
def userinfo (netloc : List Char) : List Char × List Char :=
  if netloc.contains '@' then
    let info := (netloc.rdropWhile (· != '@')).dropLast
    (info.takeWhile (· != ':'), (info.dropWhile (· != ':')).drop 1)
  else ([], [])

def portChars (netloc : List Char) : List Char :=
  let info := hostinfo netloc
  let rest := if info.contains '[' then info.dropWhile (· != ']') else info
  (rest.dropWhile (· != ':')).drop 1

/-- `url.port`, where none given reads the same as 0. -/
def portNumber (netloc : List Char) : Except Exc Nat :=
  let port := portChars netloc
  if port.isEmpty then .ok 0
  else match decimal port with
    | none => .error (.valueError ("Port could not be cast to integer value as '" ++ String.ofList port ++ "'"))
    | some n =>
      if maxStrDigits < port.length then .error (intError (String.ofList port))
      else if n ≤ 65535 then .ok n
      else .error (.valueError "Port out of range 0-65535")

def RedisPy.queryArgument (redis : RedisPy) (name : String) (values : List String) : Except Exc Setting :=
  let value := unquote (values.headD "")
  match redis.parsers name with
  | none => .ok (.text value)
  | some parser =>
    match parser value with
    | .ok setting => .ok setting
    | .error _ => .error (.valueError ("Invalid value for '" ++ name ++ "' in connection URL."))

def Config.setGiven (config : Config) (name : String) (value : List Char) : Config :=
  if value.isEmpty then config else config.set name (.text (String.ofList (unquoteChars value)))

/-- The path names a database unless the query does. -/
def Config.setDb (config : Config) (path : List Char) : Config :=
  if path.isEmpty || (config.lookup "db").isSome then config
  else match Python.toInt (String.ofList ((unquoteChars path).filter (· != '/'))) with
    | some n => config.set "db" (.number n)
    | none => config

/-- What `parse_url` makes of the parts of a URL of the scheme `redis`. -/
def RedisPy.settings (redis : RedisPy) (netloc path query : List Char) : Except Exc Config := do
  let config ← (parseQs query).mapM (fun entry => do return (entry.1, ← redis.queryArgument entry.1 entry.2))
  let (username, password) := userinfo netloc
  let config := (Config.setGiven config "username" username).setGiven "password" password
  let config := config.setGiven "host" (lowerHost redis.library.lower (hostChars netloc)).toList
  let port ← portNumber netloc
  let config : Config := if port = 0 then config else config.set "port" (.number port)
  return config.setDb path

def RedisPy.parseUrl (redis : RedisPy) (url : String) : Except Exc Config := do
  let parts ← urlsplit redis.library url
  let target := pathAndQuery (splitScheme (cleaned url.toList)).2
  redis.settings parts.netloc target.1 target.2

/-! ## `_parse_connection_string` -/

def allowedKeys : List String :=
  ["host", "port", "username", "password", "db", "ssl", "socket_connect_timeout", "socket_timeout",
    "encoding", "encoding_errors", "decode_responses", "retry_on_timeout", "max_connections"]

/-- The text after `user=`, from the first part that starts with it. -/
def userPart (connectionString : String) : Option String :=
  ((split ',' connectionString).map strip).findSome? (fun part =>
    if startsWith part "user=" then some (after '=' part) else none)

def Config.withUser (config : Config) (connectionString : String) : Config :=
  if (config.lookup "username").any Setting.truthy then config
  else match userPart connectionString with
    | some user => config.set "username" (.text user)
    | none => config

/-- Milliseconds under the one name become seconds under the other. -/
def Config.withTimeout (config : Config) (name target : String) : Except Exc Config :=
  match config.lookup name with
  | none => .ok config
  | some setting => do return (config.pop name).set target (← setting.seconds)

def connectionUrl (connectionString : String) : String :=
  let query := replaceChar ',' "&" (after ',' connectionString)
  "redis://" ++ before ',' connectionString ++ if query.isEmpty then "" else "/?" ++ query

def parseConnectionString (redis : RedisPy) (connectionString : String) : Except Exc Config := do
  let config ← redis.parseUrl (connectionUrl connectionString)
  let config ← (config.withUser connectionString).withTimeout "connectTimeout" "socket_connect_timeout"
  let config ← config.withTimeout "syncTimeout" "socket_timeout"
  return config.filter (fun entry => allowedKeys.contains entry.1)

end BlocksGenesis.Cache
