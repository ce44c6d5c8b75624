import Dispatch.Text.Split

namespace Dispatch

structure Duration where
  nanos : Nat
  deriving DecidableEq, Repr

namespace Duration

def ofSeconds (n : Nat) : Duration := ⟨n * 1000000000⟩

def ofMillis (n : Nat) : Duration := ⟨n * 1000000⟩

def seconds (d : Duration) : Nat := d.nanos / 1000000000

def millis (d : Duration) : Nat := d.nanos / 1000000

def fraction (width n : Nat) : List Char :=
  let ds := Nat.toDigits 10 n
  let s := Text.trimEnd '0' (List.replicate (width - ds.length) '0' ++ ds)
  if s = [] then [] else '.' :: s

/-- In the largest unit that leaves a whole part, with a fraction where there is one. -/
def text (d : Duration) : String :=
  let scaled (unit width : Nat) (name : String) : String :=
    String.ofList (Nat.toDigits 10 (d.nanos / unit) ++ fraction width (d.nanos % unit)) ++ name
  if d.nanos ≥ 1000000000 then scaled 1000000000 9 "s"
  else if d.nanos ≥ 1000000 then scaled 1000000 6 "ms"
  else if d.nanos ≥ 1000 then scaled 1000 3 "µs"
  else scaled 1 0 "ns"

end Duration

inductive SettingsError
  | unset (key : String)
  | empty (setting : String)
  | wrongScheme (setting : String)
  | zero (setting : String)
  | loading (cause : SettingsError)
  deriving DecidableEq, Repr

namespace SettingsError

def message : SettingsError → String
  | .unset key => key ++ " environment variable not set"
  | .empty setting => setting ++ " cannot be empty"
  | .wrongScheme setting => setting ++ " must start with http:// or https://"
  | .zero setting => setting ++ " must be greater than 0"
  | .loading _ => "Failed to load service configuration"

def chain : SettingsError → List String
  | .loading cause => (SettingsError.loading cause).message :: cause.chain
  | e => [e.message]

end SettingsError

structure Settings where
  endpoint : String := "http://localhost:8080"
  storageEndpoint : String := "http://localhost:9000"
  pollInterval : Duration := .ofSeconds 5
  requestTimeout : Duration := .ofSeconds 30
  deriving DecidableEq, Repr

namespace Settings

/-- A number of seconds: digits after an optional plus sign, that fits in 64 bits. -/
def readSeconds? (s : String) : Option Nat :=
  let ds := match s.toList with
    | '+' :: rest => rest
    | cs => cs
  if ds ≠ [] && ds.all Char.isDigit then
    let n := Nat.ofDigitChars 10 ds 0
    if n < UInt64.size then some n else none
  else none

def durationOr (default : Duration) (text : Option String) : Duration :=
  ((text.bind readSeconds?).map Duration.ofSeconds).getD default

def ofLookup (lookup : String → Option String) : Except SettingsError Settings :=
  match lookup "QUARRY_ENDPOINT", lookup "QUARRY_STORAGE_ENDPOINT" with
  | none, _ => .error (.unset "QUARRY_ENDPOINT")
  | some _, none => .error (.unset "QUARRY_STORAGE_ENDPOINT")
  | some endpoint, some storageEndpoint =>
      .ok { endpoint, storageEndpoint
            pollInterval := durationOr (.ofSeconds 5) (lookup "QUARRY_POLL_INTERVAL")
            requestTimeout := durationOr (.ofSeconds 30) (lookup "QUARRY_REQUEST_TIMEOUT") }

def isWebAddress (s : String) : Bool :=
  "http://".toList.isPrefixOf s.toList || "https://".toList.isPrefixOf s.toList

def checkEndpoint (setting url : String) : Except SettingsError Unit :=
  if url = "" then .error (.empty setting)
  else if isWebAddress url then .ok ()
  else .error (.wrongScheme setting)

def checkPositive (setting : String) (d : Duration) : Except SettingsError Unit :=
  if d.nanos = 0 then .error (.zero setting) else .ok ()

/-- The first fault, in the order of the settings. -/
def validate (s : Settings) : Except SettingsError Unit := do
  checkEndpoint "endpoint" s.endpoint
  checkEndpoint "storage_endpoint" s.storageEndpoint
  checkPositive "poll_interval" s.pollInterval
  checkPositive "request_timeout" s.requestTimeout

end Settings

end Dispatch
