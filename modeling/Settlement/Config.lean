import Settlement.Text.Decimal
import Settlement.Text.Quoted
import Settlement.Time.Span
import Settlement.Uuid

/-!
Settings from named variables. A required variable may be empty but not absent; a
numeric one has a default and is refused if it is present and no 64-bit number. The
first faulty variable is reported.
-/

namespace Settlement.Config

inductive Fault where
  | missing (name : String)
  | invalid (name value : String)
  | noUuid (name : String)
  deriving DecidableEq

def Fault.message : Fault → String
  | .missing name => name ++ " must be set"
  | .invalid name value => name ++ " has invalid value " ++ Text.Quoted.text value
  | .noUuid name => name ++ " must be a UUID"

abbrev Environment := List (String × String)

/-- Variables are kept as texts that end in a NUL, and a name ends in an equals sign. -/
def isPossible (environment : Environment) : Bool :=
  environment.all fun (name, value) =>
    !name.isEmpty && !name.toList.any (fun c => c = '=' || c = '\x00') &&
      !value.toList.contains '\x00'

def lookup (environment : Environment) (name : String) : Option String :=
  (environment.find? fun entry => entry.1 = name).map Prod.snd

def required (environment : Environment) (name : String) : Except Fault String :=
  match lookup environment name with
  | some value => .ok value
  | none => .error (.missing name)

def textOr (environment : Environment) (name default : String) : String :=
  (lookup environment name).getD default

def numberOr (environment : Environment) (name : String) (default : Nat) : Except Fault Nat :=
  match lookup environment name with
  | none => .ok default
  | some value =>
    match Text.Decimal.unsigned? value with
    | some number => .ok number
    | none => .error (.invalid name value)

structure Service where
  databaseUrl : String
  bindAddress : String

def Service.load (environment : Environment) : Service where
  databaseUrl := textOr environment "DATABASE_URL" "sqlite://dcc-bridge.db?mode=rwc"
  bindAddress := textOr environment "HTTP_BIND_ADDR" "0.0.0.0:3000"

structure ChainAccess where
  rpcUrl : String
  contract : String
  manager : String
  denom : String
  maxRetries : Nat

def ChainAccess.load (environment : Environment) : Except Fault ChainAccess := do
  let contract ← required environment "CONTRACT_ADDRESS"
  let manager ← required environment "MANAGER_ADDRESS"
  let denom ← required environment "DCC_DENOM"
  let maxRetries ← numberOr environment "CHAIN_RPC_MAX_RETRIES" 3
  return ⟨textOr environment "CHAIN_RPC_URL" "http://localhost:26657", contract, manager, denom,
    maxRetries⟩

structure Stream where
  id : Uuid
  epoch : Nat
  connectDelay : Span
  pollInterval : Span

def Stream.load (environment : Environment) : Except Fault Stream := do
  let text ← required environment "EVENT_STREAM_ID"
  let id ← match Uuid.ofText? text with
    | some id => pure id
    | none => throw (.noUuid "EVENT_STREAM_ID")
  let epoch ← numberOr environment "EVENT_STREAM_EPOCH" 0
  let connectDelay ← numberOr environment "EVENT_STREAM_CONNECT_DELAY_MS" 5000
  let pollInterval ← numberOr environment "EVENT_STREAM_POLL_INTERVAL_MS" 2000
  return ⟨id, epoch, .ofMilliseconds connectDelay, .ofMilliseconds pollInterval⟩

structure Bank where
  url : String
  denom : String
  requestTimeout : Span

def Bank.load (environment : Environment) : Except Fault Bank := do
  let url ← required environment "BANK_URL"
  let denom ← required environment "BANK_DENOM"
  let timeout ← numberOr environment "BANK_REQUEST_TIMEOUT_S" 30
  return ⟨url, denom, .ofSeconds timeout⟩

structure Workers where
  count : Nat
  pollingDelay : Span
  claimTtl : Span

def Workers.load (environment : Environment) : Except Fault Workers := do
  let count ← numberOr environment "NUM_WORKERS" 4
  let pollingDelay ← numberOr environment "POLLING_DELAY_MS" 1000
  let claimTtl ← numberOr environment "CLAIM_TTL_S" 60
  return ⟨count, .ofMilliseconds pollingDelay, .ofSeconds claimTtl⟩

end Settlement.Config
