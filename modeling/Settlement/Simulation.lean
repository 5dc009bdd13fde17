import Settlement.Activity

/-!
A world to run activities in: the tables, a chain and a bank that answer from scripts,
and a clock that ticks with every look at it. While a scripted answer is under way,
another party may write to the tables. Every question to the chain, the stream and the
bank is kept in a list.
-/

namespace Settlement.Simulation

inductive Side where
  | setTracked (status : String)
  | dropTracked
  | addMigration (codeId : String)
  | addDeposit (deposit : Store.DepositRow)
  | setDeposit (status : String)
  deriving DecidableEq

structure ScriptedTx where
  reply : Except Chain.Failure (Option Chain.TxResponse)
  sides : List Side

structure ScriptedVerdict where
  reply : Except Bank.Failure Unit
  sides : List Side

inductive Call where
  | transaction (txHash : String)
  | block (height : Nat)
  | openStream (height : Nat) (types : List String)
  | bank (txHash : String) (account : Uuid) (amount : String)
  deriving DecidableEq

structure World where
  store : Store
  isOpen : Bool
  /-- Later entries for a hash or a height take the place of earlier ones. -/
  transactions : List (String × ScriptedTx)
  times : List (Nat × Except Chain.Failure Timestamp)
  verdicts : List ScriptedVerdict
  streams : List (List (Except Chain.Failure Chain.Batch))
  calls : List Call
  ticks : Nat

def usualTime : Timestamp := ⟨⟨2022, 3, 4, 5, 6, 7, 0⟩, by decide⟩

def firstYear : Int := 2026

def startMilliseconds : Int := 1767225600000

def World.new : World := ⟨.empty, true, [], [], [], [], [], 0⟩

/-- A run ends early where an opened stream stays silent. -/
abbrev Scripted := ExceptT Unit (StateM World)

def freshId (n : Nat) : Uuid :=
  let digits := (List.range 32).map fun place => Uuid.digit (n / Nat.pow 16 (31 - place))
  (Uuid.ofDigits? digits).getD .zero

def timeAt (nanoseconds : Nat) : Timestamp :=
  let seconds := nanoseconds / 1_000_000_000
  (Timestamp.ofMoment? ⟨firstYear, 1, 1, seconds / 3600 % 24, seconds / 60 % 60, seconds % 60,
    nanoseconds % 1_000_000_000⟩).getD usualTime

def tick : StateM World Nat := do
  let world ← get
  set { world with ticks := world.ticks + 1 }
  return world.ticks

def note (call : Call) : StateM World Unit :=
  modify fun world => { world with calls := call :: world.calls }

def Side.apply (txHash : String) (fresh : Uuid) (store : Store) : Side → Store
  | .setTracked status =>
      { store with tracked := store.tracked.map fun row =>
          if row.txHash = txHash then { row with status } else row }
  | .dropTracked => { store with tracked := store.tracked.filter fun row => row.txHash ≠ txHash }
  | .addMigration codeId =>
      let row : Store.MigrationRow := ⟨fresh.text, codeId, txHash, none, usualTime.stored⟩
      { store with migrations := (Store.addMigration store.migrations row).getD store.migrations }
  | .addDeposit deposit =>
      let row := { deposit with id := fresh.text, txHash }
      { store with deposits := (Store.addDeposit store.deposits row).getD store.deposits }
  | .setDeposit status =>
      { store with deposits := store.deposits.map fun row =>
          if row.txHash = txHash then { row with status } else row }

def interfere (txHash : String) (sides : List Side) : StateM World Unit :=
  sides.forM fun side => do
    let n ← tick
    modify fun world => { world with store := side.apply txHash (freshId n) world.store }

def askStorage (statement : Store.Statement) : StateM World (Except Store.Fault statement.Reply) := do
  let world ← get
  if world.isOpen then
    let (reply, store) := statement.run world.store
    set { world with store }
    return reply
  else return .error .unavailable

def lookup {κ α : Type} [DecidableEq κ] (key : κ) (entries : List (κ × α)) : Option α :=
  (entries.find? fun entry => entry.1 = key).map Prod.snd

def askTransaction (txHash : String) : StateM World (Except Chain.Failure (Option Chain.TxResponse)) := do
  note (.transaction txHash)
  match lookup txHash (← get).transactions with
  | none => return .ok none
  | some scripted => do
    interfere txHash scripted.sides
    return scripted.reply

def askBlock (height : Nat) : StateM World (Except Chain.Failure Chain.BlockHeader) := do
  note (.block height)
  match lookup height (← get).times with
  | none => return .ok ⟨height, usualTime⟩
  | some (.ok time) => return .ok ⟨height, time⟩
  | some (.error failure) => return .error failure

def txHashOf (id : Uuid) (store : Store) : String :=
  ((store.deposits.find? fun row => row.id = id.text).map Store.DepositRow.txHash).getD ""

def askBank (request : Bank.Request) : StateM World (Except Bank.Failure Unit) := do
  let world ← get
  let txHash := txHashOf request.id world.store
  note (.bank txHash request.account request.amount)
  match world.verdicts with
  | [] => return .ok ()
  | verdict :: rest => do
    modify fun world => { world with verdicts := rest }
    interfere txHash verdict.sides
    return verdict.reply

def askStream (types : List String) (height : Nat) :
    Scripted (List (Except Chain.Failure Chain.Batch)) := do
  note (.openStream height types)
  match (← get).streams with
  | [] => throw ()
  | items :: rest => do
    modify fun world => { world with streams := rest }
    return items

def answer : (request : Request) → Scripted request.Reply
  | .storage statement => askStorage statement
  | .transaction txHash => askTransaction txHash
  | .block height => askBlock height
  | .notifyBank request => askBank request
  | .openStream types height => askStream types height
  | .stamp => do
      let n ← tick
      return ⟨freshId n, timeAt (n * 1000000)⟩
  | .times => do
      let n ← tick
      return fun index => timeAt (n * 1000000 + index)
  | .clock => do
      let n ← tick
      return startMilliseconds + n

def run {ε α : Type} (activity : Activity ε α) (world : World) : Option (Except ε α) × World :=
  let (ending, world) := (activity.run answer).run.run world
  (ending.toOption, world)

end Settlement.Simulation
