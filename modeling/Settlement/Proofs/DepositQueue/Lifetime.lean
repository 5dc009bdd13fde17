import Settlement.Config
import Settlement.Proofs.DepositQueue.Leases

/-!
How long a claim lasts. Its lifetime is configured in seconds, and the milliseconds of it are cut
to 64 bits before they are added to the clock. It lasts as long as configured exactly if neither
the milliseconds nor the sum leaves the signed range, and no other call can take it away before.
-/

namespace Settlement

namespace Store

def Statement.Spares (id : Uuid) (limit : Int) : Statement → Prop
  | .claim other now _ => other = id → now ≤ limit
  | .release other | .advance other _ _ _ => other ≠ id
  | _ => True

def after (store : Store) (statements : List Statement) : Store :=
  statements.foldl (fun store statement => (statement.run store).2) store

/-- The claim stands up to its end, and nobody else gets one before, whatever is done meanwhile. -/
def Withheld (store : Store) (id : Uuid) (limit : Int) : Prop :=
  store.Held id limit ∧ ∀ statements : List Statement,
    (∀ statement ∈ statements, statement.Spares id limit) → ∀ now ≤ limit, ∀ ending,
      ((Statement.claim id now ending).run (store.after statements)).1 = .ok none

section Standing

variable {store : Store} {id : Uuid} {limit : Int}

theorem Held.spared {statement : Statement} (held : store.Held id limit)
    (spares : statement.Spares id limit) : Held (statement.run store).2 id limit := by
  have elsewhere : ∀ {other : Uuid} {row : DepositRow}, other ≠ id → row.id = id.text →
      row.id ≠ other.text := by
    intro other row foreign same equal
    exact foreign (Uuid.text_injective (equal.symm.trans same))
  refine held.run fun row same claimed => ?_
  cases statement with
  | claim other now ending =>
      have refused : row.isClaimable other now = false := by
        by_cases own : other = id
        · exact not_claimable claimed (spares own)
        · simp [DepositRow.isClaimable, elsewhere own same]
      simp [Statement.revise, refused]
  | release other => simp only [Statement.revise, elsewhere spares same, if_false]
  | advance other source target now =>
      have passed : row.isAt other source = false := by
        simp [DepositRow.isAt, elsewhere spares same]
      simp [Statement.revise, passed]
  | _ => rfl

theorem Held.after {statements : List Statement} (held : store.Held id limit)
    (keyed : store.Keyed) (spare : ∀ statement ∈ statements, statement.Spares id limit) :
    (store.after statements).Held id limit ∧ (store.after statements).Keyed := by
  induction statements generalizing store with
  | nil => exact ⟨held, keyed⟩
  | cons statement rest ih =>
      obtain ⟨spares, spare⟩ := List.forall_mem_cons.mp spare
      exact ih (held.spared spares) (keyed_run statement keyed) spare

theorem Held.withheld (held : store.Held id limit) (keyed : store.Keyed) :
    store.Withheld id limit := by
  refine ⟨held, fun statements spare now stands ending => ?_⟩
  obtain ⟨held, keyed⟩ := held.after keyed spare
  exact claim_refused keyed held stands

end Standing

end Store

theorem Text.Decimal.unsigned?_le {text : String} {number : Nat}
    (read : unsigned? text = some number) : number ≤ maxUnsigned := by
  have limited : ∀ digits : List Char,
      (digits? digits >>= atMost maxUnsigned) = some number → number ≤ maxUnsigned := by
    intro digits read
    obtain ⟨value, _, within⟩ := Option.bind_eq_some_iff.mp read
    unfold atMost at within
    split at within <;> cases within
    assumption
  unfold unsigned? naturalUpTo? at read
  split at read <;> exact limited _ read

namespace Config

theorem numberOr_le {environment : Environment} {name : String} {default number : Nat}
    (small : default ≤ Text.Decimal.maxUnsigned)
    (read : numberOr environment name default = .ok number) :
    number ≤ Text.Decimal.maxUnsigned := by
  unfold numberOr at read
  split at read
  · cases read
    exact small
  · split at read
    · rename_i parsed
      cases read
      exact Text.Decimal.unsigned?_le parsed
    · cases read

theorem Workers.claimTtl_seconds {environment : Environment} {workers : Workers}
    (loaded : Workers.load environment = .ok workers) :
    ∃ seconds ≤ Text.Decimal.maxUnsigned, workers.claimTtl = .ofSeconds seconds := by
  obtain ⟨_, _, loaded⟩ := Store.bind_ok.mp loaded
  obtain ⟨_, _, loaded⟩ := Store.bind_ok.mp loaded
  obtain ⟨seconds, read, loaded⟩ := Store.bind_ok.mp loaded
  cases loaded
  exact ⟨seconds, numberOr_le (by decide) read, rfl⟩

end Config

namespace DepositQueue

def afterClock (ttl : Span) (id : Uuid) (now : Int) : Activity Failure Bool :=
  match process ttl id with
  | .ask .clock next => next now
  | rest => rest

/-- The first thing that it asks of the tables is a claim up to the given end. -/
def AsksUntil (ttl : Span) (id : Uuid) (now limit : Int) : Prop :=
  ∃ next, afterClock ttl id now = .ask (.storage (.claim id now limit)) next

section Lifetime

variable {ttl : Span} {id : Uuid} {now limit : Int} {seconds : Nat}

theorem afterClock_eq : afterClock ttl id now = (claimEnd? now ttl).elim (.fail .claimRange)
    fun limit => storage (.claim id now limit) >>= proceed id := by
  rw [afterClock, process_asks]

theorem asksUntil_iff : AsksUntil ttl id now limit ↔ claimEnd? now ttl = some limit := by
  rw [AsksUntil, afterClock_eq]
  cases claimEnd? now ttl with
  | none => simp [Activity.fail]
  | some other =>
      constructor
      · rintro ⟨next, same⟩
        cases same
        rfl
      · rintro ⟨⟩
        exact ⟨_, rfl⟩

theorem milliseconds_ofSeconds (seconds : Nat) :
    (Span.ofSeconds seconds).milliseconds = 1000 * seconds := by
  simp only [Span.milliseconds, Span.ofSeconds]
  omega

/-- Within the signed range the milliseconds are kept, beyond it at least 2^64 are cut off. -/
theorem clockMilliseconds_ofSeconds (seconds : Nat) :
    (1000 * seconds < 0x8000_0000_0000_0000 →
      clockMilliseconds (.ofSeconds seconds) = 1000 * seconds) ∧
    (0x8000_0000_0000_0000 ≤ 1000 * seconds →
      clockMilliseconds (.ofSeconds seconds) + 0x1_0000_0000_0000_0000 ≤ 1000 * seconds) := by
  unfold clockMilliseconds
  rw [milliseconds_ofSeconds]
  unfold Int.bmod
  dsimp only
  constructor <;> intro range <;> split <;> omega

theorem claimEnd?_fits (shown : -0x8000_0000_0000_0000 ≤ now)
    (kept : 1000 * seconds < 0x8000_0000_0000_0000)
    (fits : now + 1000 * seconds < 0x8000_0000_0000_0000) :
    claimEnd? now (.ofSeconds seconds) = some (now + 1000 * seconds) := by
  simp only [claimEnd?, (clockMilliseconds_ofSeconds seconds).1 kept]
  exact if_pos ⟨by omega, fits⟩

theorem claimEnd?_misfits
    (misfits : ¬ (1000 * seconds < 0x8000_0000_0000_0000 ∧
      now + 1000 * seconds < 0x8000_0000_0000_0000))
    (ends : claimEnd? now (.ofSeconds seconds) = some limit) :
    limit + 0x1_0000_0000_0000_0000 ≤ now + 1000 * seconds := by
  obtain ⟨kept, cut⟩ := clockMilliseconds_ofSeconds seconds
  simp only [claimEnd?] at ends
  split at ends
  · cases ends
    rename_i within
    by_cases small : 1000 * seconds < 0x8000_0000_0000_0000
    · rw [kept small] at within
      exact absurd ⟨small, within.2⟩ misfits
    · have beyond := cut (by omega)
      omega
  · cases ends

/-- Any lifetime that the configuration takes, and any time that the clock shows: the claim that
an attempt asks for ends exactly that much later, and nobody gets another one before, if and only
if neither the milliseconds nor the end leaves the signed 64-bit range. Otherwise the attempt gives
up at once, or its claim ends at least 2^64 milliseconds too early and is anybody's after that. -/
theorem claim_lasts_iff_it_fits {environment : Config.Environment} {workers : Config.Workers}
    {store : Store} {row : Store.DepositRow}
    (loaded : Config.Workers.load environment = .ok workers)
    (shown : -0x8000_0000_0000_0000 ≤ now) (keyed : store.Keyed)
    (found : store.deposit? id = some row) (claimable : row.isClaimable id now = true) :
    ∃ seconds ≤ Text.Decimal.maxUnsigned, workers.claimTtl = .ofSeconds seconds ∧
      let configured := now + 1000 * seconds
      let fits := 1000 * seconds < 0x8000_0000_0000_0000 ∧ configured < 0x8000_0000_0000_0000
      let claimed (limit : Int) := ((Store.Statement.claim id now limit).run store).2
      ((∃ limit, AsksUntil workers.claimTtl id now limit ∧
        (claimed limit).Withheld id configured) ↔ fits) ∧
      (¬ fits → afterClock workers.claimTtl id now = .fail .claimRange ∨
        ∃ limit, AsksUntil workers.claimTtl id now limit ∧
          limit + 0x1_0000_0000_0000_0000 ≤ configured ∧
          ∀ later > limit, ∀ ending,
            ((Store.Statement.claim id later ending).run (claimed limit)).1 ≠ .ok none) := by
  obtain ⟨seconds, accepted, ttl⟩ := Config.Workers.claimTtl_seconds loaded
  have holds : ∀ limit, ((Store.Statement.claim id now limit).run store).2.Held id limit :=
    fun _ => Store.held_claim found claimable
  refine ⟨seconds, accepted, ttl, ?_⟩
  rw [ttl]
  intro configured fits claimed
  constructor
  · constructor
    · rintro ⟨limit, asks, ⟨row, same, _, stands⟩, _⟩
      obtain ⟨other, here, _, ends⟩ := holds limit
      cases Option.some.inj (here.symm.trans same)
      have exact : limit = configured := by
        simpa using ends.symm.trans stands
      -- A claim that stands up to the configured end was asked for up to it, and a cut one ends
      -- early.
      refine Decidable.byContradiction fun misfits => ?_
      have early := claimEnd?_misfits misfits (asksUntil_iff.mp asks)
      omega
    · rintro ⟨kept, fits⟩
      exact ⟨configured, asksUntil_iff.mpr (claimEnd?_fits shown kept fits),
        (holds configured).withheld (Store.keyed_run _ keyed)⟩
  · intro misfits
    cases ends : claimEnd? now (.ofSeconds seconds) with
    | none => exact .inl (by rw [afterClock_eq, ends]; rfl)
    | some limit =>
        refine .inr ⟨limit, asksUntil_iff.mpr ends, claimEnd?_misfits misfits ends, ?_⟩
        intro later past ending
        obtain ⟨row, held, waiting, stands⟩ := holds limit
        refine Store.claim_not_refused held ?_
        simp [Store.DepositRow.isClaimable, Store.DepositRow.isPending, Store.deposit?_id held,
          waiting, stands, Store.Cell.isBelow, past]

/-- A lifetime of more than 584 million years ends before it begins. -/
theorem longest_lifetimes_are_negative : ∃ workers,
    Config.Workers.load [("CLAIM_TTL_S", "18446744073709551")] = .ok workers ∧
    AsksUntil workers.claimTtl zeroStamp.id 0 (-616) ∧
    ∀ ending, ((Store.Statement.claim zeroStamp.id 0 ending).run
      ((Store.Statement.claim zeroStamp.id 0 (-616)).run oneWaits.store).2).1 ≠ .ok none := by
  have parsed : Text.Decimal.unsigned? "18446744073709551" = some 18446744073709551 := by
    decide +kernel
  have loaded : Config.Workers.load [("CLAIM_TTL_S", "18446744073709551")] = .ok ⟨4,
      .ofMilliseconds 1000, .ofSeconds 18446744073709551⟩ := by
    simp [Config.Workers.load, Config.numberOr, Config.lookup, parsed]
    rfl
  have found : oneWaits.store.deposit? zeroStamp.id = some oneDeposit.row := by
    simp [Store.deposit?, oneWaits, oneDeposit, Store.Deposit.row]
  have claimable : oneDeposit.row.isClaimable zeroStamp.id 0 = true := by
    simp [Store.DepositRow.isClaimable, Store.DepositRow.isPending, oneDeposit, Store.Deposit.row]
  have ends : claimEnd? 0 (.ofSeconds 18446744073709551) = some (-616) := by decide +kernel
  obtain ⟨seconds, _, ttl, _, otherwise⟩ :=
    claim_lasts_iff_it_fits loaded (by decide) oneWaits_idle.keyed found claimable
  have same : seconds = 18446744073709551 := by
    have nanoseconds := congrArg Span.nanoseconds ttl
    simp only [Span.ofSeconds] at nanoseconds
    omega
  rcases otherwise (by omega) with refused | ⟨limit, asks, _, free⟩
  · rw [afterClock_eq, ends] at refused
    cases refused
  · obtain rfl : -616 = limit := Option.some.inj (ends.symm.trans (asksUntil_iff.mp asks))
    exact ⟨_, loaded, asks, free 0 (by decide)⟩

end Lifetime

end DepositQueue

end Settlement
