/-!
The directives that the workers of one queue have loaded and not yet finished. Each
operation is one critical section: no two workers are inside the pool at once.
-/

namespace Settlement.WorkerPool

class Identified (δ : Type) (ι : outParam Type) where
  idOf : δ → ι

export Identified (idOf)

structure Pool (δ ι : Type) where
  queue : List δ
  /-- The ids queued or being processed. -/
  active : List ι
  nextLoadAt : Nat

inductive Order (δ : Type) where
  | work (directive : δ)
  | load
  | rest
  deriving DecidableEq

namespace Pool

variable {δ ι : Type}

def empty : Pool δ ι := ⟨[], [], 0⟩

/-- Queues every directive whose id is not active, so the first one of each id. -/
def enqueue [DecidableEq ι] [Identified δ ι] : List δ → Pool δ ι → Pool δ ι
  | [], pool => pool
  | directive :: rest, pool =>
      if idOf directive ∈ pool.active then enqueue rest pool else
        enqueue rest { pool with
          queue := pool.queue ++ [directive]
          active := idOf directive :: pool.active }

/-- Before a load starts the next one is put off, so no other worker starts one meanwhile. -/
def order (now delay : Nat) (pool : Pool δ ι) : Order δ × Pool δ ι :=
  match pool.queue with
  | directive :: rest => (.work directive, { pool with queue := rest })
  | [] =>
      if now < pool.nextLoadAt then (.rest, pool)
      else (.load, { pool with nextLoadAt := now + delay })

/-- The pool after a load, and the directive for the worker that loaded. A failed load
brings nothing, but the queue may hold what another worker brought. -/
def settle {ε : Type} [DecidableEq ι] [Identified δ ι] (loaded : Except ε (List δ))
    (pool : Pool δ ι) : Option δ × Pool δ ι :=
  let pool := match loaded with
    | .ok directives => pool.enqueue directives
    | .error _ => pool
  match pool.queue with
  | directive :: rest => (some directive, { pool with queue := rest })
  | [] => (none, pool)

def release [DecidableEq ι] (id : ι) (pool : Pool δ ι) : Pool δ ι :=
  { pool with active := pool.active.filter (· ≠ id) }

end Pool

end Settlement.WorkerPool
