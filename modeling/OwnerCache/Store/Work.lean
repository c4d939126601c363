/-
# OwnerCache.Store.Work -- units of work as data

A unit of work asks a store one request after the other and ends with a result
or with an error.  It sees the reply to each request, also when that is an
error, so it may go on regardless; `request` is the request that does not.

`run` performs a unit of work against any way `perform` of answering requests
from a state.  What becomes of the state when the unit ends with an error is not
decided here but by each store.
-/
import OwnerCache.Store.Entity
import OwnerCache.Store.Error

namespace OwnerCache

set_option autoImplicit false

inductive Request where
  /-- the range of a block, which is created if there is none -/
  | createRange (block : Block) (createdAt : Instant)
  | getIdentity (id : Int)
  | findIdentity (name : String) (country : Option String)
  | createIdentity (name country : Option String)
  | attachOwner (rangeId ownerId : Int)
deriving DecidableEq, Repr

/-- A range, and whether it was created by the request. -/
structure Placed where
  range : AddressRange
  inserted : Bool
deriving DecidableEq, Repr

/-- What a request is answered with when it succeeds. -/
abbrev Request.Reply : Request → Type
  | .createRange .. => Placed
  | .getIdentity _ => Option Identity
  | .findIdentity .. => Option Identity
  | .createIdentity .. => Identity
  | .attachOwner .. => Unit

/-- A way to answer requests from a state. -/
abbrev Perform (υ : Type) := (q : Request) → υ → Except StoreError q.Reply × υ

inductive Work (α : Type) where
  | done (result : α)
  | fail (error : StoreError)
  | ask (q : Request) (next : Except StoreError q.Reply → Work α)

namespace Work

variable {α β υ : Type}

def bind : Work α → (α → Work β) → Work β
  | .done a, f => f a
  | .fail e, _ => .fail e
  | .ask q next, f => .ask q fun reply => (next reply).bind f

instance : Monad Work where
  pure := .done
  bind := bind

/-- A request whose error ends the unit of work. -/
def request (q : Request) : Work q.Reply :=
  .ask q fun
    | .ok reply => .done reply
    | .error e => .fail e

def run (perform : Perform υ) : Work α → υ → Except StoreError α × υ
  | .done a, u => (.ok a, u)
  | .fail e, u => (.error e, u)
  | .ask q next, u =>
    let (reply, u) := perform q u
    (next reply).run perform u

@[simp] theorem run_request (perform : Perform υ) (q : Request) (u : υ) :
    (request q).run perform u = perform q u := by
  rw [request, run]
  rcases perform q u with ⟨_ | _, _⟩ <;> rfl

/-- A unit of work goes on where the one before it ended well. -/
theorem run_bind (perform : Perform υ) (work : Work α) (f : α → Work β) (u : υ) :
    (work >>= f).run perform u =
      match work.run perform u with
      | (.ok a, u) => (f a).run perform u
      | (.error e, u) => (.error e, u) := by
  induction work generalizing u with
  | done a => rfl
  | fail e => rfl
  | ask q next ih => exact ih (perform q u).1 (perform q u).2

/-! ## What was asked -/

/-- A request with its reply. -/
structure Asked where
  request : Request
  reply : Except StoreError request.Reply

/-- The requests that a run makes, with their replies, in order. -/
def transcript (perform : Perform υ) : Work α → υ → List Asked
  | .done _, _ => []
  | .fail _, _ => []
  | .ask q next, u =>
    let (reply, u) := perform q u
    ⟨q, reply⟩ :: (next reply).transcript perform u

end Work

end OwnerCache
