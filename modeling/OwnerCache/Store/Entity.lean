/-
# OwnerCache.Store.Entity -- ranges, identities and resolutions

A cached range is a block of addresses with the time it was looked up and, once
it has one, its owner.  Owners are identities.  An identity with a name is meant
to be shared by all ranges of that name and country; one without a name belongs
to a single range.
-/
import OwnerCache.Net.Block
import OwnerCache.Time.Instant

namespace OwnerCache

set_option autoImplicit false

@[ext] structure AddressRange where
  id : Int
  block : Block
  ownerId : Option Int
  createdAt : Instant
deriving DecidableEq, Repr

@[ext] structure Identity where
  id : Int
  name : Option String
  country : Option String
deriving DecidableEq, Repr

/-- The range that wins an address, with its owner. -/
@[ext] structure RangeMatch where
  range : AddressRange
  owner : Option Identity
deriving DecidableEq, Repr

/-- What is known about an address, and whether its owner was new. -/
@[ext] structure Resolution where
  owner : Option Identity := none
  created : Bool := false
deriving DecidableEq, Repr

namespace AddressRange

def length (r : AddressRange) : Nat := r.block.length

/-- A range is fresh until its time to live is over. -/
def IsFresh (r : AddressRange) (ttl : Duration) (now : Instant) : Prop :=
  Instant.cutoff ttl now ≤ r.createdAt

instance (r : AddressRange) (ttl : Duration) (now : Instant) : Decidable (r.IsFresh ttl now) :=
  inferInstanceAs (Decidable (Instant.cutoff ttl now ≤ r.createdAt))

def text (r : AddressRange) : String := r.block.text

end AddressRange

namespace Identity

/-- Name and country with a comma between them; `None` stands for what is missing. -/
def text (i : Identity) : String := i.name.getD "None" ++ ", " ++ i.country.getD "None"

end Identity

namespace RangeMatch

def length (m : RangeMatch) : Nat := m.range.length

end RangeMatch

namespace Resolution

/-- A resolution that reports an owner known before, or nobody. -/
def existing (owner : Option Identity) : Resolution := ⟨owner, false⟩

end Resolution

end OwnerCache
