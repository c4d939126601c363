/-
# OwnerCache.Net.Reserved -- special-purpose networks

The registry of IPv4 networks set aside for special purposes.  An address takes
the name of the first network of the registry that holds it, so the order
matters where networks overlap: the limited broadcast address comes before the
reserved quarter it lies in.
-/
import OwnerCache.Net.Cidr

namespace OwnerCache.Reserved

set_option autoImplicit false

/-- The special-purpose networks with their names, in the order they are consulted. -/
def registry : List (Cidr × String) :=
  [ (.ofOctets 0 0 0 0 8, "This Network"),
    (.ofOctets 127 0 0 0 8, "Loopback"),
    (.ofOctets 169 254 0 0 16, "Link Local"),
    (.ofOctets 192 0 0 0 24, "IETF Protocol Assignments"),
    (.ofOctets 192 0 2 0 24, "TEST-NET-1"),
    (.ofOctets 192 88 99 0 24, "6to4 Relay Anycast"),
    (.ofOctets 198 18 0 0 15, "Network Interconnect Device Benchmark Testing"),
    (.ofOctets 198 51 100 0 24, "TEST-NET-2"),
    (.ofOctets 203 0 113 0 24, "TEST-NET-3"),
    (.ofOctets 224 0 0 0 4, "Multicast"),
    (.ofOctets 255 255 255 255 32, "Limited Broadcast"),
    (.ofOctets 240 0 0 0 4, "Reserved"),
    (.ofOctets 10 0 0 0 8, "Private-Use Networks"),
    (.ofOctets 172 16 0 0 12, "Private-Use Networks"),
    (.ofOctets 192 168 0 0 16, "Private-Use Networks"),
    (.ofOctets 100 64 0 0 10, "Shared Address Space") ]

/-- The name of the special-purpose network an address belongs to. -/
def name? (a : Address) : Option String :=
  (registry.find? fun entry => a ∈ entry.1.block).map (·.2)

theorem registry_aligned : ∀ entry ∈ registry, entry.1.IsAligned := by decide

end OwnerCache.Reserved
