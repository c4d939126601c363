/-
# OwnerCache.Rdap.Exchange -- one question to an RDAP provider

`request` says what is asked for an address, and `fault?` why it cannot be asked;
an `Exchange` is what came of it: no answer at all, or a status with a body, which
may have been cut short.
`record` reads the exchange.  A success is a record if its body is a network
object; any other status is refused with its phrase and the text of its body.
-/
import OwnerCache.Rdap.Network
import OwnerCache.Rdap.Status
import OwnerCache.Text.Utf8
import OwnerCache.Url.Basic
import OwnerCache.Whois.Error

namespace OwnerCache.Rdap

set_option autoImplicit false

structure Request where
  url : String
  accept : String
deriving DecidableEq, Repr

/-- The question for an address; slashes at the end of the base do not count. -/
def request (base : String) (a : Address) : Request :=
  let trimmed := (base.toList.reverse.dropWhile (· == '/')).reverse
  { url := String.ofList trimmed ++ "/ip/" ++ a.text, accept := "application/rdap+json" }

/-- A request line has room for 65534 characters of a URL, and none for some of those that a
host may have. -/
def isSendable (u : Url) : Bool :=
  u.write.length ≤ 65534 &&
    !(u.authority.bind (·.host)).any fun host =>
      host.write.any fun c => ['"', '\x60', '\x7b', '\x7d'].contains c

/-- Why a question cannot be put at all: questions go over the web. -/
def Request.fault? (q : Request) : Option Whois.Outage :=
  match Url.parse q.url with
  | .error fault => some (.badUrl fault)
  | .ok url =>
    let shown := url.withoutCredentials
    if String.ofList url.scheme ∉ ["http", "https"] then some (.foreignUrl shown.text)
    else if !isSendable shown then some (.unsendableUrl shown.text)
    else none

inductive Body where
  | whole (bytes : List UInt8)
  /-- The connection closed before the announced end. -/
  | cutShort

inductive Exchange where
  | noAnswer
  | answer (status : Nat) (body : Body)

/-- The text of a body; one that was cut short has none. -/
def Body.text : Body → String
  | .whole bytes => String.ofList (Utf8.decodeLossy bytes)
  | .cutShort => ""

/-- The network object that a body spells. -/
def Body.network? : Body → Option Network
  | .whole bytes => (Json.parse? (Utf8.decode bytes)).bind Network.ofJson?
  | .cutShort => none

namespace Exchange

/-- The body as it arrives: some statuses never have one. -/
def received (status : Nat) (body : Body) : Body :=
  if Status.isBodiless status then .whole [] else body

def record : Exchange → Except Whois.Outage Whois.Record
  | .noAnswer => .error .transport
  | .answer status body =>
    if Status.isSuccess status then
      match (received status body).network? with
      | some network => .ok (network.toRecord Cover.ofBlock)
      | none => .error .undecodable
    else .error (.refused (Status.text status) (received status body).text)

end Exchange

end OwnerCache.Rdap
