/-
# OwnerCache.Whois.Error -- why a lookup has no finding

The first six causes are faults of a record, the last is a provider that gave
none.  `message` is the wording of each.
-/
import OwnerCache.Net.Block
import OwnerCache.Text.Quoted
import OwnerCache.Time.Duration
import OwnerCache.Url.Fault

namespace OwnerCache.Whois

set_option autoImplicit false

/-- Why a provider gave no record. -/
inductive Outage where
  /-- no answer within the time allowed -/
  | timedOut (limit : Duration)
  /-- a provider at a place that is no URL -/
  | badUrl (fault : Url.Fault)
  /-- a provider at a URL to which no question can be put -/
  | foreignUrl (url : String)
  /-- a provider at a URL that cannot be sent -/
  | unsendableUrl (url : String)
  /-- no exchange with the provider took place -/
  | transport
  /-- an answer with a status that is no success -/
  | refused (status : String) (body : String)
  /-- an answer that is no network object -/
  | undecodable
  | other (text : String)
deriving DecidableEq, Repr

def Outage.message : Outage → String
  | .timedOut limit => "lookup timed out after " ++ limit.text
  | .badUrl fault => "builder error: " ++ fault.message
  | .foreignUrl url => "builder error for url (" ++ url ++ "): URL scheme is not allowed"
  | .unsendableUrl url => "builder error for url (" ++ url ++ "): Parsed Url is not a valid Uri"
  | .transport => "transport"
  | .refused status body => "rdap lookup failed: " ++ status ++ " - " ++ body
  | .undecodable => "invalid rdap response"
  | .other text => text

inductive Error where
  | emptyResult
  | missingCidr
  | malformedCidr (text : String)
  | noContainingCidr (list : String) (address : Address)
  | invalidRange (block : Block)
  | addressOutOfRange (address : Address) (block : Block)
  | unavailable (cause : Outage)
deriving DecidableEq, Repr

def Error.message : Error → String
  | .emptyResult => "whois data contains no nets"
  | .missingCidr => "whois net has no cidr"
  | .malformedCidr text => "malformed cidr " ++ Quoted.text text
  | .noContainingCidr list address =>
    "cidr list " ++ Quoted.text list ++ " does not contain " ++ address.text
  | .invalidRange block => "invalid ip range " ++ block.text
  | .addressOutOfRange address block =>
    "address " ++ address.text ++ " is outside of " ++ block.text
  | .unavailable cause => "whois unavailable: " ++ cause.message

end OwnerCache.Whois
