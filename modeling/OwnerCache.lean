import OwnerCache.Main
import OwnerCache.Resolver.Schedule
import OwnerCache.Store.Refusing
import OwnerCache.Store.Volatile
import OwnerCache.Proofs.Store.Alike
import OwnerCache.Proofs.Resolver.Sound
import OwnerCache.Proofs.Resolver.Agreement
import OwnerCache.Proofs.Resolver.Innermost
import OwnerCache.Proofs.Resolver.Unanimity
import OwnerCache.Proofs.Resolver.Repetition
import OwnerCache.Proofs.Resolver.Silence
import OwnerCache.Proofs.Resolver.Accounts
import OwnerCache.Proofs.Resolver.Naming
import OwnerCache.Proofs.Whois.Finding
import OwnerCache.Proofs.Net.Cover
import OwnerCache.Proofs.Whois.Listing
import OwnerCache.Proofs.Rdap.Bounds
import OwnerCache.Proofs.Resolver.Containment
import OwnerCache.Proofs.Resolver.Order
import OwnerCache.Proofs.Rdap.Listed
import OwnerCache.Proofs.Rdap.Remarks
import OwnerCache.Proofs.Store.Expiry
import OwnerCache.Proofs.Store.Best
import OwnerCache.Proofs.Store.Asked
import OwnerCache.Proofs.Store.Enduring
import OwnerCache.Proofs.Resolver.Unfailing
import OwnerCache.Proofs.Time.Calendar
import OwnerCache.Proofs.Time.Rfc3339
import OwnerCache.Proofs.Json.Scan
import OwnerCache.Proofs.Json.Document
import OwnerCache.Proofs.Json.Decode
import OwnerCache.Proofs.Json.RoundTrip
import OwnerCache.Proofs.Whois.Description
import OwnerCache.Proofs.Whois.Name
import OwnerCache.Proofs.Whois.Grammar
import OwnerCache.Proofs.Whois.Items
import OwnerCache.Proofs.Time.Cutoff
import OwnerCache.Proofs.Store.Chronicle
import OwnerCache.Proofs.Store.Lifetime
import OwnerCache.Proofs.Store.Defect
import OwnerCache.Proofs.Resolver.Corruption
import OwnerCache.Proofs.CommandLine
import OwnerCache.Proofs.Text.Lowercase
import OwnerCache.Proofs.Config
