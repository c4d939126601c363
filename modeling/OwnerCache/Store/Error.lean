/-
# OwnerCache.Store.Error -- failures of a store

A store refuses a request, finds a row that means nothing in the domain, or does
not come to an end with its work.  `message` is the wording.
-/
import OwnerCache.Text.Decimal

namespace OwnerCache

set_option autoImplicit false

/-- Why a request is refused. -/
inductive Refusal where
  | unknownRange (id : Int)
  | unknownIdentity (id : Int)
  /-- an owner that is not there, noticed by a constraint -/
  | danglingOwner
  /-- a row that is there already, by the columns that must differ -/
  | duplicate (columns : String)
  /-- no ids are left -/
  | full
  /-- a unit of work that has nothing to commit, since it was abandoned -/
  | abandoned
  | cannotOpen (name : String)
  | readOnly
  /-- a file that fails under a request -/
  | unreadable
  /-- a file of another kind -/
  | notDatabase
  /-- a host that holds no files of ours -/
  | unknownAuthority (name : String)
  | unknownMode (kind value : String)
  | forbiddenMode (value : String)
  | unknownSystem (name : String)
  | other (text : String)
deriving DecidableEq, Repr

/-- What is wrong with a row. -/
inductive Defect where
  | bound (id value : Int)
  | time (id millis : Int)
  | other (text : String)
deriving DecidableEq, Repr

inductive StoreError where
  | backend (cause : Refusal)
  | corrupt (defect : Defect)
  | task (text : String)
deriving DecidableEq, Repr

private def number (i : Int) : String := String.ofList (Decimal.writeInt i)

def Refusal.message : Refusal → String
  | .unknownRange id => "no range with id " ++ number id
  | .unknownIdentity id => "no identity with id " ++ number id
  | .danglingOwner => "FOREIGN KEY constraint failed"
  | .duplicate columns => "UNIQUE constraint failed: " ++ columns
  | .full => "database or disk is full"
  | .abandoned => "cannot commit - no transaction is active"
  | .cannotOpen name => "unable to open database file: " ++ name
  | .readOnly => "attempt to write a readonly database"
  | .unreadable => "disk I/O error"
  | .notDatabase => "file is not a database"
  | .unknownAuthority name => "invalid uri authority: " ++ name
  | .unknownMode kind value => "no such " ++ kind ++ " mode: " ++ value
  | .forbiddenMode value => "access mode not allowed: " ++ value
  | .unknownSystem name => "no such vfs: " ++ name
  | .other text => text

def Defect.message : Defect → String
  | .bound id value =>
    "range " ++ number id ++ " has bound " ++ number value ++ " outside of IPv4 space"
  | .time id millis => "range " ++ number id ++ " has invalid timestamp " ++ number millis
  | .other text => text

def StoreError.message : StoreError → String
  | .backend cause => "database error: " ++ cause.message
  | .corrupt defect => "corrupt row: " ++ defect.message
  | .task text => "storage task failed: " ++ text

end OwnerCache
