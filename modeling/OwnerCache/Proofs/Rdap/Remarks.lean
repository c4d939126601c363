/-
# OwnerCache.Proofs.Rdap.Remarks -- the organization that remarks name

The remarks of a network object have lists of lines, and its record has one text.  The lines of
the first remark that has any are joined by line breaks, and the text is read up to the first
line with a name, so no line is lost or runs into the next, whatever is in it.  What is found is
the name that the first usable line gives by itself (`Network.toRecord_organization`).

A remark without lines does not count, one with blank lines does: the name of the network does
not stand in for it.
-/
import OwnerCache.Proofs.Whois.Description
import OwnerCache.Rdap.Network

namespace OwnerCache.Rdap.Network

set_option autoImplicit false

open Whois

/-- The organization that a network object names: by the first usable line of the first remark that
has any lines, or else by its own name. -/
def organization? (n : Network) : Option String :=
  match n.remarks.find? (·.description ≠ []) with
  | some remark => remark.description.findSome? Description.format?
  | none => n.name.bind Description.format?

theorem ofList_intercalate (ls : List String) :
    String.ofList (['\n'].intercalate (ls.map String.toList)) = "\n".intercalate ls := by
  rw [← String.toList_inj, String.toList_ofList, String.toList_intercalate]
  rfl

theorem format?_description? (n : Network) :
    n.description?.bind Description.format? = n.organization? := by
  unfold description? organization?
  cases n.remarks.find? (·.description ≠ []) with
  | none => rfl
  | some remark =>
      simp only [ofList_intercalate]
      exact Description.format?_intercalate remark.description

/-- **Remarks are read line by line.**  The record of a network object has the organization that the
object names, and so has all that is found in it, for whatever address.  Joined lines give the first
name that one of them gives, and none if they are all blank. -/
theorem toRecord_organization (n : Network) (cover : Block → List Cidr) :
    (n.toRecord cover).nets.map (·.description.bind Description.format?) = [n.organization?] ∧
    (∀ a, (Finding.ofRecord a (n.toRecord cover)).map Finding.description =
      (Finding.ofRecord a (n.toRecord cover)).map fun _ => n.organization?) ∧
    ∀ ls : List String,
      Description.format? ("\n".intercalate ls) = ls.findSome? Description.format? ∧
      (ls.findSome? Description.format? = none ↔
        ∀ line ∈ ls, ∀ c ∈ line.toList, Blank.isBlank c = true ∨ c ∈ Description.lineBreaks) := by
  refine ⟨congrArg (fun name => [name]) n.format?_description?, fun a => ?_, fun ls => ⟨?_, ?_⟩⟩
  · cases found : Finding.ofRecord a (n.toRecord cover) with
    | error e => rfl
    | ok f =>
        have named := Finding.description_of_ofRecord found
        exact congrArg Except.ok (named.trans n.format?_description?)
  · exact Description.format?_intercalate ls
  · simp only [List.findSome?_eq_none_iff, Description.format?_eq_none_iff]

end OwnerCache.Rdap.Network
