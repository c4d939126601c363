/-
# OwnerCache.Proofs.Json.Document -- documents are read as they were written

The tokens of a value take the reader from where it expects the value to where it has it, whatever
is open around the value and whatever follows (`run_tokens`); of an array or object the same holds
from any of its items or members on.  Words do not meet in them, since commas, colons and brackets
are in between (`parted_tokens`).

With the text of tokens this makes the round trip of documents (`ofText?_text`).
-/
import OwnerCache.Json.Reader
import OwnerCache.Json.Writer
import OwnerCache.Proofs.Json.Scan

namespace OwnerCache.Json

set_option autoImplicit false

/-! ## Documents of tokens -/

namespace Reader

def run (ts : List Token) (r : Reader) : Option Reader := ts.foldlM step r

theorem run_cons {r s : Reader} {t : Token} (stepped : r.step t = some s) (ts : List Token) :
    run (t :: ts) r = run ts s := by
  rw [run, List.foldlM_cons, stepped]
  rfl

/-- An array that has a first item does not end before it. -/
theorem run_item (item : Json) (stack : List Frame) (ts : List Token) :
    run (item.tokens ++ ts) ⟨stack, .item⟩ =
      run (item.tokens ++ ts) ⟨.array [] :: stack, .value⟩ := by
  have first : ∃ t us, item.tokens = t :: us ∧ t ≠ .closeBracket := by
    cases item with
    | array items => cases items <;> exact ⟨_, _, rfl, by simp⟩
    | object members => cases members <;> exact ⟨_, _, rfl, by simp⟩
    | _ => exact ⟨_, _, rfl, by simp⟩
  obtain ⟨t, us, tokens, other⟩ := first
  have same : step ⟨stack, .item⟩ t = step ⟨.array [] :: stack, .value⟩ t := if_neg other
  rw [tokens, List.cons_append, run, run, List.foldlM_cons, List.foldlM_cons, same]

mutual

/-- The tokens of a value are read as the value. -/
theorem run_tokens (stack : List Frame) (ts : List Token) :
    ∀ j : Json, run (j.tokens ++ ts) ⟨stack, .value⟩ = run ts ⟨stack, .after j⟩
  | .null => run_cons rfl ts
  | .bool _ => run_cons rfl ts
  | .number _ => run_cons rfl ts
  | .string _ => run_cons rfl ts
  | .array [] => by
      rw [tokens, List.cons_append, run_cons (s := ⟨stack, .item⟩) rfl]
      exact run_cons rfl ts
  | .array (item :: items) => by
      rw [tokens, List.cons_append, List.cons_append, run_cons (s := ⟨stack, .item⟩) rfl,
        List.append_assoc, run_item, run_tokens _ _ item, run_itemTokens [] item stack ts items]
      rfl
  | .object [] => by
      rw [tokens, List.cons_append, run_cons (s := ⟨stack, .member⟩) rfl]
      exact run_cons rfl ts
  | .object ((key, value) :: members) => by
      simp only [tokens, List.cons_append, List.append_assoc]
      rw [run_cons (s := ⟨stack, .member⟩) rfl, run_cons (s := ⟨stack, .colon [] key⟩) rfl,
        run_cons (s := ⟨.object [] key :: stack, .value⟩) rfl, run_tokens _ _ value,
        run_memberTokens [] key value stack ts members]
      rfl

/-- The items after some of an array are read as its further ones. -/
theorem run_itemTokens (items : List Json) (item : Json) (stack : List Frame) (ts : List Token) :
    ∀ later : List Json, run (itemTokens later ++ ts) ⟨.array items :: stack, .after item⟩ =
      run ts ⟨stack, .after (.array ((item :: items).reverse ++ later))⟩
  | [] => by
      rw [itemTokens, List.append_nil]
      exact run_cons rfl ts
  | next :: later => by
      rw [itemTokens, List.cons_append, List.cons_append,
        run_cons (s := ⟨.array (item :: items) :: stack, .value⟩) rfl, List.append_assoc,
        run_tokens _ _ next, run_itemTokens (item :: items) next stack ts later]
      simp

/-- The members after some of an object are read as its further ones. -/
theorem run_memberTokens (members : List (Key × Json)) (key : Key) (value : Json)
    (stack : List Frame) (ts : List Token) :
    ∀ later : List (Key × Json),
      run (memberTokens later ++ ts) ⟨.object members key :: stack, .after value⟩ =
        run ts ⟨stack, .after (.object (((key, value) :: members).reverse ++ later))⟩
  | [] => by
      rw [memberTokens, List.append_nil]
      exact run_cons rfl ts
  | (key', next) :: later => by
      simp only [memberTokens, List.cons_append, List.append_assoc]
      rw [run_cons (s := ⟨stack, .key ((key, value) :: members)⟩) rfl,
        run_cons (s := ⟨stack, .colon ((key, value) :: members) key'⟩) rfl,
        run_cons (s := ⟨.object ((key, value) :: members) key' :: stack, .value⟩) rfl,
        run_tokens _ _ next, run_memberTokens ((key, value) :: members) key' next stack ts later]
      simp

end

end Reader

theorem ofTokens?_tokens (j : Json) : ofTokens? j.tokens = some j := by
  have read := Reader.run_tokens [] [] j
  rw [List.append_nil] at read
  rw [ofTokens?, show j.tokens.foldlM Reader.step Reader.initial = some ⟨[], .after j⟩ from read]
  rfl

/-! ## Texts of documents -/

theorem Parted.weaken {ts : List Token} (parted : Parted true ts) : Parted false ts := by
  cases parted with
  | nil => exact .nil false
  | cons word rest => exact .cons (fun _ => rfl) rest

/-- A token that is no word parts what comes after it. -/
theorem Parted.other {b : Bool} {t : Token} {ts : List Token} (other : t.isWord = false)
    (rest : Parted false ts) : Parted b (t :: ts) :=
  .cons (fun word => by rw [other] at word; cases word) (by rwa [other])

mutual

theorem parted_tokens {ts : List Token} (rest : Parted true ts) :
    ∀ j : Json, Parted false (j.tokens ++ ts)
  | .null => .cons (fun _ => rfl) rest
  | .bool _ => .cons (fun _ => rfl) rest
  | .number _ => .cons (fun _ => rfl) rest
  | .string _ => .other rfl rest.weaken
  | .array [] => .other rfl (.other rfl rest.weaken)
  | .array (item :: items) => by
      rw [tokens, List.cons_append, List.cons_append, List.append_assoc]
      exact .other rfl (parted_tokens (parted_itemTokens rest.weaken items) item)
  | .object [] => .other rfl (.other rfl rest.weaken)
  | .object ((key, value) :: members) => by
      simp only [tokens, List.cons_append, List.append_assoc]
      exact .other rfl (.other rfl (.other rfl
        (parted_tokens (parted_memberTokens rest.weaken members) value)))

theorem parted_itemTokens {ts : List Token} (rest : Parted false ts) :
    ∀ items : List Json, Parted true (itemTokens items ++ ts)
  | [] => .other rfl rest
  | item :: items => by
      rw [itemTokens, List.cons_append, List.cons_append, List.append_assoc]
      exact .other rfl (parted_tokens (parted_itemTokens rest items) item)

theorem parted_memberTokens {ts : List Token} (rest : Parted false ts) :
    ∀ members : List (Key × Json), Parted true (memberTokens members ++ ts)
  | [] => .other rfl rest
  | (key, value) :: members => by
      simp only [memberTokens, List.cons_append, List.append_assoc]
      exact .other rfl (.other rfl (.other rfl
        (parted_tokens (parted_memberTokens rest members) value)))

end

/-- Numbers are of the grammar, and strings have characters only. -/
def IsWritable (j : Json) : Prop := ∀ t ∈ j.tokens, t.IsWritable

/-- **Documents are read as they were written.** -/
theorem ofText?_text {j : Json} (writable : j.IsWritable) : ofText? j.text = some j := by
  have parted : Parted false j.tokens := by
    have := parted_tokens (.nil true) j
    rwa [List.append_nil] at this
  rw [ofText?, parse?, units, text, String.toList_ofList, write, scan_write parted writable,
    Option.bind_some, ofTokens?_tokens]

/-- A document is written on one line, without any control. -/
theorem le_of_mem_text {j : Json} (writable : j.IsWritable) {c : Char} (mem : c ∈ j.text.toList) :
    0x20 ≤ c.toNat := by
  rw [text, String.toList_ofList] at mem
  obtain ⟨t, has, written⟩ := List.mem_flatMap.mp mem
  exact (writable t has).le_of_mem_write written
end OwnerCache.Json
