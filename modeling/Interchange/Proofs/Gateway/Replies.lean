import Interchange.Gateway.Route
import Interchange.Proofs.Dict.Sorted

/-! # Replies to batches

A reply to a batch lists its results, or it is one result. Main statement: one result is the reply
without the two members in which results could have been listed, and so it is the whole reply
exactly when the reply has neither.
-/

namespace Interchange
namespace Gateway

open Json

variable {reply : Value} {members : Object}

/-- What a reply lists: all of an array, or else what an object has as its results or its items. -/
def listed? (reply : Value) : Option (List Value) :=
  reply.array?.or
    (((reply.get? "results").bind Value.array?).or ((reply.get? "items").bind Value.array?))

/-- A value without the members in which results may be listed. -/
def unlisted : Value → Value
  | .object members => .object (Dict.erase (Dict.erase members "results") "items")
  | v => v

theorem listed?_object (members : Object) : listed? (.object members) =
    ((Dict.get? members "results").bind Value.array?).or
      ((Dict.get? members "items").bind Value.array?) := rfl

theorem get?_unlisted (reply : Value) (k : String) : (unlisted reply).get? k =
    if k = "results" ∨ k = "items" then none else reply.get? k := by
  cases reply with
  | object members =>
    change Dict.get? (Dict.erase (Dict.erase members "results") "items") k = _
    rw [Dict.get?_erase, Dict.get?_erase]
    by_cases hr : k = "results"
    · simp [hr]
    · by_cases hi : k = "items"
      · simp [hi]
      · rw [if_neg (Ne.symm hi), if_neg (Ne.symm hr), if_neg (by simp [hr, hi])]
        rfl
  | _ => exact (ite_self _).symm

theorem unlisted_eq_self_iff :
    unlisted reply = reply ↔ reply.get? "results" = none ∧ reply.get? "items" = none := by
  constructor
  · intro h
    constructor
    · rw [← h, get?_unlisted]
      rfl
    · rw [← h, get?_unlisted]
      rfl
  · rintro ⟨hr, hi⟩
    cases reply with
    | object members =>
      have hr : Dict.get? members "results" = none := hr
      have hi : Dict.get? members "items" = none := hi
      rw [unlisted, Dict.erase_of_get?_none hr, Dict.erase_of_get?_none hi]
    | _ => rfl

/-- The items are looked for where the results have been taken out, and are the same there. -/
theorem get?_items_erase (members : Object) :
    Dict.get? (Dict.erase members "results") "items" = Dict.get? members "items" := by
  rw [Dict.get?_erase, if_neg (by decide)]

theorem batchResults_object (members : Object) : batchResults (.object members) =
    (listed? (.object members)).getD [unlisted (.object members)] := by
  simp only [batchResults, get?_items_erase, listed?_object]
  rcases Dict.get? members "results" with _ | ⟨_ | _ | _ | _ | items | _⟩ <;>
  rcases Dict.get? members "items" with _ | ⟨_ | _ | _ | _ | items' | _⟩ <;> rfl

theorem batchResults_eq (reply : Value) :
    batchResults reply = (listed? reply).getD [unlisted reply] := by
  cases reply with
  | object members => exact batchResults_object members
  | _ => rfl

/--
The results in a reply are what it lists. If it lists nothing, there is one result, with all members
of the reply but its results and its items; so the reply is kept whole exactly when it lists
something or has neither member.
-/
theorem batchResults_whole_iff (reply : Value) :
    batchResults reply = (listed? reply).getD [unlisted reply] ∧
    (∀ k, (unlisted reply).get? k =
      if k = "results" ∨ k = "items" then none else reply.get? k) ∧
    (batchResults reply = (listed? reply).getD [reply] ↔
      (listed? reply = none → reply.get? "results" = none ∧ reply.get? "items" = none)) := by
  refine ⟨batchResults_eq reply, get?_unlisted reply, ?_⟩
  rw [batchResults_eq, ← unlisted_eq_self_iff]
  cases listed? reply with
  | none => simp
  | some items => simp

def queued : Object := [("results", .null), ("status", .string "queued")]

/-- It lists nothing, and it is not kept whole. -/
theorem batchResults_loses_null :
    ¬ ∀ reply, batchResults reply = (listed? reply).getD [reply] := by
  intro h
  have hq : [Value.object [("status", .string "queued")]] = [.object queued] := h (.object queued)
  simp [queued] at hq

end Gateway
end Interchange
