import Mathlib.Data.List.Basic

/-!
Messages that lie one behind the other in a stream of bytes. Of a stream of which a
beginning has been taken, those that reach beyond it are unsent.
-/

namespace MessageStream

structure Message (Token : Type) where
  token : Token
  size : Nat
deriving DecidableEq, Repr

variable {Token : Type}

def totalSize : List (Message Token) → Nat
  | [] => 0
  | message :: rest => message.size + totalSize rest

def unsent : Nat → List (Message Token) → List Token
  | _, [] => []
  | taken, message :: rest =>
      if message.size ≤ taken then unsent (taken - message.size) rest
      else message.token :: unsent 0 rest

theorem totalSize_append (first second : List (Message Token)) :
    totalSize (first ++ second) = totalSize first + totalSize second := by
  induction first with
  | nil => simp [totalSize]
  | cons message rest ih =>
      simp only [List.cons_append, totalSize, ih]
      omega

theorem unsent_eq_nil (taken : Nat) (messages : List (Message Token)) :
    unsent taken messages = [] ↔ totalSize messages ≤ taken := by
  induction messages generalizing taken with
  | nil => simp [unsent, totalSize]
  | cons message rest ih =>
      rw [unsent, totalSize]
      split
      · rw [ih]
        omega
      · simp only [reduceCtorEq, false_iff]
        omega

theorem unsent_append (taken : Nat) (first second : List (Message Token)) :
    unsent taken (first ++ second) =
      unsent taken first ++ unsent (taken - totalSize first) second := by
  induction first generalizing taken with
  | nil => rfl
  | cons message rest ih =>
      rw [List.cons_append, unsent, unsent, totalSize]
      split
      · rw [ih, Nat.sub_sub]
      · have behind : taken - (message.size + totalSize rest) = 0 - totalSize rest := by omega
        rw [ih, behind, List.cons_append]

theorem unsent_sublist (taken : Nat) (messages : List (Message Token)) :
    (unsent taken messages).Sublist (messages.map Message.token) := by
  induction messages generalizing taken with
  | nil => exact .slnil
  | cons message rest ih =>
      rw [unsent, List.map_cons]
      split
      · exact .cons _ (ih _)
      · exact .cons_cons _ (ih 0)

theorem unsent_suffix (taken more : Nat) (messages : List (Message Token)) :
    unsent (taken + more) messages <:+ unsent taken messages := by
  induction messages generalizing taken more with
  | nil => exact List.suffix_refl []
  | cons message rest ih =>
      rw [unsent, unsent]
      by_cases before : message.size ≤ taken
      · rw [if_pos before, if_pos (by omega), Nat.sub_add_comm before]
        exact ih _ _
      · rw [if_neg before]
        split
        · have later := ih 0 (taken + more - message.size)
          rw [Nat.zero_add] at later
          exact later.trans (List.suffix_cons _ _)
        · exact List.suffix_refl _

theorem unsent_message {taken more : Nat} {messages : List (Message Token)} (message : Message Token)
    (most : taken ≤ totalSize messages) (level : more = 0 ∨ taken = totalSize messages) :
    unsent (taken + more) (messages ++ [message]) =
      unsent taken messages ++ if message.size ≤ more then [] else [message.token] := by
  have behind : taken + more - totalSize messages = more := by omega
  have before : unsent (taken + more) messages = unsent taken messages := by
    rcases level with none_sent | full
    · rw [none_sent, Nat.add_zero]
    · rw [(unsent_eq_nil _ _).mpr (by omega), (unsent_eq_nil _ _).mpr (by omega)]
  rw [unsent_append, behind, before, unsent, unsent, unsent]

end MessageStream
