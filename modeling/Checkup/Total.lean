/-!
# Totals

The total of a measure over a list: the length of a command line, the cost of the findings.
-/

namespace Checkup

def total {α : Type} (measure : α → Nat) : List α → Nat
  | [] => 0
  | item :: rest => measure item + total measure rest

@[simp] theorem total_nil {α : Type} (measure : α → Nat) : total measure [] = 0 := rfl

@[simp] theorem total_cons {α : Type} (measure : α → Nat) (item : α) (rest : List α) :
    total measure (item :: rest) = measure item + total measure rest := rfl

theorem total_append {α : Type} (measure : α → Nat) (items more : List α) :
    total measure (items ++ more) = total measure items + total measure more := by
  induction items with
  | nil => simp
  | cons item rest ih => simp [ih, Nat.add_assoc]

end Checkup
