/-!
# Named values

A list of values under names keeps its order. Looking a name up finds its first value; setting a
name replaces that value in its place, or adds the name at the end.
-/

namespace Checkup.Named

variable {α : Type}

def get? (name : String) : List (String × α) → Option α
  | [] => none
  | (key, value) :: rest => if key == name then some value else get? name rest

def set (name : String) (value : α) : List (String × α) → List (String × α)
  | [] => [(name, value)]
  | (key, old) :: rest =>
    if key == name then (name, value) :: rest else (key, old) :: set name value rest

def erase (name : String) (entries : List (String × α)) : List (String × α) :=
  entries.filter (·.1 != name)

@[simp] theorem get?_nil (name : String) : get? name ([] : List (String × α)) = none := rfl

theorem mem_of_get?_eq_some {name : String} {value : α} {entries : List (String × α)}
    (hget : get? name entries = some value) : (name, value) ∈ entries := by
  induction entries with
  | nil => cases hget
  | cons entry rest ih =>
    by_cases hkey : entry.1 = name
    · simp only [get?, hkey, beq_self_eq_true, if_true] at hget
      cases hget
      exact hkey ▸ List.mem_cons_self
    · simp only [get?, beq_iff_eq, hkey, if_false] at hget
      exact List.mem_cons_of_mem _ (ih hget)

theorem get?_set_self (name : String) (value : α) (entries : List (String × α)) :
    get? name (set name value entries) = some value := by
  induction entries with
  | nil => simp [set, get?]
  | cons entry rest ih => by_cases hkey : entry.1 = name <;> simp [set, get?, hkey, ih]

theorem get?_set_of_ne {name other : String} (hne : other ≠ name) (value : α)
    (entries : List (String × α)) : get? other (set name value entries) = get? other entries := by
  induction entries with
  | nil => simp [set, get?, hne.symm]
  | cons entry rest ih =>
    by_cases hkey : entry.1 = name <;> by_cases hother : entry.1 = other <;>
      simp_all [set, get?]

/-- A name that is set and taken away again leaves the entries as they were. -/
theorem erase_set {name : String} {entries : List (String × α)} (hnew : get? name entries = none)
    (value : α) : erase name (set name value entries) = entries := by
  induction entries with
  | nil => simp [set, erase]
  | cons entry rest ih =>
    by_cases hkey : entry.1 = name
    · simp [get?, hkey] at hnew
    · simp_all [set, erase, get?]

end Checkup.Named
