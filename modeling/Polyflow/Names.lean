/-
# Lists whose names are distinct

Members of a record, arguments of a function and the parts of a constraint are
ordered lists of named entries in which no name occurs twice. The order is kept
for iteration and for text; an entry is found by its name with `List.lookup`.
This module supplies the check that such a list passes when it is made, and the
report when it does not.
-/

namespace Polyflow

/-- A name was used a second time in a list whose names must be distinct. -/
structure DuplicateName where
  /-- The name of the first entry whose name had already occurred. -/
  name : String
deriving DecidableEq, Repr

/-- The wording used for members, arguments and values. -/
def DuplicateName.message (duplicate : DuplicateName) : String :=
  "duplicate name `" ++ duplicate.name ++ "`"

/-- The first of the given names that is among those already seen, or that
repeats an earlier one. -/
def firstRepeatAfter? (seen : List String) : List String → Option String
  | [] => none
  | name :: rest =>
    if name ∈ seen then some name else firstRepeatAfter? (name :: seen) rest

/-- The first name that occurs earlier in the same list. -/
def firstRepeat? (names : List String) : Option String :=
  firstRepeatAfter? [] names

/-- Accepts named entries exactly when their names are distinct, and changes
nothing about them. -/
def distinctNames {α : Type} (entries : List (String × α)) :
    Except DuplicateName (List (String × α)) :=
  match firstRepeat? (entries.map Prod.fst) with
  | none => .ok entries
  | some name => .error ⟨name⟩

/-- Nothing repeats exactly when the names are distinct among themselves and
from those already seen. -/
theorem firstRepeatAfter?_eq_none_iff {seen names : List String} :
    firstRepeatAfter? seen names = none ↔
      names.Nodup ∧ ∀ name ∈ names, name ∉ seen := by
  induction names generalizing seen with
  | nil => simp [firstRepeatAfter?]
  | cons name rest ih =>
    by_cases known : name ∈ seen
    · simp [firstRepeatAfter?, known]
    · simp only [firstRepeatAfter?, known, if_false, ih, List.nodup_cons,
        List.mem_cons, not_or, forall_eq_or_imp, not_false_iff, true_and]
      constructor
      · rintro ⟨nodup, fresh⟩
        exact ⟨⟨fun again => (fresh name again).1 rfl, nodup⟩,
          fun other mem => (fresh other mem).2⟩
      · rintro ⟨⟨notMem, nodup⟩, fresh⟩
        exact ⟨nodup, fun other mem =>
          ⟨fun same => notMem (same ▸ mem), fresh other mem⟩⟩

/-- A list has no repeated name exactly when its names are distinct. -/
theorem firstRepeat?_eq_none_iff {names : List String} :
    firstRepeat? names = none ↔ names.Nodup := by
  simp [firstRepeat?, firstRepeatAfter?_eq_none_iff]

/-- What is made of named entries is made exactly when their names are distinct, and
of the entries as they are. -/
theorem map_distinctNames_eq_ok_iff {α β : Type} {entries : List (String × α)}
    {make : List (String × α) → β} {result : β} :
    (distinctNames entries).map make = .ok result ↔
      (entries.map Prod.fst).Nodup ∧ make entries = result := by
  rw [distinctNames, ← firstRepeat?_eq_none_iff]
  cases firstRepeat? (entries.map Prod.fst) <;> simp [Except.map]

end Polyflow
