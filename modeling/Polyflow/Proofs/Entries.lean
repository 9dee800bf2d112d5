/-
# Matching named entries

Members of records are matched by name, arguments of functions by position. Two
lists of named entries match under a relation when each name occurs in both or
in neither, and what it stands for on the left is related to what it stands for
on the right. As long as names are distinct, this is what the recursive
comparisons of types and of values compute, and it no longer mentions the order
of the entries. Two lists are aligned when the same holds of positions.
-/

import Polyflow.Names
import Mathlib.Data.List.Nodup
import Mathlib.Data.List.Perm.Subperm

namespace Polyflow

variable {α β γ : Type}

/-- What a lookup finds is an entry of the list. -/
theorem mem_of_lookup {entries : List (String × α)} {name : String} {item : α}
    (found : entries.lookup name = some item) : (name, item) ∈ entries := by
  obtain ⟨before, later, rfl, -⟩ := List.lookup_eq_some_iff.mp found
  simp

/-- A lookup succeeds exactly for the names of the list. -/
theorem lookup_isSome_iff_mem {entries : List (String × α)} {name : String} :
    (entries.lookup name).isSome ↔ name ∈ entries.map Prod.fst := by
  rw [List.lookup_isSome_iff, List.mem_map]
  constructor
  · intro present
    rcases present with ⟨entry, member, same⟩
    exact ⟨entry, member, (beq_iff_eq.mp same).symm⟩
  · intro present
    rcases present with ⟨entry, member, rfl⟩
    exact ⟨entry, member, beq_self_eq_true _⟩

/-- If names are distinct, every entry is found under its name. -/
theorem lookup_eq_some_iff_mem {entries : List (String × α)}
    (distinct : (entries.map Prod.fst).Nodup) {name : String} {item : α} :
    entries.lookup name = some item ↔ (name, item) ∈ entries := by
  apply Iff.intro mem_of_lookup
  intro member
  have present : (entries.lookup name).isSome :=
    lookup_isSome_iff_mem.mpr (List.mem_map_of_mem member)
  obtain ⟨other, found⟩ := Option.isSome_iff_exists.mp present
  have same := List.inj_on_of_nodup_map distinct (mem_of_lookup found) member rfl
  rw [found, (Prod.mk.inj same).2]

/-- Looking up after the items were changed, each under its own name. -/
theorem lookup_map (entries : List (String × α)) (change : String → α → β) (name : String) :
    (entries.map fun entry => (entry.1, change entry.1 entry.2)).lookup name =
      (entries.lookup name).map (change name) := by
  induction entries with
  | nil => rfl
  | cons entry rest ih =>
      rcases entry with ⟨first, item⟩
      by_cases same : name = first
      · subst same
        simp
      · have differ : (name == first) = false := beq_eq_false_iff_ne.mpr same
        simp only [List.map_cons, List.lookup_cons, differ, ih]

/-- Two optional items are related when both are there or neither is, and if
there, they are related themselves. -/
theorem rel_iff {related : α → β → Prop} {left : Option α} {right : Option β} :
    Option.Rel related left right ↔
      (left.isSome ↔ right.isSome) ∧
        ∀ ours theirs, left = some ours → right = some theirs → related ours theirs := by
  cases left with
  | none =>
      cases right with
      | none => exact ⟨fun _ => ⟨Iff.rfl, by simp⟩, fun _ => .none⟩
      | some theirs => simp
  | some ours =>
      cases right with
      | none => simp
      | some theirs =>
          constructor
          · intro rel
            cases rel with
            | some holds => simpa using holds
          · intro both
            rcases both with ⟨-, holds⟩
            exact .some (holds ours theirs rfl rfl)

/-- The counterpart on the right of an item on the left. -/
theorem exists_right_of_rel {related : α → β → Prop} {left : Option α} {right : Option β}
    (rel : Option.Rel related left right) {item : α} (found : left = some item) :
    ∃ other, right = some other ∧ related item other := by
  subst found
  cases rel with
  | some holds => exact ⟨_, rfl, holds⟩

/-- Related items, seen from the other side. -/
theorem rel_swap {first : α → β → Prop} {second : β → α → Prop} {left : Option α}
    {right : Option β} (rel : Option.Rel first left right)
    (swap : ∀ ours theirs, left = some ours → right = some theirs →
      first ours theirs → second theirs ours) :
    Option.Rel second right left := by
  cases rel with
  | none => exact .none
  | some holds => exact .some (swap _ _ rfl rfl holds)

/-- Items that are related through a third one in the middle. -/
theorem rel_compose {first : α → β → Prop} {second : β → γ → Prop} {whole : α → γ → Prop}
    {left : Option α} {middle : Option β} {right : Option γ}
    (rel : Option.Rel first left middle) (rel' : Option.Rel second middle right)
    (compose : ∀ ours between theirs,
      left = some ours → middle = some between → right = some theirs →
      first ours between → second between theirs → whole ours theirs) :
    Option.Rel whole left right := by
  cases rel with
  | none =>
      cases rel' with
      | none => exact .none
  | some holds =>
      cases rel' with
      | some holds' => exact .some (compose _ _ _ rfl rfl rfl holds holds')

/-- Each name occurs on both sides or on neither, and its items are related. -/
def Matched (related : α → β → Prop) (ours : List (String × α)) (theirs : List (String × β)) :
    Prop :=
  ∀ name, Option.Rel related (ours.lookup name) (theirs.lookup name)

/-- Matching, read off the entries of the left side: a name of the right side
occurs on the left, and each of our items has a counterpart. -/
theorem matched_iff_forall_mem {related : α → β → Prop} {ours : List (String × α)}
    {theirs : List (String × β)} (distinct : (ours.map Prod.fst).Nodup) :
    Matched related ours theirs ↔
      (∀ entry ∈ theirs, (ours.lookup entry.1).isSome) ∧
        ∀ entry ∈ ours, ∃ item, theirs.lookup entry.1 = some item ∧ related entry.2 item := by
  constructor
  · intro matched
    apply And.intro
    · intro entry member
      have present : (theirs.lookup entry.1).isSome :=
        lookup_isSome_iff_mem.mpr (List.mem_map_of_mem member)
      exact ((rel_iff.mp (matched entry.1)).1).mpr present
    · intro entry member
      exact exists_right_of_rel (matched entry.1) ((lookup_eq_some_iff_mem distinct).mpr member)
  · intro both name
    rcases both with ⟨covered, counterpart⟩
    cases found : ours.lookup name with
    | none =>
        cases found' : theirs.lookup name with
        | none => exact .none
        | some item =>
            have present := covered _ (mem_of_lookup found')
            rw [found] at present
            cases present
    | some item =>
        obtain ⟨other, found', related⟩ := counterpart _ (mem_of_lookup found)
        rw [found']
        exact .some related

/-- If every name on the left occurs on the right, the right has at least as
many names. -/
private theorem names_subset {ours : List (String × α)} {theirs : List (String × β)}
    (covered : ∀ entry ∈ ours, (theirs.lookup entry.1).isSome) :
    ours.map Prod.fst ⊆ theirs.map Prod.fst := by
  intro name member
  obtain ⟨entry, present, rfl⟩ := List.mem_map.mp member
  exact lookup_isSome_iff_mem.mp (covered entry present)

/-- With equally many entries on both sides it is enough that each of our items
has a counterpart. -/
theorem matched_iff_of_length {related : α → β → Prop} {ours : List (String × α)}
    {theirs : List (String × β)} (distinct : (ours.map Prod.fst).Nodup)
    (distinct' : (theirs.map Prod.fst).Nodup) :
    Matched related ours theirs ↔
      ours.length = theirs.length ∧
        ∀ entry ∈ ours, ∃ item, theirs.lookup entry.1 = some item ∧ related entry.2 item := by
  rw [matched_iff_forall_mem distinct]
  apply and_congr_left
  intro counterpart
  have forward : ours.map Prod.fst ⊆ theirs.map Prod.fst :=
    names_subset fun entry member => by
      obtain ⟨item, found, -⟩ := counterpart entry member
      simp [found]
  constructor
  · intro covered
    have backward := (distinct'.subperm (names_subset covered)).length_le
    have forward := (distinct.subperm forward).length_le
    simp only [List.length_map] at forward backward
    omega
  · intro length
    have names := (distinct.subperm forward).perm_of_length_le (by simp [length])
    intro entry member
    exact lookup_isSome_iff_mem.mpr (names.mem_iff.mpr (List.mem_map_of_mem member))

/-- Lists that match have the same names. -/
theorem Matched.names_perm {related : α → β → Prop} {ours : List (String × α)}
    {theirs : List (String × β)} (matched : Matched related ours theirs)
    (distinct : (ours.map Prod.fst).Nodup) (distinct' : (theirs.map Prod.fst).Nodup) :
    (ours.map Prod.fst).Perm (theirs.map Prod.fst) := by
  rw [List.perm_ext_iff_of_nodup distinct distinct']
  intro name
  rw [← lookup_isSome_iff_mem, ← lookup_isSome_iff_mem]
  exact (rel_iff.mp (matched name)).1

/-- Two lists with the same names, each of which fixes its item, are the same up to the
order of entries. -/
theorem perm_of_names {ours theirs : List (String × α)}
    (names : (ours.map Prod.fst).Perm (theirs.map Prod.fst))
    (distinct : (ours.map Prod.fst).Nodup)
    (fixed : ∀ entry ∈ ours, ∀ other ∈ theirs, entry.1 = other.1 → entry.2 = other.2) :
    ours.Perm theirs := by
  have distinct' := names.nodup_iff.mp distinct
  rw [List.perm_ext_iff_of_nodup distinct.of_map distinct'.of_map]
  intro entry
  constructor
  · intro member
    obtain ⟨other, member', same⟩ :=
      List.mem_map.mp (names.mem_iff.mp (List.mem_map_of_mem member))
    rw [Prod.ext same.symm (fixed entry member other member' same.symm)]
    exact member'
  · intro member'
    obtain ⟨other, member, same⟩ :=
      List.mem_map.mp (names.mem_iff.mpr (List.mem_map_of_mem member'))
    rw [← Prod.ext same (fixed other member entry member' same)]
    exact member

/-- Each position is filled on both sides or on neither, and its items are
related. -/
def Aligned (related : α → β → Prop) (ours : List (String × α)) (theirs : List (String × β)) :
    Prop :=
  ∀ index : Nat,
    Option.Rel related (ours[index]?.map Prod.snd) (theirs[index]?.map Prod.snd)

theorem aligned_nil {related : α → β → Prop} : Aligned related [] [] := fun _ => .none

/-- Alignment of two nonempty lists, by their first entries and the rest. -/
theorem aligned_cons {related : α → β → Prop} {entry : String × α} {entry' : String × β}
    {ours : List (String × α)} {theirs : List (String × β)} :
    Aligned related (entry :: ours) (entry' :: theirs) ↔
      related entry.2 entry'.2 ∧ Aligned related ours theirs := by
  constructor
  · intro aligned
    refine ⟨?_, fun index => aligned (index + 1)⟩
    have first := aligned 0
    cases first with
    | some holds => exact holds
  · intro both index
    rcases both with ⟨first, rest⟩
    cases index with
    | zero => exact .some first
    | succ index => exact rest index

/-- Aligned lists have equally many entries. -/
theorem Aligned.length_eq {related : α → β → Prop} {ours : List (String × α)}
    {theirs : List (String × β)} (aligned : Aligned related ours theirs) :
    ours.length = theirs.length := by
  have filled (index : Nat) : index < ours.length ↔ index < theirs.length := by
    simpa using (rel_iff.mp (aligned index)).1
  have noMore := (filled theirs.length).mp
  have noLess := (filled ours.length).mpr
  omega

@[simp]
theorem not_aligned_nil_cons {related : α → β → Prop} {entry : String × β}
    {rest : List (String × β)} : ¬ Aligned related [] (entry :: rest) := by
  intro aligned
  cases aligned.length_eq

@[simp]
theorem not_aligned_cons_nil {related : α → β → Prop} {entry : String × α}
    {rest : List (String × α)} : ¬ Aligned related (entry :: rest) [] := by
  intro aligned
  cases aligned.length_eq

end Polyflow
