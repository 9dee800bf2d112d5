/-
# The text of a type determines it

Types are told apart by their text in reports and in diagnostics. Nothing marks the end of
a type in its text, a function's return type least of all, and a name may be a word that
types begin with. Still the text can be read in one way only: what follows a type inside
another is punctuation that no type begins or continues with. So a type is determined by
its text, in the order of its entries and with their names, as long as no name has a blank
or a closing bracket in it.
-/

import Polyflow.Proofs.Ty.Structure
import Polyflow.Ty.Text

namespace Polyflow.Ty

mutual

/-- The names of members and arguments at any depth. -/
def names : Ty → List String
  | .prim _ => []
  | .record members => namesOfEach members
  | .func args ret => namesOfEach args ++ ret.names
  | .unknown => []

/-- The names of all entries and in their types. -/
def namesOfEach : List (String × Ty) → List String
  | [] => []
  | (name, ty) :: rest => name :: (ty.names ++ namesOfEach rest)

end

/-- A name without a blank or a closing bracket. It may be a word that types begin with. -/
def IsPlain (name : String) : Prop :=
  ∀ c ∈ name.toList, c ≠ ' ' ∧ c ≠ '}' ∧ c ≠ ')'

instance (name : String) : Decidable (IsPlain name) :=
  List.decidableBAll _ name.toList

/-- Identifiers are plain. -/
theorem isPlain_of_identifier {name : String}
    (identifier : name.toList.all fun c => c.isAlphanum || c == '_') : IsPlain name := by
  simp only [List.all_eq_true, Bool.or_eq_true, beq_iff_eq] at identifier
  intro c member
  rcases identifier c member with letter | rfl
  · refine ⟨?_, ?_, ?_⟩
    all_goals
      rintro rfl
      cases letter
  · decide

/-- A plain name ends at the first blank. -/
theorem eq_of_name_append {name name' : String} {rest rest' : List Char} (plain : IsPlain name)
    (plain' : IsPlain name')
    (same : name.toList ++ ' ' :: rest = name'.toList ++ ' ' :: rest') :
    name = name' ∧ rest = rest' := by
  have upTo {name : String} (plain : IsPlain name) (rest : List Char) :
      (name.toList ++ ' ' :: rest).takeWhile (· ≠ ' ') = name.toList := by
    rw [List.takeWhile_append_of_pos fun c member => decide_eq_true (plain c member).1]
    simp
  have names : name.toList = name'.toList := by rw [← upTo plain rest, same, upTo plain' rest']
  rw [names, List.append_cancel_left_eq, List.cons.injEq] at same
  exact ⟨String.toList_injective names, same.2⟩

/-- The type of an entry is smaller than the list. -/
theorem sizeOf_entry_lt {entries : List (String × Ty)} {entry : String × Ty}
    (member : entry ∈ entries) : sizeOf entry.2 < sizeOf entries := by
  have inside := List.sizeOf_lt_of_mem member
  rcases entry with ⟨name, ty⟩
  simp only [Prod.mk.sizeOf_spec] at inside ⊢
  omega

/-- To prove something of every type, prove it of a record all of whose members have the
property, and of a function all of whose arguments and whose return type have it. -/
theorem inductionOnEntries {motive : Ty → Prop} (prim : ∀ kind, motive (.prim kind))
    (record : ∀ members, (∀ entry ∈ members, motive entry.2) → motive (.record members))
    (func : ∀ args ret, (∀ entry ∈ args, motive entry.2) → motive ret → motive (.func args ret))
    (unknown : motive .unknown) : ∀ ty, motive ty
  | .prim kind => prim kind
  | .record members =>
    record members fun entry member =>
      have := sizeOf_entry_lt member
      inductionOnEntries prim record func unknown entry.2
  | .func args ret =>
    have ofArgs (entry : String × Ty) (member : entry ∈ args) : motive entry.2 :=
      have := sizeOf_entry_lt member
      inductionOnEntries prim record func unknown entry.2
    func args ret ofArgs (inductionOnEntries prim record func unknown ret)
  | .unknown => unknown
termination_by ty => sizeOf ty
decreasing_by
  all_goals
    simp only [Ty.record.sizeOf_spec, Ty.func.sizeOf_spec]
    omega

/-- The two kinds of lists of entries. -/
inductive Listing
  | members
  | args

namespace Listing

/-- What stands between two entries. -/
def separator : Listing → String
  | .members => "; "
  | .args => ", "

/-- What stands after the last one. -/
def close : Listing → Char
  | .members => '}'
  | .args => ')'

/-- The text of entries, up to the bracket that closes them. -/
def text (listing : Listing) (entries : List (String × Ty)) : List Char :=
  (listing.separator.intercalate (renderEach entries)).toList ++ [listing.close]

/-- The text that follows an entry: the closing bracket or further entries. -/
def textAfter (listing : Listing) : List (String × Ty) → List Char
  | [] => [listing.close]
  | entries => listing.separator.toList ++ listing.text entries

theorem text_nil (listing : Listing) : listing.text [] = [listing.close] := rfl

theorem text_cons (listing : Listing) (name : String) (ty : Ty) (rest : List (String × Ty)) :
    listing.text ((name, ty) :: rest) =
      name.toList ++ ' ' :: (ty.render.toList ++ listing.textAfter rest) := by
  cases rest with
  | nil => simp [text, textAfter, renderEach]
  | cons entry rest => simp [text, textAfter, renderEach]

end Listing

/-- What the text of a type begins with. -/
def Head.text : Head → List Char
  | .prim kind => kind.name.toList
  | .record => "struct\x7b".toList
  | .func => "func(".toList
  | .unknown => "?".toList

/-- What comes after that. -/
def inner : Ty → List Char
  | .record members => Listing.members.text members
  | .func args ret => Listing.args.text args ++ ' ' :: ret.render.toList
  | _ => []

theorem toList_render (ty : Ty) : ty.render.toList = ty.head.text ++ ty.inner := by
  cases ty with
  | prim kind => exact (List.append_nil _).symm
  | record members =>
      rw [render, String.toList_append, String.toList_append, List.append_assoc]
      rfl
  | func args ret =>
      rw [render, String.toList_append, String.toList_append, String.toList_append, inner,
        Listing.text]
      simp only [List.append_assoc]
      rfl
  | unknown => rfl

/-- What may follow a type in a longer text: the end of the text, or the punctuation after an
entry. -/
def Follows (rest : List Char) : Prop :=
  ∀ c ∈ rest.head?, c ∈ [';', ',', '}', ')']

@[simp]
theorem follows_cons (c : Char) (rest : List Char) :
    Follows (c :: rest) ↔ c ∈ [';', ',', '}', ')'] := by
  simp [Follows]

theorem Listing.follows_textAfter (listing : Listing) (entries : List (String × Ty))
    (rest : List Char) : Follows (listing.textAfter entries ++ rest) := by
  cases listing <;> cases entries <;> simp [textAfter, separator, close]

/-- What stands at the outermost level, read off the beginning of a text. -/
def headOf? : List Char → Option Head
  | 'b' :: _ => some (.prim .bool)
  | 's' :: 't' :: 'r' :: 'u' :: _ => some .record
  | 's' :: _ => some (.prim .text)
  | 'i' :: _ => some (.prim .int)
  | 'f' :: 'l' :: _ => some (.prim .float)
  | 'f' :: _ => some .func
  | '?' :: _ => some .unknown
  | _ => none

/-- Only `str` begins the text of another type, and there a letter comes next. -/
theorem headOf?_append (ty : Ty) {rest : List Char} (follows : Follows rest) :
    headOf? (ty.render.toList ++ rest) = some ty.head := by
  rw [toList_render]
  cases ty with
  | prim kind =>
      cases kind with
      | text =>
          cases rest with
          | nil => rfl
          | cons c later =>
              simp only [follows_cons, List.mem_cons, List.not_mem_nil, or_false] at follows
              rcases follows with rfl | rfl | rfl | rfl <;> rfl
      | bool => rfl
      | int => rfl
      | float => rfl
  | record members => rfl
  | func args ret => rfl
  | unknown => rfl

/-- So texts that are the same up to what follows begin the same. -/
theorem head_eq_of_append {left right : Ty} {rest rest' : List Char} (follows : Follows rest)
    (follows' : Follows rest')
    (same : left.render.toList ++ rest = right.render.toList ++ rest') :
    left.head = right.head := by
  have read := headOf?_append left follows
  rw [same, headOf?_append right follows'] at read
  exact (Option.some.inj read).symm

/-- The text of a type can be read in one way only, whatever comes after it. -/
def IsReadable (ty : Ty) : Prop :=
  (∀ name ∈ ty.names, IsPlain name) → ∀ other : Ty, (∀ name ∈ other.names, IsPlain name) →
    ∀ rest rest', Follows rest → Follows rest' →
      ty.render.toList ++ rest = other.render.toList ++ rest' → ty = other ∧ rest = rest'

/-- After an entry it is known whether there are further ones. -/
theorem Listing.eq_of_textAfter {listing : Listing} {ours theirs : List (String × Ty)}
    {rest rest' : List Char}
    (same : listing.textAfter ours ++ rest = listing.textAfter theirs ++ rest') :
    listing.text ours ++ rest = listing.text theirs ++ rest' := by
  cases ours with
  | nil =>
      cases theirs with
      | nil => exact same
      | cons entry' rest' => cases listing <;> simp [textAfter, separator, close] at same
  | cons entry others =>
      cases theirs with
      | nil => cases listing <;> simp [textAfter, separator, close] at same
      | cons entry' others' => simpa [textAfter] using same

/-- The closing bracket is not taken for a name. -/
theorem Listing.close_ne_entry {listing : Listing} {name : String} (plain : IsPlain name)
    (rest rest' : List Char) : listing.close :: rest ≠ name.toList ++ ' ' :: rest' := by
  intro same
  cases chars : name.toList with
  | nil =>
      rw [chars] at same
      cases listing <;> cases same
  | cons c later =>
      have ofFirst := plain c (by simp [chars])
      rw [chars, List.cons_append, List.cons.injEq] at same
      cases listing
      · exact ofFirst.2.1 same.1.symm
      · exact ofFirst.2.2 same.1.symm

/-- Entries can be read in one way only if their types can. -/
theorem Listing.eq_of_text_append {listing : Listing} {ours theirs : List (String × Ty)}
    {rest rest' : List Char} (readable : ∀ entry ∈ ours, entry.2.IsReadable)
    (plain : ∀ name ∈ namesOfEach ours, IsPlain name)
    (plain' : ∀ name ∈ namesOfEach theirs, IsPlain name)
    (same : listing.text ours ++ rest = listing.text theirs ++ rest') :
    ours = theirs ∧ rest = rest' := by
  induction ours generalizing theirs with
  | nil =>
      cases theirs with
      | nil => exact ⟨rfl, List.append_cancel_left same⟩
      | cons entry' others' =>
          rw [namesOfEach, List.forall_mem_cons] at plain'
          rw [text_nil, text_cons, List.append_assoc] at same
          exact absurd same (close_ne_entry plain'.1 _ _)
  | cons entry others ih =>
      rcases entry with ⟨name, ty⟩
      rw [namesOfEach, List.forall_mem_cons, List.forall_mem_append] at plain
      obtain ⟨namePlain, tyPlain, othersPlain⟩ := plain
      obtain ⟨tyReadable, othersReadable⟩ := List.forall_mem_cons.mp readable
      cases theirs with
      | nil =>
          rw [text_nil, text_cons, List.append_assoc] at same
          exact absurd same.symm (close_ne_entry namePlain _ _)
      | cons entry' others' =>
          rcases entry' with ⟨name', ty'⟩
          rw [namesOfEach, List.forall_mem_cons, List.forall_mem_append] at plain'
          obtain ⟨namePlain', tyPlain', othersPlain'⟩ := plain'
          rw [text_cons, text_cons, List.append_assoc, List.append_assoc, List.cons_append,
            List.cons_append, List.append_assoc, List.append_assoc] at same
          obtain ⟨rfl, afterName⟩ := eq_of_name_append namePlain namePlain' same
          obtain ⟨rfl, afterTy⟩ := tyReadable tyPlain ty' tyPlain' _ _
            (follows_textAfter listing others rest) (follows_textAfter listing others' rest')
            afterName
          obtain ⟨rfl, afterAll⟩ :=
            ih othersReadable othersPlain othersPlain' (eq_of_textAfter afterTy)
          exact ⟨rfl, afterAll⟩

/-- Every type can. -/
theorem isReadable (ty : Ty) : ty.IsReadable := by
  induction ty using inductionOnEntries with
  | prim kind =>
      intro _ other _ rest rest' follows follows' same
      have heads := head_eq_of_append follows follows' same
      cases other with
      | prim kind' =>
          cases heads
          exact ⟨rfl, List.append_cancel_left same⟩
      | _ => cases heads
  | unknown =>
      intro _ other _ rest rest' follows follows' same
      have heads := head_eq_of_append follows follows' same
      obtain rfl : other = .unknown := head_eq_unknown.mp heads.symm
      exact ⟨rfl, List.append_cancel_left same⟩
  | record members readable =>
      intro plain other plain' rest rest' follows follows' same
      have heads := head_eq_of_append follows follows' same
      cases other with
      | record members' =>
          rw [toList_render, toList_render, ← heads, List.append_assoc, List.append_assoc] at same
          obtain ⟨rfl, afterAll⟩ := Listing.eq_of_text_append readable plain plain'
            (List.append_cancel_left same)
          exact ⟨rfl, afterAll⟩
      | _ => cases heads
  | func args ret readable retReadable =>
      intro plain other plain' rest rest' follows follows' same
      have heads := head_eq_of_append follows follows' same
      cases other with
      | func args' ret' =>
          rw [names, List.forall_mem_append] at plain plain'
          rw [toList_render, toList_render, ← heads, List.append_assoc, List.append_assoc] at same
          have afterHead := List.append_cancel_left same
          rw [inner, inner, List.append_assoc, List.append_assoc] at afterHead
          obtain ⟨rfl, afterArgs⟩ := Listing.eq_of_text_append readable plain.1 plain'.1 afterHead
          obtain ⟨rfl, afterAll⟩ := retReadable plain.2 ret' plain'.2 rest rest' follows follows'
            (List.cons.inj afterArgs).2
          exact ⟨rfl, afterAll⟩
      | _ => cases heads

/-- Types with plain names have the same text only if they are the same, in the order of
entries, their names and the unknown positions. -/
theorem render_eq_render_iff {left right : Ty} (plain : ∀ name ∈ left.names, IsPlain name)
    (plain' : ∀ name ∈ right.names, IsPlain name) :
    left.render = right.render ↔ left = right := by
  constructor
  · intro same
    have noMore : Follows [] := by simp [Follows]
    have texts : left.render.toList ++ [] = right.render.toList ++ [] := by rw [same]
    exact (isReadable left plain right plain' [] [] noMore noMore texts).1
  · intro same
    rw [same]

/-- A record of a callback and a number, under a name that types begin with. -/
private def flat : Ty :=
  .record [("on", .func [] .text), ("struct", .prim .int)]

/-- A record of a callback that returns a record with such a number. -/
private def nested : Ty :=
  .record [("on", .func [] (.record [("struct", .prim .int)]))]

/-- Both texts begin with `struct{on func() str`, but they go on differently. -/
theorem render_ne_of_nested :
    (∀ name ∈ flat.names, IsPlain name) ∧ (∀ name ∈ nested.names, IsPlain name) ∧
      flat.render ≠ nested.render := by
  have plain : ∀ name ∈ flat.names, IsPlain name :=
    fun name member => isPlain_of_identifier (by revert name; decide)
  have plain' : ∀ name ∈ nested.names, IsPlain name :=
    fun name member => isPlain_of_identifier (by revert name; decide)
  refine ⟨plain, plain', fun same => ?_⟩
  cases (render_eq_render_iff plain plain').mp same

/-- A blank in a name can stand for the one before a type. -/
example :
    ¬ IsPlain "a int; b" ∧
      (Ty.record [("a int; b", .text)]).render =
        (Ty.record [("a", .prim .int), ("b", .text)]).render :=
  ⟨by decide, rfl⟩

end Polyflow.Ty
