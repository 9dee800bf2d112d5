/-
# The registry in use

Names are registered and looked up in any order, and the functions that were looked up are
built and used. A name is taken once and for all, and the listing of the names, the count
and the look-up agree about which names are taken. What is registered is never built itself:
every look-up answers a function that is not built yet, and each of them lives its own life,
whatever is done with the others.
-/

import Polyflow.Registry
import Polyflow.Proofs.Lookup.Lifecycle

namespace Polyflow

namespace Registry

variable {registry later : Registry} {name other : String}

theorem contains_eq_isSome_lookup (registry : Registry) (name : String) :
    registry.contains name = (registry.lookup name).isSome :=
  Std.TreeMap.isSome_getElem?_eq_contains.symm

theorem names_ascending (registry : Registry) : registry.names.Pairwise (· < ·) := by
  have ordered : registry.names.Pairwise fun first second => compare first second = .lt :=
    Std.TreeMap.ordered_keys
  exact ordered.imp compareOfLessAndEq_eq_lt.mp

theorem mem_names_iff : name ∈ registry.names ↔ registry.contains name = true :=
  Std.TreeMap.mem_keys.trans Std.TreeMap.contains_iff_mem.symm

theorem length_names (registry : Registry) : registry.names.length = registry.size :=
  Std.TreeMap.length_keys

theorem isEmpty_iff_size_eq_zero : registry.isEmpty = true ↔ registry.size = 0 := by
  rw [isEmpty, size, Std.TreeMap.isEmpty_eq_size_eq_zero, beq_iff_eq]

/-- A name is refused if it is taken, and for no other reason. -/
theorem register_eq_error_iff {error : AlreadyRegistered} :
    registry.register name = .error error ↔ registry.contains name = true ∧ ⟨name⟩ = error := by
  rw [register, contains]
  split
  case isTrue taken => simp [taken]
  case isFalse free => simp [free]

/-- The name of a registration is found afterwards, and every other name as before. -/
theorem lookup_of_register (registers : registry.register name = .ok later) (other : String) :
    later.lookup other = if name = other then some {} else registry.lookup other := by
  rw [register] at registers
  split at registers
  case isTrue => cases registers
  case isFalse =>
    cases registers
    simp [lookup, Std.TreeMap.getElem?_insert]

/-- Nothing that is registered was built. -/
def HoldsUnbuilt (registry : Registry) : Prop :=
  ∀ name function, registry.lookup name = some function → function = {}

theorem holdsUnbuilt_empty : empty.HoldsUnbuilt := by
  intro name function found
  simp [lookup, empty] at found

theorem holdsUnbuilt_builtin : builtin.HoldsUnbuilt := by
  intro name function found
  rw [lookup, builtin, Std.TreeMap.getElem?_insert] at found
  split at found
  case isTrue => exact (Option.some.inj found).symm
  case isFalse => simp at found

theorem HoldsUnbuilt.register (unbuilt : registry.HoldsUnbuilt)
    (registers : registry.register name = .ok later) : later.HoldsUnbuilt := by
  intro other function found
  rw [lookup_of_register registers] at found
  split at found
  case isTrue => exact (Option.some.inj found).symm
  case isFalse => exact unbuilt other function found

/-- A name that is taken stands for a function that is not built. -/
theorem HoldsUnbuilt.lookup_of_contains (unbuilt : registry.HoldsUnbuilt)
    (taken : registry.contains name = true) : registry.lookup name = some {} := by
  rw [contains_eq_isSome_lookup] at taken
  obtain ⟨function, found⟩ := Option.isSome_iff_exists.mp taken
  rw [found, unbuilt name function found]

end Registry

/-- A registry and the functions that were looked up in it, the oldest first, each with the
nodes that were started with it. -/
structure Desk where
  registry : Registry
  hosts : List Lookup.Host := []

namespace Desk

/-- What may be asked for. -/
inductive Request
  | register (name : String)
  | lookup (name : String)
  /-- One of the functions that were looked up is built, or used otherwise. -/
  | use (index : Nat) (use : Lookup.Use)

open Lookup

/-- What is done with one of the functions. -/
def usesOf (index : Nat) (requests : List Request) : List Use :=
  requests.filterMap fun
    | .use other use => if other = index then some use else none
    | _ => none

/-- The desk after a request. What fails changes nothing. -/
def next (desk : Desk) : Request → Desk
  | .register name =>
    match desk.registry.register name with
    | .ok registry => { desk with registry }
    | .error _ => desk
  | .lookup name =>
    { desk with hosts := desk.hosts ++ (desk.registry.lookup name).toList.map fun function =>
      { function } }
  | .use index use => { desk with hosts := desk.hosts.modify index fun host => (host.use use).1 }

/-- The desk after a sequence of requests. -/
def after (desk : Desk) (requests : List Request) : Desk :=
  requests.foldl next desk

/-- What a function that was looked up reports: whether it is valid, and its description. -/
def report? (desk : Desk) (index : Nat) : Option (Except BuildError Unit × Info) :=
  desk.hosts[index]?.map fun host => (host.function.validate, host.function.info)

variable {desk : Desk} {name : String} {index : Nat}

/-- A request for a registration that succeeds changes the registry so, and no other request
changes it. -/
theorem registry_next (desk : Desk) (request : Request) :
    (∃ name, .register name = request ∧
        desk.registry.register name = .ok (desk.next request).registry) ∨
      ((desk.next request).registry = desk.registry ∧
        ∀ name, .register name = request → desk.registry.contains name = true) := by
  cases request with
  | register name =>
      rw [next]
      cases registers : desk.registry.register name with
      | ok registry => exact .inl ⟨name, rfl, registers⟩
      | error error =>
          refine .inr ⟨rfl, ?_⟩
          rintro _ ⟨rfl⟩
          exact (Registry.register_eq_error_iff.mp registers).1
  | lookup name => exact .inr ⟨rfl, nofun⟩
  | use index use => exact .inr ⟨rfl, nofun⟩

/-- After a request those names are taken that were taken before, and the one that it asks
to register. -/
theorem contains_next (desk : Desk) (request : Request) (name : String) :
    (desk.next request).registry.contains name = true ↔
      desk.registry.contains name = true ∨ .register name = request := by
  rcases desk.registry_next request with ⟨own, rfl, registers⟩ | ⟨unchanged, taken⟩
  · rw [Registry.contains_eq_isSome_lookup, Registry.lookup_of_register registers,
      Registry.contains_eq_isSome_lookup]
    by_cases same : own = name
    · simp [same]
    · simp [same, Ne.symm same]
  · rw [unchanged]
    exact ⟨.inl, (·.elim id (taken name))⟩

theorem holdsUnbuilt_next (unbuilt : desk.registry.HoldsUnbuilt) (request : Request) :
    (desk.next request).registry.HoldsUnbuilt := by
  rcases desk.registry_next request with ⟨own, rfl, registers⟩ | ⟨unchanged, -⟩
  · exact unbuilt.register registers
  · rwa [unchanged]

/-- A request changes a function that was looked up before only by using it. -/
theorem hosts_next (there : index < desk.hosts.length) (request : Request) :
    (desk.next request).hosts[index]? =
      desk.hosts[index]?.map (·.after (usesOf index [request])) := by
  have idle (host : Option Host) : host.map (·.after []) = host := by cases host <;> rfl
  cases request with
  | register name =>
      rw [next]
      cases desk.registry.register name <;> exact (idle _).symm
  | lookup name => exact (List.getElem?_append_left there).trans (idle _).symm
  | use other use =>
      simp only [next, List.getElem?_modify, usesOf, List.filterMap_cons]
      by_cases same : other = index
      · simp [same, Host.after]
      · simp [same, idle]

/-- No function is given up. -/
theorem length_hosts_next (desk : Desk) (request : Request) :
    desk.hosts.length ≤ (desk.next request).hosts.length := by
  cases request with
  | register name =>
      rw [next]
      cases desk.registry.register name <;> exact Nat.le_refl _
  | lookup name => simp [next]
  | use other use => simp [next]

/-- A look-up of a name that is taken answers a function that is not built. -/
theorem hosts_lookup (unbuilt : desk.registry.HoldsUnbuilt)
    (taken : desk.registry.contains name = true) :
    (desk.next (.lookup name)).hosts = desk.hosts ++ [({} : Host)] := by
  rw [next, unbuilt.lookup_of_contains taken]
  rfl

/-- Those names are taken that were taken at the start, and those that were to be
registered. -/
theorem contains_after (desk : Desk) (requests : List Request) (name : String) :
    (desk.after requests).registry.contains name = true ↔
      desk.registry.contains name = true ∨ .register name ∈ requests := by
  induction requests generalizing desk with
  | nil => simp [after]
  | cons request rest ih =>
      have later := ih (desk.next request)
      rw [after, List.foldl_cons, ← after, later, contains_next, List.mem_cons, or_assoc]

theorem holdsUnbuilt_after (unbuilt : desk.registry.HoldsUnbuilt) (requests : List Request) :
    (desk.after requests).registry.HoldsUnbuilt := by
  induction requests generalizing desk with
  | nil => exact unbuilt
  | cons request rest ih => exact ih (holdsUnbuilt_next unbuilt request)

/-- A function that was looked up is what its own uses make of it. -/
theorem hosts_after (there : index < desk.hosts.length) (requests : List Request) :
    (desk.after requests).hosts[index]? =
      desk.hosts[index]?.map (·.after (usesOf index requests)) :=
  getElem?_foldl_of_step (fun _ => rfl) Host.after_append length_hosts_next
    (fun _ request there => hosts_next there request) there requests

/-- What holds of a desk after a sequence of requests. -/
structure Consistent (start : Registry) (requests : List Request) (desk : Desk) : Prop where
  /-- The names that are taken are those of the start and those that were to be registered. -/
  taken : ∀ name, desk.registry.contains name = true ↔
    start.contains name = true ∨ .register name ∈ requests
  /-- A registration fails exactly if its name is taken, and names it. -/
  refused : ∀ name error, desk.registry.register name = .error error ↔
    desk.registry.contains name = true ∧ ⟨name⟩ = error
  /-- A registration that fails changes nothing. -/
  unchanged : ∀ name error, desk.registry.register name = .error error →
    desk.next (.register name) = desk
  /-- The listing of the names is strictly ascending. -/
  ascending : desk.registry.names.Pairwise (· < ·)
  /-- It lists the names that are taken. -/
  listed : ∀ name, name ∈ desk.registry.names ↔ desk.registry.contains name = true
  /-- Those are the names that are found. -/
  found : ∀ name, (desk.registry.lookup name).isSome ↔ desk.registry.contains name = true
  /-- It is as long as there are names. -/
  counted : desk.registry.names.length = desk.registry.size
  isEmpty : desk.registry.isEmpty = true ↔ desk.registry.names = []
  /-- A name that is taken stays so. -/
  stays : ∀ later name, desk.registry.contains name = true →
    (desk.after later).registry.contains name = true
  /-- What is looked up is not built, and says so. -/
  starts : ∀ name, desk.registry.contains name = true →
    (desk.next (.lookup name)).hosts = desk.hosts ++ [({} : Host)] ∧
      (desk.next (.lookup name)).report? desk.hosts.length =
        some (.error .unspecified, ⟨true, false, none, some .unspecified⟩)
  /-- From then on it is what its own uses make of it, as if there were no others. -/
  alone : ∀ name, desk.registry.contains name = true → ∀ later,
    ((desk.next (.lookup name)).after later).hosts[desk.hosts.length]? =
      some (({} : Host).after (usesOf desk.hosts.length later))
  /-- To build one function, or to use it otherwise, changes the report of no other. -/
  apart : ∀ index other use, index ≠ other →
    (desk.next (.use index use)).report? other = desk.report? other

/-- However a registry is used, its accessors agree about the names, and the functions that
were looked up are independent. -/
theorem consistent_after {start : Registry} (isStart : start = .empty ∨ start = .builtin)
    (requests : List Request) :
    Consistent start requests (({ registry := start } : Desk).after requests) := by
  have unbuilt : (({ registry := start } : Desk).after requests).registry.HoldsUnbuilt := by
    apply holdsUnbuilt_after
    rcases isStart with rfl | rfl
    · exact Registry.holdsUnbuilt_empty
    · exact Registry.holdsUnbuilt_builtin
  generalize reached : ({ registry := start } : Desk).after requests = desk at unbuilt
  refine {
    taken := fun name => reached ▸ contains_after _ requests name
    refused := fun name error => Registry.register_eq_error_iff
    unchanged := fun name error fails => by rw [next, fails]
    ascending := Registry.names_ascending _
    listed := fun name => Registry.mem_names_iff
    found := fun name => by rw [Registry.contains_eq_isSome_lookup]
    counted := Registry.length_names _
    isEmpty := ?_
    stays := fun later name taken => (contains_after _ later name).mpr (.inl taken)
    starts := fun name taken => ?_
    alone := fun name taken later => ?_
    apart := fun index other use differs => ?_ }
  · rw [Registry.isEmpty_iff_size_eq_zero, ← Registry.length_names, List.length_eq_zero_iff]
  · have answered := hosts_lookup unbuilt taken
    refine ⟨answered, ?_⟩
    rw [report?, answered, List.getElem?_concat_length]
    rfl
  · have answered := hosts_lookup unbuilt taken
    have there : desk.hosts.length < (desk.next (.lookup name)).hosts.length := by
      rw [answered, List.length_append]
      exact Nat.lt_succ_self _
    rw [hosts_after there, answered, List.getElem?_concat_length, Option.map_some]
  · rw [report?, next, List.getElem?_modify_ne _ _ differs, report?]

/-- Two registrations and one building fail, and only the function that is built is valid. -/
theorem consistent_after_refusals :
    let signature : Signature := ⟨.record [("a", .prim .int)], .prim .int⟩
    let requests := [.register "b", .register Lookup.name, .lookup Lookup.name, .lookup "c",
      .lookup "b", .use 0 (.build signature.ty), .use 1 (.build .text), .register "b"]
    let desk := ({ registry := .builtin } : Desk).after requests
    (Registry.builtin = .empty ∨ Registry.builtin = .builtin) ∧
      Consistent .builtin requests desk ∧
      desk.registry.names = [Lookup.name, "b"] ∧
      desk.report? 0 = some (.ok (), ⟨true, false, some signature.ty, none⟩) ∧
      desk.report? 1 = some (.error .unspecified, ⟨true, false, none, some .unspecified⟩) :=
  ⟨.inr rfl, consistent_after (.inr rfl) _, by decide, rfl, rfl⟩

end Desk

end Polyflow
