/-
# A function over its life

A function is built, perhaps many times, asked whether it is valid and what is known of
it, and nodes are started with it, all in any order, while the nodes that were started
run. Of all this only a building that succeeds changes the function. So what it answers
at any time depends on the last such building only, and a node goes on under the
signature that it was started with.
-/

import Polyflow.Node.Schedule
import Polyflow.Proofs.Lookup.Building

namespace Polyflow.Lookup

/-- Of things side by side, each lives by its own part of what happens, if in one step it
does and none is given up. -/
theorem getElem?_foldl_of_step {σ ι α β : Type} {items : σ → List α} {next : σ → ι → σ}
    {own : ι → Option β} {live : α → List β → α} {index : Nat}
    (live_nil : ∀ item, live item [] = item)
    (live_append : ∀ item first second, live item (first ++ second) = live (live item first) second)
    (grows : ∀ state input, (items state).length ≤ (items (next state input)).length)
    (step : ∀ state input, index < (items state).length →
      (items (next state input))[index]? =
        (items state)[index]?.map (live · ([input].filterMap own)))
    {state : σ} (there : index < (items state).length) (inputs : List ι) :
    (items (inputs.foldl next state))[index]? =
      (items state)[index]?.map (live · (inputs.filterMap own)) := by
  induction inputs generalizing state with
  | nil => simp only [List.foldl_nil, List.filterMap_nil, live_nil, Option.map_id']
  | cons input rest ih =>
      have split : (input :: rest).filterMap own = [input].filterMap own ++ rest.filterMap own :=
        List.filterMap_append (l := [input])
      calc (items (rest.foldl next (next state input)))[index]?
          = (items (next state input))[index]?.map (live · (rest.filterMap own)) :=
            ih (Nat.lt_of_lt_of_le there (grows state input))
        _ = ((items state)[index]?.map (live · ([input].filterMap own))).map
              (live · (rest.filterMap own)) := by rw [step state input there]
        _ = (items state)[index]?.map (live · ((input :: rest).filterMap own)) := by
            simp only [Option.map_map, Function.comp_def, split, live_append]

/-- A node that was started, with the setup that it got then. -/
structure Started where
  setup : Node.Setup
  loop : Node.Loop := {}

/-- A function and the nodes that were started with it, the oldest first. -/
structure Host where
  function : Function := {}
  nodes : List Started := []

/-- What may be done with a function and its nodes. -/
inductive Use
  | build (ty : Ty)
  | validate
  | info
  /-- A node is started whose output holds so many results. -/
  | init (capacity : Option Nat)
  /-- Something happens to a node or to its environment. -/
  | act (node : Nat) (action : Node.Action)

/-- What a use is answered. -/
inductive Reply
  | built (outcome : Except BuildError Ty)
  | validated (outcome : Except BuildError Unit)
  | described (info : Info)
  | started (outcome : Except BuildError Unit)
  | acted

/-- A node after actions of its own and of its environment, as far as they are
possible. -/
def Started.doAll (node : Started) (actions : List Node.Action) : Started :=
  { node with loop := node.loop.doAll node.setup actions }

theorem Started.doAll_append (node : Started) (first second : List Node.Action) :
    node.doAll (first ++ second) = (node.doAll first).doAll second := by
  simp only [doAll, Node.Loop.doAll, List.foldl_append]

namespace Host

/-- The host after a use, and the reply. -/
def use (host : Host) : Use → Host × Reply
  | .build ty =>
    match host.function.build ty with
    | .ok (function, built) => ({ host with function }, .built (.ok built))
    | .error error => (host, .built (.error error))
  | .validate => (host, .validated host.function.validate)
  | .info => (host, .described host.function.info)
  | .init capacity =>
    match host.function.init with
    | .ok signature =>
      ({ host with nodes := host.nodes ++ [⟨⟨signature.out, capacity⟩, {}⟩] }, .started (.ok ()))
    | .error error => (host, .started (.error error))
  | .act node action =>
    ({ host with nodes := host.nodes.modify node (·.doAll [action]) }, .acted)

/-- The host after a sequence of uses. -/
def after (host : Host) (uses : List Use) : Host :=
  uses.foldl (fun host use => (host.use use).1) host

/-- The uses of a sequence, each with its reply. -/
def transcript (host : Host) : List Use → List (Use × Reply)
  | [] => []
  | use :: rest => (use, (host.use use).2) :: (host.use use).1.transcript rest

theorem after_append (host : Host) (first second : List Use) :
    host.after (first ++ second) = (host.after first).after second :=
  List.foldl_append

end Host

/-- The type that a successful building was given, and the one that it answered. -/
def buildOf? : Use × Reply → Option (Ty × Ty)
  | (.build given, .built (.ok answered)) => some (given, answered)
  | _ => none

/-- The last successful building of a transcript. -/
def lastBuild? (transcript : List (Use × Reply)) : Option (Ty × Ty) :=
  (transcript.filterMap buildOf?).getLast?

theorem lastBuild?_cons (first : Use × Reply) (rest : List (Use × Reply)) :
    lastBuild? (first :: rest) = (lastBuild? rest).or (buildOf? first) := by
  cases isBuild : buildOf? first with
  | none => rw [lastBuild?, List.filterMap_cons_none isBuild, Option.or_none, lastBuild?]
  | some build =>
      rw [lastBuild?, List.filterMap_cons_some isBuild, List.getLast?_cons, lastBuild?]
      cases (rest.filterMap buildOf?).getLast? <;> rfl

/-- What a function is after its last successful building, if there was one. -/
inductive StateAfter : Option (Ty × Ty) → Function → Prop
  | unbuilt : StateAfter none {}
  | built {given : Ty} {signature : Signature} (fixes : Signature.ofTy? given = .ok signature) :
      StateAfter (some (given, signature.ty)) ⟨some signature⟩

/-- A use is a successful building, which fixes a signature, or it leaves the function as
it was. -/
theorem Host.use_cases (host : Host) (use : Use) :
    (∃ given signature, Signature.ofTy? given = .ok signature ∧
        buildOf? (use, (host.use use).2) = some (given, signature.ty) ∧
        (host.use use).1.function = ⟨some signature⟩) ∨
      (buildOf? (use, (host.use use).2) = none ∧ (host.use use).1.function = host.function) := by
  cases use with
  | build ty =>
      rw [Host.use]
      cases builds : host.function.build ty with
      | error error => exact .inr ⟨rfl, rfl⟩
      | ok result =>
          obtain ⟨signature, fixes, rfl⟩ := Function.build_eq_ok_iff.mp builds
          exact .inl ⟨ty, signature, fixes, rfl, rfl⟩
  | validate => exact .inr ⟨rfl, rfl⟩
  | info => exact .inr ⟨rfl, rfl⟩
  | init capacity =>
      rw [Host.use]
      cases host.function.init <;> exact .inr ⟨rfl, rfl⟩
  | act node action => exact .inr ⟨rfl, rfl⟩

/-- One use: a successful building sets the state, and nothing else does. -/
theorem StateAfter.use {last : Option (Ty × Ty)} {host : Host}
    (state : StateAfter last host.function) (use : Use) :
    StateAfter ((buildOf? (use, (host.use use).2)).or last) (host.use use).1.function := by
  rcases host.use_cases use with ⟨given, signature, fixes, isBuild, isFunction⟩ |
    ⟨noBuild, isFunction⟩
  · rw [isBuild, isFunction]
    exact .built fixes
  · rw [noBuild, isFunction]
    exact state

/-- All uses: the last successful building sets the state. -/
theorem StateAfter.after {last : Option (Ty × Ty)} {host : Host}
    (state : StateAfter last host.function) (uses : List Use) :
    StateAfter ((lastBuild? (host.transcript uses)).or last) (host.after uses).function := by
  induction uses generalizing host last with
  | nil => exact state
  | cons use rest ih =>
      rw [Host.transcript, lastBuild?_cons, Option.or_assoc]
      exact ih (state.use use)

/-- Whether nodes can be started under a signature that was built, and if not, why. -/
def verdict : Option Signature → Except BuildError Unit
  | none => .error .unspecified
  | some ⟨.record _, _⟩ => .ok ()
  | some ⟨container, _⟩ => .error (.notStruct container)

/-- What was built has a known return type. -/
theorem Signature.out_ne_unknown {ty : Ty} {signature : Signature}
    (fixes : Signature.ofTy? ty = .ok signature) : signature.out ≠ .unknown := by
  obtain ⟨_, _, _, _, _, -, known, -⟩ := exists_parts_of_ofTy? fixes
  exact known

/-- Only the container decides whether what was built is valid. -/
theorem StateAfter.validate {last : Option (Ty × Ty)} {function : Function}
    (state : StateAfter last function) : function.validate = verdict function.signature := by
  cases state with
  | unbuilt => rfl
  | @built given signature fixes =>
      have known : signature.out.isKnown = true :=
        Ty.isKnown_iff.mpr (Signature.out_ne_unknown fixes)
      rw [Function.validate_of_signature, Signature.validate_eq, if_pos known]
      rcases signature with ⟨container, out⟩
      cases container <;> rfl

theorem Function.validate_eq_map_init (function : Function) :
    function.validate = function.init.map fun _ => () := by
  rw [validate]
  cases function.init <;> rfl

/-- A description names what was built, even if it is not valid. -/
theorem StateAfter.described {last : Option (Ty × Ty)} {function : Function}
    (state : StateAfter last function) : function.info.ty = last.map Prod.snd := by
  cases state with
  | unbuilt => rfl
  | built fixes => rfl

theorem Function.info_fault_eq_some_iff {function : Function} {error : BuildError} :
    function.info.fault = some error ↔ function.validate = .error error := by
  rw [info]
  cases function.validate <;> simp

/-- What happens to one node among the uses. -/
def actionsOn (node : Nat) (uses : List Use) : List Node.Action :=
  uses.filterMap fun
    | .act other action => if other = node then some action else none
    | _ => none

namespace Host

variable {host : Host} {node : Nat}

/-- One use changes a node only by what happens to it. -/
theorem nodes_use (there : node < host.nodes.length) (use : Use) :
    (host.use use).1.nodes[node]? =
      host.nodes[node]?.map (·.doAll (actionsOn node [use])) := by
  have idle (nodes : Option Started) : nodes.map (·.doAll []) = nodes := by cases nodes <;> rfl
  cases use with
  | build ty =>
      rw [Host.use]
      cases host.function.build ty <;> exact (idle _).symm
  | validate => exact (idle _).symm
  | info => exact (idle _).symm
  | init capacity =>
      rw [Host.use]
      cases host.function.init with
      | error error => exact (idle _).symm
      | ok signature => exact (List.getElem?_append_left there).trans (idle _).symm
  | act other action =>
      simp only [Host.use, List.getElem?_modify, actionsOn, List.filterMap_cons]
      by_cases same : other = node
      · simp [same]
      · simp [same, idle]

/-- No node is given up. -/
theorem length_nodes_use (host : Host) (use : Use) :
    host.nodes.length ≤ (host.use use).1.nodes.length := by
  cases use with
  | build ty =>
      rw [Host.use]
      cases host.function.build ty <;> exact Nat.le_refl _
  | init capacity =>
      rw [Host.use]
      cases host.function.init <;> simp
  | act node action => simp [Host.use]
  | _ => exact Nat.le_refl _

/-- A node goes on under its own setup, whatever else is done. -/
theorem nodes_after (there : node < host.nodes.length) (uses : List Use) :
    (host.after uses).nodes[node]? = host.nodes[node]?.map (·.doAll (actionsOn node uses)) :=
  getElem?_foldl_of_step (fun _ => rfl) Started.doAll_append length_nodes_use
    (fun _ use there => nodes_use there use) there uses

/-- A node that is started keeps the return type of that moment. -/
theorem nodes_after_init {capacity : Option Nat} {signature : Signature}
    (starts : host.function.init = .ok signature) (uses : List Use) :
    (host.after (.init capacity :: uses)).nodes[host.nodes.length]? =
      some (Started.doAll ⟨⟨signature.out, capacity⟩, {}⟩
        (actionsOn host.nodes.length uses)) := by
  have isNext : (host.use (.init capacity)).1.nodes =
      host.nodes ++ [⟨⟨signature.out, capacity⟩, {}⟩] := by
    rw [Host.use, starts]
  have there : host.nodes.length < (host.use (.init capacity)).1.nodes.length := by
    rw [isNext, List.length_append]
    exact Nat.lt_succ_self _
  rw [after, List.foldl_cons]
  refine (nodes_after there uses).trans ?_
  rw [isNext, List.getElem?_concat_length, Option.map_some]

end Host

/-- What holds of a new function and its nodes after a sequence of uses. -/
structure KeepsToLastBuild (uses : List Use) (host : Host) (last : Option (Ty × Ty)) : Prop where
  /-- The last successful building alone says what the function is. -/
  state : StateAfter last host.function
  /-- Nothing but a successful building changes the function. -/
  unchanged : ∀ use, buildOf? (use, (host.use use).2) = none →
    (host.use use).1.function = host.function
  /-- It is valid if the container of that building is a record; otherwise it is not built,
  or the container is to blame. -/
  validate : host.function.validate = verdict host.function.signature
  /-- Nodes can be started if it is valid, and otherwise fail to for the same reason. -/
  init : host.function.validate = host.function.init.map fun _ => ()
  /-- It is described by what that building answered, valid or not. -/
  described : host.function.info.ty = last.map Prod.snd
  /-- The fault in the description is the reason why it is not valid. -/
  fault : ∀ error, host.function.info.fault = some error ↔ host.function.validate = .error error
  /-- Each node that was started behaves as it would alone under the return type that the
  function had then. -/
  nodes : ∀ (before later : List Use) (capacity : Option Nat) (signature : Signature),
    uses = before ++ .init capacity :: later →
      let earlier := ({} : Host).after before
      earlier.function.init = .ok signature →
        earlier.function.signature = some signature ∧
          host.nodes[earlier.nodes.length]? = some ⟨⟨signature.out, capacity⟩,
            Node.Loop.doAll ⟨signature.out, capacity⟩
              (actionsOn earlier.nodes.length later) {}⟩

/-- A function keeps to its last successful building, and its nodes to the one that they
were started under. -/
theorem keepsToLastBuild_after (uses : List Use) :
    KeepsToLastBuild uses (({} : Host).after uses)
      (lastBuild? (({} : Host).transcript uses)) := by
  have start : StateAfter none ({} : Host).function := .unbuilt
  have state := start.after uses
  rw [Option.or_none] at state
  refine ⟨state, ?_, state.validate, Function.validate_eq_map_init _, state.described,
    fun error => Function.info_fault_eq_some_iff, ?_⟩
  · intro use noBuild
    rcases Host.use_cases _ use with ⟨_, _, -, isBuild, -⟩ | ⟨-, isFunction⟩
    · rw [noBuild] at isBuild
      cases isBuild
    · exact isFunction
  · intro before later capacity signature split earlier starts
    refine ⟨(Function.init_eq_ok_iff.mp starts).1, ?_⟩
    rw [split, Host.after_append]
    exact Host.nodes_after_init starts later

/-- A container that is no record is described, but no node is started with it. -/
example :
    let built := Ty.func [("a", .prim .int), ("b", .text), ("c", .prim .bool)] (.prim .bool)
    let host := ({} : Host).after [.build built, .build .text, .init none]
    host.function.info.ty = some (Signature.ty ⟨.prim .int, .prim .bool⟩) ∧
      host.function.info.fault = some (.notStruct (.prim .int)) ∧ host.nodes = [] :=
  ⟨rfl, rfl, rfl⟩

end Polyflow.Lookup
