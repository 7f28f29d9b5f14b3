import NearRtRic.A1.Sequential
import NearRtRic.Library.Runs
import Mathlib.Data.Set.List
import Mathlib.Algebra.Order.BigOperators.Group.List

/-! Which instance ids the listing of a type recovers from the keys. -/

namespace NearRtRic.A1

/-- A map that gives back the same members, each once, shortens none of them. -/
theorem same_members_not_shorter {Item : Type} (size : Item → Nat) (change : Item → Item)
    {items : List Item} (nodup : items.Nodup) (imageNodup : (items.map change).Nodup)
    (same : ∀ item, item ∈ items.map change ↔ item ∈ items)
    (shorter : ∀ item, size (change item) ≤ size item) :
    ∀ item ∈ items, ¬ size (change item) < size item := by
  intro item member less
  have permuted : (items.map change).Perm items :=
    (List.perm_ext_iff_of_nodup imageNodup nodup).mpr same
  have equalSums : ((items.map change).map size).sum = (items.map size).sum :=
    (permuted.map size).sum_eq
  have lessSums : (items.map (fun each => size (change each))).sum < (items.map size).sum :=
    List.sum_lt_sum _ _ (fun each _ => shorter each) ⟨item, member, less⟩
  rw [List.map_map] at equalSums
  exact absurd equalSums (Nat.ne_of_lt lessSums)

theorem prefixesForType_nonempty (policyTypeId : Nat) :
    (prefixesForType policyTypeId).toList ≠ [] := by
  intro empty
  have letters := congrArg List.length empty
  simp [prefixesForType, INSTANCE_PREFIX, String.toList_append] at letters

theorem instanceIdOfKey_cases (policyTypeId : Nat) (policyInstanceId : String) :
    (¬ Text.occursIn (prefixesForType policyTypeId) policyInstanceId →
      instanceIdOfKey (prefixesForType policyTypeId)
        (generateInstanceKey policyTypeId policyInstanceId) = policyInstanceId) ∧
    (Text.occursIn (prefixesForType policyTypeId) policyInstanceId →
      (instanceIdOfKey (prefixesForType policyTypeId)
        (generateInstanceKey policyTypeId policyInstanceId)).toList.length <
          policyInstanceId.toList.length) := by
  have glued : generateInstanceKey policyTypeId policyInstanceId =
      prefixesForType policyTypeId ++ policyInstanceId := rfl
  rcases Text.split_second (prefixesForType policyTypeId) policyInstanceId
    (prefixesForType_nonempty policyTypeId) with ⟨second, rest, pieces, whole, cut⟩
  rw [instanceIdOfKey, glued, pieces]
  exact ⟨whole, cut⟩

theorem found_keys_of_type (sdl : KeyValue Json) (policyTypeId : Nat) :
    ∃ stored : List String,
      (sdl.findAndGet (prefixesForType policyTypeId)).map Prod.fst =
        stored.map (generateInstanceKey policyTypeId) ∧
      stored.Nodup ∧
      ∀ policyInstanceId, policyInstanceId ∈ stored ↔
        (sdl.get (generateInstanceKey policyTypeId policyInstanceId)).isSome := by
  have spelled : (sdl.findAndGet (prefixesForType policyTypeId)).map Prod.fst ∈
      Set.range (List.map (generateInstanceKey policyTypeId : String → String)) := by
    rw [Set.range_list_map]
    intro key member
    rcases (KeyValue.mem_findAndGet_keys _ _ _).mp member with ⟨_, starts⟩
    rcases (startswith_prefixesForType _ _).mp starts with ⟨policyInstanceId, rfl⟩
    exact ⟨policyInstanceId, rfl⟩
  rcases spelled with ⟨stored, keys⟩
  have keysNodup := KeyValue.findAndGet_keys_nodup sdl (prefixesForType policyTypeId)
  rw [← keys] at keysNodup
  refine ⟨stored, keys.symm, List.Nodup.of_map _ keysNodup, ?_⟩
  intro policyInstanceId
  have held := KeyValue.mem_findAndGet_keys sdl (prefixesForType policyTypeId)
    (generateInstanceKey policyTypeId policyInstanceId)
  rw [← keys, instance_key_startswith] at held
  rw [List.mem_map] at held
  constructor
  · intro member
    exact (held.mp ⟨policyInstanceId, member, rfl⟩).1
  · intro present
    rcases held.mpr ⟨present, rfl⟩ with ⟨other, member, equal⟩
    rw [← (instance_key_injective equal).2]
    exact member

/-- `get_instance_list` answers the ids stored under the type, each once, and nothing else. -/
def ListsExactly (world : World) (policyTypeId : Nat) : Prop :=
  ∃ ids, (getInstanceList policyTypeId).run service world = (.ok ids, world) ∧ ids.Nodup ∧
    ∀ policyInstanceId : String, policyInstanceId ∈ ids ↔
      (world.sdl.get (generateInstanceKey policyTypeId policyInstanceId)).isSome

/-- `delete_policy_type` alone removes the type just where no instance of it is stored. -/
def DeletesJustEmpty (settings : Settings) (world : World) (policyTypeId : Nat) : Prop :=
  (step settings world (.request (.deletePolicyType policyTypeId))).sdl.get
    (generateTypeKey policyTypeId) = none ↔ Empty world.sdl policyTypeId

variable {world : World} {policyTypeId : Nat}

theorem deletes_just_empty (settings : Settings)
    (typed : (world.sdl.get (generateTypeKey policyTypeId)).isSome) :
    DeletesJustEmpty settings world policyTypeId := by
  rcases Option.isSome_iff_exists.mp typed with ⟨typeBody, present⟩
  have ended : step settings world (.request (.deletePolicyType policyTypeId)) =
      ((deletePolicyType policyTypeId).run service world).2 :=
    Program.run_bind_done service _ (fun _ => Json.null) world
  rw [DeletesJustEmpty, ended]
  by_cases empty : Empty world.sdl policyTypeId
  · rw [deletePolicyType_run present empty]
    simp [empty]
  · rw [deletePolicyType_refuses present empty]
    simp [empty, present]

theorem lists_exactly_iff (typed : (world.sdl.get (generateTypeKey policyTypeId)).isSome) :
    ListsExactly world policyTypeId ↔
      ∀ policyInstanceId : String,
        (world.sdl.get (generateInstanceKey policyTypeId policyInstanceId)).isSome →
          ¬ Text.occursIn (prefixesForType policyTypeId) policyInstanceId := by
  rcases Option.isSome_iff_exists.mp typed with ⟨typeBody, present⟩
  rcases found_keys_of_type world.sdl policyTypeId with ⟨stored, keys, nodup, members⟩
  let recovered : String → String := fun policyInstanceId =>
    instanceIdOfKey (prefixesForType policyTypeId)
      (generateInstanceKey policyTypeId policyInstanceId)
  have listed : (getInstanceList policyTypeId).run service world =
      (.ok (stored.map recovered), world) := by
    have mapped : (world.sdl.findAndGet (prefixesForType policyTypeId)).map
        (fun entry => instanceIdOfKey (prefixesForType policyTypeId) entry.1) =
          stored.map recovered := by
      calc
        _ = ((world.sdl.findAndGet (prefixesForType policyTypeId)).map Prod.fst).map
              (instanceIdOfKey (prefixesForType policyTypeId)) := by
          simp only [List.map_map, Function.comp_def]
        _ = (stored.map (generateInstanceKey policyTypeId)).map
              (instanceIdOfKey (prefixesForType policyTypeId)) := by rw [keys]
        _ = stored.map recovered := by
          simp only [List.map_map, Function.comp_def, recovered]
    rw [getInstanceList_run present, mapped]
  constructor
  · intro exactly policyInstanceId held occurs
    rcases exactly with ⟨ids, answered, idsNodup, ids_members⟩
    rw [listed] at answered
    have same : stored.map recovered = ids := by simpa using answered
    subst same
    have shorter : ∀ id : String, (recovered id).toList.length ≤ id.toList.length := by
      intro id
      by_cases inside : Text.occursIn (prefixesForType policyTypeId) id
      · exact Nat.le_of_lt ((instanceIdOfKey_cases policyTypeId id).2 inside)
      · exact Nat.le_of_eq (congrArg (fun text => text.toList.length)
          ((instanceIdOfKey_cases policyTypeId id).1 inside))
    apply same_members_not_shorter (fun id : String => id.toList.length) recovered nodup idsNodup
      (fun id => (ids_members id).trans (members id).symm) shorter policyInstanceId
      ((members policyInstanceId).mpr held)
    exact (instanceIdOfKey_cases policyTypeId policyInstanceId).2 occurs
  · intro plain
    have each : ∀ id ∈ stored, recovered id = id := by
      intro id member
      exact (instanceIdOfKey_cases policyTypeId id).1 (plain id ((members id).mp member))
    have spelled : stored.map recovered = stored :=
      (List.map_congr_left each).trans (List.map_id' stored)
    refine ⟨stored, ?_, nodup, members⟩
    rw [listed, spelled]

/-- In every reachable store: the listing of a type is exact, and the type is only deleted when
empty, just where no id stored under the type has the prefix of the instance keys inside it. -/
theorem instance_listing_exact_iff_ids_uncut (settings : Settings)
    (operations : List Operation) (policyTypeId : Nat)
    (typed : ((Runs.run (step settings) World.empty operations).sdl.get
      (generateTypeKey policyTypeId)).isSome) :
    (ListsExactly (Runs.run (step settings) World.empty operations) policyTypeId ∧
        DeletesJustEmpty settings (Runs.run (step settings) World.empty operations)
          policyTypeId) ↔
      ∀ policyInstanceId : String,
        ((Runs.run (step settings) World.empty operations).sdl.get
          (generateInstanceKey policyTypeId policyInstanceId)).isSome →
          ¬ Text.occursIn (prefixesForType policyTypeId) policyInstanceId := by
  constructor
  · intro claimed
    exact (lists_exactly_iff typed).mp claimed.1
  · intro plain
    exact ⟨(lists_exactly_iff typed).mpr plain, deletes_just_empty settings typed⟩

theorem plain_instance_listed :
    ListsExactly
      (Runs.run (step {}) World.empty
        [.request (.storePolicyType 1 [("policy_type_id", .int 1)]),
          .request (.storePolicyInstance 1 "x.y" [] "0.0")]) 1 := by
  refine ((instance_listing_exact_iff_ids_uncut {} _ 1 (by decide +kernel)).mpr ?_).1
  intro policyInstanceId held
  have keys : ((Runs.run (step {}) World.empty
      [.request (.storePolicyType 1 [("policy_type_id", .int 1)]),
        .request (.storePolicyInstance 1 "x.y" [] "0.0")]).sdl.findAndGet
          (prefixesForType 1)).map Prod.fst = [generateInstanceKey 1 "x.y"] := by decide +kernel
  have member := (KeyValue.mem_findAndGet_keys _ (prefixesForType 1) _).mpr
    ⟨held, (instance_key_startswith 1 1 policyInstanceId).mpr rfl⟩
  rw [keys, List.mem_singleton] at member
  rw [(instance_key_injective member).2]
  decide

/-- An id with the prefix inside it is listed as the text before that prefix. -/
theorem inner_prefix_cuts_the_listing :
    ¬ ListsExactly
      (Runs.run (step {}) World.empty
        [.request (.storePolicyType 1 [("policy_type_id", .int 1)]),
          .request (.storePolicyInstance 1 "xa1.policy_instance.1.y" [] "0.0")]) 1 := by
  intro exactly
  rcases exactly with ⟨ids, answered, _, members⟩
  have listed : ids = ["x"] := by
    injection answered with returned _
    injection returned with same
    exact same.symm
  have missing := (members "xa1.policy_instance.1.y").mpr (by decide +kernel)
  rw [listed] at missing
  exact absurd missing (by decide)

end NearRtRic.A1
