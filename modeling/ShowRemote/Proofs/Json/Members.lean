import Mathlib
import ShowRemote.Json.Basic

/-!
What settling leaves of the members of an object: the names that stand in it, each at its first
place (`names_settleMembers`), with the values that came last (`lookup_settleMembers`). These two
say all, because members without a repeated name are told by their names and a look-up
(`eq_filterMap_lookup`).
-/

set_option autoImplicit false

namespace ShowRemote.Json

def names (members : List (String × Json)) : List String :=
  members.map Prod.fst

/-- The value of the last member of a name. -/
def last? (name : String) (members : List (String × Json)) : Option Json :=
  (members.filter fun member => member.1 = name).getLast?.map Prod.snd

private theorem last?_concat (name : String) (members : List (String × Json)) (key : String)
    (value : Json) :
    last? name (members ++ [(key, value)]) =
      if name = key then some value else last? name members := by
  by_cases same : key = name
  · subst same
    simp [last?, List.filter_append]
  · have other : ¬ name = key := fun h => same h.symm
    simp [last?, List.filter_append, same, other]

theorem settleValues_eq_map (members : List (String × Json)) :
    settleValues members = members.map fun member => (member.1, member.2.settle) := by
  induction members with
  | nil => rfl
  | cons member rest ih =>
    obtain ⟨key, value⟩ := member
    rw [settleValues, ih, List.map_cons]

private theorem names_settleValues (members : List (String × Json)) :
    names (settleValues members) = names members := by
  rw [settleValues_eq_map, names, names, List.map_map]
  rfl

private theorem last?_settleValues (name : String) (members : List (String × Json)) :
    last? name (settleValues members) = (last? name members).map settle := by
  rw [settleValues_eq_map, last?, last?, List.filter_map, List.getLast?_map, Option.map_map,
    Option.map_map]
  rfl

section Put

variable (key : String) (value : Json)

private theorem names_put (members : List (String × Json)) :
    names (put key value members) =
      if key ∈ names members then names members else names members ++ [key] := by
  induction members with
  | nil => rfl
  | cons member rest ih =>
    obtain ⟨k, v⟩ := member
    by_cases same : k = key
    · subst same
      simp [put, names]
    · have other : ¬ key = k := fun h => same h.symm
      have rest_names : names ((k, v) :: rest) = k :: names rest := rfl
      have put_names : names (put key value ((k, v) :: rest)) =
          k :: names (put key value rest) := by
        rw [put, if_neg same]
        rfl
      rw [put_names, rest_names, ih]
      by_cases mem : key ∈ names rest
      · rw [if_pos mem, if_pos (List.mem_cons_of_mem _ mem)]
      · rw [if_neg mem, if_neg (by simp [other, mem]), List.cons_append]

private theorem put_of_not_mem {members : List (String × Json)} (fresh : key ∉ names members) :
    put key value members = members ++ [(key, value)] := by
  induction members with
  | nil => rfl
  | cons member rest ih =>
    obtain ⟨k, v⟩ := member
    obtain ⟨other, fresh⟩ := List.ne_and_not_mem_of_not_mem_cons fresh
    rw [put, if_neg other.symm, ih fresh, List.cons_append]

private theorem settleMembers_concat (members : List (String × Json)) :
    settleMembers (members ++ [(key, value)]) = put key value (settleMembers members) := by
  rw [settleMembers, List.foldl_append]
  rfl

end Put

private theorem eraseDups_concat (names : List String) (name : String) :
    (names ++ [name]).eraseDups =
      if name ∈ names then names.eraseDups else names.eraseDups ++ [name] := by
  rw [List.eraseDups_append]
  by_cases mem : name ∈ names
  · simp [List.removeAll, mem]
  · simp [List.removeAll, mem, List.eraseDups_cons]

theorem nodup_eraseDups (names : List String) : names.eraseDups.Nodup := by
  induction names using List.reverseRecOn with
  | nil => exact List.nodup_nil
  | append_singleton names name ih =>
    rw [eraseDups_concat]
    split
    · exact ih
    · rename_i fresh
      apply List.Nodup.append ih (List.nodup_singleton name)
      rw [List.disjoint_singleton]
      simpa using fresh

theorem names_settleMembers (members : List (String × Json)) :
    names (settleMembers members) = (names members).eraseDups := by
  induction members using List.reverseRecOn with
  | nil => rfl
  | append_singleton members member ih =>
    obtain ⟨key, value⟩ := member
    have grown : names (members ++ [(key, value)]) = names members ++ [key] := by
      rw [names, List.map_append]
      rfl
    rw [settleMembers_concat, names_put, ih, grown, eraseDups_concat]
    by_cases mem : key ∈ names members
    · rw [if_pos (by simpa using mem), if_pos mem]
    · rw [if_neg (by simpa using mem), if_neg mem]

theorem lookup_settleMembers (name : String) (members : List (String × Json)) :
    (settleMembers members).lookup name = last? name members := by
  induction members using List.reverseRecOn with
  | nil => rfl
  | append_singleton members member ih =>
    obtain ⟨key, value⟩ := member
    rw [settleMembers_concat, lookup_put, ih, last?_concat]

private theorem lookup_of_mem {members : List (String × Json)} (nodup : (names members).Nodup)
    {name : String} {value : Json} (mem : (name, value) ∈ members) :
    members.lookup name = some value := by
  induction members with
  | nil => cases mem
  | cons member rest ih =>
    obtain ⟨key, held⟩ := member
    obtain ⟨fresh, nodup⟩ := List.nodup_cons.mp nodup
    rcases List.mem_cons.mp mem with same | later
    · cases same
      exact List.lookup_cons_self
    · have ne : ¬ name = key := by
        rintro rfl
        exact fresh (List.mem_map.mpr ⟨_, later, rfl⟩)
      rw [List.lookup_cons, beq_false_of_ne ne]
      exact ih nodup later

theorem eq_filterMap_lookup {members : List (String × Json)} (nodup : (names members).Nodup) :
    members = (names members).filterMap fun name => (members.lookup name).map (Prod.mk name) := by
  rw [names, List.filterMap_map]
  have same : ∀ member ∈ members,
      ((fun name => (members.lookup name).map (Prod.mk name)) ∘ Prod.fst) member = some member := by
    rintro ⟨name, value⟩ mem
    show (members.lookup name).map (Prod.mk name) = some (name, value)
    rw [lookup_of_mem nodup mem]
    rfl
  rw [List.filterMap_congr same, List.filterMap_some]

theorem nodup_names_settleMembers (members : List (String × Json)) :
    (names (settleMembers members)).Nodup := by
  rw [names_settleMembers]
  exact nodup_eraseDups (names members)

theorem settleMembers_of_nodup {members : List (String × Json)} (nodup : (names members).Nodup) :
    settleMembers members = members := by
  induction members using List.reverseRecOn with
  | nil => rfl
  | append_singleton members member ih =>
    obtain ⟨key, value⟩ := member
    rw [names, List.map_append, List.nodup_append] at nodup
    obtain ⟨nodup, -, apart⟩ := nodup
    have fresh : key ∉ names members := fun mem => apart key mem key List.mem_cons_self rfl
    rw [settleMembers_concat, ih nodup, put_of_not_mem key value fresh]

theorem settleMembers_settleValues (members : List (String × Json)) :
    settleMembers (settleValues members) =
      (names members).eraseDups.filterMap fun name =>
        (last? name members).map fun value => (name, value.settle) := by
  rw [eq_filterMap_lookup (nodup_names_settleMembers (settleValues members)),
    names_settleMembers, names_settleValues]
  apply List.filterMap_congr
  intro name _
  rw [lookup_settleMembers, last?_settleValues, Option.map_map]
  rfl

/-- The value of the last member of a name, in an object. -/
def lastMember? (name : String) : Json → Option Json
  | .object members => last? name members
  | _ => none

theorem member?_settle (name : String) (document : Json) :
    document.settle.member? name = (document.lastMember? name).map settle := by
  cases document with
  | object members =>
    show (settleMembers (settleValues members)).lookup name = _
    rw [lookup_settleMembers, last?_settleValues]
    rfl
  | null | bool | number | string | array => rfl

end ShowRemote.Json
