import CardExpr.Json.Node
import CardExpr.Proofs.Store.Snapshot

/-!
Records in JSON. JSON that was read is a tree of nodes again, of which each node has the value that it had; a
record is an object of its fields, or the array of them.
-/

namespace CardExpr

namespace Table

variable {α : Type} {t : Table α} {name : String} {value : α}

theorem insert_last (last : ∀ entry ∈ t, entry.1 < name) : t.insert name value = t ++ [(name, value)] := by
  induction t with
  | nil => rfl
  | cons first rest ih =>
      obtain ⟨before, later⟩ := List.forall_mem_cons.mp last
      unfold Table.insert
      rw [if_neg (ne_of_lt before), if_neg (not_lt_of_gt before), ih later, List.cons_append]

theorem ascending_ofList (entries : List (String × α)) : (ofList entries).Ascending := by
  unfold ofList
  exact List.foldlRecOn entries _ List.Pairwise.nil fun t ascending entry _ =>
    ascending.insert entry.1 entry.2

theorem mem_ofList {entries : List (String × α)} {entry : String × α} (member : entry ∈ ofList entries) :
    entry ∈ entries := by
  have fold (t : Table α) (member : entry ∈ entries.foldl (fun t entry => t.insert entry.1 entry.2) t) :
      entry ∈ t ∨ entry ∈ entries := by
    clear * - member
    induction entries generalizing t with
    | nil => exact .inl member
    | cons first rest ih =>
        rcases ih _ member with present | later
        · rcases mem_insert present with same | old
          · exact .inr (same ▸ List.mem_cons_self)
          · exact .inl old
        · exact .inr (List.mem_cons_of_mem _ later)
  exact (fold [] member).resolve_left List.not_mem_nil

theorem ofList_eq_self (ascending : t.Ascending) : ofList t = t := by
  have fold (front back : Table α) (ascending : (front ++ back).Ascending) :
      back.foldl (fun t entry => t.insert entry.1 entry.2) front = front ++ back := by
    induction back generalizing front with
    | nil => exact (List.append_nil front).symm
    | cons entry rest ih =>
        have before : ∀ old ∈ front, old.1 < entry.1 := fun old member =>
          (List.pairwise_append.mp ascending).2.2 old member entry List.mem_cons_self
        rw [List.foldl_cons, insert_last before, ih, List.append_assoc, List.singleton_append]
        rwa [List.append_assoc, List.singleton_append]
  exact fold [] t ascending

theorem find?_eq_of_mem (ascending : t.Ascending) (present : (name, value) ∈ t) :
    t.find? name = some value := by
  induction t with
  | nil => cases present
  | cons entry rest ih =>
      obtain ⟨key, held⟩ := entry
      obtain ⟨ahead, behind⟩ := List.pairwise_cons.mp ascending
      rw [find?_cons]
      rcases List.mem_cons.mp present with same | later
      · cases same
        rw [if_pos rfl]
      · rw [if_neg (ne_of_lt (ahead _ later)), ih behind later]

theorem find?_eq_none (missing : name ∉ t.map (·.1)) : t.find? name = none := by
  induction t with
  | nil => rfl
  | cons entry rest ih =>
      obtain ⟨key, held⟩ := entry
      obtain ⟨other, later⟩ := not_or.mp (mt List.mem_cons.mpr missing)
      rw [find?_cons, if_neg (Ne.symm other), ih later]

theorem mem_of_find? (found : t.find? name = some value) : (name, value) ∈ t := by
  induction t with
  | nil => cases found
  | cons entry rest ih =>
      obtain ⟨key, held⟩ := entry
      rw [find?_cons] at found
      split at found
      next same =>
        cases found
        exact same ▸ List.mem_cons_self
      next => exact List.mem_cons_of_mem _ (ih found)

theorem Ascending.nodup_keys (ascending : t.Ascending) : (t.map (·.1)).Nodup :=
  List.pairwise_map.mpr (ascending.imp ne_of_lt)

end Table

namespace Json

/-- No more arrays and objects nest than so many, and the names of each object ascend. All JSON that was read
is so. -/
inductive Within : (levels : Nat) → Json → Prop where
  | null (levels : Nat) : Within levels .null
  | bool (levels : Nat) (b : Bool) : Within levels (.bool b)
  | number (levels : Nat) (n : JsonNumber) : Within levels (.number n)
  | string (levels : Nat) (s : String) : Within levels (.string s)
  | array {levels : Nat} {items : List Json} (inside : ∀ json ∈ items, Within levels json) :
      Within (levels + 1) (.array items)
  | object {levels : Nat} {members : List (String × Json)} (ascending : Table.Ascending members)
      (inside : ∀ member ∈ members, Within levels member.2) : Within (levels + 1) (.object members)

namespace Within

variable {levels : Nat}

mutual

theorem of_value? (node : Node) (json : Json) (levels : Nat) (value : node.value? levels = some json) :
    json.Within levels := by
  cases node with
  | null =>
      cases value
      exact .null levels
  | bool b =>
      cases value
      exact .bool levels b
  | number n =>
      obtain ⟨n, -, rfl⟩ := Option.map_eq_some_iff.mp value
      exact .number levels n
  | string s =>
      obtain ⟨s, -, rfl⟩ := Option.map_eq_some_iff.mp value
      exact .string levels s
  | array items =>
      cases levels with
      | zero => cases value
      | succ levels =>
          obtain ⟨jsons, read, rfl⟩ := Option.map_eq_some_iff.mp value
          exact .array (of_items? items jsons levels read)
  | object members =>
      cases levels with
      | zero => cases value
      | succ levels =>
          obtain ⟨entries, read, rfl⟩ := Option.map_eq_some_iff.mp value
          refine .object (Table.ascending_ofList entries) ?_
          intro member present
          exact of_members? members entries levels read member (Table.mem_ofList present)

theorem of_items? (items : List Node) (jsons : List Json) (levels : Nat)
    (read : Node.items? levels items = some jsons) : ∀ json ∈ jsons, json.Within levels := by
  cases items with
  | nil =>
      cases read
      exact fun _ member => absurd member List.not_mem_nil
  | cons item rest =>
      obtain ⟨json, first, later⟩ := Option.bind_eq_some_iff.mp read
      obtain ⟨others, behind, same⟩ := Option.bind_eq_some_iff.mp later
      cases same
      exact List.forall_mem_cons.mpr ⟨of_value? item json levels first, of_items? rest others levels behind⟩

theorem of_members? (members : List (Option String × Node)) (entries : List (String × Json)) (levels : Nat)
    (read : Node.members? levels members = some entries) : ∀ entry ∈ entries, entry.2.Within levels := by
  cases members with
  | nil =>
      cases read
      exact fun _ member => absurd member List.not_mem_nil
  | cons member rest =>
      obtain ⟨key, node⟩ := member
      obtain ⟨name, -, valued⟩ := Option.bind_eq_some_iff.mp read
      obtain ⟨json, first, later⟩ := Option.bind_eq_some_iff.mp valued
      obtain ⟨others, behind, same⟩ := Option.bind_eq_some_iff.mp later
      cases same
      exact List.forall_mem_cons.mpr ⟨of_value? node json levels first, of_members? rest others levels behind⟩

end

end Within

theorem within_of_read {text : String} {json : Json} (read : Json.read? text = some json) :
    json.Within Node.maxNesting := by
  obtain ⟨node, -, value⟩ := Option.bind_eq_some_iff.mp read
  exact .of_value? node json _ value

namespace Node

theorem ofItems_eq_map (items : List Json) : ofItems items = items.map ofJson := by
  induction items with
  | nil => rfl
  | cons item rest ih => rw [ofItems, ih, List.map_cons]

theorem ofMembers_eq_map (members : List (String × Json)) :
    ofMembers members = members.map fun member => (some member.1, ofJson member.2) := by
  induction members with
  | nil => rfl
  | cons member rest ih => rw [ofMembers, ih, List.map_cons]

theorem items?_ofItems {items : List Json} {levels : Nat}
    (each : ∀ json ∈ items, (ofJson json).value? levels = some json) :
    items? levels (ofItems items) = some items := by
  induction items with
  | nil => rfl
  | cons item rest ih =>
      obtain ⟨here, others⟩ := List.forall_mem_cons.mp each
      rw [ofItems, items?, here, ih others]
      rfl

theorem members?_ofMembers {members : List (String × Json)} {levels : Nat}
    (each : ∀ member ∈ members, (ofJson member.2).value? levels = some member.2) :
    members? levels (ofMembers members) = some members := by
  induction members with
  | nil => rfl
  | cons member rest ih =>
      obtain ⟨here, others⟩ := List.forall_mem_cons.mp each
      rw [ofMembers, members?, here, ih others]
      rfl

/-- The node of a value has that value. -/
theorem value?_ofJson {json : Json} {levels : Nat} (within : json.Within levels) :
    (ofJson json).value? levels = some json := by
  induction within with
  | null => rfl
  | bool => rfl
  | number => rfl
  | string => rfl
  | @array levels items _ ih =>
      show (items? levels (ofItems items)).map Json.array = _
      rw [items?_ofItems ih, Option.map_some]
  | @object levels members ascending _ ih =>
      show (members? levels (ofMembers members)).map (fun entries => Json.object (Table.ofList entries)) = _
      rw [members?_ofMembers ih, Option.map_some, Table.ofList_eq_self ascending]

end Node

/-- A record is an object, or an array of no more than the fields. -/
inductive IsRecord (fields : List String) : Json → Prop where
  | object (members : List (String × Json)) : IsRecord fields (.object members)
  | array {items : List Json} (short : items.length ≤ fields.length) : IsRecord fields (.array items)

/-- What a record has as one of its fields, if anything. Members of an object that are no fields do not count;
an array has the fields in their order, and may end early. -/
inductive HasField (fields : List String) (name : String) : Json → Option Json → Prop where
  | member {members : List (String × Json)} {json : Json} (present : (name, json) ∈ members) :
      HasField fields name (.object members) (some json)
  | absent {members : List (String × Json)} (missing : name ∉ members.map (·.1)) :
      HasField fields name (.object members) none
  | item {items : List Json} {i : Nat} {json : Json} (short : items.length ≤ fields.length)
      (named : fields[i]? = some name) (present : items[i]? = some json) :
      HasField fields name (.array items) (some json)
  | ended {items : List Json} {i : Nat} (short : items.length ≤ fields.length)
      (named : fields[i]? = some name) (missing : items.length ≤ i) :
      HasField fields name (.array items) none

def content? (fields : List String) (name : String) : Json → Option Json
  | .object members => Table.find? members name
  | .array items => items[fields.idxOf name]?
  | _ => none

section Records

variable {fields : List String} {name : String} {json : Json} {content : Option Json} {levels : Nat}

theorem idxOf_eq (distinct : fields.Nodup) {i : Nat} (named : fields[i]? = some name) :
    fields.idxOf name = i := by
  obtain ⟨inside, rfl⟩ := List.getElem?_eq_some_iff.mp named
  exact distinct.idxOf_getElem i inside

/-- A record has one content in each of its fields, and none where it has not the field. -/
theorem hasField_iff (distinct : fields.Nodup) (known : name ∈ fields) (within : json.Within levels) :
    HasField fields name json content ↔ IsRecord fields json ∧ content = content? fields name json := by
  constructor
  · intro has
    cases has with
    | member present =>
        cases within with
        | object ascending => exact ⟨.object _, (Table.find?_eq_of_mem ascending present).symm⟩
    | absent missing => exact ⟨.object _, (Table.find?_eq_none missing).symm⟩
    | item short named present =>
        refine ⟨.array short, ?_⟩
        rw [content?, idxOf_eq distinct named, present]
    | ended short named missing =>
        refine ⟨.array short, ?_⟩
        rw [content?, idxOf_eq distinct named, List.getElem?_eq_none missing]
  · rintro ⟨record, rfl⟩
    cases record with
    | object members =>
        cases found : Table.find? members name with
        | some json =>
            rw [content?, found]
            exact .member (Table.mem_of_find? found)
        | none =>
            rw [content?, found]
            refine .absent fun present => ?_
            obtain ⟨⟨_, json⟩, member, rfl⟩ := List.mem_map.mp present
            cases within with
            | object ascending => cases found.symm.trans (Table.find?_eq_of_mem ascending member)
    | @array items short =>
        have named : fields[fields.idxOf name]? = some name := List.getElem?_idxOf known
        cases found : items[fields.idxOf name]? with
        | some json =>
            rw [content?, found]
            exact .item short named found
        | none =>
            rw [content?, found]
            exact .ended short named (List.getElem?_eq_none_iff.mp found)

theorem HasField.within {inner : Json} (has : HasField fields name json (some inner))
    (within : json.Within (levels + 1)) : inner.Within levels := by
  cases has with
  | member present =>
      cases within with
      | object _ inside => exact inside _ present
  | item _ _ present =>
      cases within with
      | array inside => exact inside _ (List.mem_of_getElem? present)

theorem filter_ofMembers {members : Table Json} (ascending : members.Ascending) (name : String) :
    (Node.ofMembers members).filter (fun m => m.1 == some name) =
      ((members.find? name).map fun json => (some name, Node.ofJson json)).toList := by
  induction members with
  | nil => rfl
  | cons member rest ih =>
      obtain ⟨key, held⟩ := member
      obtain ⟨ahead, behind⟩ := List.pairwise_cons.mp ascending
      rw [Node.ofMembers, List.filter_cons, ih behind, Table.find?_cons]
      by_cases same : key = name
      · subst same
        simp [Table.find?_eq_none_of_before ahead]
      · simp [same]

theorem fields?_of_isRecord (distinct : fields.Nodup) (within : json.Within levels)
    (record : IsRecord fields json) :
    (Node.ofJson json).fields? fields = some (fields.map fun name =>
      (content? fields name json).map Node.ofJson) := by
  cases record with
  | object members =>
      cases within with
      | object ascending =>
          have named : (Node.ofMembers members).any (·.1.isNone) = false := by
            simp [Node.ofMembers_eq_map]
          show (if (Node.ofMembers members).any (·.1.isNone) then none else _) = _
          rw [named, if_neg Bool.false_ne_true]
          refine Eq.trans (congrArg (fun read => fields.mapM read) (funext fun name => ?_)) List.mapM_pure
          rw [filter_ofMembers ascending]
          show _ = some ((Table.find? members name).map Node.ofJson)
          cases Table.find? members name <;> rfl
  | @array items short =>
      show (if (Node.ofItems items).length ≤ fields.length then _ else _) = _
      rw [Node.ofItems_eq_map, List.length_map, if_pos short]
      refine congrArg some (List.ext_getElem (by simp) fun i first second => ?_)
      rw [List.length_map] at second
      simp [content?, distinct.idxOf_getElem i second]

theorem fields?_of_not_isRecord (other : ¬ IsRecord fields json) :
    (Node.ofJson json).fields? fields = none := by
  cases json with
  | object members => exact absurd (.object members) other
  | array items =>
      show (if (Node.ofItems items).length ≤ fields.length then _ else _) = _
      rw [Node.ofItems_eq_map, List.length_map, if_neg fun short => other (.array short)]
  | _ => rfl

/-- The nodes that are read are those of what the record has in its fields. -/
theorem exists_contents (distinct : fields.Nodup) (within : json.Within levels) {nodes : List (Option Node)}
    (read : (Node.ofJson json).fields? fields = some nodes) :
    ∃ contents, List.Forall₂ (fun name content => HasField fields name json content) fields contents ∧
      nodes = contents.map (·.map Node.ofJson) := by
  by_cases record : IsRecord fields json
  · rw [fields?_of_isRecord distinct within record] at read
    refine ⟨fields.map fun name => content? fields name json, ?_, ?_⟩
    · rw [List.forall₂_map_right_iff, List.forall₂_same]
      exact fun name known => (hasField_iff distinct known within).mpr ⟨record, rfl⟩
    · rw [← Option.some.inj read, List.map_map]
      rfl
  · rw [fields?_of_not_isRecord record] at read
    cases read

theorem fields?_eq_some (distinct : fields.Nodup) (within : json.Within levels) (some : fields ≠ [])
    {contents : List (Option Json)}
    (has : List.Forall₂ (fun name content => HasField fields name json content) fields contents) :
    (Node.ofJson json).fields? fields = .some (contents.map (·.map Node.ofJson)) := by
  have each : ∀ names ⊆ fields, ∀ contents,
      List.Forall₂ (fun name content => HasField fields name json content) names contents →
        contents = names.map (content? fields · json) := by
    intro names known contents has
    induction has with
    | nil => rfl
    | cons first _ ih =>
        obtain ⟨here, others⟩ := List.cons_subset.mp known
        rw [List.map_cons, ← ih others, ← ((hasField_iff distinct here within).mp first).2]
  have record : IsRecord fields json := by
    obtain ⟨name, known⟩ := List.exists_mem_of_ne_nil fields some
    obtain ⟨i, inside, rfl⟩ := List.getElem_of_mem known
    exact ((hasField_iff distinct known within).mp (has.get inside (has.length_eq ▸ inside))).1
  rw [fields?_of_isRecord distinct within record, each fields (List.Subset.refl fields) contents has,
    List.map_map]
  rfl

end Records

end Json

end CardExpr
