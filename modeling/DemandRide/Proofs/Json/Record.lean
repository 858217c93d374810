import DemandRide.Json.Record
import Mathlib.Data.List.Nodup
import Mathlib.Data.Option.Defs

/-! Records that are read from what was written for them. Values are held between writing and
reading, and what holds them may put the members of an object in another order. A record is
written with every name at most once, so that its fields are found under their names all the
same. -/
namespace DemandRide.Json

variable {α β : Type}

mutual

/-- The same value, but perhaps for the order of members, at any depth. -/
inductive Rearranged : Json α → Json α → Prop where
  | same (json : Json α) : Rearranged json json
  | arr {items others : List (Json α)} (hItems : RearrangedItems items others) :
      Rearranged (.arr items) (.arr others)
  | obj {members between others : List (String × Json α)}
      (hMembers : RearrangedMembers members between) (hOrder : between.Perm others) :
      Rearranged (.obj members) (.obj others)

inductive RearrangedItems : List (Json α) → List (Json α) → Prop where
  | nil : RearrangedItems [] []
  | cons {item other : Json α} {items others : List (Json α)} (hFirst : Rearranged item other)
      (hRest : RearrangedItems items others) : RearrangedItems (item :: items) (other :: others)

inductive RearrangedMembers : List (String × Json α) → List (String × Json α) → Prop where
  | nil : RearrangedMembers [] []
  | cons (name : String) {value other : Json α} {members others : List (String × Json α)}
      (hFirst : Rearranged value other) (hRest : RearrangedMembers members others) :
      RearrangedMembers ((name, value) :: members) ((name, other) :: others)

end

theorem RearrangedMembers.same (members : List (String × Json α)) :
    RearrangedMembers members members := by
  induction members with
  | nil => exact .nil
  | cons entry rest ih => exact .cons entry.1 (.same entry.2) ih

theorem RearrangedItems.same (items : List (Json α)) : RearrangedItems items items := by
  induction items with
  | nil => exact .nil
  | cons item rest ih => exact .cons (.same item) ih

theorem exists_of_rearranged_arr {items : List (Json α)} {json : Json α}
    (h : Rearranged (.arr items) json) : ∃ others, RearrangedItems items others ∧
      json = .arr others := by
  cases h with
  | same => exact ⟨items, .same items, rfl⟩
  | arr hItems => exact ⟨_, hItems, rfl⟩

theorem exists_of_rearranged_obj {members : List (String × Json α)} {json : Json α}
    (h : Rearranged (.obj members) json) : ∃ between others, RearrangedMembers members between ∧
      between.Perm others ∧ json = .obj others := by
  cases h with
  | same => exact ⟨members, members, .same members, .refl _, rfl⟩
  | obj hMembers hOrder => exact ⟨_, _, hMembers, hOrder, rfl⟩

theorem readableItems_iff {items : List (Json α)} :
    readableItems items ↔ ∀ item ∈ items, item.readable := by
  induction items with
  | nil => simp [readableItems]
  | cons item rest ih => simp [readableItems, ih]

theorem readableMembers_iff {members : List (String × Json α)} :
    readableMembers members ↔ ∀ entry ∈ members, entry.2.readable := by
  induction members with
  | nil => simp [readableMembers]
  | cons entry rest ih => simp [readableMembers, ih]

mutual

theorem Rearranged.readable {json other : Json α} (h : Rearranged json other)
    (hReadable : json.readable) : other.readable := by
  cases h with
  | same => exact hReadable
  | arr hItems => exact hItems.readable hReadable
  | obj hMembers hOrder =>
      have hBetween := readableMembers_iff.mp (hMembers.readable hReadable)
      exact readableMembers_iff.mpr fun entry hEntry => hBetween entry (hOrder.mem_iff.mpr hEntry)

theorem RearrangedItems.readable {items others : List (Json α)} (h : RearrangedItems items others)
    (hReadable : readableItems items) : readableItems others := by
  cases h with
  | nil => exact hReadable
  | cons hFirst hRest =>
      obtain ⟨hItem, hItems⟩ := Bool.and_eq_true_iff.mp hReadable
      exact Bool.and_eq_true_iff.mpr ⟨hFirst.readable hItem, hRest.readable hItems⟩

theorem RearrangedMembers.readable {members others : List (String × Json α)}
    (h : RearrangedMembers members others) (hReadable : readableMembers members) :
    readableMembers others := by
  cases h with
  | nil => exact hReadable
  | cons name hFirst hRest =>
      obtain ⟨hValue, hMembers⟩ := Bool.and_eq_true_iff.mp hReadable
      exact Bool.and_eq_true_iff.mpr ⟨hFirst.readable hValue, hRest.readable hMembers⟩

end

section Members

variable {members others : List (String × Json α)} {name : String}

theorem RearrangedMembers.map_fst (h : RearrangedMembers members others) :
    others.map Prod.fst = members.map Prod.fst := by
  induction members generalizing others with
  | nil =>
      cases h
      rfl
  | cons entry rest ih =>
      cases h with
      | cons name _ hRest => rw [List.map_cons, List.map_cons, ih hRest]

/-- Under every name there is the same value or nothing. -/
theorem RearrangedMembers.lookup (h : RearrangedMembers members others) (name : String) :
    Option.Rel Rearranged (members.lookup name) (others.lookup name) := by
  induction members generalizing others with
  | nil =>
      cases h
      exact .none
  | cons entry rest ih =>
      cases h with
      | cons first hFirst hRest =>
          rw [List.lookup_cons, List.lookup_cons]
          split
          · exact .some hFirst
          · exact ih hRest

/-- Where names differ a member is found under its name, wherever it stands. -/
theorem lookup_eq_some_iff (hNodup : (members.map Prod.fst).Nodup) {value : Json α} :
    members.lookup name = some value ↔ (name, value) ∈ members := by
  induction members with
  | nil => simp
  | cons entry rest ih =>
      obtain ⟨hAbsent, hRest⟩ := List.nodup_cons.mp hNodup
      obtain ⟨first, found⟩ := entry
      rw [List.lookup_cons, List.mem_cons, Prod.mk.injEq]
      by_cases hName : name = first
      · subst hName
        have hElsewhere : (name, value) ∉ rest := fun hMem =>
          hAbsent (List.mem_map.mpr ⟨_, hMem, rfl⟩)
        simp [hElsewhere, eq_comm]
      · rw [beq_eq_false_iff_ne.mpr hName]
        simp [hName, ih hRest]

theorem lookup_perm (hNodup : (members.map Prod.fst).Nodup) (h : members.Perm others)
    (name : String) : others.lookup name = members.lookup name := by
  have hOther : (others.map Prod.fst).Nodup := (h.map Prod.fst).nodup_iff.mp hNodup
  refine Option.ext fun value => ?_
  rw [lookup_eq_some_iff hOther, lookup_eq_some_iff hNodup, h.mem_iff]

theorem occurrences_eq_count : occurrences name members = (members.map Prod.fst).count name := by
  rw [occurrences, ← List.countP_eq_length_filter, List.count, List.countP_map]
  rfl

/-- A name that stands at most once is found alike from either end. -/
theorem last?_eq_lookup (h : occurrences name members ≤ 1) :
    last? name members = members.lookup name := by
  induction members with
  | nil => rfl
  | cons entry rest ih =>
      obtain ⟨first, value⟩ := entry
      rw [occurrences_eq_count, List.map_cons] at h
      rw [last?, List.reverse_cons, List.lookup_append, List.lookup_cons, List.lookup_cons,
        List.lookup_nil]
      by_cases hName : name = first
      · subst hName
        rw [List.count_cons_self] at h
        have hElsewhere : name ∉ rest.map Prod.fst := List.count_eq_zero.mp (by omega)
        have hNone : rest.reverse.lookup name = none := by
          refine List.lookup_eq_none_iff.mpr fun entry hEntry => bne_iff_ne.mpr ?_
          rintro rfl
          exact hElsewhere (List.mem_map_of_mem (List.mem_reverse.mp hEntry))
        rw [hNone, beq_self_eq_true, Option.none_or]
      · have hRest : occurrences name rest ≤ 1 := by
          rwa [List.count_cons_of_ne (Ne.symm hName), ← occurrences_eq_count] at h
        rw [beq_eq_false_iff_ne.mpr hName, ← ih hRest, last?, Option.or_none]

/-- An object whose names differ is a record under any field names. -/
theorem fields?_obj (hNodup : (members.map Prod.fst).Nodup) (names : List String) :
    fields? names (.obj members) = some fun name => members.lookup name := by
  refine if_pos (List.all_eq_true.mpr fun name _ => decide_eq_true ?_)
  rw [occurrences_eq_count]
  exact List.nodup_iff_count_le_one.mp hNodup name

/-- The fields of a record are found under their names when its members are rearranged. -/
theorem fields?_of_rearranged (names : List String) (hNodup : (members.map Prod.fst).Nodup)
    {json : Json α} (h : Rearranged (.obj members) json) :
    ∃ field, fields? names json = some field ∧
      ∀ name, Option.Rel Rearranged (members.lookup name) (field name) := by
  -- The values change under the same names first, and then the members change places.
  obtain ⟨between, others, hMembers, hOrder, rfl⟩ := exists_of_rearranged_obj h
  have hBetween : (between.map Prod.fst).Nodup := hMembers.map_fst ▸ hNodup
  have hOthers : (others.map Prod.fst).Nodup := (hOrder.map Prod.fst).nodup_iff.mp hBetween
  refine ⟨_, fields?_obj hOthers names, fun name => ?_⟩
  rw [lookup_perm hBetween hOrder]
  exact hMembers.lookup name

/-- A member with a name of its own is there once, and without it the other members are left. -/
theorem tag_of_rearranged {tag : String} {value : Json α}
    (hNodup : (tag :: members.map Prod.fst).Nodup) {json : Json α}
    (h : Rearranged (.obj ((tag, value) :: members)) json) :
    ∃ others found, json = .obj others ∧ occurrences tag others = 1 ∧
      others.lookup tag = some found ∧ Rearranged value found ∧
      Rearranged (.obj members) (.obj (others.filter fun entry => entry.1 != tag)) := by
  obtain ⟨_, others, hMembers, hOrder, rfl⟩ := exists_of_rearranged_obj h
  cases hMembers with
  | @cons _ _ other _ between hFirst hRest =>
      have hNames : (((tag, other) :: between).map Prod.fst).Nodup := by
        rw [List.map_cons, hRest.map_fst]
        exact hNodup
      obtain ⟨hAbsent, -⟩ := List.nodup_cons.mp hNames
      refine ⟨others, other, rfl, ?_, ?_, hFirst, ?_⟩
      · rw [occurrences_eq_count, ← (hOrder.map Prod.fst).count_eq]
        exact List.count_eq_one_of_mem hNames List.mem_cons_self
      · rw [lookup_perm hNames hOrder, List.lookup_cons_self]
      · refine .obj hRest ?_
        have hKept : ((tag, other) :: between).filter (fun entry => entry.1 != tag) = between := by
          rw [List.filter_cons_of_neg (by simp), List.filter_eq_self]
          intro entry hEntry
          refine bne_iff_ne.mpr fun hTag => hAbsent ?_
          exact List.mem_map.mpr ⟨entry, hEntry, hTag⟩
        have hFiltered := hOrder.filter fun entry => entry.1 != tag
        rwa [hKept] at hFiltered

end Members

/-- The members of an object that are there. -/
def present (members : List (String × Option (Json α))) : List (String × Json α) :=
  members.filterMap fun entry => entry.2.map fun value => (entry.1, value)

theorem object_eq (members : List (String × Option (Json α))) :
    object members = .obj (present members) := rfl

section Present

variable {members : List (String × Option (Json α))}

/-- What is there is listed. -/
theorem sublist_present : ((present members).map Prod.fst).Sublist (members.map Prod.fst) := by
  induction members with
  | nil => exact .slnil
  | cons entry rest ih =>
      obtain ⟨name, value⟩ := entry
      cases value with
      | none => exact ih.cons name
      | some value => exact ih.cons_cons name

/-- A member that is listed is found under its name if it is there. -/
theorem lookup_present (hNodup : (members.map Prod.fst).Nodup) (name : String) :
    (present members).lookup name = (members.lookup name).join := by
  induction members with
  | nil => rfl
  | cons entry rest ih =>
      obtain ⟨hAbsent, hRest⟩ := List.nodup_cons.mp hNodup
      obtain ⟨first, value⟩ := entry
      rw [List.lookup_cons]
      by_cases hName : name = first
      · subst hName
        rw [beq_self_eq_true]
        cases value with
        | none =>
            refine List.lookup_eq_none_iff.mpr fun entry hEntry => bne_iff_ne.mpr ?_
            rintro rfl
            exact hAbsent (sublist_present.subset (List.mem_map_of_mem hEntry))
        | some value => exact List.lookup_cons_self
      · rw [beq_eq_false_iff_ne.mpr hName, ← ih hRest]
        cases value with
        | none => rfl
        | some value =>
            change ((first, value) :: present rest).lookup name = _
            rw [List.lookup_cons, beq_eq_false_iff_ne.mpr hName]

/-- The fields of a record, some of which may be left out, are found under their names or not at
all. -/
theorem fields?_of_rearranged_object (names : List String)
    (hNodup : (members.map Prod.fst).Nodup) {json : Json α} (h : Rearranged (object members) json) :
    ∃ field, fields? names json = some field ∧
      ∀ name, Option.Rel Rearranged (members.lookup name).join (field name) := by
  obtain ⟨field, hFields, hField⟩ :=
    fields?_of_rearranged names (sublist_present.nodup hNodup) h
  refine ⟨field, hFields, fun name => ?_⟩
  rw [← lookup_present hNodup]
  exact hField name

theorem readable_object : (object members).readable ↔
    ∀ entry ∈ members, ∀ value ∈ entry.2, value.readable := by
  rw [object_eq, readable, readableMembers_iff]
  constructor
  · rintro h ⟨name, _⟩ hEntry value rfl
    exact h (name, value) (List.mem_filterMap.mpr ⟨_, hEntry, rfl⟩)
  · intro h entry hEntry
    obtain ⟨⟨name, written⟩, hListed, hThere⟩ := List.mem_filterMap.mp hEntry
    obtain ⟨value, rfl, rfl⟩ := Option.map_eq_some_iff.mp hThere
    exact h _ hListed value rfl

end Present

theorem readable_number [Scalar α] (x : α) : (number x).readable := by
  unfold number
  split <;> rfl

/-- What is written for a value whose numbers are all finite is read as this value, in whatever
order the members of its objects are held. -/
def ReadsBack [Scalar α] (numbers : β → List α) (write : β → Json α) (read : Json α → Option β) :
    Prop :=
  ∀ b, (∀ n ∈ numbers b, Scalar.isFinite n) → ∀ json, Rearranged (write b) json →
    read json = some b

namespace ReadsBack

variable [Scalar α]

theorem number : ReadsBack (fun x => [x]) Json.number (toNumber? : Json α → Option α) := by
  intro x hFinite json hJson
  rw [Json.number, if_pos (hFinite x List.mem_cons_self)] at hJson
  cases hJson
  rfl

theorem text : ReadsBack (fun _ => []) Json.str (toText? : Json α → Option String) := by
  intro value _ json hJson
  cases hJson
  rfl

theorem bool : ReadsBack (fun _ => []) Json.bool (toBool? : Json α → Option Bool) := by
  intro value _ json hJson
  cases hJson
  rfl

theorem nat : ReadsBack (fun _ => []) (fun count : Nat => .int count)
    (toNat? : Json α → Option Nat) := by
  intro count _ json hJson
  cases hJson
  rfl

variable {numbers : β → List α} {write : β → Json α} {read : Json α → Option β}

/-- A list is read item by item. -/
theorem list (h : ReadsBack numbers write read) :
    ReadsBack (List.flatMap numbers) (fun bs => .arr (bs.map write)) (toList? read) := by
  intro bs hFinite json hJson
  obtain ⟨others, hItems, rfl⟩ := exists_of_rearranged_arr hJson
  clear hJson
  change others.mapM read = some bs
  induction bs generalizing others with
  | nil =>
      cases hItems
      rfl
  | cons b rest ih =>
      obtain ⟨hHead, hTail⟩ := List.forall_mem_append.mp hFinite
      cases hItems with
      | cons hFirst hRest =>
          rw [List.mapM_cons, h b hHead _ hFirst, ih hTail _ hRest]
          rfl

section Fields

variable (h : ReadsBack numbers write read) {field : Option (Json α)}

include h

theorem required {b : β} (hFinite : ∀ n ∈ numbers b, Scalar.isFinite n)
    (hField : Option.Rel Rearranged (some (write b)) field) :
    Json.required read field = some b := by
  cases hField with
  | some hJson => exact h b hFinite _ hJson

/-- A default is not looked at where something is written. -/
theorem withDefault {b : β} (hFinite : ∀ n ∈ numbers b, Scalar.isFinite n)
    (hField : Option.Rel Rearranged (some (write b)) field) (default : β) :
    Json.withDefault default read field = some b := by
  cases hField with
  | some hJson => exact h b hFinite _ hJson

/-- A field that is left out stays out, and no value is written as if it were. -/
theorem optional {o : Option β} (hNull : read .null = none)
    (hFinite : ∀ n ∈ o.toList.flatMap numbers, Scalar.isFinite n)
    (hField : Option.Rel Rearranged (o.map write) field) :
    Json.optional read field = some o := by
  cases o with
  | none =>
      cases hField
      rfl
  | some b =>
      cases hField with
      | @some _ json hJson =>
          have hRead := h b (by simpa using hFinite) json hJson
          cases json with
          | null => cases hNull.symm.trans hRead
          | _ => exact congrArg (Option.map some) hRead

end Fields

end ReadsBack

end DemandRide.Json
