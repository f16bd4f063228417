import PathTemplates.Proofs.Entries
import PathTemplates.Requirements

set_option autoImplicit false

/-!
Parameters and requirements as records of a document. What is written of them reads back as it was, down to the kinds of values and the
names without one, and nothing else can be read than what is written, but for the order of the fields.
-/

namespace PathTemplates

-- What a slot stands as in a record.
inductive StandsFor : Datum → Option Value → Prop
  | absent : StandsFor .null none
  | int (n : Int64) : StandsFor (.int n.toInt) (some (.int n))
  | text (s : String) : StandsFor (.text s) (some (.text s))

-- The data that a record of parameters may hold.
inductive SlotDatum : Datum → Prop
  | null : SlotDatum .null
  | text (s : String) : SlotDatum (.text s)
  | int (n : Int) : -2 ^ 63 ≤ n → n < 2 ^ 63 → SlotDatum (.int n)

theorem NameMap.of_list_to_list {α : Type} (map : NameMap α) : ofList map.toList = map := by
  apply get_ext
  intro name
  exact get_of_list map.toList (ascending_distinct _ map.ascending) name

section Record

variable {α : Type} (read : Datum → Option α) (write : α → Datum)

def readFields (fields : List (String × Datum)) : Option (List (String × α)) :=
  fields.mapM fun field => do return (field.1, ← read field.2)

def writeFields (entries : List (String × α)) : List (String × Datum) := entries.map fun entry => (entry.1, write entry.2)

def mapOfDatum? : Datum → Option (NameMap α)
  | .record fields => (readFields read fields).map NameMap.ofList
  | _ => none

def mapToDatum (map : NameMap α) : Datum := .record (writeFields write map.toList)

theorem read_fields_cons (name : String) (datum : Datum) (rest : List (String × Datum)) :
    readFields read ((name, datum) :: rest) =
      (read datum).bind fun a => (readFields read rest).map ((name, a) :: ·) := by
  simp only [readFields, List.mapM_cons]
  cases read datum with
  | none => rfl
  | some a =>
      cases rest.mapM fun field => do return (field.1, ← read field.2) with
      | none => rfl
      | some entries => rfl

theorem read_fields_iff (exact : ∀ datum a, read datum = some a ↔ datum = write a) (fields : List (String × Datum))
    (entries : List (String × α)) : readFields read fields = some entries ↔ fields = writeFields write entries := by
  induction fields generalizing entries with
  | nil => cases entries <;> simp [readFields, writeFields]
  | cons field rest ih =>
      obtain ⟨name, datum⟩ := field
      simp only [read_fields_cons, Option.bind_eq_some_iff, Option.map_eq_some_iff, exact, ih]
      constructor
      · rintro ⟨a, rfl, others, rfl, rfl⟩
        rfl
      · intro written
        cases entries with
        | nil => cases written
        | cons entry others =>
            cases written
            exact ⟨entry.2, rfl, others, rfl, rfl⟩

theorem written_iff (fields : List (String × Datum)) :
    (∃ entries, fields = writeFields write entries) ↔ ∀ field ∈ fields, ∃ a, field.2 = write a := by
  constructor
  · rintro ⟨entries, rfl⟩ field member
    obtain ⟨entry, _, rfl⟩ := List.mem_map.mp member
    exact ⟨entry.2, rfl⟩
  · intro each
    induction fields with
    | nil => exact ⟨[], rfl⟩
    | cons field rest ih =>
        obtain ⟨here, later⟩ := List.forall_mem_cons.mp each
        obtain ⟨a, same⟩ := here
        obtain ⟨entries, rfl⟩ := ih later
        exact ⟨(field.1, a) :: entries, congrArg (· :: _) (Prod.ext rfl same)⟩

variable (exact : ∀ datum a, read datum = some a ↔ datum = write a)

include exact

theorem written_read_back (map : NameMap α) : mapOfDatum? read (mapToDatum write map) = some map := by
  rw [mapToDatum, mapOfDatum?, (read_fields_iff read write exact _ map.toList).mpr rfl, Option.map_some, NameMap.of_list_to_list]

theorem readable_iff (datum : Datum) :
    (∃ map, mapOfDatum? read datum = some map) ↔ ∃ fields, datum = .record fields ∧ ∀ field ∈ fields, ∃ a, field.2 = write a := by
  simp only [← written_iff]
  constructor
  · rintro ⟨map, found⟩
    cases datum with
    | record fields =>
        obtain ⟨entries, entriesRead, _⟩ := Option.map_eq_some_iff.mp found
        exact ⟨fields, rfl, entries, (read_fields_iff read write exact fields entries).mp entriesRead⟩
    | _ => cases found
  · rintro ⟨fields, rfl, entries, written⟩
    rw [mapOfDatum?, (read_fields_iff read write exact fields entries).mpr written]
    exact ⟨_, rfl⟩

-- A record that names each field once is read to its very fields, and is written again of them.
theorem read_written (fields : List (String × Datum)) (distinct : (fields.map (·.1)).Nodup) (map : NameMap α)
    (found : mapOfDatum? read (.record fields) = some map) :
    (∃ written, mapToDatum write map = .record written ∧ written.Perm fields) ∧
      ∀ name a, map.get? name = some a ↔ (name, write a) ∈ fields := by
  obtain ⟨entries, entriesRead, rfl⟩ := Option.map_eq_some_iff.mp found
  obtain rfl := (read_fields_iff read write exact fields entries).mp entriesRead
  have names : (writeFields write entries).map (·.1) = entries.map (·.1) := by simp [writeFields]
  rw [names] at distinct
  refine ⟨⟨_, rfl, (NameMap.of_list_permuted entries distinct).map _⟩, fun name a => ?_⟩
  rw [NameMap.get_of_list entries distinct, ← NameMap.mem_iff_lookup_distinct entries distinct]
  constructor
  · intro member
    exact List.mem_map.mpr ⟨_, member, rfl⟩
  · intro member
    obtain ⟨⟨other, b⟩, inside, same⟩ := List.mem_map.mp member
    obtain ⟨rfl, equal⟩ := Prod.mk.inj same
    have back := (exact (write b) a).mpr equal
    rw [(exact (write b) b).mpr rfl, Option.some.injEq] at back
    exact back ▸ inside

end Record

def slotDatum (slot : Option Value) : Datum := (slot.map Value.toDatum).getD .null

theorem stands_for_iff (datum : Datum) (slot : Option Value) : StandsFor datum slot ↔ datum = slotDatum slot := by
  constructor
  · intro stands
    cases stands <;> rfl
  · rintro rfl
    match slot with
    | none => exact .absent
    | some (.int n) => exact .int n
    | some (.text s) => exact .text s

theorem word_read (n : Int64) : Value.ofDatum? (.int n.toInt) = some (.int n) := by
  have below := n.le_toInt
  have above := n.toInt_lt
  have within : Int64.minValue.toInt ≤ n.toInt ∧ n.toInt ≤ Int64.maxValue.toInt := by
    rw [Int64.toInt_minValue, Int64.toInt_maxValue]
    omega
  rw [Value.ofDatum?, if_pos within, Int64.ofInt_toInt]

theorem value_read (datum : Datum) (value : Value) (read : Value.ofDatum? datum = some value) : datum = value.toDatum := by
  cases datum with
  | int n =>
      obtain ⟨within, same⟩ := Option.ite_none_right_eq_some.mp read
      rw [Int64.toInt_minValue, Int64.toInt_maxValue] at within
      obtain rfl := Option.some.inj same
      rw [Value.toDatum, Int64.toInt_ofInt_of_le (by omega) (by omega)]
  | text s =>
      obtain rfl := Option.some.inj read
      rfl
  | null => cases read
  | bool value => cases read
  | real written => cases read
  | list items => cases read
  | record fields => cases read

theorem present_read (datum : Datum) (present : datum ≠ .null) :
    Params.slotOfDatum? datum = (Value.ofDatum? datum).map some := by
  cases datum with
  | null => exact absurd rfl present
  | _ => rfl

theorem slot_read_iff (datum : Datum) (slot : Option Value) :
    Params.slotOfDatum? datum = some slot ↔ datum = slotDatum slot := by
  constructor
  · intro read
    by_cases absent : datum = .null
    · subst absent
      obtain rfl := Option.some.inj read
      rfl
    · rw [present_read datum absent, Option.map_eq_some_iff] at read
      obtain ⟨value, known, rfl⟩ := read
      exact value_read datum value known
  · rintro rfl
    match slot with
    | none => rfl
    | some (.int n) => exact congrArg (Option.map some) (word_read n)
    | some (.text s) => rfl

theorem pattern_read_iff (datum : Datum) (pattern : String) :
    Requirements.patternOfDatum? datum = some pattern ↔ datum = .text pattern := by
  cases datum <;> simp [Requirements.patternOfDatum?]

theorem slot_datum_iff (datum : Datum) : SlotDatum datum ↔ ∃ slot, datum = slotDatum slot := by
  constructor
  · intro admitted
    cases admitted with
    | null => exact ⟨none, rfl⟩
    | text s => exact ⟨some (.text s), rfl⟩
    | int n below above => exact ⟨some (.int (.ofInt n)), congrArg Datum.int (Int64.toInt_ofInt_of_le below above).symm⟩
  · rintro ⟨slot, rfl⟩
    match slot with
    | none => exact .null
    | some (.int n) => exact .int n.toInt n.le_toInt n.toInt_lt
    | some (.text s) => exact .text s

theorem params_of_datum (datum : Datum) :
    Params.ofDatum? datum = (mapOfDatum? Params.slotOfDatum? datum).map Params.mk := by
  cases datum with
  | record fields =>
      change (readFields Params.slotOfDatum? fields).bind _ = ((readFields Params.slotOfDatum? fields).map _).map _
      cases readFields Params.slotOfDatum? fields <;> rfl
  | _ => rfl

theorem requirements_of_datum (datum : Datum) :
    Requirements.ofDatum? datum = (mapOfDatum? Requirements.patternOfDatum? datum).map Requirements.mk := by
  cases datum with
  | record fields =>
      change (readFields Requirements.patternOfDatum? fields).bind _ =
        ((readFields Requirements.patternOfDatum? fields).map _).map _
      cases readFields Requirements.patternOfDatum? fields <;> rfl
  | _ => rfl

-- Parameters and requirements are a map each and nothing besides.
theorem params_read_iff (datum : Datum) (params : Params) :
    Params.ofDatum? datum = some params ↔ mapOfDatum? Params.slotOfDatum? datum = some params.slots := by
  rw [params_of_datum, Option.map_eq_some_iff]
  exact ⟨fun ⟨_, found, same⟩ => same ▸ found, fun found => ⟨params.slots, found, rfl⟩⟩

theorem requirements_read_iff (datum : Datum) (requirements : Requirements) :
    Requirements.ofDatum? datum = some requirements ↔
      mapOfDatum? Requirements.patternOfDatum? datum = some requirements.patterns := by
  rw [requirements_of_datum, Option.map_eq_some_iff]
  exact ⟨fun ⟨_, found, same⟩ => same ▸ found, fun found => ⟨requirements.patterns, found, rfl⟩⟩

theorem params_readable_iff (datum : Datum) :
    (∃ params, Params.ofDatum? datum = some params) ↔
      ∃ fields, datum = .record fields ∧ ∀ field ∈ fields, SlotDatum field.2 := by
  have every : Function.Surjective Params.slots := fun map => ⟨⟨map⟩, rfl⟩
  simp only [params_read_iff, slot_datum_iff]
  rw [← readable_iff Params.slotOfDatum? slotDatum slot_read_iff, every.exists]

theorem requirements_readable_iff (datum : Datum) :
    (∃ requirements, Requirements.ofDatum? datum = some requirements) ↔
      ∃ fields, datum = .record fields ∧ ∀ field ∈ fields, ∃ pattern, field.2 = .text pattern := by
  have every : Function.Surjective Requirements.patterns := fun map => ⟨⟨map⟩, rfl⟩
  simp only [requirements_read_iff]
  rw [← readable_iff Requirements.patternOfDatum? .text pattern_read_iff, every.exists]

theorem records_read_back :
    ((∀ params : Params, Params.ofDatum? params.toDatum = some params) ∧
      (∀ datum, (∃ params, Params.ofDatum? datum = some params) ↔
        ∃ fields, datum = .record fields ∧ ∀ field ∈ fields, SlotDatum field.2) ∧
      ∀ fields params, (fields.map (·.1)).Nodup → Params.ofDatum? (.record fields) = some params →
        (∃ written, params.toDatum = .record written ∧ written.Perm fields) ∧
          ∀ name slot, params.slots.get? name = some slot ↔ ∃ datum, (name, datum) ∈ fields ∧ StandsFor datum slot) ∧
    (∀ requirements : Requirements, Requirements.ofDatum? requirements.toDatum = some requirements) ∧
      (∀ datum, (∃ requirements, Requirements.ofDatum? datum = some requirements) ↔
        ∃ fields, datum = .record fields ∧ ∀ field ∈ fields, ∃ pattern, field.2 = .text pattern) ∧
      ∀ fields requirements, (fields.map (·.1)).Nodup → Requirements.ofDatum? (.record fields) = some requirements →
        (∃ written, requirements.toDatum = .record written ∧ written.Perm fields) ∧
          ∀ name pattern, requirements.pattern? name = some pattern ↔ (name, .text pattern) ∈ fields := by
  refine ⟨⟨fun params => ?_, params_readable_iff, fun fields params distinct found => ?_⟩,
    fun requirements => ?_, requirements_readable_iff, fun fields requirements distinct found => ?_⟩
  · exact (params_read_iff _ _).mpr (written_read_back Params.slotOfDatum? slotDatum slot_read_iff params.slots)
  · obtain ⟨written, slots⟩ := read_written Params.slotOfDatum? slotDatum slot_read_iff fields distinct params.slots
      ((params_read_iff _ _).mp found)
    refine ⟨written, fun name slot => ?_⟩
    simp only [slots, stands_for_iff, exists_eq_right]
  · exact (requirements_read_iff _ _).mpr
      (written_read_back Requirements.patternOfDatum? .text pattern_read_iff requirements.patterns)
  · exact read_written Requirements.patternOfDatum? .text pattern_read_iff fields distinct requirements.patterns
      ((requirements_read_iff _ _).mp found)

-- A record of every kind of slot, the least integer among them, and digits that stay a text.
def visit : List (String × Datum) :=
  [("year", .int 2004), ("month", .null), ("day", .text "07"), ("id", .int (-9223372036854775808))]

def visited : Params :=
  .ofList [("year", some (.int 2004)), ("month", none), ("day", some (.text "07")), ("id", some (.int Int64.minValue))]

theorem records_read_back_of_visit :
    (visit.map (·.1)).Nodup ∧ Params.ofDatum? (.record visit) = some visited ∧
      ([("year", Datum.text "[0-9]+")].map (·.1)).Nodup ∧
      Requirements.ofDatum? (.record [("year", .text "[0-9]+")]) = some (.ofList [("year", "[0-9]+")]) ∧
      (∃ written, visited.toDatum = .record written ∧ written.Perm visit) ∧
      ∃ written, (Requirements.ofList [("year", "[0-9]+")]).toDatum = .record written ∧
        written.Perm [("year", .text "[0-9]+")] := by
  have distinct : (visit.map (·.1)).Nodup := by decide
  have read : Params.ofDatum? (.record visit) = some visited := rfl
  have distinctPatterns : ([("year", Datum.text "[0-9]+")].map (·.1)).Nodup := by decide
  have readPatterns : Requirements.ofDatum? (.record [("year", .text "[0-9]+")]) = some (.ofList [("year", "[0-9]+")]) := rfl
  exact ⟨distinct, read, distinctPatterns, readPatterns, (records_read_back.1.2.2 visit visited distinct read).1,
    (records_read_back.2.2.2 _ _ distinctPatterns readPatterns).1⟩

end PathTemplates
