/-!
Records: values under distinct names, in the order in which the names were first given.  Giving a
name again replaces its value and keeps its place.
-/

namespace LogSelect

/-- A list of named values without repeated names. -/
structure Record (α : Type) where
  entries : List (String × α)
  distinct : (entries.map Prod.fst).Nodup

namespace Record

variable {α : Type}

def empty : Record α :=
  ⟨[], List.nodup_nil⟩

instance : Inhabited (Record α) := ⟨empty⟩

def names (r : Record α) : List String :=
  r.entries.map Prod.fst

def get? (r : Record α) (name : String) : Option α :=
  r.entries.lookup name

def contains (r : Record α) (name : String) : Bool :=
  r.names.contains name

/-- Replace the value under `name`, or add it at the end. -/
def putEntry (name : String) (value : α) : List (String × α) → List (String × α)
  | [] => [(name, value)]
  | (other, old) :: rest =>
    if other = name then (name, value) :: rest else (other, old) :: putEntry name value rest

theorem mem_names_putEntry {name other : String} {value : α} {entries : List (String × α)} :
    other ∈ (putEntry name value entries).map Prod.fst ↔
      other = name ∨ other ∈ entries.map Prod.fst := by
  induction entries with
  | nil => simp [putEntry]
  | cons entry rest ih =>
    by_cases same : entry.1 = name
    · simp [putEntry, same]
    · simp only [putEntry, same, if_false, List.map_cons, List.mem_cons, ih]
      constructor
      · rintro (h | h | h)
        · exact .inr (.inl h)
        · exact .inl h
        · exact .inr (.inr h)
      · rintro (h | h | h)
        · exact .inr (.inl h)
        · exact .inl h
        · exact .inr (.inr h)

theorem nodup_putEntry {name : String} {value : α} {entries : List (String × α)}
    (distinct : (entries.map Prod.fst).Nodup) :
    ((putEntry name value entries).map Prod.fst).Nodup := by
  induction entries with
  | nil => simp [putEntry]
  | cons entry rest ih =>
    obtain ⟨other, old⟩ := entry
    simp only [List.map_cons, List.nodup_cons] at distinct
    by_cases equal : other = name
    · subst equal
      simpa [putEntry] using distinct
    · rw [putEntry, if_neg equal, List.map_cons, List.nodup_cons, mem_names_putEntry]
      exact ⟨fun h => h.elim equal distinct.1, ih distinct.2⟩

def put (r : Record α) (name : String) (value : α) : Record α :=
  ⟨putEntry name value r.entries, nodup_putEntry r.distinct⟩

@[simp]
theorem get?_empty (name : String) : (empty : Record α).get? name = none := rfl

theorem lookup_cons_of_ne {name first : String} (differ : name ≠ first) (value : α)
    (entries : List (String × α)) :
    ((first, value) :: entries).lookup name = entries.lookup name := by
  rw [List.lookup_cons, beq_eq_false_iff_ne.2 differ]

theorem lookup_putEntry (name other : String) (value : α) (entries : List (String × α)) :
    (putEntry name value entries).lookup other =
      if other = name then some value else entries.lookup other := by
  induction entries with
  | nil =>
    by_cases same : other = name
    · simp [putEntry, same]
    · rw [putEntry, lookup_cons_of_ne same, if_neg same]
  | cons entry rest ih =>
    obtain ⟨first, old⟩ := entry
    by_cases found : first = name
    · subst found
      by_cases same : other = first
      · simp [putEntry, same]
      · rw [putEntry, if_pos rfl, lookup_cons_of_ne same, lookup_cons_of_ne same, if_neg same]
    · rw [putEntry, if_neg found]
      by_cases same : other = first
      · rw [same, List.lookup_cons_self, List.lookup_cons_self, if_neg found]
      · rw [lookup_cons_of_ne same, lookup_cons_of_ne same, ih]

theorem get?_put (r : Record α) (name other : String) (value : α) :
    (r.put name value).get? other = if other = name then some value else r.get? other :=
  lookup_putEntry name other value r.entries

theorem get?_put_same (r : Record α) (name : String) (value : α) :
    (r.put name value).get? name = some value := by
  rw [get?_put, if_pos rfl]

theorem get?_put_of_ne (r : Record α) {name other : String} (differ : other ≠ name) (value : α) :
    (r.put name value).get? other = r.get? other := by
  rw [get?_put, if_neg differ]

def ofList (pairs : List (String × α)) : Record α :=
  pairs.foldl (fun r (name, value) => r.put name value) empty

def filterNames (p : String → Bool) (r : Record α) : Record α :=
  ⟨r.entries.filter fun entry => p entry.1,
    r.distinct.sublist (List.filter_sublist.map Prod.fst)⟩

theorem get?_filterNames (p : String → Bool) (r : Record α) (name : String) :
    (r.filterNames p).get? name = if p name then r.get? name else none := by
  obtain ⟨entries, distinct⟩ := r
  simp only [get?, filterNames]
  clear distinct
  induction entries with
  | nil => simp
  | cons entry rest ih =>
    obtain ⟨first, value⟩ := entry
    by_cases same : name = first
    · subst same
      by_cases kept : p name
      · simp [kept]
      · simp [kept, ih]
    · rw [lookup_cons_of_ne same]
      by_cases kept : p first
      · rw [List.filter_cons, if_pos kept, lookup_cons_of_ne same, ih]
      · rw [List.filter_cons, if_neg kept, ih]

theorem contains_eq_isSome (r : Record α) (name : String) :
    r.contains name = (r.get? name).isSome := by
  obtain ⟨entries, distinct⟩ := r
  simp only [contains, names, get?]
  clear distinct
  induction entries with
  | nil => rfl
  | cons entry rest ih =>
    obtain ⟨first, value⟩ := entry
    rw [List.map_cons, List.contains_cons]
    by_cases same : name = first
    · simp [same]
    · rw [lookup_cons_of_ne same, beq_eq_false_iff_ne.2 same, Bool.false_or, ih]

theorem mem_names {r : Record α} {name : String} : name ∈ r.names ↔ r.get? name ≠ none := by
  rw [← List.contains_iff_mem, Option.ne_none_iff_isSome, ← contains_eq_isSome, contains]

def mapValues {β : Type} (f : α → β) (r : Record α) : Record β :=
  ⟨r.entries.map fun entry => (entry.1, f entry.2), by
    simpa [Function.comp_def] using r.distinct⟩

/-- Equality of two records as mappings: order does not count. -/
def sameMapping (same : α → α → Bool) (r s : Record α) : Bool :=
  r.entries.length == s.entries.length &&
    r.entries.all fun (name, value) => (s.get? name).any (same value)

end Record

end LogSelect
