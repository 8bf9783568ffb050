import TypedStatement.Configuration.KeyPath

/-!
# Tables of settings

Putting an entry into a table changes what is found at its key and nothing else (`lookup?_put`), and so does laying a value
(`lookup?_lay_other`) or a value inside a table (`at?_layAt`).  What a run of changes leaves at a place is what one of them
lays there, or what was there before (`foldl_overrides`).
-/

namespace TypedStatement.Configuration.Setting
set_option autoImplicit false

/-! ## Runs of changes -/

section
variable {σ ε α : Type} (step : σ → ε → σ) (observe : σ → α)

theorem foldl_keeps (changes : List ε) (h : ∀ change ∈ changes, ∀ state, observe (step state change) = observe state)
    (state : σ) : observe (changes.foldl step state) = observe state := by
  induction changes generalizing state with
  | nil => rfl
  | cons change changes ih =>
    rw [List.foldl_cons, ih fun other hother => h other (List.mem_cons_of_mem _ hother)]
    exact h change List.mem_cons_self state

/-- One change makes the observation, and every other one makes it too or leaves it as it is. -/
theorem foldl_gives {changes : List ε} {given : ε} {result : α} (hmem : given ∈ changes)
    (hgiven : ∀ state, observe (step state given) = result)
    (hchanges : ∀ change ∈ changes, (∀ state, observe (step state change) = observe state) ∨
      ∀ state, observe (step state change) = result) (state : σ) :
    observe (changes.foldl step state) = result := by
  obtain ⟨before, after, rfl⟩ := List.append_of_mem hmem
  rw [List.foldl_append, List.foldl_cons]
  -- Once it is made, the observation stays as it is.
  refine List.foldlRecOn (motive := fun state => observe state = result) after step (hgiven _) ?_
  intro state hstate change hchange
  obtain hkeeps | hgives := hchanges change (List.mem_append_right _ (List.mem_cons_of_mem _ hchange))
  · rw [hkeeps, hstate]
  · exact hgives state

/-- What a run leaves is what some change lays there, if there is such a change. -/
theorem foldl_overrides {changes : List ε} (observe : σ → Option α) {laid : Option α}
    (hchanges : ∀ change ∈ changes, (∀ state, observe (step state change) = observe state) ∨
      ∀ state, observe (step state change) = laid.or (observe state))
    (hlaid : ∀ value, laid = some value →
      ∃ change ∈ changes, ∀ state, observe (step state change) = laid.or (observe state)) (state : σ) :
    observe (changes.foldl step state) = laid.or (observe state) := by
  cases laid with
  | none =>
    rw [Option.none_or]
    exact foldl_keeps step observe changes (fun change hchange => (hchanges change hchange).elim id id) state
  | some value =>
    obtain ⟨given, hmem, hgiven⟩ := hlaid value rfl
    exact foldl_gives step observe hmem hgiven hchanges state

end

/-! ## Entries of a table -/

variable (setting : Setting) (key other : String) (value : Setting)

theorem find?_putEntry (entries : List (String × Setting)) :
    ((putEntry key value entries).find? (·.1 == other)).map (·.2) =
      if other = key then some value else (entries.find? (·.1 == other)).map (·.2) := by
  induction entries with
  | nil =>
    by_cases heq : other = key
    · simp [putEntry, heq]
    · simp [putEntry, heq, Ne.symm heq]
  | cons entry entries ih =>
    obtain ⟨first, old⟩ := entry
    by_cases hfirst : first = key
    · by_cases heq : other = key
      · simp [putEntry, hfirst, heq]
      · simp [putEntry, hfirst, heq, Ne.symm heq]
    · by_cases hsame : first = other
      · simp [putEntry, hfirst, ← hsame]
      · simp [putEntry, hfirst, hsame, ih]

theorem lookup?_put :
    (setting.put key value).lookup? other = if other = key then some value else setting.lookup? other := by
  cases setting with
  | table origin entries => exact find?_putEntry key other value entries
  | atom origin atom => exact find?_putEntry key other value []
  | list origin items => exact find?_putEntry key other value []

@[simp] theorem lookup?_asTable : setting.asTable.lookup? key = setting.lookup? key := by
  cases setting <;> rfl

/-! ## Laying a value -/

/-- The value is no table, so it replaces what it is laid over. -/
def IsSingle : Setting → Prop
  | .table _ _ => False
  | _ => True

theorem lay_single {value : Setting} (h : value.IsSingle) :
    setting.lay key value = setting.asTable.put (Text.lowercaseString key) value := by
  cases value with
  | table origin entries => exact absurd h id
  | atom origin atom => rfl
  | list origin items => rfl

theorem lay_table (origin : Option Origin) (entries : List (String × Setting)) :
    setting.lay key (.table origin entries) = setting.asTable.put (Text.lowercaseString key)
      (layAll ((setting.lookup? (Text.lowercaseString key)).getD emptyTable) entries) := rfl

/-- Laying a value puts something at its key. -/
theorem exists_lay_eq_put : ∃ laid, setting.lay key value = setting.asTable.put (Text.lowercaseString key) laid := by
  cases value with
  | table origin entries => exact ⟨_, lay_table setting key origin entries⟩
  | atom origin atom => exact ⟨_, lay_single setting key trivial⟩
  | list origin items => exact ⟨_, lay_single setting key trivial⟩

theorem lookup?_lay_other (h : other ≠ Text.lowercaseString key) :
    (setting.lay key value).lookup? other = setting.lookup? other := by
  obtain ⟨laid, hlaid⟩ := setting.exists_lay_eq_put key value
  rw [hlaid, lookup?_put, if_neg h, lookup?_asTable]

theorem lookup?_lay_single {value : Setting} (h : value.IsSingle) :
    (setting.lay key value).lookup? (Text.lowercaseString key) = some value := by
  rw [lay_single _ _ h, lookup?_put, if_pos rfl]

/-- A table is merged into what is there. -/
theorem lookup?_lay_table (origin : Option Origin) (entries : List (String × Setting)) :
    (setting.lay key (.table origin entries)).lookup? (Text.lowercaseString key) =
      some (layAll ((setting.lookup? (Text.lowercaseString key)).getD emptyTable) entries) := by
  rw [lay_table, lookup?_put, if_pos rfl]

theorem layAll_eq_foldl (entries : List (String × Setting)) :
    setting.layAll entries = entries.foldl (fun setting entry => setting.lay entry.1 entry.2) setting := by
  induction entries generalizing setting with
  | nil => rfl
  | cons entry entries ih =>
    obtain ⟨key, value⟩ := entry
    exact ih (setting.lay key value)

/-! ## Settings inside a table -/

def at? (table name : String) (setting : Setting) : Option Setting :=
  (setting.lookup? table).bind (·.lookup? name)

theorem at?_congr {table name : String} {one other : Setting} (h : one.lookup? table = other.lookup? table) :
    one.at? table name = other.at? table name := by
  rw [at?, h, at?]

theorem layAt_key {rest : KeyPath} (hrest : rest ≠ []) :
    layAt value (.key key :: rest) setting =
      setting.asTable.put key (layAt value rest ((setting.lookup? key).getD null)) := by
  obtain ⟨next, rest, rfl⟩ := List.exists_cons_of_ne_nil hrest
  rfl

theorem layAt_last : layAt value [.key key] setting = setting.lay key value := rfl

/-- Laying a value at a name in a table changes what is there, and nothing else. -/
theorem at?_layAt {value : Setting} (hsingle : value.IsSingle) {table name : String}
    (hname : Text.lowercaseString name = name) (otherTable otherName : String) :
    (layAt value [.key table, .key name] setting).at? otherTable otherName =
      if otherTable = table ∧ otherName = name then some value else setting.at? otherTable otherName := by
  rw [layAt_key _ _ _ (List.cons_ne_nil _ _), layAt_last, lay_single _ _ hsingle, hname]
  by_cases htable : otherTable = table
  · subst htable
    rw [at?, lookup?_put, if_pos rfl, Option.bind_some, lookup?_put]
    by_cases hsame : otherName = name
    · rw [if_pos hsame, if_pos ⟨rfl, hsame⟩]
    · rw [if_neg hsame, if_neg fun h => hsame h.2, lookup?_asTable, at?]
      cases setting.lookup? otherTable with
      | none => rfl
      | some inner => rfl
  · rw [if_neg fun h => htable h.1]
    refine at?_congr ?_
    rw [lookup?_put, if_neg htable, lookup?_asTable]

theorem lookup?_layAt_other {rest : KeyPath} (hrest : rest ≠ []) (h : other ≠ key) :
    (layAt value (.key key :: rest) setting).lookup? other = setting.lookup? other := by
  rw [layAt_key _ _ _ hrest, lookup?_put, if_neg h, lookup?_asTable]

/-! ## Entries of data -/

theorem ofEntries_eq_map (origin : Option Origin) (entries : List (String × Datum)) :
    ofEntries origin entries = entries.map fun entry => (entry.1, ofDatum origin entry.2) := by
  induction entries with
  | nil => rfl
  | cons entry entries ih =>
    obtain ⟨key, datum⟩ := entry
    rw [List.map_cons, ← ih]
    rfl

theorem ofItems_eq_map (origin : Option Origin) (items : List Datum) :
    ofItems origin items = items.map (ofDatum origin) := by
  induction items with
  | nil => rfl
  | cons item items ih =>
    rw [List.map_cons, ← ih]
    rfl

theorem ofDatum_list (origin : Option Origin) (items : List Datum) :
    ofDatum origin (.list items) = .list origin (items.map (ofDatum origin)) := by
  rw [← ofItems_eq_map]
  rfl

theorem ofDatum_table (origin : Option Origin) (entries : List (String × Datum)) :
    ofDatum origin (.table entries) = .table origin (entries.map fun entry => (entry.1, ofDatum origin entry.2)) := by
  rw [← ofEntries_eq_map]
  rfl

end TypedStatement.Configuration.Setting
