/-!
# Tables

A table maps distinct keys to values and keeps the order in which keys were first inserted: a key
that is inserted again keeps its place and takes the new value. Main statements: `get?_insert`, and
`keys_insert`, which says what order an insertion leaves.
-/

namespace DataSource

/-- Values under distinct keys, in order. -/
@[ext]
structure Table (α : Type u) where
  entries : List (String × α)
  distinct : (entries.map Prod.fst).Nodup
  deriving DecidableEq

namespace Table

variable {α : Type u} {β : Type v}

def keys (t : Table α) : List String := t.entries.map Prod.fst

def empty : Table α := ⟨[], List.nodup_nil⟩

instance : Inhabited (Table α) := ⟨empty⟩

def isEmpty (t : Table α) : Bool := t.entries.isEmpty

def get? (t : Table α) (key : String) : Option α := t.entries.lookup key

/-- Puts a value under a key: in the place of the key, or at the end. -/
def put (key : String) (value : α) : List (String × α) → List (String × α)
  | [] => [(key, value)]
  | (k, v) :: rest => if k = key then (key, value) :: rest else (k, v) :: put key value rest

theorem keys_put (key : String) (value : α) (entries : List (String × α)) :
    (put key value entries).map Prod.fst =
      if key ∈ entries.map Prod.fst then entries.map Prod.fst
      else entries.map Prod.fst ++ [key] := by
  induction entries with
  | nil => simp [put]
  | cons e rest ih =>
    obtain ⟨k, v⟩ := e
    by_cases hk : k = key
    · simp [put, hk]
    · have hk' : key ≠ k := fun h => hk h.symm
      simp only [put, if_neg hk, List.map_cons, ih, List.mem_cons, hk', false_or]
      split <;> simp

theorem nodup_keys_put {key : String} {value : α} {entries : List (String × α)}
    (h : (entries.map Prod.fst).Nodup) : ((put key value entries).map Prod.fst).Nodup := by
  rw [keys_put]
  split
  · exact h
  · rename_i hk
    rw [List.nodup_append]
    refine ⟨h, by simp, fun a ha b hb hab => hk ?_⟩
    rw [List.mem_singleton] at hb
    exact hb ▸ hab ▸ ha

theorem lookup_put (key k : String) (value : α) (entries : List (String × α)) :
    (put key value entries).lookup k = if k = key then some value else entries.lookup k := by
  induction entries with
  | nil =>
    by_cases h : k = key
    · simp [put, h]
    · simp [put, List.lookup_cons, h, beq_eq_false_iff_ne.2 h]
  | cons e rest ih =>
    obtain ⟨k', v⟩ := e
    by_cases hk : k' = key
    · subst hk
      by_cases h : k = k'
      · simp [put, h]
      · simp [put, List.lookup_cons, h, beq_eq_false_iff_ne.2 h]
    · by_cases h : k = k'
      · subst h; simp [put, hk]
      · simp [put, hk, List.lookup_cons, ih, beq_eq_false_iff_ne.2 h]

def insert (t : Table α) (key : String) (value : α) : Table α :=
  ⟨put key value t.entries, nodup_keys_put t.distinct⟩

theorem get?_insert (t : Table α) (key k : String) (value : α) :
    (t.insert key value).get? k = if k = key then some value else t.get? k :=
  lookup_put key k value t.entries

theorem keys_insert (t : Table α) (key : String) (value : α) :
    (t.insert key value).keys = if key ∈ t.keys then t.keys else t.keys ++ [key] :=
  keys_put key value t.entries

def insertAll (t : Table α) (entries : List (String × α)) : Table α :=
  entries.foldl (fun t (key, value) => t.insert key value) t

theorem insertAll_cons (t : Table α) (key : String) (value : α) (rest : List (String × α)) :
    t.insertAll ((key, value) :: rest) = (t.insert key value).insertAll rest := rfl

/-- The last of the entries under a key counts, and the table itself if there is none. -/
theorem get?_insertAll (t : Table α) (entries : List (String × α)) (k : String) :
    (t.insertAll entries).get? k = (entries.reverse.lookup k).or (t.get? k) := by
  induction entries generalizing t with
  | nil => simp [insertAll]
  | cons e rest ih =>
    obtain ⟨key, value⟩ := e
    rw [insertAll_cons, ih, get?_insert, List.reverse_cons, List.lookup_append]
    by_cases h : k = key
    · subst h
      cases rest.reverse.lookup k <;> simp
    · cases rest.reverse.lookup k <;> simp [List.lookup_cons, h, beq_eq_false_iff_ne.2 h]

/-- The table of some entries; the last entry under a key counts, in the place of the first. -/
def ofList (entries : List (String × α)) : Table α := empty.insertAll entries

/-- Changes every value, knowing its key. -/
def map (f : String → α → β) (t : Table α) : Table β where
  entries := t.entries.map fun (key, value) => (key, f key value)
  distinct := by
    have : (t.entries.map fun (key, value) => (key, f key value)).map Prod.fst = t.keys := by
      simp [keys, Function.comp_def]
    rw [this]; exact t.distinct

/-- Whether two tables have the same keys with the same values, in whatever order. -/
def sameMap [DecidableEq α] (a b : Table α) : Bool :=
  a.entries.length == b.entries.length &&
    a.entries.all fun (key, value) => decide (b.get? key = some value)

end Table

end DataSource
