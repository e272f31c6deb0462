/-! Finite tables with string keys. The entries stand in ascending key order without repetition,
so two tables with the same look-ups are equal and every listing is in key order. -/
namespace SocketGraph

/-- A finite map from strings, its entries in strictly ascending key order. -/
structure Table (α : Type) where
  entries : List (String × α)
  ascending : entries.Pairwise (fun a b => a.1 < b.1)
  deriving DecidableEq

namespace Table
variable {α β : Type}

/-- Put a value at a key of an ascending list, replacing what the key had. -/
def insertEntry (key : String) (value : α) : List (String × α) → List (String × α)
  | [] => [(key, value)]
  | (k, v) :: rest =>
    if key < k then (key, value) :: (k, v) :: rest
    else if key = k then (key, value) :: rest
    else (k, v) :: insertEntry key value rest

theorem mem_insertEntry {key : String} {value : α} {e : String × α} {entries : List (String × α)}
    (h : e ∈ insertEntry key value entries) : e = (key, value) ∨ e ∈ entries := by
  induction entries with
  | nil => simpa [insertEntry] using h
  | cons head rest ih =>
    obtain ⟨k, v⟩ := head
    rw [insertEntry] at h
    split at h
    · simpa using h
    · split at h
      · rcases List.mem_cons.1 h with h | h
        · exact .inl h
        · exact .inr (List.mem_cons_of_mem _ h)
      · rcases List.mem_cons.1 h with h | h
        · exact .inr (h ▸ List.mem_cons_self)
        · exact (ih h).imp id (List.mem_cons_of_mem _)

theorem insertEntry_ascending {key : String} {value : α} {entries : List (String × α)}
    (h : entries.Pairwise (fun a b => a.1 < b.1)) :
    (insertEntry key value entries).Pairwise (fun a b => a.1 < b.1) := by
  induction entries with
  | nil => simp [insertEntry]
  | cons head rest ih =>
    obtain ⟨k, v⟩ := head
    obtain ⟨hhead, hrest⟩ := List.pairwise_cons.1 h
    rw [insertEntry]
    split
    · rename_i hlt
      refine List.pairwise_cons.2 ⟨fun e he => ?_, h⟩
      rcases List.mem_cons.1 he with rfl | he
      · exact hlt
      · exact String.lt_trans hlt (hhead e he)
    · split
      · rename_i hkey
        exact List.pairwise_cons.2 ⟨fun e he => hkey ▸ hhead e he, hrest⟩
      · rename_i hlt hne
        refine List.pairwise_cons.2 ⟨fun e he => ?_, ih hrest⟩
        rcases mem_insertEntry he with rfl | he
        · rcases Std.lt_trichotomy key k with h | h | h
          · exact absurd h hlt
          · exact absurd h hne
          · exact h
        · exact hhead e he

/-- The table without entries. -/
def empty : Table α := ⟨[], List.Pairwise.nil⟩

instance : Inhabited (Table α) := ⟨empty⟩
instance : EmptyCollection (Table α) := ⟨empty⟩

/-- The value of the first entry with a key. -/
def lookup (key : String) : List (String × α) → Option α
  | [] => none
  | (k, v) :: rest => if k = key then some v else lookup key rest

/-- The value at a key. -/
def get? (t : Table α) (key : String) : Option α := lookup key t.entries

def contains (t : Table α) (key : String) : Bool := (t.get? key).isSome

/-- Set a key, replacing the value it had. -/
def insert (t : Table α) (key : String) (value : α) : Table α :=
  ⟨insertEntry key value t.entries, insertEntry_ascending t.ascending⟩

/-- Change the value at a key; a missing key counts as having the given default. -/
def modifyD (t : Table α) (key : String) (default : α) (f : α → α) : Table α :=
  t.insert key (f ((t.get? key).getD default))

/-- The table of a list of entries; the last entry of a key wins. -/
def ofList (entries : List (String × α)) : Table α :=
  entries.foldl (fun t e => t.insert e.1 e.2) empty

def keys (t : Table α) : List String := t.entries.map Prod.fst

def values (t : Table α) : List α := t.entries.map Prod.snd

def size (t : Table α) : Nat := t.entries.length

def isEmpty (t : Table α) : Bool := t.entries.isEmpty

/-- Apply a function to every value. -/
def map (f : α → β) (t : Table α) : Table β :=
  ⟨t.entries.map fun e => (e.1, f e.2), List.pairwise_map.2 t.ascending⟩

/-- Lay the entries of one table over another. -/
def union (below above : Table α) : Table α :=
  above.entries.foldl (fun t e => t.insert e.1 e.2) below

@[simp] theorem entries_empty : (empty : Table α).entries = [] := rfl

@[simp] theorem get?_empty (key : String) : (empty : Table α).get? key = none := rfl

theorem lookup_insertEntry (key key' : String) (value : α) (entries : List (String × α)) :
    lookup key' (insertEntry key value entries) =
      if key' = key then some value else lookup key' entries := by
  induction entries with
  | nil => simp [insertEntry, lookup, eq_comm]
  | cons head rest ih => grind [insertEntry, lookup]

/-- A look-up after an insertion sees the new value at its key and the old ones elsewhere. -/
theorem get?_insert (t : Table α) (key key' : String) (value : α) :
    (t.insert key value).get? key' = if key' = key then some value else t.get? key' :=
  lookup_insertEntry key key' value t.entries

@[simp] theorem get?_insert_self (t : Table α) (key : String) (value : α) :
    (t.insert key value).get? key = some value := by simp [get?_insert]

theorem insertEntry_of_lt {key : String} {value : α} {entries : List (String × α)}
    (h : ∀ e ∈ entries, e.1 < key) : insertEntry key value entries = entries ++ [(key, value)] := by
  induction entries with
  | nil => rfl
  | cons head rest ih =>
    obtain ⟨k, v⟩ := head
    have hk : k < key := h (k, v) List.mem_cons_self
    have h1 : ¬ key < k := String.lt_asymm hk
    have h2 : ¬ key = k := fun e => String.lt_irrefl k (e ▸ hk)
    rw [insertEntry, if_neg h1, if_neg h2, ih fun e he => h e (List.mem_cons_of_mem _ he)]
    rfl

theorem foldl_insert_entries (rest : List (String × α)) (t : Table α)
    (h : (t.entries ++ rest).Pairwise (fun a b => a.1 < b.1)) :
    (rest.foldl (fun t e => t.insert e.1 e.2) t).entries = t.entries ++ rest := by
  induction rest generalizing t with
  | nil => simp
  | cons e rest ih =>
    have hlt : ∀ x ∈ t.entries, x.1 < e.1 := fun x hx =>
      (List.pairwise_append.1 h).2.2 x hx e List.mem_cons_self
    have hentries : (t.insert e.1 e.2).entries = t.entries ++ [e] := insertEntry_of_lt hlt
    rw [List.foldl_cons, ih _ (by rw [hentries]; simpa using h), hentries]
    simp

/-- Listing a table and reading the list back gives the table. -/
@[simp] theorem ofList_entries (t : Table α) : ofList t.entries = t := by
  have h := foldl_insert_entries t.entries empty (by simpa using t.ascending)
  cases t with
  | mk entries ascending =>
    simp only [ofList]
    generalize List.foldl _ _ entries = u at h
    cases u
    simp_all

theorem lookup_eq_none {key : String} {entries : List (String × α)}
    (h : ∀ e ∈ entries, key < e.1) : lookup key entries = none := by
  induction entries with
  | nil => rfl
  | cons head rest ih =>
    have hne : ¬ head.1 = key := fun e => String.lt_irrefl key (e ▸ h head List.mem_cons_self)
    rw [lookup, if_neg hne, ih fun e he => h e (List.mem_cons_of_mem _ he)]

theorem lookup_eq_some_iff {key : String} {value : α} {entries : List (String × α)}
    (h : entries.Pairwise (fun a b => a.1 < b.1)) :
    lookup key entries = some value ↔ (key, value) ∈ entries := by
  induction entries with
  | nil => simp [lookup]
  | cons head rest ih =>
    obtain ⟨k, v⟩ := head
    obtain ⟨hk, hrest⟩ := List.pairwise_cons.1 h
    rw [lookup, List.mem_cons, ← ih hrest]
    by_cases hkey : k = key
    · subst hkey
      simp [lookup_eq_none hk, eq_comm]
    · simp [hkey, Ne.symm hkey]

/-- The entries of a table are what it answers. -/
theorem get?_eq_some_iff {t : Table α} {key : String} {value : α} :
    t.get? key = some value ↔ (key, value) ∈ t.entries :=
  lookup_eq_some_iff t.ascending

/-- Ascending entries are determined by their look-ups. -/
theorem entries_eq_of_lookup {l m : List (String × α)} (hl : l.Pairwise (fun a b => a.1 < b.1))
    (hm : m.Pairwise (fun a b => a.1 < b.1)) (h : ∀ key, lookup key l = lookup key m) : l = m := by
  induction l generalizing m with
  | nil =>
    cases m with
    | nil => rfl
    | cons e m => simpa [lookup] using h e.1
  | cons d l ih =>
    obtain ⟨k, v⟩ := d
    obtain ⟨hk, hrest⟩ := List.pairwise_cons.1 hl
    cases m with
    | nil => simpa [lookup] using h k
    | cons e m =>
      obtain ⟨k', v'⟩ := e
      obtain ⟨hk', hrest'⟩ := List.pairwise_cons.1 hm
      have hkey : k = k' := by
        rcases Std.lt_trichotomy k k' with hlt | heq | hlt
        · have hnone : lookup k ((k', v') :: m) = none := lookup_eq_none fun e he => by
            rcases List.mem_cons.1 he with rfl | he
            · exact hlt
            · exact String.lt_trans hlt (hk' e he)
          exact absurd ((h k).trans hnone) (by simp [lookup])
        · exact heq
        · have hnone : lookup k' ((k, v) :: l) = none := lookup_eq_none fun e he => by
            rcases List.mem_cons.1 he with rfl | he
            · exact hlt
            · exact String.lt_trans hlt (hk e he)
          exact absurd ((h k').symm.trans hnone) (by simp [lookup])
      subst hkey
      have hv : v = v' := by simpa [lookup] using h k
      have htail : l = m := ih hrest hrest' fun key => by
        by_cases hkey : k = key
        · subst hkey
          rw [lookup_eq_none hk, lookup_eq_none hk']
        · simpa [lookup, hkey] using h key
      rw [hv, htail]

/-- Tables with the same look-ups are equal. -/
theorem ext_get? {t u : Table α} (h : ∀ key, t.get? key = u.get? key) : t = u := by
  obtain ⟨l, hl⟩ := t
  obtain ⟨m, hm⟩ := u
  have hlm : l = m := entries_eq_of_lookup hl hm h
  subst hlm
  rfl

theorem get?_foldl_insert (entries : List (String × α)) (t : Table α) (key : String)
    (h : entries.Pairwise (fun a b => a.1 < b.1)) :
    (entries.foldl (fun t e => t.insert e.1 e.2) t).get? key =
      (lookup key entries).or (t.get? key) := by
  induction entries generalizing t with
  | nil => rfl
  | cons e rest ih =>
    obtain ⟨he, hrest⟩ := List.pairwise_cons.1 h
    rw [List.foldl_cons, ih _ hrest, get?_insert]
    by_cases hkey : e.1 = key
    · subst hkey
      simp [lookup, lookup_eq_none he]
    · simp [lookup, hkey, Ne.symm hkey]

/-- The table on top hides what it has itself. -/
theorem get?_union (below above : Table α) (key : String) :
    (below.union above).get? key = (above.get? key).or (below.get? key) :=
  get?_foldl_insert above.entries below key above.ascending

end Table
end SocketGraph
