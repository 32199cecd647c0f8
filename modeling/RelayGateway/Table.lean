/-! # Finite maps with distinct keys

A table keeps its entries in the order of first insertion, and each key once. Lookups decide what a
table means; the order only decides how its entries are listed.
-/
namespace RelayGateway

structure Table (κ ν : Type) where
  entries : List (κ × ν)
  distinct : (entries.map Prod.fst).Nodup

namespace Table
variable {κ ν μ : Type}

def empty : Table κ ν := ⟨[], by simp⟩

instance : EmptyCollection (Table κ ν) := ⟨empty⟩

instance : Inhabited (Table κ ν) := ⟨empty⟩

def size (t : Table κ ν) : Nat := t.entries.length

def isEmpty (t : Table κ ν) : Bool := t.entries.isEmpty

def keys (t : Table κ ν) : List κ := t.entries.map Prod.fst

def values (t : Table κ ν) : List ν := t.entries.map Prod.snd

theorem distinct_filter (p : κ × ν → Bool) {l : List (κ × ν)} (h : (l.map Prod.fst).Nodup) :
    ((l.filter p).map Prod.fst).Nodup :=
  h.sublist (l.filter_sublist.map _)

def filter (p : κ → ν → Bool) (t : Table κ ν) : Table κ ν :=
  ⟨t.entries.filter (fun e => p e.1 e.2), distinct_filter _ t.distinct⟩

def mapValues (f : ν → μ) (t : Table κ ν) : Table κ μ :=
  ⟨t.entries.map (fun e => (e.1, f e.2)), by simpa [List.map_map, Function.comp_def] using t.distinct⟩

variable [DecidableEq κ]

def lookup (k : κ) : List (κ × ν) → Option ν
  | [] => none
  | (k', v) :: rest => if k' = k then some v else lookup k rest

def replace (k : κ) (v : ν) : List (κ × ν) → List (κ × ν)
  | [] => [(k, v)]
  | (k', v') :: rest => if k' = k then (k, v) :: rest else (k', v') :: replace k v rest

theorem mem_keys_replace {k x : κ} {v : ν} {l : List (κ × ν)} :
    x ∈ (replace k v l).map Prod.fst ↔ x = k ∨ x ∈ l.map Prod.fst := by
  induction l with
  | nil => simp [replace]
  | cons e rest ih =>
    by_cases h : e.1 = k
    · simp [replace, h]
    · simp only [replace, h, if_false, List.map_cons, List.mem_cons, ih]
      exact or_left_comm

theorem distinct_replace (k : κ) (v : ν) {l : List (κ × ν)} (h : (l.map Prod.fst).Nodup) :
    ((replace k v l).map Prod.fst).Nodup := by
  induction l with
  | nil => simp [replace]
  | cons e rest ih =>
    have hr := List.nodup_cons.1 (List.map_cons ▸ h)
    by_cases hk : e.1 = k
    · simpa [replace, hk] using h
    · have hn : e.1 ∉ (replace k v rest).map Prod.fst := by
        rw [mem_keys_replace]
        exact fun hm => hm.elim hk hr.1
      simpa [replace, hk] using And.intro (by simpa using hn) (by simpa using ih hr.2)

def find? (t : Table κ ν) (k : κ) : Option ν := lookup k t.entries

def contains (t : Table κ ν) (k : κ) : Bool := (t.find? k).isSome

/-- The entry for `k` becomes `v`, in its old place when there was one and last otherwise. -/
def insert (t : Table κ ν) (k : κ) (v : ν) : Table κ ν :=
  ⟨replace k v t.entries, distinct_replace k v t.distinct⟩

def erase (t : Table κ ν) (k : κ) : Table κ ν := t.filter (fun k' _ => k' ≠ k)

def ofList (l : List (κ × ν)) : Table κ ν := l.foldl (fun t e => t.insert e.1 e.2) empty

def sortedEntries (le : κ → κ → Bool) (t : Table κ ν) : List (κ × ν) :=
  t.entries.mergeSort (fun a b => le a.1 b.1)

theorem lookup_replace_self (k : κ) (v : ν) (l : List (κ × ν)) :
    lookup k (replace k v l) = some v := by
  induction l with
  | nil => simp [replace, lookup]
  | cons e rest ih => by_cases h : e.1 = k <;> simp [replace, lookup, h, ih]

theorem lookup_replace_of_ne {k x : κ} (h : x ≠ k) (v : ν) (l : List (κ × ν)) :
    lookup x (replace k v l) = lookup x l := by
  induction l with
  | nil => simp [replace, lookup, h.symm]
  | cons e rest ih =>
    by_cases hk : e.1 = k
    · simp [replace, lookup, hk, h.symm]
    · simp [replace, lookup, hk, ih]

@[simp]
theorem find?_empty (k : κ) : (empty : Table κ ν).find? k = none := rfl

@[simp]
theorem find?_insert_self (t : Table κ ν) (k : κ) (v : ν) : (t.insert k v).find? k = some v :=
  lookup_replace_self k v t.entries

theorem find?_insert_of_ne (t : Table κ ν) {k x : κ} (h : x ≠ k) (v : ν) :
    (t.insert k v).find? x = t.find? x :=
  lookup_replace_of_ne h v t.entries

theorem lookup_eq_none_iff {k : κ} {l : List (κ × ν)} :
    lookup k l = none ↔ k ∉ l.map Prod.fst := by
  induction l with
  | nil => simp [lookup]
  | cons e rest ih =>
    by_cases h : e.1 = k
    · simp [lookup, h]
    · have h' : k ≠ e.1 := fun hk => h hk.symm
      simpa [lookup, h, h'] using ih

theorem find?_eq_none_iff (t : Table κ ν) (k : κ) : t.find? k = none ↔ k ∉ t.keys :=
  lookup_eq_none_iff

theorem lookup_eq_some_iff {k : κ} {v : ν} {l : List (κ × ν)} (hd : (l.map Prod.fst).Nodup) :
    lookup k l = some v ↔ (k, v) ∈ l := by
  induction l with
  | nil => simp [lookup]
  | cons e rest ih =>
    obtain ⟨k', v'⟩ := e
    have hr := List.nodup_cons.1 (List.map_cons ▸ hd)
    by_cases h : k' = k
    · subst h
      have : (k', v) ∉ rest := fun hm => hr.1 (List.mem_map.2 ⟨_, hm, rfl⟩)
      simp [lookup, this, eq_comm]
    · have h' : k ≠ k' := fun hk => h hk.symm
      simp [lookup, h, h', ih hr.2]

theorem mem_of_lookup {k : κ} {v : ν} {l : List (κ × ν)} (h : lookup k l = some v) : (k, v) ∈ l := by
  induction l with
  | nil => simp [lookup] at h
  | cons e rest ih =>
    obtain ⟨k', v'⟩ := e
    by_cases hk : k' = k
    · simp only [lookup, hk, if_true, Option.some.injEq] at h
      rw [hk, h]
      exact List.mem_cons_self
    · simp only [lookup, hk, if_false] at h
      exact List.mem_cons_of_mem _ (ih h)

theorem find?_eq_some_iff (t : Table κ ν) (k : κ) (v : ν) :
    t.find? k = some v ↔ (k, v) ∈ t.entries :=
  lookup_eq_some_iff t.distinct

theorem find?_insert (t : Table κ ν) (k x : κ) (v : ν) :
    (t.insert k v).find? x = if x = k then some v else t.find? x := by
  by_cases h : x = k
  · subst h
    rw [find?_insert_self, if_pos rfl]
  · rw [find?_insert_of_ne t h, if_neg h]

theorem lookup_filter (p : κ → ν → Bool) (x : κ) {l : List (κ × ν)} (hd : (l.map Prod.fst).Nodup) :
    lookup x (l.filter fun e => p e.1 e.2) = (lookup x l).filter (p x) := by
  induction l with
  | nil => rfl
  | cons e rest ih =>
    obtain ⟨k, v⟩ := e
    have hr := List.nodup_cons.1 (List.map_cons ▸ hd)
    by_cases hk : k = x
    · subst hk
      have hn : lookup k (rest.filter fun e => p e.1 e.2) = none := by
        rw [lookup_eq_none_iff]
        exact fun hm => hr.1 ((rest.filter_sublist.map _).subset hm)
      by_cases hp : p k v = true <;> simp [lookup, Option.filter, hp, hn]
    · by_cases hp : p k v = true <;> simp [lookup, hp, hk, ih hr.2]

theorem find?_filter (t : Table κ ν) (p : κ → ν → Bool) (x : κ) :
    (t.filter p).find? x = (t.find? x).filter (p x) :=
  lookup_filter p x t.distinct

theorem find?_erase (t : Table κ ν) (k x : κ) :
    (t.erase k).find? x = if x = k then none else t.find? x := by
  rw [erase, find?_filter]
  by_cases h : x = k <;> cases t.find? x <;> simp [h, Option.filter]

theorem mem_keys_iff (t : Table κ ν) (k : κ) : k ∈ t.keys ↔ ∃ v, t.find? k = some v := by
  rw [← Option.ne_none_iff_exists', ne_eq, find?_eq_none_iff, Decidable.not_not]

theorem mem_values_iff (t : Table κ ν) (v : ν) : v ∈ t.values ↔ ∃ k, t.find? k = some v := by
  simp only [values, List.mem_map, find?_eq_some_iff]
  constructor
  · rintro ⟨⟨k, v'⟩, hm, rfl⟩
    exact ⟨k, hm⟩
  · rintro ⟨k, hm⟩
    exact ⟨(k, v), hm, rfl⟩

theorem isEmpty_iff (t : Table κ ν) : t.isEmpty = true ↔ ∀ k, t.find? k = none := by
  simp only [isEmpty, List.isEmpty_iff, find?_eq_none_iff, keys, List.eq_nil_iff_forall_not_mem,
    List.mem_map]
  constructor
  · rintro h k ⟨e, he, -⟩
    exact h e he
  · exact fun h e he => h e.1 ⟨e, he, rfl⟩

end Table
end RelayGateway
