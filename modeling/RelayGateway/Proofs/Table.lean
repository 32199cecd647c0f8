import Mathlib.Algebra.GroupWithZero.Nat
import RelayGateway.Table

/-! # Tables made from lists

What a table holds after pairs were entered one after another: the last pair with a key counts, and
pairs with distinct keys stay in their order.
-/
namespace RelayGateway

/-- The last element of a kind is the one that no other of its kind follows. -/
theorem find?_reverse_eq_some_iff {α : Type} {p : α → Bool} {l : List α} {a : α} :
    l.reverse.find? p = some a ↔
      p a = true ∧ ∃ before after, l = before ++ a :: after ∧ ∀ b ∈ after, p b = false := by
  rw [List.find?_eq_some_iff_append]
  refine and_congr_right fun _ => ⟨?_, ?_⟩
  · rintro ⟨after, before, heq, hafter⟩
    refine ⟨before.reverse, after.reverse, by simpa using congrArg List.reverse heq, fun b hb => ?_⟩
    simpa using hafter b (List.mem_reverse.1 hb)
  · rintro ⟨before, after, rfl, hafter⟩
    refine ⟨after.reverse, before.reverse, by simp, fun b hb => ?_⟩
    simpa using hafter b (List.mem_reverse.1 hb)

/-- Among elements of a kind that are all kept or all left out, the first is kept as the first. -/
theorem find?_filter_of_alike {α : Type} {p q : α → Bool} {l : List α}
    (alike : ∀ a ∈ l, ∀ b ∈ l, q a = true → q b = true → p a = p b) :
    (l.filter p).find? q = (l.find? q).filter p := by
  induction l with
  | nil => rfl
  | cons a rest ih =>
    have hrest := ih fun b hb c hc => alike b (List.mem_cons_of_mem a hb) c (List.mem_cons_of_mem a hc)
    by_cases hq : q a = true
    · rw [List.find?_cons_of_pos hq, Option.filter_some]
      by_cases hp : p a = true
      · rw [List.filter_cons_of_pos hp, List.find?_cons_of_pos hq, if_pos hp]
      · rw [List.filter_cons_of_neg hp, if_neg hp, List.find?_eq_none]
        intro b hb hqb
        obtain ⟨hmem, hpb⟩ := List.mem_filter.1 hb
        rw [alike a List.mem_cons_self b (List.mem_cons_of_mem a hmem) hq hqb] at hp
        exact hp hpb
    · rw [List.find?_cons_of_neg hq, ← hrest]
      by_cases hp : p a = true
      · rw [List.filter_cons_of_pos hp, List.find?_cons_of_neg hq]
      · rw [List.filter_cons_of_neg hp]

namespace Table
variable {κ ν : Type} [DecidableEq κ]

theorem lookup_map {α : Type} (k : κ) (f : α → κ) (g : α → ν) (l : List α) :
    lookup k (l.map fun x => (f x, g x)) = (l.find? fun x => f x = k).map g := by
  induction l with
  | nil => rfl
  | cons x rest ih => by_cases h : f x = k <;> simp [lookup, h, ih]

theorem lookup_append (k : κ) (l l' : List (κ × ν)) :
    lookup k (l ++ l') = (lookup k l).or (lookup k l') := by
  induction l with
  | nil => rfl
  | cons e rest ih =>
    by_cases h : e.1 = k
    · simp [lookup, h]
    · simp [lookup, h, ih]

theorem find?_foldl_insert (l : List (κ × ν)) (t : Table κ ν) (k : κ) :
    (l.foldl (fun t e => t.insert e.1 e.2) t).find? k = (lookup k l.reverse).or (t.find? k) := by
  induction l generalizing t with
  | nil => rfl
  | cons e rest ih =>
    rw [List.foldl_cons, ih, List.reverse_cons, lookup_append, Option.or_assoc, find?_insert]
    by_cases h : e.1 = k
    · simp [lookup, h]
    · simp [lookup, h, Ne.symm h]

theorem find?_mapValues {μ : Type} (f : ν → μ) (t : Table κ ν) (k : κ) :
    (t.mapValues f).find? k = (t.find? k).map f := by
  show lookup k (t.entries.map fun e => (e.1, f e.2)) = (lookup k t.entries).map f
  generalize t.entries = l
  induction l with
  | nil => rfl
  | cons e rest ih => by_cases h : e.1 = k <;> simp [lookup, h, ih]

/-- The last pair with the key counts. -/
theorem find?_ofList (l : List (κ × ν)) (k : κ) : (ofList l).find? k = lookup k l.reverse := by
  rw [ofList, find?_foldl_insert, find?_empty, Option.or_none]

theorem replace_of_not_mem {k : κ} (v : ν) {l : List (κ × ν)} (h : k ∉ l.map Prod.fst) :
    replace k v l = l ++ [(k, v)] := by
  induction l with
  | nil => rfl
  | cons e rest ih =>
    rw [List.map_cons, List.mem_cons, not_or] at h
    rw [replace, if_neg (Ne.symm h.1), ih h.2, List.cons_append]

theorem entries_insert_of_not_mem (t : Table κ ν) {k : κ} (v : ν) (h : k ∉ t.keys) :
    (t.insert k v).entries = t.entries ++ [(k, v)] :=
  replace_of_not_mem v h

theorem entries_foldl_insert (l : List (κ × ν)) (t : Table κ ν)
    (hd : ((t.entries ++ l).map Prod.fst).Nodup) :
    (l.foldl (fun t e => t.insert e.1 e.2) t).entries = t.entries ++ l := by
  induction l generalizing t with
  | nil => exact (List.append_nil _).symm
  | cons e rest ih =>
    have hn : e.1 ∉ t.keys := by
      rw [List.map_append, List.nodup_append] at hd
      exact fun hm => hd.2.2 _ hm _ List.mem_cons_self rfl
    have he := entries_insert_of_not_mem t e.2 hn
    rw [List.foldl_cons, ih, he, List.append_assoc, List.singleton_append]
    rw [he, List.append_assoc, List.singleton_append]
    exact hd

/-- Pairs with distinct keys are kept as they are. -/
theorem entries_ofList {l : List (κ × ν)} (hd : (l.map Prod.fst).Nodup) : (ofList l).entries = l :=
  entries_foldl_insert l empty hd

/-- Values that know their own keys can be looked up among the values alone. -/
theorem find?_values (t : Table κ ν) (f : ν → κ) (h : ∀ e ∈ t.entries, f e.2 = e.1) (k : κ) :
    t.values.find? (fun v => f v = k) = t.find? k := by
  have hentries : t.entries = t.values.map fun v => (f v, v) := by
    rw [values, List.map_map]
    conv => lhs; rw [← List.map_id t.entries]
    refine List.map_congr_left ?_
    intro e he
    simp [h e he]
  rw [find?, hentries, lookup_map, Option.map_id']

/-- What the values of a table add up to when one is put in the place of another. -/
theorem sum_replace (f : ν → Nat) (k : κ) (v : ν) {l : List (κ × ν)} :
    ((replace k v l).map fun e => f e.2).sum + ((lookup k l).map f).getD 0 =
      (l.map fun e => f e.2).sum + f v := by
  induction l with
  | nil => simp [replace, lookup]
  | cons e rest ih =>
    by_cases h : e.1 = k
    · simp only [replace, lookup, h, if_true, List.map_cons, List.sum_cons, Option.map_some,
        Option.getD_some]
      omega
    · simp only [replace, lookup, h, if_false, List.map_cons, List.sum_cons]
      omega

end Table
end RelayGateway
