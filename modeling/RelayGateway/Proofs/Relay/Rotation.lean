import Mathlib.Data.List.Rotate
import RelayGateway.Relay.Selector

/-! # The rotation is fair

Between two choices from one list other lists may be chosen from, so that a rotation through it begins at any
of its candidates. From there on the turns run through all remainders by its length: as many choices as there
are candidates are the list itself, rotated. This holds as long as the turns are counted without starting
anew, which is for all runs that a word can count.
-/
namespace RelayGateway.RoundRobin
variable {r : RoundRobin} {candidates : List EndpointAddr} {lists : List (List EndpointAddr)}

/-! ## One choice -/

theorem select_nil (r : RoundRobin) : r.select [] = (r, .error "no candidates") := rfl

theorem select_of_ne_nil (r : RoundRobin) (h : candidates ≠ []) :
    ∃ inside : r.turn % candidates.length < candidates.length, r.select candidates =
      (⟨(r.turn + 1) % wordBound⟩, .ok candidates[r.turn % candidates.length]) := by
  have inside := Nat.mod_lt r.turn (List.length_pos_of_ne_nil h)
  refine ⟨inside, ?_⟩
  unfold select
  rw [List.getElem?_eq_getElem inside]

/-! ## Runs -/

def after (r : RoundRobin) (lists : List (List EndpointAddr)) : RoundRobin :=
  lists.foldl (fun r candidates => (r.select candidates).1) r

def choices (r : RoundRobin) : List (List EndpointAddr) → List (Except String EndpointAddr)
  | [] => []
  | candidates :: lists => (r.select candidates).2 :: choices (r.select candidates).1 lists

theorem choices_append (r : RoundRobin) (lists lists' : List (List EndpointAddr)) :
    r.choices (lists ++ lists') = r.choices lists ++ (r.after lists).choices lists' := by
  induction lists generalizing r with
  | nil => rfl
  | cons candidates lists ih => exact congrArg _ (ih _)

theorem length_choices (r : RoundRobin) (lists : List (List EndpointAddr)) :
    (r.choices lists).length = lists.length := by
  induction lists generalizing r with
  | nil => rfl
  | cons candidates lists ih => exact congrArg Nat.succ (ih _)

theorem getElem?_choices (r : RoundRobin) (lists : List (List EndpointAddr)) (i : Nat) :
    (r.choices lists)[i]? = (lists[i]?).map fun candidates =>
      ((r.after (lists.take i)).select candidates).2 := by
  induction lists generalizing r i with
  | nil => rfl
  | cons candidates lists ih =>
    cases i with
    | zero => rfl
    | succ i => exact ih _ i

theorem turn_select_le (r : RoundRobin) (candidates : List EndpointAddr) :
    (r.select candidates).1.turn ≤ r.turn + 1 := by
  by_cases h : candidates = []
  · rw [h, select_nil]
    exact Nat.le_succ _
  · obtain ⟨_, hselect⟩ := r.select_of_ne_nil h
    rw [hselect]
    exact Nat.mod_le _ _

/-- No more turns are used up than choices are made. -/
theorem turn_after_le (r : RoundRobin) (lists : List (List EndpointAddr)) :
    (r.after lists).turn ≤ r.turn + lists.length := by
  induction lists generalizing r with
  | nil => exact Nat.le_refl _
  | cons candidates lists ih =>
    have hselect := r.turn_select_le candidates
    have hrest := ih (r.select candidates).1
    rw [List.length_cons]
    exact hrest.trans (by omega)

/-- Choices from a list that is not empty use up one turn each, as long as the turns can be counted. -/
theorem turn_after_replicate (h : candidates ≠ []) {k : Nat} (few : r.turn + k < wordBound) :
    (r.after (List.replicate k candidates)).turn = r.turn + k := by
  induction k generalizing r with
  | zero => rfl
  | succ k ih =>
    obtain ⟨_, hselect⟩ := r.select_of_ne_nil h
    have hturn : (r.select candidates).1.turn = r.turn + 1 := by
      rw [hselect]
      exact Nat.mod_eq_of_lt (by omega)
    have hrest := ih (r := (r.select candidates).1) (by omega)
    rw [List.replicate_succ]
    exact hrest.trans (by omega)

/-- As many choices from a list as it has candidates are the list, rotated to the turn. -/
theorem choices_replicate (few : r.turn + candidates.length < wordBound) :
    r.choices (List.replicate candidates.length candidates) =
      (candidates.rotate r.turn).map Except.ok := by
  refine List.ext_getElem? fun i => ?_
  rw [getElem?_choices, List.getElem?_map]
  by_cases hi : i < candidates.length
  · have hne : candidates ≠ [] := List.ne_nil_of_length_pos (Nat.zero_lt_of_lt hi)
    rw [List.getElem?_replicate_of_lt hi, List.take_replicate, Nat.min_eq_left hi.le,
      List.getElem?_rotate hi]
    have hturn := turn_after_replicate (r := r) hne (k := i) (by omega)
    obtain ⟨inside, hselect⟩ := (r.after (List.replicate i candidates)).select_of_ne_nil hne
    rw [Option.map_some, hselect]
    simp only [hturn, Nat.add_comm r.turn i] at inside ⊢
    rw [List.getElem?_eq_getElem inside]
    rfl
  · rw [List.getElem?_eq_none (by simpa using hi), List.getElem?_eq_none (by simpa using hi)]
    rfl

/-! ## Fairness -/

structure Fair (r : RoundRobin) (lists : List (List EndpointAddr)) : Prop where
  member : ∀ (i : Nat) (candidates : List EndpointAddr), lists[i]? = some candidates → candidates ≠ [] →
    ∃ chosen ∈ candidates, (r.choices lists)[i]? = some (.ok chosen)
  /-- Wherever a list is chosen from as often as it has candidates, each of them is chosen as often as it
  is listed, which is once when they are distinct. -/
  evenly : ∀ before candidates rest,
    lists = before ++ List.replicate candidates.length candidates ++ rest →
      (((r.choices lists).drop before.length).take candidates.length).Perm (candidates.map Except.ok)
  /-- Without the choice from an empty list all others would be the same. -/
  unspent : ∀ before rest, lists = before ++ [] :: rest →
    (r.choices lists)[before.length]? = some (.error "no candidates") ∧
      (r.choices lists).eraseIdx before.length = r.choices (before ++ rest)

theorem choices_member {i : Nat} (listed : lists[i]? = some candidates) (h : candidates ≠ []) :
    ∃ chosen ∈ candidates, (r.choices lists)[i]? = some (.ok chosen) := by
  obtain ⟨inside, hselect⟩ := (r.after (lists.take i)).select_of_ne_nil h
  refine ⟨_, List.getElem_mem inside, ?_⟩
  rw [getElem?_choices, listed, Option.map_some, hselect]

theorem choices_empty (r : RoundRobin) (before rest : List (List EndpointAddr)) :
    r.choices (before ++ [] :: rest) =
      r.choices before ++ .error "no candidates" :: (r.after before).choices rest := by
  rw [choices_append]
  rfl

/-- In every run that a word can count, whatever lists are chosen from. -/
theorem run_fair (few : lists.length < wordBound) : new.Fair lists where
  member i candidates listed h := choices_member listed h
  evenly := by
    rintro before candidates rest rfl
    have hturn := new.turn_after_le before
    have hnew : new.turn = 0 := rfl
    rw [List.length_append, List.length_append, List.length_replicate] at few
    have hwindow : (new.after before).choices (List.replicate candidates.length candidates) =
        (candidates.rotate (new.after before).turn).map Except.ok := choices_replicate (by omega)
    rw [choices_append, choices_append, List.append_assoc,
      List.drop_left' (new.length_choices before), List.take_left' (by rw [hwindow]; simp), hwindow]
    exact (candidates.rotate_perm _).map _
  unspent := by
    rintro before rest rfl
    have hlength := new.length_choices before
    rw [choices_empty, choices_append, ← hlength]
    constructor
    · rw [List.getElem?_append_right (Nat.le_refl _), Nat.sub_self]
      rfl
    · rw [List.eraseIdx_append_of_length_le (Nat.le_refl _), Nat.sub_self]
      rfl

section Example

/-- Three choices from a list of three, after choices from a shorter and from an empty one. -/
def mixedLists : List (List EndpointAddr) :=
  [⟨"a"⟩, ⟨"b"⟩] :: [] :: List.replicate 3 [⟨"a"⟩, ⟨"b"⟩, ⟨"c"⟩]

/-- The rotation begins at the second candidate. -/
theorem fair_mixed : mixedLists.length < wordBound ∧ new.Fair mixedLists ∧
    (new.choices mixedLists).drop 2 = [.ok ⟨"b"⟩, .ok ⟨"c"⟩, .ok ⟨"a"⟩] :=
  ⟨by decide, run_fair (by decide), rfl⟩

end Example

end RelayGateway.RoundRobin
