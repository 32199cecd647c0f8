import RelayGateway.Config.Setting

/-! # Writing over settings that are there already

A write sees no more of what is there than the entries of a table and the items of a list. When the same
source is written into an empty tree and over texts that are there already, the two trees come to differ
only where nothing was written: there the texts are left. A text is written over by everything but an
empty table, which is merged into it.
-/
namespace RelayGateway.Setting

variable {s s' : Setting} {b f t : Option Setting}

theorem find?_put (s : Setting) (key k : String) (v : Setting) :
    (s.put key v).find? k = if k = key then some v else s.find? k := by
  show Table.lookup k (Table.replace key v s.entries) = _
  split
  · next h => rw [h, Table.lookup_replace_self]
  · next h => exact Table.lookup_replace_of_ne h v s.entries

theorem find?_getD {x : Setting} (h : x.entries = []) (f : Option Setting) (k : String) :
    (f.getD x).find? k = f.bind (Setting.find? k) := by
  cases f with
  | none =>
    show Table.lookup k x.entries = none
    rw [h]
    rfl
  | some s => rfl

/-! ## What a write sees -/

def onto (v : Setting) (old : Option Setting) : Setting :=
  match v with
  | .table es => merge (old.getD empty) es
  | v => v

theorem assign_eq (s : Setting) (key : String) (v : Setting) :
    s.assign key v = s.put (caseless key) (onto v (s.find? (caseless key))) := by
  cases v <;> rfl

theorem assign_congr (h : s.entries = s'.entries) (key : String) (v : Setting) :
    s.assign key v = s'.assign key v := by
  rw [assign_eq, assign_eq]
  unfold put find?
  rw [h]

theorem write_key (v : Setting) (name : String) (p : PathStep) (path : List PathStep) (s : Setting) :
    write v (.key name :: p :: path) s = s.put (caseless name)
      (write v (p :: path) ((s.find? (caseless name)).getD .absent)) := rfl

theorem write_congr (v : Setting) {path : List PathStep} (step : path ≠ [])
    (hentries : s.entries = s'.entries) (hitems : s.items = s'.items) :
    write v path s = write v path s' := by
  match path, step with
  | [.key name], _ => exact assign_congr hentries name v
  | .key name :: p :: path, _ =>
    rw [write_key, write_key]
    unfold put find?
    rw [hentries]
  | .index i :: path, _ =>
    unfold write
    rw [hitems]

/-! ## Over texts that are there already -/

/-- What `t` is when it has come of the same writes over `b` that `f` has come of without it. -/
inductive Over : Option Setting → Option Setting → Option Setting → Prop where
  | same (b f : Option Setting) : Over b f f
  /-- Nothing was written over a text, or nothing but an empty table. -/
  | text (w : String) {f : Option Setting} (bare : f = none ∨ f = some empty) :
      Over (some (.text w)) f (some (.text w))
  | table {bs ts : List (String × Setting)} {f : Option Setting}
      (plain : f = none ∨ ∃ fs, f = some (.table fs))
      (entries : ∀ k, Over (Table.lookup k bs) (f.bind (find? k)) (Table.lookup k ts)) :
      Over (some (.table bs)) f (some (.table ts))

namespace Over

theorem find? (h : Over b f t) (k : String) :
    Over (b.bind (Setting.find? k)) (f.bind (Setting.find? k)) (t.bind (Setting.find? k)) := by
  cases h with
  | same => exact .same _ _
  | text w bare =>
    rcases bare with rfl | rfl <;> exact .same _ _
  | table plain entries => exact entries k

/-- A table lies under what is written over it when its entries do. -/
theorem under {bs : List (String × Setting)} (bare : f = none ∨ f = some empty)
    (h : ∀ e ∈ bs, Over (some e.2) none (some e.2)) :
    Over (some (.table bs)) f (some (.table bs)) := by
  refine .table (bare.imp_right fun h => ⟨[], h⟩) fun k => ?_
  have hnone : f.bind (Setting.find? k) = none := by rcases bare with rfl | rfl <;> rfl
  rw [hnone]
  cases hk : Table.lookup k bs with
  | none => exact .same _ _
  | some v => exact h _ (Table.mem_of_lookup hk)

/-- An entry is written on both sides. -/
theorem put {bs : List (String × Setting)} {key : String} {v w : Setting}
    (entries : ∀ k, Over (Table.lookup k bs) (s.find? k) (s'.find? k))
    (h : Over (Table.lookup key bs) (some v) (some w)) :
    Over (some (.table bs)) (some (s.put key v)) (some (s'.put key w)) := by
  refine .table (.inr ⟨_, rfl⟩) fun k => ?_
  show Over _ ((s.put key v).find? k) ((s'.put key w).find? k)
  rw [find?_put, find?_put]
  split
  · next hk => exact hk ▸ h
  · exact entries k

theorem getD_empty (h : Over b f t) : Over b (some (f.getD empty)) (some (t.getD empty)) := by
  cases h with
  | same => exact .same _ _
  | text w bare => rcases bare with rfl | rfl <;> exact .text w (.inr rfl)
  | table plain entries =>
    refine .table (.inr ?_) fun k => ?_
    · rcases plain with rfl | ⟨fs, rfl⟩ <;> exact ⟨_, rfl⟩
    · show Over _ ((f.getD empty).find? k) _
      rw [find?_getD rfl]
      exact entries k

/-- An entry is assigned on both sides, if what is written where the old ones are goes on both sides. -/
theorem assign_of_onto {v x : Setting} (hx : x.entries = []) (h : Over b f t)
    (honto : ∀ {b f t}, Over b f t → Over b (some (Setting.onto v f)) (some (Setting.onto v t)))
    (key : String) : Over b (some ((f.getD x).assign key v)) (some ((t.getD x).assign key v)) := by
  cases h with
  | same => exact .same _ _
  | text w bare =>
    have hentries : (f.getD x).entries = [] := by
      rcases bare with rfl | rfl
      · exact hx
      · rfl
    have hsame : (f.getD x).assign key v = (Setting.text w).assign key v := assign_congr hentries key v
    rw [hsame]
    exact .same _ _
  | @table bs ts f plain entries =>
    have hentries : ∀ k, Over (Table.lookup k bs) ((f.getD x).find? k) (Table.lookup k ts) := by
      intro k
      rw [find?_getD hx]
      exact entries k
    rw [assign_eq, assign_eq]
    exact put hentries (honto (hentries (caseless key)))

mutual

theorem onto : ∀ (v : Setting) {b f t}, Over b f t →
    Over b (some (Setting.onto v f)) (some (Setting.onto v t))
  | .table es, _, _, _, h => merge es h
  | .absent, _, _, _, _ | .integer _, _, _, _, _ | .float _, _, _, _, _ | .boolean _, _, _, _, _
  | .text _, _, _, _, _ | .list _, _, _, _, _ => .same _ _

theorem merge : ∀ (es : List (String × Setting)) {b f t}, Over b f t →
    Over b (some (Setting.merge (f.getD empty) es)) (some (Setting.merge (t.getD empty) es))
  | [], _, _, _, h => by
    rw [Setting.merge, Setting.merge]
    exact h.getD_empty
  | (key, v) :: es, _, _, _, h => by
    rw [Setting.merge, Setting.merge]
    exact merge es (h.assign_of_onto rfl (onto v) key)

end

/-- A value is written at a path on both sides. -/
theorem write (v : Setting) {path : List PathStep} (step : path ≠ []) (h : Over b f t) :
    Over b (some (Setting.write v path (f.getD .absent)))
      (some (Setting.write v path (t.getD .absent))) := by
  induction path generalizing b f t with
  | nil => exact absurd rfl step
  | cons p path ih =>
    cases h with
    | same => exact .same _ _
    | text w bare =>
      have hsame : Setting.write v (p :: path) (f.getD .absent) =
          Setting.write v (p :: path) (.text w) := by
        rcases bare with rfl | rfl <;> exact write_congr v step rfl rfl
      rw [hsame]
      exact .same _ _
    | @table bs ts f plain entries =>
      match p, path with
      | .index i, path =>
        have hsame : Setting.write v (.index i :: path) (f.getD .absent) =
            Setting.write v (.index i :: path) (.table ts) := by
          unfold Setting.write
          rcases plain with rfl | ⟨fs, rfl⟩ <;> rfl
        rw [hsame]
        exact .same _ _
      | .key name, [] => exact assign_of_onto rfl (.table plain entries) (onto v) name
      | .key name, p :: path =>
        have hentries : ∀ k, Over (Table.lookup k bs) ((f.getD .absent).find? k) (Table.lookup k ts) := by
          intro k
          rw [find?_getD rfl]
          exact entries k
        rw [write_key, write_key]
        exact put hentries (ih (List.cons_ne_nil _ _) (hentries (caseless name)))

end Over

theorem pathOf_eq_key (text : String) : ∃ name path, pathOf text = .key name :: path := by
  unfold pathOf
  dsimp only
  split
  · exact ⟨_, _, rfl⟩
  · split <;> exact ⟨_, _, rfl⟩

theorem write_eq_table (v : Setting) (name : String) (path : List PathStep) (s : Setting) :
    ∃ es, write v (.key name :: path) s = .table es := by
  cases path with
  | nil => exact ⟨_, assign_eq s name v⟩
  | cons p path => exact ⟨_, write_key v name p path s⟩

/-- A tree stays a table whatever is written. -/
theorem overlay_eq_table (source : List (String × Setting)) (es : List (String × Setting)) :
    ∃ es', (table es).overlay source = .table es' := by
  unfold overlay
  induction source generalizing es with
  | nil => exact ⟨es, rfl⟩
  | cons e rest ih =>
    obtain ⟨name, path, hpath⟩ := pathOf_eq_key e.1
    obtain ⟨es', hwritten⟩ := write_eq_table e.2 name path (.table es)
    rw [← hpath] at hwritten
    show ∃ es', rest.foldl _ (write e.2 (pathOf e.1) (.table es)) = .table es'
    rw [hwritten]
    exact ih es'

/-- A whole source is written on both sides. -/
theorem Over.overlay (source : List (String × Setting)) (h : Over b (some s) (some s')) :
    Over b (some (s.overlay source)) (some (s'.overlay source)) := by
  unfold Setting.overlay
  induction source generalizing s s' with
  | nil => exact h
  | cons e rest ih =>
    obtain ⟨name, path, hpath⟩ := pathOf_eq_key e.1
    refine ih ?_
    exact h.write e.2 (hpath ▸ List.cons_ne_nil _ _)

/-! ## Names -/

def isPlainName (name : String) : Bool :=
  !name.toList.isEmpty && name.toList.all fun c => isPathChar c && Text.lowerChar c = c

theorem isPlainName_iff {name : String} : isPlainName name = true ↔
    name.toList ≠ [] ∧ ∀ c ∈ name.toList, isPathChar c = true ∧ Text.lowerChar c = c := by
  unfold isPlainName
  simp

theorem caseless_of_plain {name : String} (h : isPlainName name = true) : caseless name = name := by
  have hlower : Text.lower name = name.toList :=
    (List.map_congr_left fun c hc => ((isPlainName_iff.1 h).2 c hc).2).trans (List.map_id _)
  rw [caseless, hlower, String.ofList_toList]

/-- A name is read up to what cannot belong to a name. -/
theorem takeWhile_of_plain {name : String} (h : isPlainName name = true) (rest : List Char)
    (stop : ∀ c cs, rest = c :: cs → isPathChar c = false) :
    (name.toList ++ rest).takeWhile isPathChar = name.toList ∧
      (name.toList ++ rest).dropWhile isPathChar = rest := by
  have hall : ∀ c ∈ name.toList, isPathChar c = true := fun c hc => ((isPlainName_iff.1 h).2 c hc).1
  rw [List.takeWhile_append_of_pos hall, List.dropWhile_append_of_pos hall]
  cases rest with
  | nil => simp
  | cons c cs => simp [stop c cs rfl]

theorem stepsAfter?_of_plain {name : String} (h : isPlainName name = true) (fuel : Nat) :
    stepsAfter? (fuel + 1) ('.' :: name.toList) = some [.key name] := by
  obtain ⟨htake, hdrop⟩ := takeWhile_of_plain h [] nofun
  rw [List.append_nil] at htake hdrop
  rw [stepsAfter?]
  split
  · next hempty => exact absurd (htake.symm.trans hempty) (isPlainName_iff.1 h).1
  · rw [htake, hdrop]
    simp [stepsAfter?]

/-- Two names with a point in between are a path of two steps. -/
theorem pathOf_pair {a b : String} (ha : isPlainName a = true) (hb : isPlainName b = true) :
    pathOf (a ++ "." ++ b) = [.key a, .key b] := by
  have hchars : (a ++ "." ++ b).toList = a.toList ++ '.' :: b.toList := by simp
  obtain ⟨htake, hdrop⟩ := takeWhile_of_plain ha ('.' :: b.toList) fun c cs h => by
    cases h
    decide
  unfold pathOf
  dsimp only
  rw [hchars, htake, hdrop, List.length_append, List.length_cons, ← Nat.add_assoc, stepsAfter?_of_plain hb]
  split
  · exact absurd ‹_› (isPlainName_iff.1 ha).1
  · simp

/-! ## Fields -/

def field? (names : List String) (key : String) (s : Setting) : Option Setting :=
  (fields? names s).bind fun fields => fields.lookup key

theorem lookup_filter {names : List String} {key : String} (h : key ∈ names)
    (es : List (String × Setting)) :
    (es.filter fun e => names.contains e.1).lookup key = Table.lookup key es := by
  induction es with
  | nil => rfl
  | cons e rest ih =>
    obtain ⟨k, v⟩ := e
    by_cases hk : k = key
    · subst hk
      rw [List.filter_cons_of_pos (by simpa using h), List.lookup_cons_self, Table.lookup, if_pos rfl]
    · rw [Table.lookup, if_neg hk, ← ih]
      rw [List.filter_cons]
      split
      · rw [List.lookup_cons, beq_eq_false_iff_ne.2 (Ne.symm hk)]
      · rfl

/-- In a table the fields are entries. -/
theorem field?_table {names : List String} {key : String} (h : key ∈ names)
    (es : List (String × Setting)) : (table es).field? names key = (table es).find? key :=
  lookup_filter h es

theorem Over.field? {names : List String} {key : String} (known : key ∈ names) (h : Over b f t) :
    Over (b.bind (Setting.find? key)) (f.bind (Setting.field? names key))
      (t.bind (Setting.field? names key)) := by
  cases h with
  | same => exact .same _ _
  | text w bare => rcases bare with rfl | rfl <;> exact .same _ _
  | @table bs ts f plain entries =>
    show Over _ _ ((Setting.table ts).field? names key)
    rw [field?_table known]
    rcases plain with rfl | ⟨fs, rfl⟩
    · exact entries key
    · show Over _ ((Setting.table fs).field? names key) _
      rw [field?_table known]
      exact entries key

end RelayGateway.Setting
