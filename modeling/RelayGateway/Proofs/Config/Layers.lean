import RelayGateway.Config.Source
import RelayGateway.Proofs.Config.Scalar
import RelayGateway.Proofs.Table

/-! # The layers of a configuration

Every scalar setting is the one of the environment if a variable names it, else the one of the file if it
gives one, else the default. A variable that does not begin like one of the gateway changes nothing, and
one that names a setting changes no other.

Sections that the file gives as lists are the exception. Such a list stands for the fields of its section in
their order, but only as long as no variable names a setting of that section: then the section becomes a
table, and what was listed is gone.
-/
namespace RelayGateway

/-! ## Names of variables -/

theorem pointed_cons {c : Char} {cs : List Char} (h : ¬ (c = '_' ∧ cs.head? = some '_')) :
    pointed (c :: cs) = c :: pointed cs := by
  cases cs with
  | nil => rw [pointed]; exact nofun
  | cons d ds =>
    rw [pointed]
    rintro _ rfl heq
    cases heq
    exact h ⟨rfl, rfl⟩

theorem pointed_cons_eq {c : Char} {cs : List Char} (h : pointed (c :: cs) = c :: cs) :
    ¬ (c = '_' ∧ cs.head? = some '_') ∧ pointed cs = cs := by
  have hsingle : ¬ (c = '_' ∧ cs.head? = some '_') := by
    rintro ⟨rfl, hhead⟩
    obtain ⟨ds, rfl⟩ := List.head?_eq_some_iff.1 hhead
    rw [pointed] at h
    cases (List.cons.inj h).1
  rw [pointed_cons hsingle] at h
  exact ⟨hsingle, (List.cons.inj h).2⟩

/-- A text to which one more underscore adds nothing is kept in front of two. -/
theorem pointed_append {cs : List Char} (h : pointed (cs ++ ['_']) = cs ++ ['_']) (rest : List Char) :
    pointed (cs ++ '_' :: '_' :: rest) = cs ++ '.' :: pointed rest := by
  induction cs with
  | nil => rw [List.nil_append, pointed]; rfl
  | cons c cs ih =>
    obtain ⟨hsingle, htail⟩ := pointed_cons_eq h
    have hhead : (cs ++ '_' :: '_' :: rest).head? = (cs ++ ['_']).head? := by cases cs <;> rfl
    rw [List.cons_append, pointed_cons (hhead ▸ hsingle), ih htail]
    rfl

theorem pointed_of_append {cs : List Char} (h : pointed (cs ++ ['_']) = cs ++ ['_']) :
    pointed cs = cs := by
  induction cs with
  | nil => rfl
  | cons c cs ih =>
    obtain ⟨hsingle, htail⟩ := pointed_cons_eq h
    have hhead : cs.head? = some '_' → (cs ++ ['_']).head? = some '_' := by
      intro h
      rw [List.head?_append, h]
      rfl
    rw [pointed_cons fun h => hsingle ⟨h.1, hhead h.2⟩, ih htail]

/-! ## What the sources say -/

namespace Environment

def Unset (env : Environment) (x : SettingPlace) : Prop := ∀ e ∈ env, settingName? e.1 ≠ some x.path

def touches (env : Environment) (sectionName : String) : Bool :=
  env.settings.any fun e => (Setting.pathOf e.1).head? = some (.key sectionName)

/-- The variables that name settings name scalars, and no two of them the same. -/
structure NamesScalars (env : Environment) : Prop where
  scalar : ∀ e ∈ env.settings, ∃ x ∈ GatewayConfig.scalars, e.1 = x.path
  distinct : (env.settings.map Prod.fst).Nodup

end Environment

def Setting.isValue : Setting → Bool
  | .table [] => false
  | _ => true

namespace SettingPlace

def entry? (x : SettingPlace) (tree : Setting) : Option Setting :=
  (tree.find? x.sectionName).bind (Setting.find? x.key)

/-- What is left at the place when its section is touched, or when it is not. -/
def left? (x : SettingPlace) (touched : Bool) (tree : Setting) : Option Setting :=
  if touched then x.entry? tree else x.at? tree

/-- What a file gives for the place in an environment. -/
def given? (x : SettingPlace) (file : Option String) (env : Environment) : Option Setting :=
  (GatewayConfig.fileSettings? file).bind fun source =>
    (x.left? (env.touches x.sectionName) (Setting.empty.overlay source)).filter Setting.isValue

def variableName (x : SettingPlace) : List Char := ("relay__" ++ x.sectionName ++ "__" ++ x.key).toList

structure Plain (x : SettingPlace) : Prop where
  section_plain : Setting.isPlainName x.sectionName = true
  key_plain : Setting.isPlainName x.key = true
  known : x.key ∈ x.names

variable {x y : SettingPlace} {tree : Setting} {touched : Bool}

theorem Plain.steps (hx : x.Plain) : Setting.pathOf x.path = [.key x.sectionName, .key x.key] :=
  Setting.pathOf_pair hx.section_plain hx.key_plain

theorem Plain.path_eq_iff (hx : x.Plain) (hy : y.Plain) :
    x.path = y.path ↔ x.sectionName = y.sectionName ∧ x.key = y.key := by
  constructor
  · intro h
    have hsteps := hx.steps.symm.trans ((congrArg Setting.pathOf h).trans hy.steps)
    simpa using hsteps
  · rintro ⟨hsection, hkey⟩
    unfold SettingPlace.path
    rw [hsection, hkey]

theorem Plain.write_text (hy : y.Plain) (value : String) (tree : Setting) :
    Setting.write (.text value) (Setting.pathOf y.path) tree = tree.put y.sectionName
      (((tree.find? y.sectionName).getD .absent).put y.key (.text value)) := by
  rw [hy.steps, Setting.write_key, Setting.caseless_of_plain hy.section_plain]
  show tree.put _ (Setting.assign _ y.key (.text value)) = _
  rw [Setting.assign_eq, Setting.caseless_of_plain hy.key_plain]
  rfl

/-- A text that is written at one place is what is left there, touches that section, and changes nothing at
any other place. -/
theorem left?_write (hx : x.Plain) (hy : y.Plain) (touched : Bool) (value : String) (tree : Setting) :
    x.left? touched (Setting.write (.text value) (Setting.pathOf y.path) tree) =
      if x.path = y.path then some (.text value)
      else x.left? (touched || decide (x.sectionName = y.sectionName)) tree := by
  rw [hy.write_text]
  simp only [hx.path_eq_iff hy]
  unfold left? entry? at?
  rw [Setting.find?_put]
  by_cases hsection : x.sectionName = y.sectionName
  · have hentry : ∀ s : Setting, (s.put y.key (.text value)).find? x.key =
        if x.key = y.key then some (.text value) else s.find? x.key :=
      fun s => Setting.find?_put s y.key x.key (.text value)
    have hfield : ∀ s : Setting, (s.put y.key (.text value)).field? x.names x.key =
        (s.put y.key (.text value)).find? x.key := fun s => Setting.field?_table hx.known _
    have hold : ((tree.find? y.sectionName).getD .absent).find? x.key =
        (tree.find? y.sectionName).bind (Setting.find? x.key) := Setting.find?_getD rfl _ _
    simp [hsection, hfield, hentry, hold]
  · simp [hsection]

end SettingPlace

namespace GatewayConfig

theorem plain_of_scalar : ∀ x ∈ scalars, x.toSettingPlace.Plain := by
  have hall : ∀ x ∈ scalars, Setting.isPlainName x.sectionName = true ∧
      Setting.isPlainName x.key = true ∧ x.key ∈ x.names := by decide +kernel
  intro x hx
  obtain ⟨hsection, hkey, hknown⟩ := hall x hx
  exact ⟨hsection, hkey, hknown⟩

theorem plain_fallbacksPlace : fallbacksPlace.Plain :=
  ⟨by decide +kernel, by decide +kernel, by decide⟩

theorem not_scalar_fallbacksPlace : ∀ x ∈ scalars, x.key ≠ fallbacksPlace.key := by decide

theorem settingName?_of_variableName {x : ScalarSetting} (hx : x ∈ scalars) {name : String}
    (h : Text.lower name = x.variableName) : settingName? name = some x.path := by
  have hall : ∀ x ∈ scalars,
      pointed (x.sectionName.toList ++ ['_']) = x.sectionName.toList ++ ['_'] ∧
        pointed (x.key.toList ++ ['_']) = x.key.toList ++ ['_'] := by decide +kernel
  obtain ⟨hsection, hkey⟩ := hall x hx
  have hname : x.variableName = "relay__".toList ++ (x.sectionName.toList ++ '_' :: '_' :: x.key.toList) := by
    simp [SettingPlace.variableName]
  have hpath : x.sectionName.toList ++ '.' :: x.key.toList = x.path.toList := by simp [SettingPlace.path]
  unfold settingName?
  dsimp only
  rw [h, hname, if_pos (List.isPrefixOf_iff_prefix.2 (List.prefix_append ..)), List.drop_left,
    pointed_append hsection, pointed_of_append hkey, hpath, String.ofList_toList]

theorem builtIn_eq : Setting.empty.overlay builtIn = .table [
    ("protocol", .table [("name", .text "shannon")]),
    ("logging", .table [("level", .text "info"), ("format", .text "pretty")])] := by
  have hname : Setting.pathOf "protocol.name" = [.key "protocol", .key "name"] := by decide +kernel
  have hlevel : Setting.pathOf "logging.level" = [.key "logging", .key "level"] := by decide +kernel
  have hformat : Setting.pathOf "logging.format" = [.key "logging", .key "format"] := by decide +kernel
  have hcaseless : Setting.caseless "protocol" = "protocol" ∧ Setting.caseless "logging" = "logging" ∧
      Setting.caseless "name" = "name" ∧ Setting.caseless "level" = "level" ∧
        Setting.caseless "format" = "format" := by decide +kernel
  unfold Setting.overlay builtIn
  simp only [List.foldl, hname, hlevel, hformat, Setting.write, Setting.assign, Setting.put,
    hcaseless]
  rfl

/-- The built-in settings stay where nothing is written over them. -/
theorem over_builtIn : Setting.Over (some (Setting.empty.overlay builtIn)) (some .empty)
    (some (Setting.empty.overlay builtIn)) := by
  rw [builtIn_eq]
  refine .under (.inr rfl) ?_
  have htext : ∀ w, Setting.Over (some (.text w)) none (some (.text w)) := fun w => .text w (.inl rfl)
  simp only [List.forall_mem_cons]
  refine ⟨.under (.inl rfl) ?_, .under (.inl rfl) ?_, nofun⟩ <;> simp [htext]

/-- They are the defaults. -/
theorem read_builtIn {x : ScalarSetting} (hx : x ∈ scalars) {s : Setting}
    (h : x.entry? (Setting.empty.overlay builtIn) = some s) :
    x.kind.read? s = some (x.value default) := by
  have hall : ∀ x ∈ scalars, (x.entry? (.table [
      ("protocol", .table [("name", .text "shannon")]),
      ("logging", .table [("level", .text "info"), ("format", .text "pretty")])])).all fun s =>
        x.kind.read? s = some (x.value default) := by decide +kernel
  rw [builtIn_eq] at h
  have hread := hall x hx
  rw [h] at hread
  exact of_decide_eq_true hread

end GatewayConfig

/-! ## Reading what is left -/

/-- What is read over a built-in setting is read without it as well, if the built-in setting is the
default. -/
theorem Setting.Over.readOr {α : Type} {read : Setting → Option α} {fallback a : α}
    {b f t : Option Setting} (h : Over b f t) (read_table : ∀ es, read (.table es) = none)
    (builtIn : ∀ s, b = some s → read s = some fallback) (ht : readOr read fallback t = some a) :
    readOr read fallback (f.filter isValue) = some a := by
  cases h with
  | same =>
    cases f with
    | none => exact ht
    | some s =>
      have hvalue : s.isValue = true := by
        unfold isValue
        split
        · cases (read_table []).symm.trans ht
        · rfl
      rw [Option.filter_some_pos hvalue]
      exact ht
  | text w bare =>
    have hnone : f.filter isValue = none := by rcases bare with rfl | rfl <;> rfl
    rw [hnone]
    exact (builtIn _ rfl).symm.trans ht
  | table plain entries => cases (read_table _).symm.trans ht

namespace SettingPlace
variable {x : SettingPlace} {b f t : Setting}

theorem left?_over (known : x.key ∈ x.names) (h : Setting.Over (some b) (some f) (some t))
    (touched : Bool) : Setting.Over (x.entry? b) (x.left? touched f) (x.left? touched t) := by
  have hsection := h.find? x.sectionName
  cases touched with
  | false => exact hsection.field? known
  | true => exact hsection.find? x.key

/-- What the environment sets at a place is what stands there, and else what is left of the rest. -/
theorem left?_overlay (hx : x.Plain) {settings : List (String × Setting)}
    (scalar : ∀ e ∈ settings, ∃ y ∈ GatewayConfig.scalars, ∃ value, e = (y.path, .text value))
    (distinct : (settings.map Prod.fst).Nodup) (touched : Bool) (tree : Setting) :
    x.left? touched (tree.overlay settings) = (Table.lookup x.path settings).or (x.left?
      (touched || settings.any fun e => (Setting.pathOf e.1).head? = some (.key x.sectionName)) tree) := by
  induction settings generalizing tree with
  | nil => simp [Setting.overlay, Table.lookup]
  | cons e rest ih =>
    obtain ⟨y, hy, value, rfl⟩ := scalar e List.mem_cons_self
    have hplain := GatewayConfig.plain_of_scalar y hy
    have hrest := List.nodup_cons.1 distinct
    show x.left? touched ((Setting.write (.text value) (Setting.pathOf y.path) tree).overlay rest) = _
    rw [ih (fun e he => scalar e (List.mem_cons_of_mem _ he)) hrest.2, left?_write hx hplain]
    by_cases hpath : x.path = y.path
    · have hlookup : Table.lookup x.path rest = none := by
        rw [hpath]
        exact Table.lookup_eq_none_iff.2 hrest.1
      rw [if_pos hpath, hlookup, Table.lookup, if_pos hpath.symm]
      rfl
    · rw [if_neg hpath, Table.lookup, if_neg (Ne.symm hpath), List.any_cons, hplain.steps]
      simp [Bool.or_comm, Bool.or_left_comm, eq_comm]

end SettingPlace

namespace Environment
variable {env : Environment}

theorem Unset.lookup {x : SettingPlace} (h : env.Unset x) : Table.lookup x.path env.settings = none := by
  refine Table.lookup_eq_none_iff.2 fun hmem => ?_
  obtain ⟨e, he, hpath⟩ := List.mem_map.1 hmem
  obtain ⟨e', he', hsetting⟩ := List.mem_filterMap.1 he
  obtain ⟨name, hname, rfl⟩ := Option.map_eq_some_iff.1 hsetting
  exact h e' he' (hname.trans (congrArg some hpath))

theorem NamesScalars.settings (h : env.NamesScalars) :
    ∀ e ∈ env.settings, ∃ y ∈ GatewayConfig.scalars, ∃ value, e = (y.path, .text value) := by
  intro e he
  obtain ⟨y, hy, hname⟩ := h.scalar e he
  obtain ⟨variable_, -, hvariable⟩ := List.mem_filterMap.1 he
  obtain ⟨name, -, rfl⟩ := Option.map_eq_some_iff.1 hvariable
  exact ⟨y, hy, variable_.2, Prod.ext hname rfl⟩

end Environment

namespace GatewayConfig
variable {file : Option String} {env : Environment} {c c' : GatewayConfig}

theorem layers_of_ofSources? (loaded : ofSources? file env = some c) :
    ∃ source es, fileSettings? file = some source ∧
      ((Setting.empty.overlay builtIn).overlay source).overlay env.settings = .table es ∧
        read? (Setting.table es) = some c := by
  unfold ofSources? settings? at loaded
  cases hfile : fileSettings? file with
  | none =>
    rw [hfile] at loaded
    cases loaded
  | some source =>
    rw [hfile] at loaded
    rw [builtIn_eq] at loaded ⊢
    obtain ⟨fs, hsource⟩ := Setting.overlay_eq_table source [
      ("protocol", .table [("name", .text "shannon")]),
      ("logging", .table [("level", .text "info"), ("format", .text "pretty")])]
    obtain ⟨es, henv⟩ := Setting.overlay_eq_table env.settings fs
    refine ⟨source, es, rfl, by rw [hsource, henv], ?_⟩
    rw [← henv, ← hsource]
    exact loaded

/-- At every place what is read is what the environment sets, and else what the file gives. -/
theorem at?_layers {x : SettingPlace} (hx : x.Plain) (named : env.NamesScalars) {source : List (String × Setting)}
    (hsource : fileSettings? file = some source) {α : Type} {read : Setting → Option α} {fallback a : α}
    (read_table : ∀ es, read (.table es) = none)
    (builtIn_read : ∀ s, x.entry? (Setting.empty.overlay builtIn) = some s → read s = some fallback)
    (h : Setting.readOr read fallback
      (x.at? (((Setting.empty.overlay builtIn).overlay source).overlay env.settings)) = some a) :
    Setting.readOr read fallback ((Table.lookup x.path env.settings).or (x.given? file env)) =
      some a := by
  have hover := SettingPlace.left?_over hx.known (over_builtIn.overlay source) (env.touches x.sectionName)
  have hleft := SettingPlace.left?_overlay hx named.settings named.distinct false
    ((Setting.empty.overlay builtIn).overlay source)
  have hgiven : x.given? file env =
      (x.left? (env.touches x.sectionName) (Setting.empty.overlay source)).filter Setting.isValue := by
    unfold SettingPlace.given?
    rw [hsource]
    rfl
  rw [Bool.false_or] at hleft
  rw [show x.at? _ = x.left? false _ from rfl, hleft] at h
  cases hlookup : Table.lookup x.path env.settings with
  | some s =>
    rw [hlookup] at h
    exact h
  | none =>
    rw [hlookup, Option.none_or] at h
    rw [Option.none_or, hgiven]
    exact hover.readOr read_table builtIn_read h

theorem scalar_of_layers (named : env.NamesScalars) (loaded : ofSources? file env = some c) :
    ∀ x ∈ scalars, x.read? ((Table.lookup x.path env.settings).or (x.given? file env)) =
      some (x.value c) := by
  intro x hx
  obtain ⟨source, es, hsource, htree, hread⟩ := layers_of_ofSources? loaded
  refine at?_layers (plain_of_scalar x hx) named hsource ?_ (fun s => read_builtIn hx) ?_
  · intro es
    cases hkind : x.kind <;> rfl
  · rw [htree]
    exact (reads_of_table hread).1 x hx

theorem fallbacks_of_layers (named : env.NamesScalars) (loaded : ofSources? file env = some c) :
    Setting.readOr (Readable.listOf? ServiceFallback.read?) [] (fallbacksPlace.given? file env) =
      some c.protocol.serviceFallbacks := by
  obtain ⟨source, es, hsource, htree, hread⟩ := layers_of_ofSources? loaded
  have hunset : Table.lookup fallbacksPlace.path env.settings = none := by
    refine Table.lookup_eq_none_iff.2 fun hmem => ?_
    obtain ⟨e, he, hname⟩ := List.mem_map.1 hmem
    obtain ⟨x, hx, hpath⟩ := named.scalar e he
    have hplaces := (plain_fallbacksPlace.path_eq_iff (plain_of_scalar x hx)).1 (hname.symm.trans hpath)
    exact not_scalar_fallbacksPlace x hx hplaces.2.symm
  rw [← Option.none_or (o := fallbacksPlace.given? file env), ← hunset]
  refine at?_layers plain_fallbacksPlace named hsource (fun _ => rfl) (fun s hs => ?_) ?_
  · rw [builtIn_eq] at hs
    cases hs
  · rw [htree]
    exact (reads_of_table hread).2

/-! ## The configuration in its layers -/

/-- The configuration is the environment over the file over the defaults. -/
structure Layered (file : Option String) (env : Environment) (c : GatewayConfig) : Prop where
  set : ∀ x ∈ scalars, ∀ name value, (name, value) ∈ env → settingName? name = some x.path →
    x.kind.read? (.text value) = some (x.value c)
  given : ∀ x ∈ scalars, env.Unset x.toSettingPlace → ∀ s, x.given? file env = some s →
    x.kind.read? s = some (x.value c)
  omitted : ∀ x ∈ scalars, env.Unset x.toSettingPlace → x.given? file env = none → x.value c = x.value default
  /-- The fallbacks come from the file alone. -/
  fallbacks : Setting.readOr (Readable.listOf? ServiceFallback.read?) []
    (fallbacksPlace.given? file env) = some c.protocol.serviceFallbacks

theorem layered_of_ofSources? (named : env.NamesScalars) (loaded : ofSources? file env = some c) :
    Layered file env c := by
  have hscalar := scalar_of_layers named loaded
  refine ⟨fun x hx name value hmem hname => ?_, fun x hx unset s hs => ?_, fun x hx unset hs => ?_,
    fallbacks_of_layers named loaded⟩
  · have hset : Table.lookup x.path env.settings = some (.text value) := by
      refine (Table.lookup_eq_some_iff named.distinct).2 (List.mem_filterMap.2 ⟨(name, value), hmem, ?_⟩)
      dsimp only
      rw [hname]
      rfl
    have hread := hscalar x hx
    rw [hset] at hread
    exact hread
  · have hread := hscalar x hx
    rw [unset.lookup, hs] at hread
    exact hread
  · have hread := hscalar x hx
    rw [unset.lookup, hs] at hread
    exact (Option.some.inj hread).symm

/-- The layers leave nothing of a configuration open. -/
theorem Layered.unique (h : Layered file env c) (h' : Layered file env c') : c = c' := by
  refine ext_of_scalars (fun x hx => ?_) (Option.some.inj (h.fallbacks.symm.trans h'.fallbacks))
  by_cases unset : env.Unset x.toSettingPlace
  · cases hgiven : x.given? file env with
    | some s =>
      have hread := h.given x hx unset s hgiven
      exact Option.some.inj (hread.symm.trans (h'.given x hx unset s hgiven))
    | none => exact (h.omitted x hx unset hgiven).trans (h'.omitted x hx unset hgiven).symm
  · obtain ⟨name, value, hmem, hname⟩ :
        ∃ name value, (name, value) ∈ env ∧ settingName? name = some x.path := by
      simpa [Environment.Unset] using unset
    have hread := h.set x hx name value hmem hname
    exact Option.some.inj (hread.symm.trans (h'.set x hx name value hmem hname))

/-! ### One variable more or less -/

def Listed (file : Option String) (sectionName : String) : Prop :=
  ∃ source items, fileSettings? file = some source ∧
    (Setting.empty.overlay source).find? sectionName = some (.list items)

/-- The two differ in one setting at most, and in what the file lists in its section. -/
structure SameBut (file : Option String) (setting : String) (c c' : GatewayConfig) : Prop where
  scalar : ∀ x ∈ scalars, x.path ≠ setting →
    ((Setting.pathOf setting).head? = some (.key x.sectionName) → ¬ Listed file x.sectionName) →
      x.value c = x.value c'
  fallbacks : ((Setting.pathOf setting).head? = some (.key fallbacksPlace.sectionName) →
      ¬ Listed file fallbacksPlace.sectionName) →
    c.protocol.serviceFallbacks = c'.protocol.serviceFallbacks

theorem given?_congr {x : SettingPlace} (known : x.key ∈ x.names) {env env' : Environment}
    (h : env.touches x.sectionName = env'.touches x.sectionName ∨ ¬ Listed file x.sectionName) :
    x.given? file env = x.given? file env' := by
  unfold SettingPlace.given?
  cases hsource : fileSettings? file with
  | none => rfl
  | some source =>
    show (x.left? _ _).filter _ = (x.left? _ _).filter _
    rcases h with h | unlisted
    · rw [h]
    · have hleft : ∀ touched, x.left? touched (Setting.empty.overlay source) =
          x.at? (Setting.empty.overlay source) := by
        intro touched
        unfold SettingPlace.left? SettingPlace.entry? SettingPlace.at?
        cases hsection : (Setting.empty.overlay source).find? x.sectionName with
        | none => exact ite_self none
        | some s =>
          cases s with
          | list items => exact absurd ⟨source, items, hsource, hsection⟩ unlisted
          | table es =>
            show (if _ then (Setting.table es).find? x.key
              else (Setting.table es).field? x.names x.key) = (Setting.table es).field? x.names x.key
            rw [Setting.field?_table known, ite_self]
          | _ => exact ite_self none
      rw [hleft, hleft]

theorem sameBut_of_settings {env env' : Environment} {setting : String}
    (named : env.NamesScalars) (named' : env'.NamesScalars)
    (touches : ∀ sectionName, env.touches sectionName =
      (decide ((Setting.pathOf setting).head? = some (.key sectionName)) || env'.touches sectionName))
    (lookup : ∀ path, path ≠ setting →
      Table.lookup path env.settings = Table.lookup path env'.settings)
    (loaded : ofSources? file env = some c) (loaded' : ofSources? file env' = some c') :
    SameBut file setting c' c := by
  have hgiven : ∀ x : SettingPlace, x.key ∈ x.names → ((Setting.pathOf setting).head? = some (.key x.sectionName) →
      ¬ Listed file x.sectionName) → x.given? file env = x.given? file env' := by
    intro x hknown hlisted
    refine given?_congr hknown ?_
    by_cases hhead : (Setting.pathOf setting).head? = some (.key x.sectionName)
    · exact .inr (hlisted hhead)
    · exact .inl (by rw [touches, decide_eq_false hhead, Bool.false_or])
  refine ⟨fun x hx hpath hlisted => ?_, fun hlisted => ?_⟩
  · have hread := scalar_of_layers named loaded x hx
    rw [lookup x.path hpath, hgiven x.toSettingPlace (plain_of_scalar x hx).known hlisted] at hread
    exact Option.some.inj ((scalar_of_layers named' loaded' x hx).symm.trans hread)
  · have hread := fallbacks_of_layers named loaded
    rw [hgiven fallbacksPlace plain_fallbacksPlace.known hlisted] at hread
    exact Option.some.inj ((fallbacks_of_layers named' loaded').symm.trans hread)

theorem sameBut_of_variable {before after : Environment} {name value setting : String}
    (named : Environment.NamesScalars (before ++ (name, value) :: after))
    (hname : settingName? name = some setting)
    (loaded : ofSources? file (before ++ (name, value) :: after) = some c)
    (loaded' : ofSources? file (before ++ after) = some c') : SameBut file setting c' c := by
  have hsettings : Environment.settings (before ++ (name, value) :: after) =
      before.settings ++ (setting, .text value) :: after.settings := by
    simp [Environment.settings, hname]
  have hsettings' : Environment.settings (before ++ after) = before.settings ++ after.settings := by
    simp [Environment.settings]
  have hsub : (before.settings ++ after.settings).Sublist
      (before.settings ++ (setting, .text value) :: after.settings) :=
    (List.Sublist.refl _).append (List.sublist_cons_self ..)
  have hnamed := named
  obtain ⟨hscalar, hdistinct⟩ := hnamed
  rw [hsettings] at hscalar hdistinct
  refine sameBut_of_settings named ⟨?_, ?_⟩ (fun sectionName => ?_) (fun path hpath => ?_) loaded loaded'
  · rw [hsettings']
    exact fun e he => hscalar e (hsub.subset he)
  · rw [hsettings']
    exact hdistinct.sublist (hsub.map _)
  · unfold Environment.touches
    rw [hsettings, hsettings', List.any_append, List.any_cons, List.any_append, Bool.or_left_comm]
  · rw [hsettings, hsettings', Table.lookup_append, Table.lookup_append, Table.lookup,
      if_neg (Ne.symm hpath)]

/-! ### All together -/

/-- Without the mark of the gateway's variables, a variable says nothing. -/
theorem settingName?_of_unmarked {name : String} (h : ¬ "relay__".toList <+: Text.lower name) :
    settingName? name = none := by
  unfold settingName?
  exact if_neg fun hprefix => h (List.isPrefixOf_iff_prefix.1 hprefix)

theorem ofSources?_of_unmarked (file : Option String) (before after : Environment) {name : String}
    (value : String) (h : settingName? name = none) :
    ofSources? file (before ++ (name, value) :: after) = ofSources? file (before ++ after) := by
  have hsettings : Environment.settings (before ++ (name, value) :: after) =
      Environment.settings (before ++ after) := by
    simp [Environment.settings, h]
  unfold ofSources? settings?
  rw [hsettings]

/-- Whatever a file and an environment of scalars give is given layer by layer, and nothing else could be.
Variables without the mark have no part in it, the one that says where the file is among them, and each of
the others counts for the setting that it names alone. -/
theorem layered (named : env.NamesScalars) (loaded : ofSources? file env = some c) :
    (∀ x ∈ scalars, ∀ name, Text.lower name = x.variableName → settingName? name = some x.path) ∧
    Layered file env c ∧ (∀ c', Layered file env c' → c' = c) ∧
    (∀ before after name value, name = "RELAY_CONFIG" ∨ ¬ "relay__".toList <+: Text.lower name →
      ofSources? file (before ++ (name, value) :: after) = ofSources? file (before ++ after)) ∧
    ∀ before after name value setting, env = before ++ (name, value) :: after →
      settingName? name = some setting → ∀ c', ofSources? file (before ++ after) = some c' →
        SameBut file setting c' c := by
  have hlayered := layered_of_ofSources? named loaded
  refine ⟨fun x hx name => settingName?_of_variableName hx, hlayered, fun c' h => h.unique hlayered, ?_, ?_⟩
  · intro before after name value hname
    refine ofSources?_of_unmarked file before after value ?_
    rcases hname with rfl | unmarked
    · decide +kernel
    · exact settingName?_of_unmarked unmarked
  · rintro before after name value setting rfl hname c' loaded'
    exact sameBut_of_variable named hname loaded loaded'

section Example

theorem namesScalars_of_single {setting : String} {value : Setting}
    (h : env.settings = [(setting, value)]) (scalar : ∃ x ∈ scalars, setting = x.path) :
    env.NamesScalars := by
  constructor
  · rw [h]
    exact fun e he => List.mem_singleton.1 he ▸ scalar
  · rw [h]
    exact List.pairwise_singleton _ _

theorem settingName?_format : settingName? "RELAY__LOGGING__FORMAT" = some "logging.format" := by
  decide +kernel

theorem scalar_format : ∃ x ∈ scalars, "logging.format" = x.path := by decide +kernel

/-- A file, one variable for the format of the log and one that says nothing, and what they give. -/
theorem layered_debug :
    let file := some "[relay]\nconcurrency_limit = 5\n\n[logging]\nlevel = \"debug\"\n"
    let env := [("HOME", "/home/relay"), ("RELAY__LOGGING__FORMAT", "json")]
    let c := { (default : GatewayConfig) with
      relay := { (default : RelayConfig) with concurrencyLimit := 5 }, logging := ⟨"debug", "json"⟩ }
    Environment.NamesScalars env ∧ ofSources? file env = some c ∧ Layered file env c ∧
      SameBut file "logging.format" { c with logging := ⟨"debug", "pretty"⟩ } c := by
  intro file env c
  have hsettings : Environment.settings env = [("logging.format", .text "json")] := by
    have hhome : settingName? "HOME" = none := by decide +kernel
    simp [env, Environment.settings, hhome, settingName?_format]
  have hnamed := namesScalars_of_single hsettings scalar_format
  have hloaded : ofSources? file env = some c := by decide +kernel
  obtain ⟨-, hlayered, -, -, hvariable⟩ := layered hnamed hloaded
  exact ⟨hnamed, hloaded, hlayered, hvariable [("HOME", "/home/relay")] [] _ "json" _ rfl
    settingName?_format _ (by decide +kernel)⟩

/-- A level that the file gives can be lost. When the file lists the section of the log, a variable for its
format takes the level along, although it names a scalar and nothing else; and an empty table in the place of
the level leaves the default there. -/
theorem given_level_lost :
    let file := some "logging = [\"debug\"]\n"
    let env := [("RELAY__LOGGING__FORMAT", "json")]
    Environment.NamesScalars env ∧ settingName? "RELAY__LOGGING__FORMAT" = some "logging.format" ∧
    ofSources? file [] = some { (default : GatewayConfig) with logging := ⟨"debug", "pretty"⟩ } ∧
    ofSources? file env = some { (default : GatewayConfig) with logging := ⟨"info", "json"⟩ } ∧
    ofSources? (some "[logging.level]\n") [] = some default := by
  intro file env
  have hsettings : Environment.settings env = [("logging.format", .text "json")] := by
    simp [env, Environment.settings, settingName?_format]
  exact ⟨namesScalars_of_single hsettings scalar_format, settingName?_format, by decide +kernel,
    by decide +kernel, by decide +kernel⟩

end Example
end GatewayConfig
end RelayGateway
