import Mathlib
import TransitRevenue.Config.Load
import TransitRevenue.Proofs.Profit.Breakdown
import TransitRevenue.Proofs.Store.History
/-!
Loading the configuration: the variables that set explicit values win over the file.

The file's mapping is read, then `MONGO_URL`, `MONGO_DB_NAME`, `KAFKA_BOOTSTRAP_SERVERS`,
`FY_SETTINGS_FILE` and `FY_LOG_LEVEL` set their keys in it, and the result is layered over the
environment and `.env`. A layer keeps every key of the layer beneath that it does not name, and
replaces (or, for two mappings, merges into) those it does (`field?_layer`). The variables that
set explicit values reach the store and broker sections only through the section of the same
name, so the other keys of those sections stay as the file gave them.

The main statement, `loadConfig_explicit_variables_win`, says: when the file is missing, empty
or a mapping whose `mongo` and `kafka` sections are mappings and whose keys name fields only in
their own spelling, and the environment and `.env` set no `MONGO`, `KAFKA` or `ENGINE`, loading
either fails on a field that does not validate, or gives a configuration in which each variable
that is set gives its field, `KAFKA_BOOTSTRAP_SERVERS` also turns publishing on, and the store and
broker parts are read from the file's sections with only those keys set; a file that is not
YAML is reported with its path. A section that is `null` or not a mapping defeats the merge: a
variable that names a key in it fails with a type fault (`overrides_null_store_section`).
-/

namespace TransitRevenue

namespace ConfigLoad

open Value

/-! ## Mappings with text keys -/

/-- The entries of a mapping with text keys, as a mapping with keys of any kind holds them. -/
def textKeyed (fs : List (String × Value)) : List (Value × Value) :=
  fs.map fun (k, v) => (.str k, v)

@[simp] theorem entriesOf_obj (fs : List (String × Value)) : entriesOf (.obj fs) = some (textKeyed fs) :=
  rfl

@[simp] theorem sameKey_str (x y : String) : Yaml.sameKey (.str x) (.str y) = (x == y) := rfl

theorem mappingValue_textKeyed (fs : List (String × Value)) : Yaml.mappingValue (textKeyed fs) = .obj fs := by
  simp [Yaml.mappingValue, textKeyed]

theorem addEntry_textKeyed (fs : List (String × Value)) (k : String) (v : Value) :
    Yaml.addEntry (textKeyed fs) (.str k) v = textKeyed (setField fs k v) := by
  have hany : (textKeyed fs).any (fun e => Yaml.sameKey (.str k) e.1) = fs.any (·.1 == k) := by
    simp [textKeyed, List.any_map, Function.comp_def, BEq.comm]
  unfold Yaml.addEntry setField setEntry
  rw [hany]
  split
  · simp only [textKeyed, List.map_map]
    congr 1
    funext p
    by_cases hp : p.1 = k
    · simp [hp]
    · have hp' : k ≠ p.1 := fun h => hp h.symm
      simp [hp, hp']
  · simp [textKeyed]

/-- The entry of a key in a mapping with text keys is the key with its value. -/
theorem find?_textKeyed (fs : List (String × Value)) (k : String) :
    (textKeyed fs).find? (fun e => Yaml.sameKey (.str k) e.1) = (field? fs k).map fun v => (.str k, v) := by
  induction fs with
  | nil => rfl
  | cons p fs ih =>
    by_cases hp : p.1 = k
    · simp [textKeyed, field?, hp]
    · have hp' : k ≠ p.1 := fun h => hp h.symm
      simpa [textKeyed, field?, List.find?_cons, hp, hp'] using ih

/-! ## Layers -/

/-- What a layer puts under a key it names: its own value, merged into the value beneath when
both are mappings. -/
def merged (fuel : Nat) (old : Option Value) (v : Value) : Value :=
  match old with
  | some o => if (entriesOf o).isSome && (entriesOf v).isSome then deepUpdate fuel o v else v
  | none => v

/-- A fold over entries with text keys, read through `textKeyed`. -/
theorem foldl_textKeyed {f : List (Value × Value) → Value × Value → List (Value × Value)}
    {g : List (String × Value) → String × Value → List (String × Value)}
    (hstep : ∀ acc k v, f (textKeyed acc) (.str k, v) = textKeyed (g acc (k, v))) :
    ∀ (ts acc : List (String × Value)), (textKeyed ts).foldl f (textKeyed acc) = textKeyed (ts.foldl g acc)
  | [], _ => rfl
  | (k, v) :: ts, acc => by
    rw [List.foldl_cons, ← foldl_textKeyed hstep ts]
    exact congrArg (fun a => (textKeyed ts).foldl f a) (hstep acc k v)

theorem deepUpdate_obj (fuel : Nat) (bs ts : List (String × Value)) :
    deepUpdate (fuel + 1) (.obj bs) (.obj ts) =
      .obj (ts.foldl (fun acc (k, v) => setField acc k (merged fuel (field? acc k) v)) bs) := by
  simp only [deepUpdate, entriesOf_obj]
  rw [foldl_textKeyed (g := fun acc (k, v) => setField acc k (merged fuel (field? acc k) v)),
    mappingValue_textKeyed]
  intro acc k v
  simp only [find?_textKeyed]
  cases field? acc k with
  | none => simp [merged, addEntry_textKeyed]
  | some o =>
    simp only [Option.map_some, merged]
    split <;> simp [addEntry_textKeyed]

theorem layer_eq (base top : List (String × Value)) :
    layer base top =
      top.foldl (fun acc (k, v) => setField acc k (merged (nesting (.obj base)) (field? acc k) v)) base := by
  simp only [layer, deepUpdate_obj]

theorem field?_setField_self (fs : List (String × Value)) (k : String) (v : Value) :
    field? (setField fs k v) k = some v := by
  simp [field?, setField, find?_setEntry_self]

theorem field?_setField_of_ne (fs : List (String × Value)) {k k' : String} (v : Value) (hne : k' ≠ k) :
    field? (setField fs k v) k' = field? fs k' := by
  simp [field?, setField, find?_setEntry_of_ne fs v hne]

theorem nodup_keys_setField {fs : List (String × Value)} (h : (fs.map (·.1)).Nodup) (k : String)
    (v : Value) : ((setField fs k v).map (·.1)).Nodup := by
  rw [setField, keys_setEntry]
  split
  case isTrue => exact h
  case isFalse hk =>
    rw [List.nodup_append]
    refine ⟨h, List.nodup_singleton k, fun a ha b hb hab => hk ?_⟩
    rw [List.mem_singleton] at hb
    rw [← hb, ← hab]
    exact ha

/-- A layer with distinct keys gives each key it names its own value, merged into the value
beneath when both are mappings, and keeps the value beneath of every other key. -/
theorem field?_foldl_merged (fuel : Nat) (k : String) :
    ∀ (top base : List (String × Value)), (top.map (·.1)).Nodup →
      field? (top.foldl (fun acc (k, v) => setField acc k (merged fuel (field? acc k) v)) base) k =
        match field? top k with
        | some v => some (merged fuel (field? base k) v)
        | none => field? base k
  | [], _, _ => rfl
  | (k', v) :: top, base, hnd => by
    obtain ⟨hk', hnd⟩ := List.nodup_cons.1 hnd
    rw [List.foldl_cons, field?_foldl_merged fuel k top _ hnd]
    by_cases hk : k = k'
    case pos =>
      subst hk
      have hnone : field? top k = none := by
        rw [field?, Option.map_eq_none_iff, List.find?_eq_none]
        intro p hp hpk
        exact hk' (List.mem_map.2 ⟨p, hp, by simpa using hpk⟩)
      rw [hnone, field?_setField_self]
      simp [field?]
    case neg =>
      have hne : (k' == k) = false := by simpa using fun h => hk h.symm
      rw [field?_setField_of_ne _ _ hk]
      simp [field?, hne]

theorem nodup_keys_foldl_merged (fuel : Nat) :
    ∀ (top base : List (String × Value)), (base.map (·.1)).Nodup →
      ((top.foldl (fun acc (k, v) => setField acc k (merged fuel (field? acc k) v)) base).map (·.1)).Nodup
  | [], _, h => h
  | (k, _) :: top, _, h => nodup_keys_foldl_merged fuel top _ (nodup_keys_setField h k _)

/-- A layer over `base` gives each key of `top` the top's value, merged into the base's when both
are mappings, and keeps the base's value of every other key. -/
theorem field?_layer {base top : List (String × Value)} (hnd : (top.map (·.1)).Nodup) (k : String) :
    field? (layer base top) k =
      match field? top k with
      | some v => some (merged (nesting (.obj base)) (field? base k) v)
      | none => field? base k := by
  rw [layer_eq, field?_foldl_merged _ k top base hnd]

theorem nodup_keys_layer {base : List (String × Value)} (h : (base.map (·.1)).Nodup)
    (top : List (String × Value)) : ((layer base top).map (·.1)).Nodup := by
  rw [layer_eq]
  exact nodup_keys_foldl_merged _ top base h

/-! ## The sections the variables write into -/

/-- The fields of the section `part` of a mapping: none when the section is missing or is not a
mapping with text keys. -/
def partOf (fs : List (String × Value)) (part : String) : List (String × Value) :=
  match field? fs part with
  | some (.obj gs) => gs
  | _ => []

/-- The section `part` of a mapping is missing or a mapping with text keys. -/
def PartIsMapping (fs : List (String × Value)) (part : String) : Prop :=
  ∀ v, field? fs part = some v → ∃ gs, v = .obj gs

/-- Set `key` in the section `part` of a mapping, creating the section when it is missing. -/
def setInPart (fs : List (String × Value)) (part key : String) (v : Value) : List (String × Value) :=
  setField fs part (.obj (setField (partOf fs part) key v))

/-- A mapping with `key` set to the text given, when one is. -/
def setText (fs : List (String × Value)) (key : String) : Option String → List (String × Value)
  | some x => setField fs key (.str x)
  | none => fs

/-- A mapping with `key` of its section `part` set to the text given, when one is. -/
def setTextInPart (fs : List (String × Value)) (part key : String) :
    Option String → List (String × Value)
  | some x => setInPart fs part key (.str x)
  | none => fs

theorem getD_field?_of_partIsMapping {fs : List (String × Value)} {part : String}
    (hp : PartIsMapping fs part) : (field? fs part).getD (.obj []) = .obj (partOf fs part) := by
  unfold partOf
  cases hv : field? fs part with
  | none => rfl
  | some v =>
    obtain ⟨gs, rfl⟩ := hp v hv
    rfl

@[simp] theorem partOf_setField_self (fs : List (String × Value)) (part : String)
    (gs : List (String × Value)) : partOf (setField fs part (.obj gs)) part = gs := by
  simp [partOf, field?_setField_self]

theorem partOf_setField_of_ne (fs : List (String × Value)) {k part : String} (v : Value)
    (hne : part ≠ k) : partOf (setField fs k v) part = partOf fs part := by
  simp only [partOf, field?_setField_of_ne _ _ hne]

theorem partOf_setText_of_ne (fs : List (String × Value)) {k part : String} (o : Option String)
    (hne : part ≠ k) : partOf (setText fs k o) part = partOf fs part := by
  cases o with
  | none => rfl
  | some x => exact partOf_setField_of_ne fs _ hne

theorem partOf_setTextInPart_self (fs : List (String × Value)) (part key : String)
    (o : Option String) : partOf (setTextInPart fs part key o) part = setText (partOf fs part) key o := by
  cases o <;> simp [setTextInPart, setInPart, setText]

theorem partOf_setTextInPart_of_ne (fs : List (String × Value)) {part part' : String} (key : String)
    (o : Option String) (hne : part' ≠ part) :
    partOf (setTextInPart fs part key o) part' = partOf fs part' := by
  cases o with
  | none => rfl
  | some x => exact partOf_setField_of_ne fs _ hne

theorem partIsMapping_setField_obj (fs : List (String × Value)) (part : String)
    (gs : List (String × Value)) : PartIsMapping (setField fs part (.obj gs)) part := by
  intro v hv
  rw [field?_setField_self] at hv
  exact ⟨gs, (Option.some.inj hv).symm⟩

theorem partIsMapping_setField_of_ne {fs : List (String × Value)} {part k : String}
    (hp : PartIsMapping fs part) (hne : part ≠ k) (v : Value) : PartIsMapping (setField fs k v) part := by
  intro w hw
  rw [field?_setField_of_ne _ _ hne] at hw
  exact hp w hw

theorem partIsMapping_setText_of_ne {fs : List (String × Value)} {part k : String}
    (hp : PartIsMapping fs part) (hne : part ≠ k) (o : Option String) :
    PartIsMapping (setText fs k o) part := by
  cases o with
  | none => exact hp
  | some x => exact partIsMapping_setField_of_ne hp hne _

theorem partIsMapping_setTextInPart {fs : List (String × Value)} {part : String}
    (hp : PartIsMapping fs part) (key : String) (o : Option String) :
    PartIsMapping (setTextInPart fs part key o) part := by
  cases o with
  | none => exact hp
  | some x => exact partIsMapping_setField_obj _ _ _

theorem partIsMapping_setTextInPart_of_ne {fs : List (String × Value)} {part part' : String}
    (hp : PartIsMapping fs part') (hne : part' ≠ part) (key : String) (o : Option String) :
    PartIsMapping (setTextInPart fs part key o) part' := by
  cases o with
  | none => exact hp
  | some x => exact partIsMapping_setField_of_ne hp hne _

theorem field?_setText_some (fs : List (String × Value)) (k x : String) :
    field? (setText fs k (some x)) k = some (.str x) :=
  field?_setField_self fs k _

theorem field?_setText_of_ne (fs : List (String × Value)) {k k' : String} (o : Option String)
    (hne : k' ≠ k) : field? (setText fs k o) k' = field? fs k' := by
  cases o with
  | none => rfl
  | some x => exact field?_setField_of_ne fs _ hne

theorem partIsMapping_setInPart_self (fs : List (String × Value)) (part key : String) (v : Value) :
    PartIsMapping (setInPart fs part key v) part :=
  partIsMapping_setField_obj _ _ _

theorem partIsMapping_setInPart_iff {fs : List (String × Value)} {part part' : String}
    (hne : part' ≠ part) (key : String) (v : Value) :
    PartIsMapping (setInPart fs part key v) part' ↔ PartIsMapping fs part' := by
  unfold PartIsMapping setInPart
  rw [field?_setField_of_ne _ _ hne]

theorem assign_obj (fs : List (String × Value)) (key : String) (v : Value) :
    assign (.obj fs) key v = .ok (.obj (setField fs key v)) := by
  simp [assign, addEntry_textKeyed, mappingValue_textKeyed]

/-- Setting a key in a section that is missing or a mapping succeeds; a section of another kind
is where the assignment fails. -/
theorem assignIn_obj {fs : List (String × Value)} {part : String} (hp : PartIsMapping fs part)
    (key : String) (v : Value) :
    assignIn (.obj fs) part key v = .ok (.obj (setInPart fs part key v)) := by
  have hcur : (((textKeyed fs).find? fun e => Yaml.sameKey (.str part) e.1).map Prod.snd).getD
      (.obj []) = .obj (partOf fs part) := by
    simp only [find?_textKeyed, Option.map_map, Function.comp_def, Option.map_id']
    exact getD_field?_of_partIsMapping hp
  simp only [assignIn, entriesOf_obj, hcur, assign_obj, Except.ok_bind, setInPart,
    addEntry_textKeyed, mappingValue_textKeyed]
  rfl

/-! ## The overrides -/

/-- The file's mapping with the keys that the variables setting explicit values give. -/
def withVariables (h : Host) (fs : List (String × Value)) : List (String × Value) :=
  let fs := setTextInPart fs "mongo" "url" (h.nonEmpty? "MONGO_URL")
  let fs := setTextInPart fs "mongo" "db_name" (h.nonEmpty? "MONGO_DB_NAME")
  let fs := (h.nonEmpty? "KAFKA_BOOTSTRAP_SERVERS").elim fs fun servers =>
    setInPart (setInPart fs "kafka" "bootstrap_servers" (.str servers)) "kafka" "enabled" (.bool true)
  setText (setText fs "settings_file" (h.nonEmpty? "FY_SETTINGS_FILE")) "log_level"
    (h.nonEmpty? "FY_LOG_LEVEL")

/-- The store section the configuration is read from: the file's, with `url` and `db_name` set
by `MONGO_URL` and `MONGO_DB_NAME` when these are set. -/
def storeSection (h : Host) (fs : List (String × Value)) : List (String × Value) :=
  setText (setText (partOf fs "mongo") "url" (h.nonEmpty? "MONGO_URL")) "db_name"
    (h.nonEmpty? "MONGO_DB_NAME")

/-- The broker section the configuration is read from: the file's, with `bootstrap_servers` set by
`KAFKA_BOOTSTRAP_SERVERS` and `enabled` turned on when it is set. -/
def brokerSection (h : Host) (fs : List (String × Value)) : List (String × Value) :=
  (h.nonEmpty? "KAFKA_BOOTSTRAP_SERVERS").elim (partOf fs "kafka") fun servers =>
    setField (setField (partOf fs "kafka") "bootstrap_servers" (.str servers)) "enabled" (.bool true)

theorem overrides_obj (h : Host) {fs : List (String × Value)} (hm : PartIsMapping fs "mongo")
    (hk : PartIsMapping fs "kafka") : overrides h (.obj fs) = .ok (.obj (withVariables h fs)) := by
  unfold overrides withVariables
  rcases h.nonEmpty? "MONGO_URL" with _ | url <;>
  rcases h.nonEmpty? "MONGO_DB_NAME" with _ | name <;>
  rcases h.nonEmpty? "KAFKA_BOOTSTRAP_SERVERS" with _ | servers <;>
  rcases h.nonEmpty? "FY_SETTINGS_FILE" with _ | file <;>
  rcases h.nonEmpty? "FY_LOG_LEVEL" with _ | level <;>
  simp [assignIn_obj, assign_obj, partIsMapping_setInPart_self, partIsMapping_setInPart_iff, hm, hk,
    setTextInPart, setText, pure, Except.pure]

theorem partOf_withVariables_mongo (h : Host) (fs : List (String × Value)) :
    partOf (withVariables h fs) "mongo" = storeSection h fs := by
  simp only [withVariables, storeSection]
  rw [partOf_setText_of_ne _ _ (by decide), partOf_setText_of_ne _ _ (by decide)]
  cases h.nonEmpty? "KAFKA_BOOTSTRAP_SERVERS" with
  | none => simp only [Option.elim, partOf_setTextInPart_self]
  | some servers =>
    simp only [Option.elim, setInPart, partOf_setField_of_ne _ _ (by decide : "mongo" ≠ "kafka"),
      partOf_setTextInPart_self]

theorem partOf_withVariables_kafka (h : Host) (fs : List (String × Value)) :
    partOf (withVariables h fs) "kafka" = brokerSection h fs := by
  simp only [withVariables, brokerSection]
  rw [partOf_setText_of_ne _ _ (by decide), partOf_setText_of_ne _ _ (by decide)]
  have hmongo : ∀ o o', partOf (setTextInPart (setTextInPart fs "mongo" "url" o) "mongo" "db_name" o')
      "kafka" = partOf fs "kafka" := fun o o' => by
    rw [partOf_setTextInPart_of_ne _ _ _ (by decide), partOf_setTextInPart_of_ne _ _ _ (by decide)]
  cases h.nonEmpty? "KAFKA_BOOTSTRAP_SERVERS" with
  | none => exact hmongo _ _
  | some servers => simp only [Option.elim, setInPart, partOf_setField_self, hmongo]

theorem partIsMapping_withVariables_mongo (h : Host) {fs : List (String × Value)}
    (hm : PartIsMapping fs "mongo") : PartIsMapping (withVariables h fs) "mongo" := by
  simp only [withVariables]
  refine partIsMapping_setText_of_ne (partIsMapping_setText_of_ne ?_ (by decide) _) (by decide) _
  have hset := partIsMapping_setTextInPart (partIsMapping_setTextInPart hm "url" (h.nonEmpty? "MONGO_URL"))
    "db_name" (h.nonEmpty? "MONGO_DB_NAME")
  cases h.nonEmpty? "KAFKA_BOOTSTRAP_SERVERS" with
  | none => exact hset
  | some servers =>
    exact (partIsMapping_setInPart_iff (by decide) _ _).2 ((partIsMapping_setInPart_iff (by decide) _ _).2 hset)

theorem partIsMapping_withVariables_kafka (h : Host) {fs : List (String × Value)}
    (hk : PartIsMapping fs "kafka") : PartIsMapping (withVariables h fs) "kafka" := by
  simp only [withVariables]
  refine partIsMapping_setText_of_ne (partIsMapping_setText_of_ne ?_ (by decide) _) (by decide) _
  cases h.nonEmpty? "KAFKA_BOOTSTRAP_SERVERS" with
  | none =>
    exact partIsMapping_setTextInPart_of_ne (partIsMapping_setTextInPart_of_ne hk (by decide) _ _)
      (by decide) _ _
  | some servers => exact partIsMapping_setInPart_self _ _ _ _

theorem field?_withVariables_settingsFile {h : Host} (fs : List (String × Value)) {x : String}
    (hx : h.nonEmpty? "FY_SETTINGS_FILE" = some x) :
    field? (withVariables h fs) "settings_file" = some (.str x) := by
  simp only [withVariables, hx]
  rw [field?_setText_of_ne _ _ (by decide), field?_setText_some]

theorem field?_withVariables_logLevel {h : Host} (fs : List (String × Value)) {x : String}
    (hx : h.nonEmpty? "FY_LOG_LEVEL" = some x) :
    field? (withVariables h fs) "log_level" = some (.str x) := by
  simp only [withVariables, hx, field?_setText_some]

/-! ## The explicit values as fields -/

/-- Every key of a mapping that names a field of the configuration without regard to case is
spelled as the field is. -/
def KeysSpellFields (fs : List (String × Value)) : Prop :=
  ∀ p ∈ fs, ∀ f ∈ AppConfig.fieldNames, Unicode.lower p.1 = f → p.1 = f

theorem lower_of_mem_fieldNames : ∀ f ∈ AppConfig.fieldNames, Unicode.lower f = f := by
  decide

theorem nodup_fieldNames : AppConfig.fieldNames.Nodup := by
  decide

theorem mem_setField {fs : List (String × Value)} {k : String} {v : Value} {p : String × Value}
    (hp : p ∈ setField fs k v) : p ∈ fs ∨ p.1 = k := by
  unfold setField setEntry at hp
  split at hp
  · obtain ⟨q, hq, rfl⟩ := List.mem_map.1 hp
    by_cases hqk : q.1 = k
    · simp [hqk]
    · simpa [hqk] using hq
  · rcases List.mem_append.1 hp with hp | hp
    · exact .inl hp
    · simp at hp
      simp [hp]

theorem keysSpellFields_setField {fs : List (String × Value)} (hfs : KeysSpellFields fs) {k : String}
    (hk : k ∈ AppConfig.fieldNames) (v : Value) : KeysSpellFields (setField fs k v) := by
  intro p hp f hf hlow
  rcases mem_setField hp with hp | hpk
  · exact hfs p hp f hf hlow
  · rw [hpk, lower_of_mem_fieldNames k hk] at hlow
    rw [hpk, hlow]

theorem keysSpellFields_setText {fs : List (String × Value)} (hfs : KeysSpellFields fs) {k : String}
    (hk : k ∈ AppConfig.fieldNames) (o : Option String) : KeysSpellFields (setText fs k o) := by
  cases o with
  | none => exact hfs
  | some x => exact keysSpellFields_setField hfs hk _

theorem keysSpellFields_setTextInPart {fs : List (String × Value)} (hfs : KeysSpellFields fs)
    {part : String} (hp : part ∈ AppConfig.fieldNames) (key : String) (o : Option String) :
    KeysSpellFields (setTextInPart fs part key o) := by
  cases o with
  | none => exact hfs
  | some x => exact keysSpellFields_setField hfs hp _

theorem keysSpellFields_withVariables (h : Host) {fs : List (String × Value)} (hfs : KeysSpellFields fs) :
    KeysSpellFields (withVariables h fs) := by
  simp only [withVariables]
  refine keysSpellFields_setText (keysSpellFields_setText ?_ (by decide) _) (by decide) _
  have hm : "mongo" ∈ AppConfig.fieldNames := by decide
  have hk : "kafka" ∈ AppConfig.fieldNames := by decide
  have hmongo := keysSpellFields_setTextInPart (keysSpellFields_setTextInPart hfs hm "url"
    (h.nonEmpty? "MONGO_URL")) hm "db_name" (h.nonEmpty? "MONGO_DB_NAME")
  cases h.nonEmpty? "KAFKA_BOOTSTRAP_SERVERS" with
  | none => exact hmongo
  | some servers => exact keysSpellFields_setField (keysSpellFields_setField hmongo hk _) hk _

/-- With keys spelled as the fields are, each field takes the value of its own key. -/
theorem explicitFields_obj {fs : List (String × Value)} (hfs : KeysSpellFields fs) :
    explicitFields (.obj fs) = .ok (AppConfig.fieldNames.filterMap fun f => (field? fs f).map (f, ·)) := by
  simp only [explicitFields]
  congr 1
  refine List.filterMap_congr fun f hf => ?_
  rw [List.find?_congr fun (p : String × Value) hp => (?_ : _ = (p.1 == f))]
  · simp only [field?, Option.map_map]
    rfl
  · obtain ⟨k, v⟩ := p
    refine Bool.eq_iff_iff.2 ⟨fun hlow => ?_, fun hk => ?_⟩
    · exact beq_iff_eq.2 (hfs (k, v) hp f hf (beq_iff_eq.1 hlow))
    · rw [beq_iff_eq.1 hk, lower_of_mem_fieldNames f hf]
      exact beq_self_eq_true f

theorem field?_filterMap (F : String → Option Value) (f : String) :
    ∀ names : List String,
      field? (names.filterMap fun n => (F n).map (n, ·)) f = if f ∈ names then F f else none
  | [] => rfl
  | n :: names => by
    have ih := field?_filterMap F f names
    rw [List.filterMap_cons]
    by_cases hn : n = f
    · subst hn
      cases hF : F n with
      | none => simpa [hF] using ih
      | some v => simp [field?]
    · have hn' : f ≠ n := fun h => hn h.symm
      cases hF : F n with
      | none => simpa [hn'] using ih
      | some v => simpa [field?, hn, hn'] using ih

theorem nodup_keys_filterMap {F : String → Option Value} {names : List String} (h : names.Nodup) :
    ((names.filterMap fun n => (F n).map (n, ·)).map (·.1)).Nodup := by
  rw [List.map_filterMap]
  refine h.filterMap fun a a' b ha ha' => ?_
  simp only [Option.map_map, Option.mem_def, Option.map_eq_some_iff, Function.comp_apply] at ha ha'
  obtain ⟨_, -, rfl⟩ := ha
  obtain ⟨_, -, h'⟩ := ha'
  exact h'.symm


/-! ## The environment and `.env` beneath -/

/-- A lower layer that gives no part of the configuration: its keys are distinct and none names a
nested part. -/
structure PartFree (fs : List (String × Value)) : Prop where
  nodup : (fs.map (·.1)).Nodup
  no_part : ∀ n ∈ AppConfig.nestedFields, field? fs n = none

theorem partFree_nil : PartFree [] := ⟨List.nodup_nil, fun _ _ => rfl⟩

/-- A fold that files entries only under its accumulator's keys and one key per item names only
those keys. -/
theorem mem_keys_foldl {α β : Type} {f : List (String × α) → β → List (String × α)} {key : β → String}
    (hstep : ∀ acc b x, x ∈ (f acc b).map (·.1) → x ∈ acc.map (·.1) ∨ x = key b) :
    ∀ (bs : List β) (acc : List (String × α)) (x : String),
      x ∈ (bs.foldl f acc).map (·.1) → x ∈ acc.map (·.1) ∨ ∃ b ∈ bs, key b = x
  | [], _, _, hx => .inl hx
  | b :: bs, acc, x, hx => by
    rcases mem_keys_foldl hstep bs (f acc b) x hx with hx | ⟨b', hb', rfl⟩
    · rcases hstep acc b x hx with hx | rfl
      · exact .inl hx
      · exact .inr ⟨b, List.mem_cons_self, rfl⟩
    · exact .inr ⟨b', List.mem_cons_of_mem _ hb', rfl⟩

theorem mem_keys_lowered {vars : List (String × Option String)} {x : String}
    (hx : x ∈ (lowered vars).map (·.1)) : ∃ p ∈ vars, Unicode.lower p.1 = x := by
  -- filing a variable adds at most its name in lower case
  have hstep : ∀ (acc : List (String × Option String)) (p : String × Option String) y,
      y ∈ (Value.setEntry acc (Unicode.lower p.1) p.2).map (·.1) →
        y ∈ acc.map (·.1) ∨ y = Unicode.lower p.1 := by
    intro acc p y hy
    rw [keys_setEntry] at hy
    split at hy
    · exact .inl hy
    · simpa using hy
  unfold lowered at hx
  rcases mem_keys_foldl hstep vars [] x hx with hx | hx
  · simp at hx
  · exact hx

theorem lookup_lowered_of_part {vars : List (String × Option String)}
    (hv : ∀ p ∈ vars, Unicode.lower p.1 ∉ AppConfig.nestedFields) :
    ∀ n ∈ AppConfig.nestedFields, (lowered vars).lookup n = none := by
  intro n hn
  rw [List.lookup_eq_none_iff]
  intro p hp
  obtain ⟨q, hq, hqp⟩ := mem_keys_lowered (List.mem_map_of_mem hp)
  have hne : n ≠ p.1 := fun h => hv q hq (hqp ▸ h ▸ hn)
  simpa using hne

/-- Variables that name no part give the text fields they set, in the order of the fields. -/
theorem fromVariables_of_no_part {vars : List (String × Option String)}
    (hv : ∀ n ∈ AppConfig.nestedFields, vars.lookup n = none) (source : String) :
    fromVariables vars source =
      .ok (AppConfig.fieldNames.filterMap fun f => (((vars.lookup f).join).map .str).map (f, ·)) := by
  unfold fromVariables
  rw [Except.foldlM_eq_ok_of
    (g := fun acc f => acc ++ ((((vars.lookup f).join).map Value.str).map (f, ·)).toList) [] ?step]
  · simp only [List.foldl_append_eq_append, List.nil_append, List.filterMap_eq_flatMap_toList]
    rfl
  case step =>
    intro acc f _
    cases ht : (vars.lookup f).join with
    | none => simp [pure, Except.pure]
    | some t =>
      have hnot : f ∉ AppConfig.nestedFields := fun hn => by simp [hv f hn] at ht
      simp [hnot, pure, Except.pure]

theorem partFree_of_no_part {vars : List (String × Option String)}
    (hv : ∀ n ∈ AppConfig.nestedFields, vars.lookup n = none) :
    PartFree (AppConfig.fieldNames.filterMap fun f => (((vars.lookup f).join).map .str).map (f, ·)) := by
  refine ⟨nodup_keys_filterMap nodup_fieldNames, fun n hn => ?_⟩
  rw [field?_filterMap, hv n hn]
  simp

/-! ## Layering the explicit values over them -/

theorem merged_of_not_mapping (fuel : Nat) (old : Option Value) {v : Value} (hv : entriesOf v = none) :
    merged fuel old v = v := by
  cases old <;> simp [merged, hv]

/-- Over lower layers that give no part, a part is as the explicit values give it. -/
theorem field?_layers_of_part {dotenv env explicit : List (String × Value)} (hd : PartFree dotenv)
    (he : PartFree env) (hx : (explicit.map (·.1)).Nodup) {n : String}
    (hn : n ∈ AppConfig.nestedFields) :
    field? (layer dotenv (layer env explicit)) n = field? explicit n := by
  rw [field?_layer (nodup_keys_layer he.nodup explicit), field?_layer hx, he.no_part n hn]
  cases field? explicit n <;> simp [merged, hd.no_part n hn]

/-- An explicit text wins over the layers beneath. -/
theorem field?_layers_of_str {dotenv env explicit : List (String × Value)}
    (he : (env.map (·.1)).Nodup) (hx : (explicit.map (·.1)).Nodup) {f x : String}
    (hf : field? explicit f = some (.str x)) :
    field? (layer dotenv (layer env explicit)) f = some (.str x) := by
  rw [field?_layer (nodup_keys_layer he explicit), field?_layer hx, hf]
  simp only [merged_of_not_mapping _ _ (rfl : entriesOf (.str x) = none)]

/-! ## Reading the configuration -/

/-- A field with a default whose reader gives the default for an empty mapping reads a missing
field as an empty mapping. -/
theorem opt_eq_getD {α : Type} (fs : Fields) (name : String) {d : α} (read : Value → Except Issue α)
    (hd : read (.obj []) = .ok d) :
    fs.opt name d read = (read ((field? fs.given name).getD (.obj []))).mapError (Issue.within name) := by
  unfold Fields.opt
  cases field? fs.given name with
  | some v => rfl
  | none => simp [hd, Except.mapError]

theorem opt_of_field? {α : Type} {gs : List (String × Value)} {name : String} (d : α)
    (read : Value → Except Issue α) {v : Value} {a : α} (hv : field? gs name = some v)
    (ha : read v = .ok a) : Fields.opt ⟨gs⟩ name d read = .ok a := by
  simp [Fields.opt, hv, ha, Except.mapError]

theorem ofFields_eq_ok {fs : Fields} {c : AppConfig} (hc : AppConfig.ofFields fs = .ok c) :
    fs.opt "mongo" {} StoreConfig.read = .ok c.store ∧ fs.opt "kafka" {} BrokerConfig.read = .ok c.broker ∧
      fs.opt "settings_file" "settings.yaml" Field.str = .ok c.settingsFile ∧
      fs.opt "log_level" "INFO" Field.str = .ok c.logLevel := by
  simp only [AppConfig.ofFields, Except.bind_eq_ok, pure, Except.pure, Except.ok.injEq] at hc
  obtain ⟨_, hs, _, hb, _, -, _, -, _, hf, _, hl, rfl⟩ := hc
  exact ⟨hs, hb, hf, hl⟩

theorem storeConfig_read_eq_ok {gs : List (String × Value)} {s : StoreConfig}
    (hs : StoreConfig.read (.obj gs) = .ok s) :
    Fields.opt ⟨gs⟩ "url" "mongodb://localhost:27017" Field.str = .ok s.url ∧
      Fields.opt ⟨gs⟩ "db_name" "fleetyield" Field.str = .ok s.dbName := by
  simp only [StoreConfig.read, Fields.ofValue, Except.ok_bind, Except.bind_eq_ok, pure, Except.pure,
    Except.ok.injEq] at hs
  obtain ⟨_, hu, _, hd, rfl⟩ := hs
  exact ⟨hu, hd⟩

theorem brokerConfig_read_eq_ok {gs : List (String × Value)} {b : BrokerConfig}
    (hb : BrokerConfig.read (.obj gs) = .ok b) :
    Fields.opt ⟨gs⟩ "enabled" false Field.bool = .ok b.enabled ∧
      Fields.opt ⟨gs⟩ "bootstrap_servers" "localhost:9092" Field.str = .ok b.broker.servers := by
  simp only [BrokerConfig.read, BrokerSettings.ofFields, Fields.ofValue, Except.ok_bind,
    Except.bind_eq_ok, pure, Except.pure, Except.ok.injEq] at hb
  obtain ⟨_, he, _, ⟨_, hs, _, -, _, -, rfl⟩, rfl⟩ := hb
  exact ⟨he, hs⟩

/-! ## The explicit variables win -/

/-- What the variables that set explicit values make of a configuration loaded over the file's
mapping `fs`: each one that is set gives its field, `KAFKA_BOOTSTRAP_SERVERS` also turns
publishing on, and the store and broker parts are read from the file's sections with only those
keys set. -/
structure Overrides (h : Host) (fs : List (String × Value)) (c : AppConfig) : Prop where
  url : ∀ x, h.nonEmpty? "MONGO_URL" = some x → c.store.url = x
  dbName : ∀ x, h.nonEmpty? "MONGO_DB_NAME" = some x → c.store.dbName = x
  servers : ∀ x, h.nonEmpty? "KAFKA_BOOTSTRAP_SERVERS" = some x →
    c.broker.broker.servers = x ∧ c.broker.enabled = true
  settingsFile : ∀ x, h.nonEmpty? "FY_SETTINGS_FILE" = some x → c.settingsFile = x
  logLevel : ∀ x, h.nonEmpty? "FY_LOG_LEVEL" = some x → c.logLevel = x
  store : StoreConfig.read (.obj (storeSection h fs)) = .ok c.store
  broker : BrokerConfig.read (.obj (brokerSection h fs)) = .ok c.broker

theorem store_of_storeSection {h : Host} {fs : List (String × Value)} {s : StoreConfig}
    (hs : StoreConfig.read (.obj (storeSection h fs)) = .ok s) :
    (∀ x, h.nonEmpty? "MONGO_URL" = some x → s.url = x) ∧
      ∀ x, h.nonEmpty? "MONGO_DB_NAME" = some x → s.dbName = x := by
  obtain ⟨hu, hd⟩ := storeConfig_read_eq_ok hs
  refine ⟨fun x hx => ?_, fun x hx => ?_⟩
  · have hfield : field? (storeSection h fs) "url" = some (.str x) := by
      rw [storeSection, hx, field?_setText_of_ne _ _ (by decide), field?_setText_some]
    rw [opt_of_field? _ Field.str hfield rfl] at hu
    exact (Except.ok.inj hu).symm
  · have hfield : field? (storeSection h fs) "db_name" = some (.str x) := by
      rw [storeSection, hx, field?_setText_some]
    rw [opt_of_field? _ Field.str hfield rfl] at hd
    exact (Except.ok.inj hd).symm

theorem broker_of_brokerSection {h : Host} {fs : List (String × Value)} {b : BrokerConfig}
    (hb : BrokerConfig.read (.obj (brokerSection h fs)) = .ok b) {x : String}
    (hx : h.nonEmpty? "KAFKA_BOOTSTRAP_SERVERS" = some x) : b.broker.servers = x ∧ b.enabled = true := by
  obtain ⟨he, hs⟩ := brokerConfig_read_eq_ok hb
  have hsection : brokerSection h fs =
      setField (setField (partOf fs "kafka") "bootstrap_servers" (.str x)) "enabled" (.bool true) := by
    rw [brokerSection, hx]
    rfl
  have hservers : field? (brokerSection h fs) "bootstrap_servers" = some (.str x) := by
    rw [hsection, field?_setField_of_ne _ _ (by decide), field?_setField_self]
  have henabled : field? (brokerSection h fs) "enabled" = some (.bool true) := by
    rw [hsection, field?_setField_self]
  rw [opt_of_field? _ Field.str hservers rfl] at hs
  rw [opt_of_field? _ Field.bool henabled rfl] at he
  exact ⟨(Except.ok.inj hs).symm, (Except.ok.inj he).symm⟩

/-- A configuration read from fields whose parts are the two sections and whose settings file and
log level are the variables' texts, when set, is what the overrides make. -/
theorem overrides_of_ofFields {h : Host} {fs state : List (String × Value)} {c : AppConfig}
    (hc : AppConfig.ofFields ⟨state⟩ = .ok c)
    (hmongo : (field? state "mongo").getD (.obj []) = .obj (storeSection h fs))
    (hkafka : (field? state "kafka").getD (.obj []) = .obj (brokerSection h fs))
    (hfile : ∀ x, h.nonEmpty? "FY_SETTINGS_FILE" = some x → field? state "settings_file" = some (.str x))
    (hlevel : ∀ x, h.nonEmpty? "FY_LOG_LEVEL" = some x → field? state "log_level" = some (.str x)) :
    Overrides h fs c := by
  obtain ⟨hs, hb, hf, hl⟩ := ofFields_eq_ok hc
  rw [opt_eq_getD _ _ StoreConfig.read rfl, hmongo, Except.mapError_eq_ok] at hs
  rw [opt_eq_getD _ _ BrokerConfig.read rfl, hkafka, Except.mapError_eq_ok] at hb
  refine ⟨(store_of_storeSection hs).1, (store_of_storeSection hs).2,
    fun x hx => broker_of_brokerSection hb hx, fun x hx => ?_, fun x hx => ?_, hs, hb⟩
  · rw [opt_of_field? _ Field.str (hfile x hx) rfl] at hf
    exact (Except.ok.inj hf).symm
  · rw [opt_of_field? _ Field.str (hlevel x hx) rfl] at hl
    exact (Except.ok.inj hl).symm

/-- Over a file that reads as a mapping with mapping sections, and an environment and `.env` that
name no part, loading reads the configuration off the overridden mapping layered over text fields
only. -/
theorem loadConfig_layers (h : Host) (path? : Option String) {fs : List (String × Value)}
    (hfile : fileValues h (pathOf h path?) = .ok (.obj fs)) (hm : PartIsMapping fs "mongo")
    (hk : PartIsMapping fs "kafka") (hfs : KeysSpellFields fs)
    (henv : ∀ p ∈ h.environ, Unicode.lower p.1 ∉ AppConfig.nestedFields)
    (hdotenv : ∀ text, h.read? ".env" = some text →
      ∀ p ∈ DotEnv.values h.environ text, Unicode.lower p.1 ∉ AppConfig.nestedFields) :
    ∃ env dotenv, PartFree env ∧ PartFree dotenv ∧
      loadConfig h path? = (AppConfig.ofFields ⟨layer dotenv (layer env
        (AppConfig.fieldNames.filterMap fun f => (field? (withVariables h fs) f).map (f, ·)))⟩).mapError
          Fault.invalid := by
  have hlookup : ∀ n ∈ AppConfig.nestedFields,
      (lowered (h.environ.map fun p => (p.1, some p.2))).lookup n = none :=
    lookup_lowered_of_part fun p hp => by
      obtain ⟨q, hq, rfl⟩ := List.mem_map.1 hp
      exact henv q hq
  unfold loadConfig
  rw [hfile, Except.ok_bind, overrides_obj h hm hk, Except.ok_bind,
    explicitFields_obj (keysSpellFields_withVariables h hfs), Except.ok_bind,
    fromVariables_of_no_part hlookup, Except.ok_bind]
  cases hr : h.read? ".env" with
  | none =>
    dsimp only
    rw [pure_bind]
    exact ⟨_, _, partFree_of_no_part hlookup, partFree_nil, rfl⟩
  | some text =>
    have hdot := lookup_lowered_of_part (hdotenv text hr)
    dsimp only
    rw [fromVariables_of_no_part hdot, Except.ok_bind]
    exact ⟨_, _, partFree_of_no_part hlookup, partFree_of_no_part hdot, rfl⟩

theorem loadConfig_explicit_variables_win (h : Host) (path? : Option String)
    (henv : ∀ p ∈ h.environ, Unicode.lower p.1 ∉ AppConfig.nestedFields)
    (hdotenv : ∀ text, h.read? ".env" = some text →
      ∀ p ∈ DotEnv.values h.environ text, Unicode.lower p.1 ∉ AppConfig.nestedFields) :
    (∀ fs, fileValues h (pathOf h path?) = .ok (.obj fs) → PartIsMapping fs "mongo" →
        PartIsMapping fs "kafka" → KeysSpellFields fs →
        (∃ c, loadConfig h path? = .ok c ∧ Overrides h fs c) ∨
          ∃ i, loadConfig h path? = .error (.invalid i)) ∧
      ∀ text, h.read? (pathOf h path?) = some text → ∀ m t,
        Yaml.load (pathOf h path?) text = .error (.badYaml m t) →
        loadConfig h path? = .error (.configUnreadable (pathOf h path?) t) := by
  refine ⟨fun fs hfile hm hk hfs => ?_, fun text htext m t hbad => ?_⟩
  case refine_2 => simp only [loadConfig, fileValues, htext, hbad, Except.error_bind]
  obtain ⟨env, dotenv, he, hd, hload⟩ := loadConfig_layers h path? hfile hm hk hfs henv hdotenv
  -- the explicit values hold each field as the overridden mapping spells it
  have hnodup : ((AppConfig.fieldNames.filterMap fun f => (field? (withVariables h fs) f).map (f, ·)).map
      (·.1)).Nodup := nodup_keys_filterMap nodup_fieldNames
  have hexplicit : ∀ f ∈ AppConfig.fieldNames,
      field? (AppConfig.fieldNames.filterMap fun f => (field? (withVariables h fs) f).map (f, ·)) f =
        field? (withVariables h fs) f := fun f hf => by
    rw [field?_filterMap, if_pos hf]
  cases hc : AppConfig.ofFields ⟨layer dotenv (layer env
      (AppConfig.fieldNames.filterMap fun f => (field? (withVariables h fs) f).map (f, ·)))⟩ with
  | error i => exact .inr ⟨i, by rw [hload, hc]; rfl⟩
  | ok c =>
    refine .inl ⟨c, by rw [hload, hc]; rfl, overrides_of_ofFields hc ?_ ?_ ?_ ?_⟩
    · rw [field?_layers_of_part hd he hnodup (by decide), hexplicit _ (by decide),
        getD_field?_of_partIsMapping (partIsMapping_withVariables_mongo h hm), partOf_withVariables_mongo]
    · rw [field?_layers_of_part hd he hnodup (by decide), hexplicit _ (by decide),
        getD_field?_of_partIsMapping (partIsMapping_withVariables_kafka h hk), partOf_withVariables_kafka]
    · intro x hx
      refine field?_layers_of_str he.nodup hnodup ?_
      rw [hexplicit _ (by decide), field?_withVariables_settingsFile fs hx]
    · intro x hx
      refine field?_layers_of_str he.nodup hnodup ?_
      rw [hexplicit _ (by decide), field?_withVariables_logLevel fs hx]

/-- A host with no files whose environment sets the store's address and the log level. -/
theorem loadConfig_environment_wins :
    let h : Host := { environ := [("MONGO_URL", "mongodb://env:27017"), ("FY_LOG_LEVEL", "DEBUG")] }
    (∃ c, loadConfig h none = .ok c ∧ Overrides h [] c) ∨
      ∃ i, loadConfig h none = .error (.invalid i) := by
  intro h
  have hnone : h.read? ".env" = none := rfl
  exact (loadConfig_explicit_variables_win h none (by decide) (fun text ht => by simp [hnone] at ht)).1
    [] rfl (fun v hv => by simp [field?] at hv) (fun v hv => by simp [field?] at hv)
    (fun p hp => by simp at hp)

/-- A file that maps `mongo` to `null`: with `MONGO_URL` set, setting the address in that section
fails with a type fault where the law would set it. -/
theorem overrides_null_store_section :
    overrides { environ := [("MONGO_URL", "mongodb://env:27017")] } (.obj [("mongo", .null)]) =
      .error (.wrongKind "'NoneType' object does not support item assignment") := by
  rfl

end ConfigLoad

end TransitRevenue
