import WebService.Proofs.Settings.File
import WebService.Proofs.Settings.Layers

/-!
What counts for a key: its variable in the environment, or else its setting in the file, or else its
default. Nothing that is said of another key matters.
-/
namespace WebService.Settings

open Json (Document Shape Value)

/-- The environment's variable for a key. -/
def Key.variable (key : Key) : String :=
  "RESTGLUE_" ++ key.part.map Char.toUpper ++ "__" ++ key.name.map Char.toUpper

namespace Layer

/-- What the value of a variable is as a setting. -/
def fromVariable (value : String) : Setting := .scalar (some "the environment") (readVariable value)

/-- The value of a key's variable, the last one if there are several. -/
def valueIn? (environment : Environment) (key : Key) : Option String :=
  (environment.reverse.find? fun e => pathOf? e.1 = some key.path).map (·.2)

/-- Whether the variables for settings are for keys of the configuration and can be taken for what
the keys declare. -/
def isTyped (environment : Environment) : Bool :=
  environment.all fun e => (pathOf? e.1).all fun path =>
    keys.any fun key => path = key.path && ((fromVariable e.2).read key.shape).isOk

end Layer

/-- What the configuration has under a key, by an environment and the settings of a file. -/
def resolved (environment : Environment) (v : Value) (key : Key) : Option Document :=
  match Layer.valueIn? environment key with
  | some value => ((Layer.fromVariable value).read key.shape).toOption
  | none =>
    match given? v key with
    | some w => some (key.shape.filled w)
    | none => ({} : Config).setting? key

variable {key : Key} {environment : Environment} {file : Layer} {v : Value} {root : Setting}

namespace Layer

theorem pathOf?_variable (hkey : key ∈ keys) : pathOf? key.variable = some key.path := by
  have hall : ∀ key ∈ keys, pathOf? key.variable = some key.path := by decide +kernel
  exact hall key hkey

/-! The environment -/

theorem exists_key_of_isTyped (h : isTyped environment = true) {e : String × String}
    (he : e ∈ environment) {path : String} (hpath : pathOf? e.1 = some path) :
    ∃ key ∈ keys, path = key.path ∧
      ∃ document, (fromVariable e.2).read key.shape = .ok document := by
  have hall := List.all_eq_true.mp h e he
  rw [hpath] at hall
  obtain ⟨key, hkey, hread⟩ := List.any_eq_true.mp hall
  rw [Bool.and_eq_true, decide_eq_true_iff] at hread
  refine ⟨key, hkey, hread.1, ?_⟩
  cases hdocument : (fromVariable e.2).read key.shape with
  | ok document => exact ⟨document, rfl⟩
  | error fault =>
    rw [hdocument] at hread
    cases hread.2

theorem isFlat_ofEnvironment (h : isTyped environment = true) :
    (ofEnvironment environment).IsFlat := by
  intro setting hsetting
  obtain ⟨e, he, hsome⟩ := List.mem_filterMap.mp hsetting
  obtain ⟨path, hpath, rfl⟩ := Option.map_eq_some_iff.mp hsome
  obtain ⟨key, hkey, heq, -⟩ := exists_key_of_isTyped h he hpath
  exact ⟨⟨key, hkey, heq⟩, rfl⟩

theorem lookup_ofEnvironment (environment : Environment) (key : Key) :
    (ofEnvironment environment).reverse.lookup key.path =
      (valueIn? environment key).map fromVariable := by
  rw [ofEnvironment, ← List.filterMap_reverse, valueIn?]
  induction environment.reverse with
  | nil => rfl
  | cons first rest ih =>
    obtain ⟨name, value⟩ := first
    simp only [List.filterMap_cons, List.find?_cons]
    cases hpath : pathOf? name with
    | none => exact ih
    | some path =>
      by_cases hkey : key.path = path
      · subst hkey
        simp [fromVariable]
      · have hne : ¬ path = key.path := Ne.symm hkey
        simpa [lookup_cons_of_ne hkey, hne] using ih

theorem read_of_valueIn? (h : isTyped environment = true) (hkey : key ∈ keys) {value : String}
    (hvalue : valueIn? environment key = some value) :
    ∃ document, (fromVariable value).read key.shape = .ok document := by
  obtain ⟨e, he, rfl⟩ := Option.map_eq_some_iff.mp hvalue
  have hmem := List.mem_reverse.mp (List.mem_of_find?_eq_some he)
  have hpath : pathOf? e.1 = some key.path := by
    have hfound := List.find?_some he
    exact of_decide_eq_true hfound
  obtain ⟨k, hk, heq, hread⟩ := exists_key_of_isTyped h hmem hpath
  cases eq_of_path hkey hk heq
  exact hread

/-! The defaults -/

/-- The settings that the other layers are put over. -/
def ground : Setting := defaults.putOver Setting.empty

theorem isFlat_defaults : defaults.IsFlat := by
  unfold IsFlat
  decide

theorem at?_ground (hkey : key ∈ keys) : ground.at? key = defaults.reverse.lookup key.path := by
  rw [ground, at?_putOver isFlat_defaults hkey]
  exact Option.or_none

/-- The first layer says of each key what its default is. -/
theorem tells_ground (hkey : key ∈ keys) : ground.Tells key key.fallback := by
  rw [Setting.Tells, at?_ground hkey]
  revert key
  simp only [keys_eq, List.forall_mem_cons]
  exact ⟨Or.inl ⟨_, rfl, rfl⟩, Or.inl ⟨_, rfl, rfl⟩, Or.inr ⟨rfl, trivial⟩, Or.inl ⟨_, rfl, rfl⟩,
    Or.inl ⟨_, rfl, rfl⟩, Or.inl ⟨_, rfl, rfl⟩, Or.inr ⟨rfl, trivial⟩, Or.inl ⟨_, rfl, rfl⟩,
    Or.inl ⟨_, rfl, rfl⟩, Or.inl ⟨_, rfl, rfl⟩, Or.inr ⟨rfl, trivial⟩, Or.inr ⟨rfl, trivial⟩,
    Or.inl ⟨_, rfl, rfl⟩, Or.inl ⟨_, rfl, rfl⟩, List.forall_mem_nil _⟩

theorem hasParts_ground : ground.HasParts := by
  unfold Setting.HasParts
  decide +kernel

/-! All layers -/

/-- What a file says of a key, put over the default, is read as the file's value. -/
theorem read_overlay_ground (hkey : key ∈ keys) {s : Setting}
    (hfits : key.shape.fits s.toValue = true) :
    (s.overlay (ground.at? key)).read key.shape = .ok (key.shape.filled s.toValue) := by
  have hvalue : (s.overlay (ground.at? key)).toValue = s.toValue := by
    rcases shape_cases hkey with hplain | ⟨hcors, hpath⟩
    · rw [Setting.overlay_of_not_isTable (Setting.not_isTable_of_isPlain hplain hfits)]
    · have hmissing : ground.at? key = none := by
        rw [at?_ground hkey, hpath]
        rfl
      rw [hcors] at hfits
      rw [hmissing, Setting.toValue_overlay_none hfits]
  rw [← hvalue] at hfits ⊢
  exact Setting.read_of_fits (isSingle_of_mem hkey) _ hfits

theorem fits_of_at? (hfits : configShape.fits root.toValue = true) (hkey : key ∈ keys) {s : Setting}
    (hs : root.at? key = some s) : key.shape.fits s.toValue = true := by
  refine fits_of_given? hfits hkey ?_
  rw [Setting.given?_toValue, hs]
  rfl

/-- What is resolved for a key is what the layers tell for it, and is of the key's type. -/
theorem exists_resolved (hfile : configShape.fits (Setting.table none file).toValue = true)
    (henvironment : isTyped environment = true) (hkey : key ∈ keys) :
    ∃ document, resolved environment (Setting.table none file).toValue key = some document ∧
      IsOf key.shape document ∧
      ((ofEnvironment environment).putOver (file.putOver ground)).Tells key document := by
  have hsingle := isSingle_of_mem hkey
  have hat := at?_putOver (isFlat_ofEnvironment henvironment) hkey (file.putOver ground)
  rw [lookup_ofEnvironment, Setting.putOver_eq_putAll hfile,
    Setting.at?_putAll hasParts_ground hfile hkey] at hat
  rw [resolved, Setting.given?_toValue, Setting.putOver_eq_putAll hfile]
  cases hvalue : valueIn? environment key with
  | some value =>
    rw [hvalue] at hat
    obtain ⟨document, hread⟩ := read_of_valueIn? henvironment hkey hvalue
    refine ⟨document, ?_, isOf_read_scalar hsingle hread, Or.inl ⟨_, hat, hread⟩⟩
    simp only [hread]
    rfl
  | none =>
    rw [hvalue, Option.map_none, Option.none_or] at hat
    cases hs : (Setting.table none file).at? key with
    | some s =>
      rw [hs] at hat
      have hfits := fits_of_at? hfile hkey hs
      exact ⟨_, rfl, isOf_filled hsingle hfits, Or.inl ⟨_, hat, read_overlay_ground hkey hfits⟩⟩
    | none =>
      rw [hs] at hat
      refine ⟨key.fallback, setting?_default hkey, isOf_fallback hkey, ?_⟩
      rw [Setting.Tells, hat]
      exact tells_ground hkey

end Layer

/-- A file that fits the configuration and an environment whose variables fit it make a
configuration, and each key has what is resolved for it. -/
theorem exists_ofLayers (hfile : configShape.fits (Setting.table none file).toValue = true)
    (henvironment : Layer.isTyped environment = true) :
    ∃ c, Config.ofLayers [.defaults, file, .ofEnvironment environment] = .ok c ∧
      ∀ key ∈ keys,
        c.setting? key = resolved environment (Setting.table none file).toValue key := by
  let g : Key → Document := fun key =>
    (resolved environment (Setting.table none file).toValue key).getD .null
  have hg : ∀ key ∈ keys,
      resolved environment (Setting.table none file).toValue key = some (g key) ∧
        IsOf key.shape (g key) ∧ ((Layer.ofEnvironment environment).putOver
          (file.putOver Layer.ground)).Tells key (g key) := by
    intro key hkey
    obtain ⟨document, hresolved, htype, htells⟩ := Layer.exists_resolved hfile henvironment hkey
    have hvalue : g key = document := by simp only [g, hresolved, Option.getD_some]
    rw [hvalue]
    exact ⟨hresolved, htype, htells⟩
  have hparts :
      ((Layer.ofEnvironment environment).putOver (file.putOver Layer.ground)).HasParts := by
    rw [Setting.putOver_eq_putAll hfile]
    exact Layer.hasParts_putOver (Layer.isFlat_ofEnvironment henvironment)
      (Setting.hasParts_putAll Layer.hasParts_ground hfile)
  have hread := Setting.read_config hparts fun key hkey => (hg key hkey).2.2
  refine ⟨Config.ofDocument (configOf g), ?_, ?_⟩
  · exact bind_eq_ok_iff.mpr ⟨configOf g, hread, rfl⟩
  · intro key hkey
    rw [setting?_ofDocument (fun key hkey => (hg key hkey).2.1) hkey, (hg key hkey).1]

/-! Files -/

theorem exists_load {files : Files} {path : String} (hfile : Layer.FileTells files path v)
    (hfits : configShape.fits v = true) (henvironment : Layer.isTyped environment = true) :
    ∃ c, Config.load files environment path = .ok c ∧
      ∀ key ∈ keys, c.setting? key = resolved environment v key := by
  obtain ⟨members, rfl⟩ := Shape.exists_members_of_fits hfits
  obtain ⟨file, hread, rfl⟩ := hfile.exists_ofFile
  obtain ⟨c, hc, hkeys⟩ := exists_ofLayers hfits henvironment
  exact ⟨c, bind_eq_ok_iff.mpr ⟨file, hread, hc⟩, hkeys⟩

/-- A missing file counts as much as an empty one, unless there is one in another format. -/
theorem load_of_missing {files others : Files} {path other : String}
    (hmissing : Layer.locate? files path = none)
    (hother : Layer.leadsElsewhere files path = false)
    (hempty : Layer.FileTells others other (.object [])) (environment : Environment) :
    Config.load files environment path = Config.load others environment other := by
  obtain ⟨file, hfile, hmembers⟩ := (Layer.FileTells.missing hmissing hother).exists_ofFile
  obtain ⟨file', hfile', hmembers'⟩ := hempty.exists_ofFile
  have hnil : ∀ layer : Layer, Setting.toMembers layer = [] → layer = [] := by
    intro layer h
    cases layer with
    | nil => rfl
    | cons first rest => cases h
  rw [Config.load, Config.load, hfile, hfile', hnil file hmembers, hnil file' hmembers']

/-- Of a file that fits the configuration and an environment that does, each key has its variable's
value, or else the file's, or else the default. So a key that both say the same of has the same in
all such configurations, whatever they say of others, and a missing file, with none in another
format in its place, counts as much as an empty one. -/
theorem load_by_precedence {files : Files} {path : String} (hfile : Layer.FileTells files path v)
    (hfits : configShape.fits v = true) (henvironment : Layer.isTyped environment = true) :
    ∃ c, Config.load files environment path = .ok c ∧
      (∀ key ∈ keys, Layer.pathOf? key.variable = some key.path ∧
        c.setting? key = resolved environment v key) ∧
      (∀ others other w surroundings d, Layer.FileTells others other w → configShape.fits w = true →
        Layer.isTyped surroundings = true → Config.load others surroundings other = .ok d →
        ∀ key ∈ keys, Layer.valueIn? surroundings key = Layer.valueIn? environment key →
          given? w key = given? v key → d.setting? key = c.setting? key) ∧
      ∀ others other, Layer.locate? others other = none →
        Layer.leadsElsewhere others other = false → v = .object [] →
        Config.load others environment other = .ok c := by
  obtain ⟨c, hload, hkeys⟩ := exists_load hfile hfits henvironment
  refine ⟨c, hload, fun key hkey => ⟨Layer.pathOf?_variable hkey, hkeys key hkey⟩, ?_, ?_⟩
  · intro others other w surroundings d hothers hw hsurroundings hd key hkey hvariable hgiven
    obtain ⟨d', hload', hkeys'⟩ := exists_load hothers hw hsurroundings
    rw [hd] at hload'
    cases hload'
    rw [hkeys' key hkey, hkeys key hkey, resolved, resolved, hvariable, hgiven]
  · rintro others other hmissing hother rfl
    rw [load_of_missing hmissing hother hfile environment, hload]

/-- A variable over a file's setting, a table in the file, and a variable of another program. -/
theorem load_by_precedence_of_three_layers :
    ∃ v c,
      Layer.FileTells
        [("config.toml", Text.octets "server.port = 8000\n[app.cors]\norigins = [\"a\"]\n")]
        "config" v ∧
      configShape.fits v = true ∧
      Layer.isTyped [("PATH", "/bin"), ("RESTGLUE_SERVER__PORT", "9000"),
        ("restglue_performance__keep_alive", "off")] = true ∧
      Config.load [("config.toml",
          Text.octets "server.port = 8000\n[app.cors]\norigins = [\"a\"]\n")]
        [("PATH", "/bin"), ("RESTGLUE_SERVER__PORT", "9000"),
          ("restglue_performance__keep_alive", "off")] "config" = .ok c ∧
      c.setting? ⟨"server", "port", .integer (.unsigned "u16" 16), .ofNat 8080⟩ =
        some (.ofNat 9000) ∧
      c.setting? ⟨"performance", "keep_alive", .boolean, .boolean true⟩ =
        some (.boolean false) := by
  have hplace : Layer.locate? [("config.toml",
      Text.octets "server.port = 8000\n[app.cors]\norigins = [\"a\"]\n")] "config" =
        some ("config.toml", .toml) := by
    decide +kernel
  have htold : Toml.told? "server.port = 8000\n[app.cors]\norigins = [\"a\"]\n" =
      some (.object [("server", .object [("port", .number (.whole 8000))]),
        ("app", .object [("cors", .object [("origins", .list [.text "a"])])])]) := by
    decide +kernel
  have hfile := Layer.FileTells.toml hplace rfl htold
  have hfits : configShape.fits (.object [("server", .object [("port", .number (.whole 8000))]),
      ("app", .object [("cors", .object [("origins", .list [.text "a"])])])]) = true := by
    decide +kernel
  have htyped : Layer.isTyped [("PATH", "/bin"), ("RESTGLUE_SERVER__PORT", "9000"),
      ("restglue_performance__keep_alive", "off")] = true := by
    decide +kernel
  obtain ⟨c, hload, hkeys, -⟩ := load_by_precedence hfile hfits htyped
  refine ⟨_, c, hfile, hfits, htyped, hload, ?port, ?alive⟩
  case port =>
    have hvariable : Layer.valueIn? [("PATH", "/bin"), ("RESTGLUE_SERVER__PORT", "9000"),
        ("restglue_performance__keep_alive", "off")]
          ⟨"server", "port", .integer (.unsigned "u16" 16), .ofNat 8080⟩ = some "9000" := by
      decide +kernel
    rw [(hkeys _ (by simp [keys_eq])).2, resolved, hvariable]
    rfl
  case alive =>
    have hvariable : Layer.valueIn? [("PATH", "/bin"), ("RESTGLUE_SERVER__PORT", "9000"),
        ("restglue_performance__keep_alive", "off")]
          ⟨"performance", "keep_alive", .boolean, .boolean true⟩ = some "off" := by
      decide +kernel
    rw [(hkeys _ (by simp [keys_eq])).2, resolved, hvariable]
    rfl

/-- An integer of a JSON file that has 64 bits and no room for a sign loses its last digits. -/
theorem load_rounds_large_integer :
    Value.parse "\x7b\"app\":\x7b\"max_body_size\":9223372036854775809\x7d\x7d" =
        .ok (.object [("app", .object [("max_body_size", .number (.whole 9223372036854775809))])]) ∧
      configShape.fits (.object
        [("app", .object [("max_body_size", .number (.whole 9223372036854775809))])]) = true ∧
      Config.load
          [("config.json",
            Text.octets "\x7b\"app\":\x7b\"max_body_size\":9223372036854775809\x7d\x7d")]
          [] "config" =
        .ok { app := { maxBodySize := 9223372036854775808 } } := by
  have hplace : Layer.locate? [("config.json",
      Text.octets "\x7b\"app\":\x7b\"max_body_size\":9223372036854775809\x7d\x7d")] "config" =
        some ("config.json", .json) := by
    decide +kernel
  have hparse : Value.parse "\x7b\"app\":\x7b\"max_body_size\":9223372036854775809\x7d\x7d" =
      .ok (.object
        [("app", .object [("max_body_size", .number (.whole 9223372036854775809))])]) := by
    decide +kernel
  have hcontent : Layer.content? [("config.json",
      Text.octets "\x7b\"app\":\x7b\"max_body_size\":9223372036854775809\x7d\x7d")] "config.json" =
        some (Text.octets "\x7b\"app\":\x7b\"max_body_size\":9223372036854775809\x7d\x7d") := rfl
  refine ⟨hparse, by decide +kernel, ?_⟩
  have hfile : Layer.ofFile [("config.json",
      Text.octets "\x7b\"app\":\x7b\"max_body_size\":9223372036854775809\x7d\x7d")] "config" =
        .ok (Setting.ofMembers (some "config.json")
          [("app", .object [("max_body_size", .number (.whole 9223372036854775809))])]) := by
    rw [Layer.ofFile, hplace]
    simp only [hcontent, Option.bind_some, Text.ofOctets?_octets, Layer.ofText?, Layer.ofJson?,
      hparse]
  have hlayers : Config.ofLayers [Layer.defaults,
      Setting.ofMembers (some "config.json")
        [("app", .object [("max_body_size", .number (.whole 9223372036854775809))])],
      Layer.ofEnvironment []] = .ok { app := { maxBodySize := 9223372036854775808 } } := by
    decide +kernel
  exact bind_eq_ok_iff.mpr ⟨_, hfile, hlayers⟩

end WebService.Settings
