import WebService.Proofs.Settings.Precedence
import WebService.Proofs.Toml.Written

/-!
The defaults of the configuration stand in two places, the layer under a document and the shapes of
the sections. Settings come to the same configuration over the one and in the other.
-/
namespace WebService.Settings

open Json (Document Shape Value)
open Json.Shape (Field)

variable {key : Key} {v : Value} {c d : Config} {text : String} {members : List (String × Value)}
  {f : Field}

/-! Settings as data -/

/-- What a value gives for a key, or else the default of the key. -/
def givenOr (v : Value) (key : Key) : Document :=
  match given? v key with
  | some w => key.shape.filled w
  | none => key.fallback

/-- The default of a section has the defaults of its keys. -/
theorem section_default (hf : f ∈ configShape.fields) :
    f.2.2.getD .null = .record (f.2.1.fields.map fun k => (k.1, k.2.2.getD .null)) := by
  revert f
  simp only [configShape, Shape.fields, List.forall_mem_cons]
  exact ⟨rfl, rfl, rfl, rfl, List.forall_mem_nil _⟩

theorem filled_section (hfits : configShape.fits (.object members) = true)
    (hf : f ∈ configShape.fields) : Field.filled members f =
      .record (f.2.1.fields.map fun k => (k.1, givenOr (.object members) (.of f.1 k))) := by
  obtain ⟨⟨name, hrecord⟩, -⟩ := exists_record_of_mem hf
  cases hpart : members.lookup f.1 with
  | none =>
    have hmissing : ∀ k : Field, givenOr (.object members) (.of f.1 k) = k.2.2.getD .null := by
      intro k
      rw [givenOr, given?_of, hpart]
      rfl
    simp only [Field.filled, hpart, section_default hf, hmissing]
  | some part =>
    have hpartFits := Shape.fits_of_lookup hfits hf hpart
    rw [hrecord] at hpartFits
    obtain ⟨inner, rfl⟩ := Shape.exists_members_of_fits hpartFits
    have hgiven : ∀ k : Field, givenOr (.object members) (.of f.1 k) = Field.filled inner k := by
      intro k
      rw [givenOr, given?_of, hpart, Option.bind_some, Value.member?_object, Field.filled]
      rfl
    have hfilled : f.2.1.filled (.object inner) =
        .record (f.2.1.fields.map fun k => (k.1, Field.filled inner k)) := by
      rw [hrecord, Shape.filled, Shape.filledFields_eq]
      rfl
    simp only [Field.filled, hpart, hfilled, hgiven]

/-- What a value of the configuration's shape stands for has, under each key, what the value gives
or else the default. -/
theorem filled_config (hfits : configShape.fits v = true) :
    configShape.filled v = configOf (givenOr v) := by
  obtain ⟨members, rfl⟩ := Shape.exists_members_of_fits hfits
  have hfilled : configShape.filled (.object members) =
      .record (Shape.filledFields members configShape.fields) := rfl
  rw [hfilled, Shape.filledFields_eq, configOf]
  refine congrArg Document.record (List.map_congr_left fun f hf => ?_)
  rw [filled_section hfits hf]

/-- A configuration is the data under its keys. -/
theorem toDocument_eq (c : Config) :
    c.toDocument = configOf fun key => (c.setting? key).getD .null :=
  rfl

/-- Configurations with the same settings are the same. -/
theorem eq_of_setting? (h : ∀ key ∈ keys, c.setting? key = d.setting? key) : c = d := by
  have hdocument : c.toDocument = d.toDocument := by
    rw [toDocument_eq c, toDocument_eq d, configOf, configOf]
    refine congrArg Document.record (List.map_congr_left fun f hf => ?_)
    refine congrArg (f.1, Document.record ·) (List.map_congr_left fun k hk => ?_)
    have hkey : Key.of f.1 k ∈ keys := ((exists_record_of_mem hf).2 k hk).2
    rw [h _ hkey]
  rw [← ofDocument_toDocument c, ← ofDocument_toDocument d, hdocument]

theorem isOf_givenOr (hfits : configShape.fits v = true) (hkey : key ∈ keys) :
    IsOf key.shape (givenOr v key) := by
  rw [givenOr]
  cases hgiven : given? v key with
  | some w => exact isOf_filled (isSingle_of_mem hkey) (fits_of_given? hfits hkey hgiven)
  | none => exact isOf_fallback hkey

theorem resolved_of_no_variables (v : Value) (hkey : key ∈ keys) :
    resolved [] v key = some (givenOr v key) := by
  have hvariable : Layer.valueIn? [] key = none := rfl
  rw [resolved, hvariable, givenOr]
  cases given? v key with
  | some w => rfl
  | none => exact setting?_default hkey

theorem exists_ofValue (hfits : configShape.fits v = true) :
    ∃ c, Config.ofValue v = .ok c ∧ ∀ key ∈ keys, c.setting? key = some (givenOr v key) := by
  have hread := Shape.read_of_fits configShape v hfits
  rw [filled_config hfits] at hread
  refine ⟨Config.ofDocument (configOf (givenOr v)), bind_eq_ok_iff.mpr ⟨_, hread, rfl⟩, ?_⟩
  intro key hkey
  exact setting?_ofDocument (fun key hkey => isOf_givenOr hfits hkey) hkey

/-! Settings over the first layer -/

theorem ofLayers_append_nil (layers : List Layer) :
    Config.ofLayers (layers ++ [[]]) = Config.ofLayers layers := by
  rw [Config.ofLayers, Config.ofLayers, List.foldl_append]
  rfl

theorem exists_ofToml (hfits : configShape.fits v = true) (htold : Toml.told? text = some v) :
    ∃ c, Config.ofToml text = .ok c ∧ ∀ key ∈ keys, c.setting? key = some (givenOr v key) := by
  obtain ⟨members, rfl⟩ := Shape.exists_members_of_fits hfits
  obtain ⟨file, hfile, rfl⟩ := Layer.exists_ofToml? none htold
  have htyped : Layer.isTyped [] = true := rfl
  obtain ⟨c, hc, hkeys⟩ := exists_ofLayers hfits htyped
  refine ⟨c, ?_, ?_⟩
  · rw [Config.ofToml, hfile, ← hc]
    exact (ofLayers_append_nil [.defaults, file]).symm
  · intro key hkey
    rw [hkeys key hkey]
    exact resolved_of_no_variables _ hkey

/-! Documents for settings -/

/-- Whether values of a shape can be written and nest at most `n` deep, if there is no null in them
and their integers have 64 bits and a sign. -/
def canWriteAll : Nat → Shape → Bool
  | 0, _ => false
  | n + 1, shape =>
    match shape with
    | .boolean | .text | .integer _ => true
    | .optional shape | .list shape => canWriteAll n shape
    | .record _ fields => fields.all fun f => f.1 ≠ Toml.momentKey && canWriteAll n f.2.1
    | .either _ alternatives => alternatives.all (canWriteAll n)
    | _ => false

theorem canWrite_of_fits {n : Nat} {shape : Shape} (hshape : canWriteAll n shape = true)
    (hfits : shape.fits v = true) (hfull : v.isFull = true) (hsigned : v.isSigned = true) :
    Toml.canWrite v = true ∧ v.depth ≤ n := by
  induction n generalizing shape v with
  | zero => cases hshape
  | succ n ih =>
    cases shape with
    | boolean =>
      cases v with
      | boolean b => exact ⟨rfl, Nat.zero_le _⟩
      | _ => cases hfits
    | text =>
      cases v with
      | text s => exact ⟨rfl, Nat.zero_le _⟩
      | _ => cases hfits
    | integer type =>
      cases v with
      | number i =>
        cases i with
        | whole i => exact ⟨hsigned, Nat.zero_le _⟩
        | real x => cases hfits
      | _ => cases hfits
    | optional shape =>
      have hinner : shape.fits v = true := by
        rw [Shape.fits_optional_of_ne] at hfits
        · exact hfits
        · rintro rfl
          cases hfull
      obtain ⟨hcan, hdepth⟩ := ih hshape hinner hfull hsigned
      exact ⟨hcan, Nat.le_succ_of_le hdepth⟩
    | list item =>
      cases v with
      | list items =>
        rw [Shape.fits, List.all_eq_true] at hfits
        obtain ⟨-, hfull⟩ := Value.all_list.mp hfull
        obtain ⟨-, hsigned⟩ := Value.all_list.mp hsigned
        have hitems := fun v hv => ih hshape (hfits v hv) (hfull v hv) (hsigned v hv)
        refine ⟨Value.all_list.mpr ⟨rfl, fun v hv => (hitems v hv).1⟩, ?_⟩
        exact Nat.succ_le_succ (Json.itemsDepth_le_iff.mpr fun v hv => (hitems v hv).2)
      | _ => cases hfits
    | record name fields =>
      obtain ⟨members, rfl⟩ := Shape.exists_members_of_fits hfits
      obtain ⟨-, hnodup, -, -⟩ := Shape.fits_record_iff.mp hfits
      obtain ⟨-, hfull⟩ := Value.all_object.mp hfull
      obtain ⟨-, hsigned⟩ := Value.all_object.mp hsigned
      have hmembers : ∀ m ∈ members, m.1 ≠ Toml.momentKey ∧ Toml.canWrite m.2 = true ∧
          m.2.depth ≤ n := by
        intro m hm
        obtain ⟨f, hf, hkey, hvalue⟩ := Shape.exists_field_of_fits hfits hm
        have hfield := List.all_eq_true.mp hshape f hf
        rw [Bool.and_eq_true, decide_eq_true_iff] at hfield
        exact ⟨hkey ▸ hfield.1, ih hfield.2 hvalue (hfull m hm) (hsigned m hm)⟩
      have hmoment : Toml.momentKey ∉ members.map (·.1) := by
        intro hmem
        obtain ⟨m, hm, hkey⟩ := List.mem_map.mp hmem
        exact (hmembers m hm).1 hkey
      refine ⟨Value.all_object.mpr ⟨?_, fun m hm => (hmembers m hm).2.1⟩, ?_⟩
      · simp [hnodup, hmoment]
      · exact Nat.succ_le_succ (Json.membersDepth_le_iff.mpr fun m hm => (hmembers m hm).2.2)
    | either name alternatives =>
      obtain ⟨shape, hmem, hshapeFits⟩ := Shape.exists_of_fitsFirst hfits
      obtain ⟨hcan, hdepth⟩ := ih (List.all_eq_true.mp hshape shape hmem) hshapeFits hfull hsigned
      exact ⟨hcan, Nat.le_succ_of_le hdepth⟩
    | _ => cases hshape

theorem exists_told (hfits : configShape.fits v = true) (hfull : v.isFull = true)
    (hsigned : v.isSigned = true) : ∃ text, Toml.told? text = some v := by
  have hshape : canWriteAll 8 configShape = true := by decide
  obtain ⟨hcan, hdepth⟩ := canWrite_of_fits hshape hfits hfull hsigned
  obtain ⟨members, rfl⟩ := Shape.exists_members_of_fits hfits
  refine ⟨_, Toml.told?_writeLines hcan ?_⟩
  intro m hm
  have hmember := Json.depth_le_membersDepth hm
  rw [Value.depth] at hdepth
  rw [Toml.depthLimit]
  omega

/-! Both -/

/-- Settings of the declared types, of which any may be left out, can be told by a document, and are
the same configuration over the first layer and as data: each key that they give has its value, and
every other one its default. -/
theorem defaults_agree (hfits : configShape.fits v = true) (hfull : v.isFull = true)
    (hsigned : v.isSigned = true) :
    ∃ c, Config.ofValue v = .ok c ∧ (∃ text, Toml.told? text = some v) ∧
      (∀ text, Toml.told? text = some v → Config.ofToml text = .ok c) ∧
      ∀ key ∈ keys, c.setting? key =
        match given? v key with
        | some w => some (key.shape.filled w)
        | none => ({} : Config).setting? key := by
  obtain ⟨c, hc, hkeys⟩ := exists_ofValue hfits
  refine ⟨c, hc, exists_told hfits hfull hsigned, ?_, ?_⟩
  · intro text htold
    obtain ⟨d, hd, hsame⟩ := exists_ofToml hfits htold
    have heq : d = c := by
      refine eq_of_setting? ?_
      intro key hkey
      rw [hsame key hkey, hkeys key hkey]
    rw [hd, heq]
  · intro key hkey
    rw [hkeys key hkey, ← resolved_of_no_variables v hkey]
    rfl

/-- Two sections in part, a third one empty and the last one left out. -/
theorem defaults_agree_of_part :
    ∃ v c, configShape.fits v = true ∧ v.isFull = true ∧ v.isSigned = true ∧
      Config.ofValue v = .ok c ∧
      Config.ofToml "server.port = 8000\n[app.cors]\norigins = [\"a\"]\n[logging]\n" = .ok c ∧
      c.setting? ⟨"server", "port", .integer (.unsigned "u16" 16), .ofNat 8080⟩ =
        some (.ofNat 8000) ∧
      c.setting? ⟨"logging", "level", .text, .text "info"⟩ = some (.text "info") := by
  have htold : Toml.told? "server.port = 8000\n[app.cors]\norigins = [\"a\"]\n[logging]\n" =
      some (.object [("server", .object [("port", .number (.whole 8000))]),
        ("app", .object [("cors", .object [("origins", .list [.text "a"])])]),
        ("logging", .object [])]) := by
    decide +kernel
  have hfits : configShape.fits (.object [("server", .object [("port", .number (.whole 8000))]),
      ("app", .object [("cors", .object [("origins", .list [.text "a"])])]),
      ("logging", .object [])]) = true := by
    decide +kernel
  obtain ⟨c, hvalue, -, htoml, hkeys⟩ := defaults_agree hfits rfl rfl
  refine ⟨_, c, hfits, rfl, rfl, hvalue, htoml _ htold, ?port, ?level⟩
  case port => exact hkeys _ (by simp [keys_eq])
  case level => exact hkeys _ (by simp [keys_eq])

/-- An integer that has 64 bits and no room for a sign is a setting, and no document can hold it. -/
theorem toml_refuses_large_integer :
    configShape.fits (.object
        [("app", .object [("max_body_size", .number (.whole 9223372036854775808))])]) = true ∧
      Config.ofValue (.object
        [("app", .object [("max_body_size", .number (.whole 9223372036854775808))])]) =
        .ok { app := { maxBodySize := 9223372036854775808 } } ∧
      Config.ofToml "[app]\nmax_body_size = 9223372036854775808\n" = .error .unreadable := by
  have hread : Layer.ofToml? none "[app]\nmax_body_size = 9223372036854775808\n" = none := by
    decide +kernel
  refine ⟨by decide +kernel, by rfl, ?_⟩
  rw [Config.ofToml, hread]

end WebService.Settings
