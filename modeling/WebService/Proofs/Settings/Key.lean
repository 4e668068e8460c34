import Mathlib.Data.List.Nodup
import WebService.Proofs.Json.Value
import WebService.Proofs.Settings.Reading

/-!
The keys of the configuration, and configurations key by key. A configuration is data under each
key, and whatever data of the right types stands there, the configuration made of it has it.
-/
namespace WebService.Settings

open Json (Document Shape Value)
open Json.Shape (Field)

/-- A key of the configuration: the name of its section, its own, its shape and its default. -/
structure Key where
  part : String
  name : String
  shape : Shape
  fallback : Document

/-- The key of a field of a section. -/
def Key.of (part : String) (f : Field) : Key := ⟨part, f.1, f.2.1, f.2.2.getD .null⟩

def keys : List Key := configShape.fields.flatMap fun f => f.2.1.fields.map (Key.of f.1)

/-- The path that leads to a key. -/
def Key.path (key : Key) : String := key.part ++ "." ++ key.name

/-- What a configuration has under a key. -/
def Config.setting? (c : Config) (key : Key) : Option Document :=
  ((fieldsOf c.toDocument).lookup key.part).bind fun part => (fieldsOf part).lookup key.name

/-- What a value gives for a key. -/
def given? (v : Value) (key : Key) : Option Value := (v.member? key.part).bind (·.member? key.name)

/-- Data of the configuration's shape with what stands under each key. -/
def configOf (g : Key → Document) : Document :=
  .record (configShape.fields.map fun f =>
    (f.1, .record (f.2.1.fields.map fun k => (k.1, g (.of f.1 k)))))

theorem keys_eq : keys = [
    ⟨"server", "host", .text, .text "127.0.0.1"⟩,
    ⟨"server", "port", .integer (.unsigned "u16" 16), .ofNat 8080⟩,
    ⟨"server", "workers", .optional (.integer (.unsigned "usize" 64)), .null⟩,
    ⟨"app", "debug", .boolean, .boolean false⟩,
    ⟨"app", "strict_slashes", .boolean, .boolean false⟩,
    ⟨"app", "max_body_size", .integer (.unsigned "u64" 64), .ofNat 10485760⟩,
    ⟨"app", "cors", Cors.settingShape, .boolean false⟩,
    ⟨"logging", "level", .text, .text "info"⟩,
    ⟨"logging", "access_log", .boolean, .boolean true⟩,
    ⟨"logging", "access_log_format", .text, .text "combined"⟩,
    ⟨"logging", "access_log_file", .optional .text, .null⟩,
    ⟨"logging", "error_log_file", .optional .text, .null⟩,
    ⟨"performance", "keep_alive", .boolean, .boolean true⟩,
    ⟨"performance", "request_timeout", .integer (.unsigned "u64" 64), .ofNat 30⟩] := rfl

variable {key : Key} {v : Value} {g : Key → Document} {members : List (String × Value)} {f : Field}

/-! Keys and sections -/

theorem exists_record_of_mem (hf : f ∈ configShape.fields) :
    (∃ name, f.2.1 = .record name f.2.1.fields) ∧
      ∀ k ∈ f.2.1.fields, k.2.2.isSome = true ∧ Key.of f.1 k ∈ keys := by
  have hkeys : ∀ k ∈ f.2.1.fields, Key.of f.1 k ∈ keys := fun k hk =>
    List.mem_flatMap.mpr ⟨f, hf, List.mem_map_of_mem hk⟩
  have hall : ∀ f ∈ configShape.fields, (∃ name, f.2.1 = .record name f.2.1.fields) ∧
      ∀ k ∈ f.2.1.fields, k.2.2.isSome = true := by
    simp only [configShape, Shape.fields, List.forall_mem_cons]
    exact ⟨⟨⟨_, rfl⟩, by decide⟩, ⟨⟨_, rfl⟩, by decide⟩, ⟨⟨_, rfl⟩, by decide⟩,
      ⟨⟨_, rfl⟩, by decide⟩, List.forall_mem_nil _⟩
  exact ⟨(hall f hf).1, fun k hk => ⟨(hall f hf).2 k hk, hkeys k hk⟩⟩

theorem exists_field_of_mem (hkey : key ∈ keys) :
    ∃ f ∈ configShape.fields, ∃ k ∈ f.2.1.fields, key = .of f.1 k := by
  obtain ⟨f, hf, hkey⟩ := List.mem_flatMap.mp hkey
  obtain ⟨k, hk, rfl⟩ := List.mem_map.mp hkey
  exact ⟨f, hf, k, hk, rfl⟩

theorem given?_of (members : List (String × Value)) (part : String) (k : Field) :
    given? (.object members) (.of part k) = (members.lookup part).bind (·.member? k.1) := by
  rw [given?, Value.member?_object]
  rfl

theorem fits_of_given? (hfits : configShape.fits v = true) (hkey : key ∈ keys) {w : Value}
    (hgiven : given? v key = some w) : key.shape.fits w = true := by
  obtain ⟨f, hf, k, hk, rfl⟩ := exists_field_of_mem hkey
  obtain ⟨members, rfl⟩ := Shape.exists_members_of_fits hfits
  rw [given?_of] at hgiven
  obtain ⟨part, hpart, hinner⟩ := Option.bind_eq_some_iff.mp hgiven
  obtain ⟨⟨name, hrecord⟩, -⟩ := exists_record_of_mem hf
  have hpartFits := Shape.fits_of_lookup hfits hf hpart
  rw [hrecord] at hpartFits
  obtain ⟨inner, rfl⟩ := Shape.exists_members_of_fits hpartFits
  rw [Value.member?_object] at hinner
  exact Shape.fits_of_lookup hpartFits hk hinner

/-! Shapes and defaults -/

/-- All settings but those for access are flags, numbers or texts. -/
theorem shape_cases (hkey : key ∈ keys) :
    IsPlain key.shape ∨ key.shape = Cors.settingShape ∧ key.path = "app.cors" := by
  revert key
  simp only [keys_eq, List.forall_mem_cons]
  exact ⟨Or.inl .text, Or.inl (.unsigned _ _), Or.inl (.optional (.unsigned _ _)), Or.inl .boolean,
    Or.inl .boolean, Or.inl (.unsigned _ _), Or.inr ⟨trivial, rfl⟩, Or.inl .text, Or.inl .boolean,
    Or.inl .text, Or.inl (.optional .text), Or.inl (.optional .text), Or.inl .boolean,
    Or.inl (.unsigned _ _), List.forall_mem_nil _⟩

theorem isSingle_of_mem (hkey : key ∈ keys) : IsSingle key.shape := by
  rcases shape_cases hkey with hplain | ⟨hcors, -⟩
  · exact .plain hplain
  · rw [hcors]
    exact .cors

theorem isOf_fallback (hkey : key ∈ keys) : IsOf key.shape key.fallback := by
  revert key
  simp only [keys_eq, List.forall_mem_cons]
  exact ⟨⟨_, rfl⟩, ⟨_, rfl⟩, Or.inl rfl, ⟨_, rfl⟩, ⟨_, rfl⟩, ⟨_, rfl⟩, ⟨.enabled false, rfl⟩,
    ⟨_, rfl⟩, ⟨_, rfl⟩, ⟨_, rfl⟩, Or.inl rfl, Or.inl rfl, ⟨_, rfl⟩, ⟨_, rfl⟩, List.forall_mem_nil _⟩

/-- A path leads to one key only. -/
theorem eq_of_path {k : Key} (hkey : key ∈ keys) (hk : k ∈ keys) (h : key.path = k.path) :
    key = k := by
  have hnodup : (keys.map Key.path).Nodup := by decide
  exact List.inj_on_of_nodup_map hnodup hkey hk h

/-- The defaults of the keys are the default configuration. -/
theorem setting?_default (hkey : key ∈ keys) : ({} : Config).setting? key = some key.fallback := by
  revert key
  simp only [keys_eq, List.forall_mem_cons]
  exact ⟨rfl, rfl, rfl, rfl, rfl, rfl, rfl, rfl, rfl, rfl, rfl, rfl, rfl, rfl,
    List.forall_mem_nil _⟩

/-! Configurations as data and back -/

theorem filterMap_texts {f : Document → Option String} (h : ∀ s, f (.text s) = some s)
    (texts : List String) : (texts.map Document.text).filterMap f = texts := by
  induction texts with
  | nil => rfl
  | cons s texts ih => rw [List.map_cons, List.filterMap_cons, h, ih]

theorem ofList_listDocument (texts : Option (List String)) :
    Cors.Setting.ofList (Cors.Setting.listDocument texts) = texts := by
  cases texts with
  | none => rfl
  | some texts => exact congrArg some (filterMap_texts (fun _ => rfl) texts)

theorem ofDocument_cors (s : Cors.Setting) : Cors.Setting.ofDocument s.toDocument = s := by
  cases s with
  | enabled b => rfl
  | custom o =>
    obtain ⟨origins, methods, headers, credentials, maxAge⟩ := o
    change Cors.Setting.custom ⟨Cors.Setting.ofList (Cors.Setting.listDocument origins),
      Cors.Setting.ofList (Cors.Setting.listDocument methods),
      Cors.Setting.ofList (Cors.Setting.listDocument headers), credentials, maxAge⟩ = _
    rw [ofList_listDocument, ofList_listDocument, ofList_listDocument]

theorem ofDocument_server (s : Server) : Server.ofDocument s.toDocument = s := by
  obtain ⟨host, port, workers⟩ := s
  cases workers <;> rfl

theorem ofDocument_app (a : App) : App.ofDocument a.toDocument = a := by
  obtain ⟨debug, strictSlashes, maxBodySize, cors⟩ := a
  change App.mk debug strictSlashes maxBodySize (Cors.Setting.ofDocument cors.toDocument) = _
  rw [ofDocument_cors]

theorem ofDocument_logging (l : Logging) : Logging.ofDocument l.toDocument = l := by
  obtain ⟨level, accessLog, format, accessFile, errorFile⟩ := l
  cases accessFile <;> cases errorFile <;> rfl

/-- The configuration of its own data is the configuration. -/
theorem ofDocument_toDocument (c : Config) : Config.ofDocument c.toDocument = c := by
  change Config.mk (.ofDocument c.server.toDocument) (.ofDocument c.app.toDocument)
    (.ofDocument c.logging.toDocument) (.ofDocument c.performance.toDocument) = c
  rw [ofDocument_server, ofDocument_app, ofDocument_logging]
  rfl

theorem exists_ofOption {α : Type} {f : α → Document} {document : Document}
    (h : document = .null ∨ ∃ a, document = f a) : ∃ a : Option α, document = .ofOption f a := by
  rcases h with hnull | ⟨a, ha⟩
  · exact ⟨none, hnull⟩
  · exact ⟨some a, ha⟩

/-- Data of the right types under each key is the data of a configuration. -/
theorem exists_config (hg : ∀ key ∈ keys, IsOf key.shape (g key)) :
    ∃ c : Config, configOf g = c.toDocument := by
  simp only [keys_eq, List.forall_mem_cons] at hg
  obtain ⟨⟨host, hhost⟩, ⟨port, hport⟩, hworkers, ⟨debug, hdebug⟩, ⟨slashes, hslashes⟩,
    ⟨size, hsize⟩, ⟨cors, hcors⟩, ⟨level, hlevel⟩, ⟨access, haccess⟩, ⟨format, hformat⟩,
    haccessFile, herrorFile, ⟨alive, halive⟩, ⟨timeout, htimeout⟩, -⟩ := hg
  obtain ⟨workers, hworkers⟩ := exists_ofOption hworkers
  obtain ⟨accessFile, haccessFile⟩ := exists_ofOption haccessFile
  obtain ⟨errorFile, herrorFile⟩ := exists_ofOption herrorFile
  refine ⟨⟨⟨host, port, workers⟩, ⟨debug, slashes, size, cors⟩,
    ⟨level, access, format, accessFile, errorFile⟩, ⟨alive, timeout⟩⟩, ?_⟩
  simp only [Config.toDocument, Server.toDocument, App.toDocument, Logging.toDocument,
    Performance.toDocument, optionalText]
  rw [← hhost, ← hport, ← hworkers, ← hdebug, ← hslashes, ← hsize, ← hcors, ← hlevel, ← haccess,
    ← hformat, ← haccessFile, ← herrorFile, ← halive, ← htimeout]
  rfl

/-- A configuration made of data of the right types has that data under each key. -/
theorem setting?_ofDocument (hg : ∀ key ∈ keys, IsOf key.shape (g key)) (hkey : key ∈ keys) :
    (Config.ofDocument (configOf g)).setting? key = some (g key) := by
  obtain ⟨c, hc⟩ := exists_config hg
  rw [Config.setting?, hc, ofDocument_toDocument, ← hc]
  clear hg
  revert key
  simp only [keys_eq, List.forall_mem_cons]
  exact ⟨rfl, rfl, rfl, rfl, rfl, rfl, rfl, rfl, rfl, rfl, rfl, rfl, rfl, rfl,
    List.forall_mem_nil _⟩

end WebService.Settings
