import WebService.Proofs.Json.Value
import WebService.Proofs.Settings.Merge
import WebService.Proofs.Text.Octets
import WebService.Proofs.Toml.Value

/-!
What the files that hold settings say, as values, and the layers made of them.
-/
namespace WebService.Settings

open Json (Value)

namespace Setting

/-! Settings of a TOML document -/

theorem toItems_append (items others : List Setting) :
    toItems (items ++ others) = toItems items ++ toItems others := by
  induction items with
  | nil => rfl
  | cons item items ih => rw [List.cons_append, toItems, toItems, ih, List.cons_append]

mutual

theorem toValue_ofNode (layer : Option String) : (node : Toml.Node) →
    (ofNode layer node).toValue = node.toValue
  | .boolean _ | .integer _ | .real _ | .text _ | .moment _ => rfl
  | .list items => by
    rw [ofNode, toValue, toItems_ofNodes layer items]
    rfl
  | .table _ entries => by
    rw [ofNode, toValue, toMembers_ofEntries layer entries]
    rfl
  | .tables earlier last => by
    rw [ofNode, toValue, toItems_append, toItems_ofTables layer earlier, toItems, toValue,
      toMembers_ofEntries layer last]
    rfl

theorem toItems_ofNodes (layer : Option String) : (nodes : List Toml.Node) →
    toItems (ofNodes layer nodes) = Toml.itemValues nodes
  | [] => rfl
  | node :: nodes => by
    rw [ofNodes, toItems, toValue_ofNode layer node, toItems_ofNodes layer nodes]
    rfl

theorem toMembers_ofEntries (layer : Option String) : (entries : List (String × Toml.Node)) →
    toMembers (ofEntries layer entries) = Toml.entryValues entries
  | [] => rfl
  | (key, node) :: rest => by
    rw [ofEntries, toMembers, toValue_ofNode layer node, toMembers_ofEntries layer rest]
    rfl

theorem toItems_ofTables (layer : Option String) : (tables : List (List (String × Toml.Node))) →
    toItems (ofTables layer tables) = Toml.tableValues tables
  | [] => rfl
  | entries :: rest => by
    rw [ofTables, toItems, toValue, toMembers_ofEntries layer entries, toItems_ofTables layer rest]
    rfl

end

/-! Settings of a JSON document -/

theorem toItems_ofItems (layer : Option String) {items : List Value}
    (h : ∀ v ∈ items, (ofValue layer v).toValue = v) : toItems (ofItems layer items) = items := by
  induction items with
  | nil => rfl
  | cons item items ih =>
    rw [ofItems, toItems, h item List.mem_cons_self, ih fun v hv => h v (List.mem_cons_of_mem _ hv)]

theorem toMembers_ofMembers (layer : Option String) {members : List (String × Value)}
    (h : ∀ m ∈ members, (ofValue layer m.2).toValue = m.2) :
    toMembers (ofMembers layer members) = members := by
  induction members with
  | nil => rfl
  | cons first rest ih =>
    obtain ⟨key, value⟩ := first
    rw [ofMembers, toMembers, h (key, value) List.mem_cons_self,
      ih fun m hm => h m (List.mem_cons_of_mem _ hm)]

/-- A value whose integers have a sign is kept as it is. -/
theorem toValue_ofValue (layer : Option String) (v : Value) (h : v.isSigned = true) :
    (ofValue layer v).toValue = v := by
  induction v using Value.induction_on with
  | null | boolean | text => rfl
  | number n =>
    cases n with
    | real x => rfl
    | whole i =>
      have hbounds : (Number.minInt64 ≤ i && i ≤ Number.maxInt64) = true := h
      rw [ofValue, ofNumber, if_pos hbounds]
      rfl
  | list items ih =>
    obtain ⟨-, hitems⟩ := Value.all_list.mp h
    rw [ofValue, toValue, toItems_ofItems layer fun v hv => ih v hv (hitems v hv)]
  | object members ih =>
    obtain ⟨-, hmembers⟩ := Value.all_object.mp h
    rw [ofValue, toValue, toMembers_ofMembers layer fun m hm => ih m hm (hmembers m hm)]

end Setting

namespace Layer

/-- The endings of files in the formats that are not read here. -/
def otherEndings : List String := [".yaml", ".yml", ".ini", ".ron", ".json5"]

/-- Whether a file in one of these formats stands where a path leads. -/
def leadsElsewhere (files : Files) (path : String) : Bool :=
  otherEndings.any fun ending =>
    if namesFile path && (content? files path).isSome then hasEnding path ending
    else (content? files (plainPath path ++ ending)).isSome

/-- What the file says that a path leads to. A missing file says no more than an empty one; a file
in a format that is not read here is not missing. -/
inductive FileTells (files : Files) (path : String) : Value → Prop where
  | missing (hplace : locate? files path = none) (hother : leadsElsewhere files path = false) :
    FileTells files path (.object [])
  | toml {name text : String} {v : Value} (hplace : locate? files path = some (name, .toml))
    (hcontent : content? files name = some (Text.octets text)) (htold : Toml.told? text = some v) :
    FileTells files path v
  | json {name text : String} {v : Value} (hplace : locate? files path = some (name, .json))
    (hcontent : content? files name = some (Text.octets text)) (hparse : Value.parse text = .ok v)
    (hsigned : v.isSigned = true) : FileTells files path v

/-- In an empty directory the file is missing; one in YAML is not. -/
example : FileTells [] "config" (.object []) ∧
    leadsElsewhere [("config.yaml", [])] "config" = true :=
  ⟨.missing (by decide +kernel) (by decide +kernel), by decide +kernel⟩

variable {files : Files} {path text : String} {members : List (String × Value)}

theorem exists_ofToml? (layer : Option String) (h : Toml.told? text = some (.object members)) :
    ∃ file, ofToml? layer text = some file ∧ Setting.toMembers file = members := by
  obtain ⟨entries, hentries, hvalue⟩ := Option.map_eq_some_iff.mp h
  cases hvalue
  refine ⟨Setting.ofEntries layer entries, ?_, Setting.toMembers_ofEntries layer entries⟩
  rw [ofToml?, hentries]
  rfl

/-- A file that tells an object is read as the settings in it. -/
theorem FileTells.exists_ofFile (h : FileTells files path (.object members)) :
    ∃ file, ofFile files path = .ok file ∧ Setting.toMembers file = members := by
  generalize hv : Value.object members = v at h
  cases h with
  | missing hplace hother =>
    cases hv
    refine ⟨[], ?_, rfl⟩
    rw [ofFile, hplace]
  | @toml name text v hplace hcontent htold =>
    subst hv
    obtain ⟨file, hfile, hmembers⟩ := exists_ofToml? (some name) htold
    refine ⟨file, ?_, hmembers⟩
    rw [ofFile, hplace]
    simp only [hcontent, Option.bind_some, Text.ofOctets?_octets, ofText?, hfile]
  | @json name text v hplace hcontent hparse hsigned =>
    subst hv
    refine ⟨Setting.ofMembers (some name) members, ?_, ?_⟩
    · rw [ofFile, hplace]
      simp only [hcontent, Option.bind_some, Text.ofOctets?_octets, ofText?, ofJson?, hparse]
    · have hvalue := Setting.toValue_ofValue (some name) _ hsigned
      exact (Value.object.inj hvalue)

end Layer

end WebService.Settings
