import WebService.Proofs.Settings.Merge

/-!
The configuration of layers. Each layer leaves the sections tables, and what stands under a key is
what the last layer says that has the key.
-/
namespace WebService.Settings

open Json (Document Shape Value)
open Json.Shape (Field)

variable {key : Key} {root s : Setting} {g : Key → Document} {document : Document} {f : Field}
  {fields : List Field} {layer : Layer} {name : Option String} {entries : List (String × Setting)}

namespace Setting

/-- Whether all sections of the configuration are there, as tables. -/
def HasParts (root : Setting) : Prop :=
  root.isTable = true ∧ ∀ f ∈ configShape.fields, (root.child? f.1).any isTable = true

/-- Whether settings tell data for a key, by a setting or else by the default of the key. -/
def Tells (root : Setting) (key : Key) (document : Document) : Prop :=
  (∃ s, root.at? key = some s ∧ s.read key.shape = .ok document) ∨
    root.at? key = none ∧ document = key.fallback

theorem HasParts.child? (h : root.HasParts) (hf : f ∈ configShape.fields) :
    ∃ layer entries, root.child? f.1 = some (table layer entries) := by
  have hpart := h.2 f hf
  rw [Option.any_eq_true] at hpart
  obtain ⟨s, hs, htable⟩ := hpart
  obtain ⟨layer, entries, rfl⟩ := exists_table htable
  exact ⟨layer, entries, hs⟩

/-! Reading all sections -/

theorem readNamed_eq {given : Field → Document}
    (h : ∀ f ∈ fields, (∃ s, entries.lookup f.1 = some s ∧ s.read f.2.1 = .ok (given f)) ∨
      entries.lookup f.1 = none ∧ absent f.1 f.2.1 f.2.2 = .ok (given f)) :
    readNamed entries fields = .ok (fields.map fun f => (f.1, given f)) := by
  induction fields with
  | nil => rfl
  | cons f fields ih =>
    have hrest := ih fun g hg => h g (List.mem_cons_of_mem _ hg)
    have hfirst := h f List.mem_cons_self
    obtain ⟨name, shape, fallback⟩ := f
    simp only at hfirst
    rw [readNamed]
    rcases hfirst with ⟨s, hs, hread⟩ | ⟨hmissing, habsent⟩
    · simp [hs, hread, hrest, within, bind, Except.bind, pure, Except.pure]
    · simp [hmissing, habsent, hrest, bind, Except.bind, pure, Except.pure]

theorem absent_eq (h : f.2.2.isSome = true) :
    absent f.1 f.2.1 f.2.2 = .ok (f.2.2.getD .null) := by
  rw [absent, Shape.absent_eq (Or.inl h)]

/-- Settings that have all sections and tell data for each key are read as that data. -/
theorem read_config (hparts : root.HasParts) (hread : ∀ key ∈ keys, root.Tells key (g key)) :
    root.read configShape = .ok (configOf g) := by
  have hfields : ∀ f ∈ configShape.fields, ∃ s, root.child? f.1 = some s ∧
      s.read f.2.1 = .ok (.record (f.2.1.fields.map fun k => (k.1, g (.of f.1 k)))) := by
    intro f hf
    obtain ⟨layer, entries, hentries⟩ := hparts.child? hf
    obtain ⟨⟨name, hrecord⟩, hkeys⟩ := exists_record_of_mem hf
    refine ⟨table layer entries, hentries, ?_⟩
    have hnamed : readNamed entries f.2.1.fields =
        .ok (f.2.1.fields.map fun k => (k.1, g (.of f.1 k))) := by
      refine readNamed_eq ?_
      intro k hk
      obtain ⟨hdefault, hkey⟩ := hkeys k hk
      have hat : root.at? (.of f.1 k) = entries.lookup k.1 := by
        rw [at?, Key.of, hentries]
        rfl
      rw [← hat]
      rcases hread (.of f.1 k) hkey with htold | ⟨hmissing, hvalue⟩
      · exact Or.inl htold
      · refine Or.inr ⟨hmissing, ?_⟩
        rw [hvalue]
        exact absent_eq hdefault
    rw [hrecord, read, ← hrecord, hnamed]
    rfl
  obtain ⟨layer, entries, rfl⟩ := exists_table hparts.1
  have hnamed := readNamed_eq (fun f hf => Or.inl (hfields f hf))
  have hrecord : configShape = .record "Config" configShape.fields := rfl
  rw [hrecord, read]
  exact bind_eq_ok_iff.mpr ⟨_, hnamed, rfl⟩

/-! A file's layer -/

/-- The tables of a file that fits the configuration have distinct keys of the configuration. -/
theorem exists_section (hfits : configShape.fits s.toValue = true) (hf : f ∈ configShape.fields)
    {t : Setting} (ht : s.child? f.1 = some t) :
    ∃ layer entries, t = table layer entries ∧ (entries.map (·.1)).Nodup ∧
      (∀ e ∈ entries, ∃ k ∈ f.2.1.fields, k.1 = e.1) ∧
      ∀ k ∈ f.2.1.fields, ∀ e, entries.lookup k.1 = some e → k.2.1.fits e.toValue = true := by
  obtain ⟨layer, sections, rfl, -, -, hsections⟩ := exists_entries_of_fits hfits
  obtain ⟨⟨name, hrecord⟩, -⟩ := exists_record_of_mem hf
  have hpart : f.2.1.fits t.toValue = true := hsections f hf t ht
  rw [hrecord] at hpart
  obtain ⟨inner, entries, rfl, hnodup, hknown, hlookup⟩ := exists_entries_of_fits hpart
  exact ⟨inner, entries, rfl, hnodup, fun e he => by
    obtain ⟨k, hk, hkey, -⟩ := hknown e he
    exact ⟨k, hk, hkey⟩, hlookup⟩

theorem lower_part (hf : f ∈ configShape.fields) :
    Text.lower f.1 = f.1 ∧ Path.ofText f.1 = ⟨f.1, []⟩ := by
  have hall : ∀ f ∈ configShape.fields, Text.lower f.1 = f.1 ∧ Path.ofText f.1 = ⟨f.1, []⟩ := by
    decide
  exact hall f hf

theorem lower_name (hkey : key ∈ keys) : Text.lower key.name = key.name := by
  have hall : ∀ key ∈ keys, Text.lower key.name = key.name := by decide
  exact hall key hkey

theorem lower_of_fits (hfits : configShape.fits (table name entries).toValue = true) :
    ∀ e ∈ entries, Text.lower e.1 = e.1 := by
  obtain ⟨_, _, heq, -, hknown, -⟩ := exists_entries_of_fits hfits
  cases heq
  intro e he
  obtain ⟨f, hf, hkey, -⟩ := hknown e he
  exact hkey ▸ (lower_part hf).1

theorem nodup_of_fits (hfits : configShape.fits (table name entries).toValue = true) :
    (entries.map (·.1)).Nodup := by
  obtain ⟨_, _, heq, hnodup, -⟩ := exists_entries_of_fits hfits
  cases heq
  exact hnodup

/-- Each setting of a file is put over what stands under its key, and nothing else changes. -/
theorem at?_putAll (hroot : root.HasParts)
    (hfits : configShape.fits (table name entries).toValue = true) (hkey : key ∈ keys) :
    (putAll entries root).at? key =
      match (table name entries).at? key with
      | some s => some (s.overlay (root.at? key))
      | none => root.at? key := by
  obtain ⟨f, hf, k, hk, rfl⟩ := exists_field_of_mem hkey
  have hentry := child?_putAll (nodup_of_fits hfits) (lower_of_fits hfits) root f.1
  have hfile : (table name entries).child? f.1 = entries.lookup f.1 := rfl
  simp only [at?, Key.of, hentry, hfile]
  cases ht : entries.lookup f.1 with
  | none => rfl
  | some t =>
    obtain ⟨layer, inner, rfl, hnodup, hknown, -⟩ := exists_section hfits hf ht
    obtain ⟨below, beneath, hbelow⟩ := hroot.child? hf
    have hlower : ∀ e ∈ inner, Text.lower e.1 = e.1 := by
      intro e he
      obtain ⟨k, hk, heq⟩ := hknown e he
      have hname := lower_name ((exists_record_of_mem hf).2 k hk).2
      exact heq ▸ hname
    have hinner := child?_putAll hnodup hlower (table below beneath) k.1
    rw [hbelow]
    exact hinner

theorem hasParts_putAll (hroot : root.HasParts)
    (hfits : configShape.fits (table name entries).toValue = true) :
    (putAll entries root).HasParts := by
  refine ⟨isTable_putAll hroot.1 entries, ?_⟩
  intro f hf
  rw [child?_putAll (nodup_of_fits hfits) (lower_of_fits hfits)]
  cases ht : entries.lookup f.1 with
  | none => exact hroot.2 f hf
  | some t =>
    obtain ⟨layer, inner, rfl, -⟩ := exists_section hfits hf ht
    obtain ⟨below, beneath, hbelow⟩ := hroot.child? hf
    rw [hbelow]
    exact isTable_putAll rfl inner

theorem putOver_eq_putAll {layer : Layer}
    (hfits : configShape.fits (table name layer).toValue = true)
    (root : Setting) : layer.putOver root = putAll layer root := by
  obtain ⟨_, _, heq, -, hknown, -⟩ := exists_entries_of_fits hfits
  cases heq
  clear hfits
  induction layer generalizing root with
  | nil => rfl
  | cons first rest ih =>
    obtain ⟨path, s⟩ := first
    obtain ⟨f, hf, hkey, -⟩ := hknown (path, s) List.mem_cons_self
    obtain ⟨hlower, hpath⟩ := lower_part hf
    rw [hkey] at hlower hpath
    rw [Layer.putOver, List.foldl_cons, putAll,
      ← ih _ fun e he => hknown e (List.mem_cons_of_mem _ he)]
    simp only [hlower, hpath]
    rfl

theorem not_isTable_of_isPlain {shape : Shape} (hshape : IsPlain shape)
    (hfits : shape.fits s.toValue = true) : s.isTable = false := by
  cases s with
  | table layer entries =>
    exfalso
    induction hshape with
    | @optional shape _ ih =>
      rw [toValue, Shape.fits_optional_of_ne (by simp)] at hfits
      exact ih hfits
    | _ => cases hfits
  | _ => rfl

theorem overlay_of_not_isTable (h : s.isTable = false) (old : Option Setting) :
    s.overlay old = s := by
  cases s with
  | table layer entries => cases h
  | _ => rfl

theorem alterEntry_of_not_mem {key : String} (change : Option Setting → Setting)
    (h : key ∉ entries.map (·.1)) :
    alterEntry key change entries = entries ++ [(key, change none)] := by
  induction entries with
  | nil => rfl
  | cons first rest ih =>
    obtain ⟨k, t⟩ := first
    rw [List.map_cons, List.mem_cons, not_or] at h
    rw [alterEntry, if_neg (Ne.symm h.1), ih h.2]
    rfl

/-- Entries other than tables, put into a table that has none of their keys, are added to it. -/
theorem putAll_table {before : List (String × Setting)}
    (hnodup : ((before ++ entries).map (·.1)).Nodup)
    (hlower : ∀ e ∈ entries, Text.lower e.1 = e.1) (hflat : ∀ e ∈ entries, e.2.isTable = false) :
    putAll entries (table name before) = table name (before ++ entries) := by
  induction entries generalizing before with
  | nil => rw [putAll, List.append_nil]
  | cons first rest ih =>
    obtain ⟨key, t⟩ := first
    have hnew : key ∉ before.map (·.1) := not_mem_of_nodup hnodup
    have hput : put key t (table name before) = table name (before ++ [(key, t)]) := by
      rw [put_eq_alter, hlower (key, t) List.mem_cons_self, alter]
      have halter := alterEntry_of_not_mem t.overlay hnew
      rw [overlay_of_not_isTable (hflat (key, t) List.mem_cons_self)] at halter
      exact congrArg (table name) halter
    rw [List.append_cons] at hnodup ⊢
    rw [putAll, hput]
    exact ih hnodup (fun e he => hlower e (List.mem_cons_of_mem _ he))
      fun e he => hflat e (List.mem_cons_of_mem _ he)

/-- The table of access options keeps its value where nothing was before. -/
theorem toValue_overlay_none (hfits : Cors.settingShape.fits s.toValue = true) :
    (s.overlay none).toValue = s.toValue := by
  cases htable : s.isTable with
  | false => rw [overlay_of_not_isTable htable]
  | true =>
    obtain ⟨layer, entries, rfl⟩ := exists_table htable
    have hoptions : Cors.optionsShape.fits (table layer entries).toValue = true :=
      options_of_fits hfits
    obtain ⟨_, _, heq, hnodup, hknown, -⟩ := exists_entries_of_fits hoptions
    cases heq
    have hlower : ∀ e ∈ entries, Text.lower e.1 = e.1 := by
      have hall : ∀ f ∈ Cors.optionsShape.fields, Text.lower f.1 = f.1 := by decide
      intro e he
      obtain ⟨f, hf, hkey, -⟩ := hknown e he
      exact hkey ▸ hall f hf
    have hflat : ∀ e ∈ entries, e.2.isTable = false := by
      intro e he
      obtain ⟨f, hf, -, hvalue⟩ := hknown e he
      exact not_isTable_of_isPlain (isPlain_option hf).1 hvalue
    have hput : putAll entries (table none []) = table none ([] ++ entries) :=
      putAll_table hnodup hlower hflat
    have hover : (table layer entries).overlay none = table none entries := hput
    rw [hover]
    rfl

/-! Layers of paths to single keys -/

theorem ofText_path (hkey : key ∈ keys) :
    Path.ofText (Text.lower key.path) = ⟨key.part, [.key key.name]⟩ := by
  have hall : ∀ key ∈ keys, Path.ofText (Text.lower key.path) = ⟨key.part, [.key key.name]⟩ := by
    decide
  exact hall key hkey

theorem path_inj {k : Key} (hkey : key ∈ keys) (hk : k ∈ keys) :
    key.path = k.path ↔ key.part = k.part ∧ key.name = k.name := by
  constructor
  · intro h
    cases eq_of_path hkey hk h
    exact ⟨rfl, rfl⟩
  · rintro ⟨hpart, hname⟩
    rw [Key.path, Key.path, hpart, hname]

theorem putAt_eq {k : Key} (hk : k ∈ keys) (s root : Setting) :
    putAt (.ofText (Text.lower k.path)) s root =
      root.alter k.part fun old => put k.name s (old.getD null) := by
  rw [ofText_path hk]
  rfl

/-- Only the key that a path is for changes. -/
theorem at?_putAt {k : Key} (hk : k ∈ keys) (hkey : key ∈ keys) (hs : s.isTable = false)
    (root : Setting) : (putAt (.ofText (Text.lower k.path)) s root).at? key =
      if key.path = k.path then some s else root.at? key := by
  have hput : ∀ parent, put k.name s parent = parent.alter k.name fun _ => s := by
    intro parent
    rw [put_eq_alter, lower_name hk]
    congr 1
    funext old
    exact overlay_of_not_isTable hs old
  have hpath := path_inj hkey hk
  rw [putAt_eq hk, at?, at?, child?_alter]
  by_cases hpart : key.part = k.part
  · rw [if_pos hpart, Option.bind_some, hput, child?_alter, hpart]
    by_cases hname : key.name = k.name
    · rw [if_pos hname, if_pos (hpath.mpr ⟨hpart, hname⟩)]
    · rw [if_neg hname, if_neg fun h => hname (hpath.mp h).2]
      cases root.child? k.part with
      | none => rfl
      | some t => rfl
  · rw [if_neg hpart, if_neg fun h => hpart (hpath.mp h).1]

theorem hasParts_putAt {k : Key} (hk : k ∈ keys) (hroot : root.HasParts) (s : Setting) :
    (putAt (.ofText (Text.lower k.path)) s root).HasParts := by
  rw [putAt_eq hk]
  refine ⟨rfl, ?_⟩
  intro f hf
  rw [child?_alter]
  split
  · rw [put_eq_alter]
    rfl
  · exact hroot.2 f hf

end Setting

/-- Whether a layer has values of single keys alone. -/
def Layer.IsFlat (layer : Layer) : Prop :=
  ∀ e ∈ layer, (∃ key ∈ keys, e.1 = key.path) ∧ e.2.isTable = false

namespace Layer

/-- Of several values of one key in a layer the last counts. -/
theorem at?_putOver (hflat : layer.IsFlat) (hkey : key ∈ keys) (root : Setting) :
    (layer.putOver root).at? key = (layer.reverse.lookup key.path).or (root.at? key) := by
  induction layer using List.reverseRecOn with
  | nil => rfl
  | append_singleton layer last ih =>
    obtain ⟨⟨k, hk, hpath⟩, hs⟩ := hflat last (List.mem_append_right _ List.mem_cons_self)
    obtain ⟨path, s⟩ := last
    subst hpath
    have hrest := ih fun e he => hflat e (List.mem_append_left _ he)
    have hput : Layer.putOver (layer ++ [(k.path, s)]) root =
        Setting.putAt (.ofText (Text.lower k.path)) s (putOver layer root) := by
      rw [putOver, List.foldl_append]
      rfl
    rw [hput, Setting.at?_putAt hk hkey hs, hrest, List.reverse_concat]
    by_cases heq : key.path = k.path
    · rw [if_pos heq, heq, List.lookup_cons_self]
      rfl
    · rw [if_neg heq, lookup_cons_of_ne heq]

theorem hasParts_putOver (hflat : layer.IsFlat) (hroot : root.HasParts) :
    (layer.putOver root).HasParts := by
  induction layer generalizing root with
  | nil => exact hroot
  | cons first rest ih =>
    obtain ⟨⟨k, hk, hpath⟩, -⟩ := hflat first List.mem_cons_self
    obtain ⟨path, s⟩ := first
    subst hpath
    exact ih (fun e he => hflat e (List.mem_cons_of_mem _ he)) (Setting.hasParts_putAt hk hroot s)

end Layer

end WebService.Settings
