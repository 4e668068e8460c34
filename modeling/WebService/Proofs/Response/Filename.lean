import WebService.Proofs.Response.Status
import WebService.Proofs.Text.Split

/-!
File names. The name that a response is offered under is read back from its header just as it was
given, whatever marks it holds.
-/
namespace WebService.Response

variable {r s : Response} {steps : List Step} {name : String} {c : Char} {cs rest : List Char}

/-! Names with their marks escaped -/

theorem escapeName_cons_of_mark (h : c = '\\' ∨ c = '"') :
    escapeName (c :: cs) = '\\' :: c :: escapeName cs := by
  simp [escapeName, h]

theorem escapeName_cons_of_ne (hslash : c ≠ '\\') (hquote : c ≠ '"') :
    escapeName (c :: cs) = c :: escapeName cs := by
  simp [escapeName, hslash, hquote]

theorem unescapeName_cons_of_ne (hslash : c ≠ '\\') (hquote : c ≠ '"') :
    unescapeName (c :: rest) = (unescapeName rest).map (c :: ·) := by
  rw [unescapeName]
  · exact hquote
  · intro d others hc
    exact absurd hc hslash
  · intro hc
    exact absurd hc hslash

/-- A quote that is not escaped ends the name. -/
theorem unescapeName_escapeName (cs rest : List Char) :
    unescapeName (escapeName cs ++ '"' :: rest) = some cs := by
  induction cs with
  | nil => rfl
  | cons c cs ih =>
    by_cases hmark : c = '\\' ∨ c = '"'
    · rw [escapeName_cons_of_mark hmark, List.cons_append, List.cons_append, unescapeName, ih]
      rfl
    · obtain ⟨hslash, hquote⟩ := not_or.mp hmark
      rw [escapeName_cons_of_ne hslash hquote, List.cons_append,
        unescapeName_cons_of_ne hslash hquote, ih]
      rfl

/-- Backslashes are doubled before the quotes get theirs. -/
theorem escapeName_eq_replaceAll (cs : List Char) : escapeName cs =
    Text.replaceAll ['"'] ['\\', '"'] (Text.replaceAll ['\\'] ['\\', '\\'] cs) := by
  rw [Text.replaceAll_singleton, Text.replaceAll_singleton, List.flatMap_assoc, escapeName]
  congr 1
  funext c
  by_cases hslash : c = '\\'
  · simp [hslash]
  · by_cases hquote : c = '"'
    · simp [hquote]
    · simp [hslash, hquote]

/-! The name in the header -/

/-- The value of the header that tells a name. -/
def disposition (name : String) : String :=
  "attachment; " ++ nameMark ++ String.ofList (escapeName name.toList) ++ "\""

theorem toList_disposition (name : String) : (disposition name).toList =
    "attachment; ".toList ++ (nameMark.toList ++ (escapeName name.toList ++ ['"'])) := by
  simp [disposition]

/-- The mark before the name is the first one, also where the name holds it itself. -/
theorem findAfter?_disposition (name : String) :
    Text.findAfter? nameMark.toList (disposition name).toList =
      some (escapeName name.toList ++ ['"']) := by
  rw [toList_disposition]
  exact Text.findAfter?_append (by decide)

theorem filename?_of_header? (h : r.header? "Content-Disposition" = some (disposition name)) :
    r.filename? = some name := by
  simp only [filename?, h, findAfter?_disposition, unescapeName_escapeName, Option.bind_eq_bind,
    Option.bind_some, String.ofList_toList]
  rfl

theorem filename?_of_after (h : ∀ step ∈ steps, isNamed step.names "Content-Disposition" = false)
    (hs : (r.withFilename name).after steps = .ok s) : s.filename? = some name := by
  have hset : (r.withFilename name).header? "Content-Disposition" = some (disposition name) :=
    header?_setHeader_self
  exact filename?_of_header? ((after_header? hs h).trans hset)

/-- A response tells the name that it was given last, as long as no change touches the header for
it. In the header backslashes and quotes stand behind a backslash. -/
theorem filename_comes_back (name : String) (steps : List Step)
    (h : ∀ step ∈ steps, isNamed step.names "Content-Disposition" = false) :
    (∀ r s : Response, (r.withFilename name).after steps = .ok s → s.filename? = some name) ∧
    (∀ data s, (binary data (some name)).after steps = .ok s → s.filename? = some name) ∧
    ∀ r : Response, (r.withFilename name).header? "Content-Disposition" =
      some ("attachment; filename=\"" ++ String.ofList (Text.replaceAll ['"'] ['\\', '"']
        (Text.replaceAll ['\\'] ['\\', '\\'] name.toList)) ++ "\"") := by
  refine ⟨fun r s hs => filename?_of_after h hs, fun data s hs => ?_, fun r => ?_⟩
  · have hmade : binary data (some name) =
        (build .binary 200 (Media.typeOf data (some name)) none data).withFilename name := rfl
    exact filename?_of_after h (hmade ▸ hs)
  · rw [← escapeName_eq_replaceAll]
    exact header?_setHeader_self

/-- A name with backslashes, quotes and the mark for names in it. -/
theorem filename_comes_back_of_marks :
    let name := "\\a\"; filename=\"b\\"
    let inline := (ok "x").setHeader "content-disposition" "inline"
    let steps : List Step := [.header "X-Part" "1", .status 204, .noHeader "Content-Dispositions",
      .charset none, .policy Cors.permissive (some "https://a.example")]
    (∀ step ∈ steps, isNamed step.names "Content-Disposition" = false) ∧
    (∃ s, (inline.withFilename name).after steps = .ok s ∧ s.filename? = some name) ∧
    ∃ s, (binary [0x25, 0x50] (some name)).after steps = .ok s ∧ s.filename? = some name := by
  intro name inline steps
  have h : ∀ step ∈ steps, isNamed step.names "Content-Disposition" = false := by decide
  obtain ⟨hset, hbinary, -⟩ := filename_comes_back name steps h
  exact ⟨h, ⟨_, rfl, hset inline _ rfl⟩, _, rfl, hbinary _ _ rfl⟩

end WebService.Response
