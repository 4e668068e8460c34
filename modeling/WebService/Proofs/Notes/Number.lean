import WebService.Proofs.Notes.Run

/-!
The numbers of notes. The number that a new note is given is its place, which moves up with every
note that is taken away before it; at no time do two notes have the same place.
-/
namespace WebService.Notes

/-- What becomes of a note with the number `id` by changes that leave the notes `later`. -/
structure Lasts (app : Application Store) (changes : List Change) (id : Nat) (text : String)
    (later : Store) : Prop where
  shown : ∀ place, Change.place? changes id = some place → later[place]? = some text ∧
    ∀ arrival request, app.Reads arrival request → Shows app request place →
      app.Sends request 200 (Text.octets text) (app.serve later arrival).value
  unmoved : (∀ gone, .remove gone ∈ changes → id < gone) → Change.place? changes id = some id
  alone : ∀ other, other < id → ∀ place, Change.place? changes other = some place →
    Change.place? changes id ≠ some place
  behind : ∀ place, Change.place? changes id = some place → place < later.length

variable {config : Settings.Config} {store : Store} {changes : List Change} {text : String}

theorem lasts_of_added : Lasts (served config) changes store.length text
    (Change.applyAll changes (store ++ [text])) := by
  have hnew : (store ++ [text])[store.length]? = some text := List.getElem?_concat_length
  refine ⟨?_, Change.place?_of_forall_lt, ?_, ?_⟩
  · intro place hplace
    have hthere := Change.getElem?_applyAll hnew hplace
    exact ⟨hthere, fun arrival request hread hshows =>
      (serve_serves _ hread).shown place text hshows hthere⟩
  · intro other hlt place hother hplace
    exact absurd (Change.place?_injective hother hplace) (Nat.ne_of_lt hlt)
  · intro place hplace
    exact (List.getElem?_eq_some_iff.mp (Change.getElem?_applyAll hnew hplace)).1

/-- The answer to a new note tells its place, behind all others. There it is found until it or a
note before it is taken away; after that it is found a place further up for each note that went
before it, and never where another note is. -/
theorem added_note_lasts (config : Settings.Config) (before : List Arrival) (arrival : Arrival)
    (after : List Arrival) :
    ∃ app changes, application config = .ok app ∧ List.Forall₂ (Asks app) after changes ∧
      ∀ request text, app.Reads arrival request → Adds app request text →
        let id := (app.stateAfter [] before).length
        app.Sends request 201 (Text.octets (createdValue id).compact)
          (app.serve (app.stateAfter [] before) arrival).value ∧
        Lasts app changes id text (app.stateAfter [] (before ++ arrival :: after)) := by
  obtain ⟨changes, hchanges⟩ := exists_changes (served config) after
  refine ⟨served config, changes, application_eq config, hchanges, ?_⟩
  intro request text hread hadds
  obtain ⟨hstate, hsends⟩ := serve_of_adds _ hread hadds
  have hlater : (served config).stateAfter [] (before ++ arrival :: after) =
      Change.applyAll changes ((served config).stateAfter [] before ++ [text]) := by
    rw [Application.stateAfter_append, Application.stateAfter_cons, hstate,
      stateAfter_of_asks hchanges]
  exact ⟨hsends, hlater ▸ lasts_of_added⟩

/-! One run -/

def showing (id : Nat) : Arrival := .of .get ("/notes/" ++ toString id) [] ""

theorem reads_posting_second : (served {}).Reads (posting [] "b") (posting [] "b").request :=
  Application.reads_of (by rfl) (by decide)

theorem isBare_b : Json.IsBare "b".toList := by
  simp [Json.IsBare]

theorem reads_showing : (served {}).Reads (showing 0) (showing 0).request :=
  Application.reads_of (by rfl) (by decide)

theorem shows_showing : Shows (served {}) (showing 0).request 0 :=
  ⟨Or.inl rfl, [("id", .integer 0)], ⟨⟨note.allowed,
    ⟨"/notes/<int:id>", [.literal "notes", .placeholder "id" .integer], false⟩, note.handle⟩,
    by rfl, rfl⟩, rfl⟩

theorem stateAfter_posting : (served {}).stateAfter [] [posting [] "a"] = ["a"] :=
  (serve_of_adds [] reads_posting (adds_posting {} [] isBare_a)).1

theorem asks_removing : Asks (served {}) (removing 0) (.remove 0) :=
  .remove reads_removing removes_removing

/-- The second of two notes is found in the first place once the first is taken away. -/
theorem added_note_lasts_of_two_notes :
    ∃ app, application {} = .ok app ∧
      (app.serve ["a"] (posting [] "b")).value.body = Text.octets (createdValue 1).compact ∧
      Change.place? [.remove 0] 1 = some 0 ∧
      (app.serve (app.stateAfter [] [posting [] "a", posting [] "b", removing 0])
        (showing 0)).value.body = Text.octets "b" := by
  obtain ⟨app, changes, happ, hchanges, hadded⟩ :=
    added_note_lasts {} [posting [] "a"] (posting [] "b") [removing 0]
  cases (application_eq {}).symm.trans happ
  have hremoved : changes = [.remove 0] := by
    cases hchanges with
    | cons hasks hrest =>
      cases hrest
      rw [hasks.unique asks_removing]
  obtain ⟨hsends, hlasts⟩ := hadded _ "b" reads_posting_second (adds_posting {} [] isBare_b)
  rw [stateAfter_posting] at hsends hlasts
  rw [hremoved] at hlasts
  have hplace : Change.place? [.remove 0] 1 = some 0 := rfl
  have hshown := (hlasts.shown 0 hplace).2 _ _ reads_showing shows_showing
  exact ⟨served {}, rfl, (hsends.told canSendTo_served).2, hplace,
    (hshown.told canSendTo_served).2⟩

/-- A note that was given the number 1, which nobody takes away, is not found there once the first
note is gone; and the next note is given the number again. -/
theorem number_changes_hands :
    ∃ app, application {} = .ok app ∧
      (app.serve (app.stateAfter [] [posting [] "a"]) (posting [] "b")).value.status = 201 ∧
      (app.serve (app.stateAfter [] [posting [] "a"]) (posting [] "b")).value.body =
        Text.octets (createdValue 1).compact ∧
      Asks app (removing 0) (.remove 0) ∧
      app.stateAfter [] [posting [] "a", posting [] "b", removing 0] = ["b"] ∧
      (app.serve ["b"] (showing 1)).value.status = 404 ∧
      (app.serve ["b"] (posting [] "a")).value.status = 201 ∧
      (app.serve ["b"] (posting [] "a")).value.body = Text.octets (createdValue 1).compact := by
  have hsecond := serve_of_adds ["a"] reads_posting_second (adds_posting {} [] isBare_b)
  have hthird := serve_of_adds ["b"] reads_posting (adds_posting {} [] isBare_a)
  have hfirst : ((served {}).serve [] (posting [] "a")).state = ["a"] := stateAfter_posting
  have hafter : (served {}).stateAfter [] [posting [] "a", posting [] "b", removing 0] = ["b"] := by
    rw [Application.stateAfter_cons, hfirst, Application.stateAfter_cons, hsecond.1]
    exact serve_state_of_asks asks_removing
  have hmissing : ((served {}).serve ["b"] (showing 1)).value.status = 404 := by rfl
  refine ⟨served {}, application_eq {}, ?_, ?_, asks_removing, hafter, hmissing,
    (hthird.2.told canSendTo_served).1, (hthird.2.told canSendTo_served).2⟩
  · rw [stateAfter_posting]
    exact (hsecond.2.told canSendTo_served).1
  · rw [stateAfter_posting]
    exact (hsecond.2.told canSendTo_served).2

end WebService.Notes
