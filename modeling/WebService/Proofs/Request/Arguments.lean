import WebService.Proofs.Lookup
import WebService.Proofs.Text.Form
import WebService.Request.Basic

/-!
Arguments of queries: a request has those that were written into its target, in their order.
-/
namespace WebService.Request

variable {path query : String} {method : Method}

theorem splitTarget_append (hpath : '?' ∉ path.toList) (query : String) :
    splitTarget (path ++ "?" ++ query) = (if path.isEmpty then "/" else path, some query) := by
  have hcut : Text.splitFirst? (· = '?') (path ++ "?" ++ query).toList =
      some (path.toList, query.toList) := by
    refine Text.splitFirst?_eq_some_iff.mpr ⟨'?', rfl, by simp, fun c hc => ?_⟩
    apply decide_eq_false
    rintro rfl
    exact hpath hc
  simp only [splitTarget, hcut, String.ofList_toList]

theorem args_new (hpath : '?' ∉ path.toList) (pairs : List (String × String)) :
    (new method (path ++ "?" ++ Text.encodeForm pairs)).args = pairs := by
  simp only [new, splitTarget_append hpath, Option.map_some, Option.getD_some,
    Text.decodeForm_encodeForm]

theorem arg?_eq_find? (r : Request) (key : String) :
    r.arg? key = (r.args.find? fun pair => pair.1 = key).map (·.2) := by
  rw [arg?]
  induction r.args with
  | nil => rfl
  | cons pair pairs ih =>
    obtain ⟨k, value⟩ := pair
    rw [lookup_cons_eq, ih, List.find?_cons]
    by_cases hkey : k = key
    · rw [if_pos hkey.symm, decide_eq_true hkey]
      rfl
    · rw [if_neg (Ne.symm hkey), decide_eq_false hkey]

theorem hasArg_iff {r : Request} {key : String} :
    r.hasArg key = true ↔ ∃ value, r.arg? key = some value := by
  have hmem : key ∈ r.args.map (·.1) ↔ ∃ value, r.args.lookup key = some value :=
    mem_keys_iff_lookup
  rw [arg?, ← hmem]
  simp [hasArg]

/-- The arguments of a query that is written for some pairs are these pairs, whatever characters
stand in them; the first of a key is its value. -/
theorem arguments_come_back (method : Method) (path : String) (pairs : List (String × String))
    (hpath : '?' ∉ path.toList) :
    let r := new method (path ++ "?" ++ Text.encodeForm pairs)
    r.args = pairs ∧
      (∀ key, r.arg? key = (pairs.find? fun pair => pair.1 = key).map (·.2)) ∧
      (∀ key, r.hasArg key = true ↔ ∃ value, r.arg? key = some value) ∧
      r.path = if path = "" then "/" else path := by
  intro r
  have hargs : r.args = pairs := args_new hpath pairs
  have hroot : r.path = if path.isEmpty then "/" else path := by
    simp only [r, new, splitTarget_append hpath]
  refine ⟨hargs, ?_, ?_, ?_⟩
  · intro key
    rw [arg?_eq_find?, hargs]
  · intro key
    exact hasArg_iff
  · simpa only [String.isEmpty_iff] using hroot

/-- An empty path, a repeated key, an empty key and value, and marks that form data reserves. -/
theorem arguments_come_back_of_marks :
    let pairs := [("q", "a b&c=d"), ("", ""), ("q", "?#+%é")]
    '?' ∉ "".toList ∧ Text.encodeForm pairs = "q=a+b%26c%3Dd&=&q=%3F%23%2B%25%C3%A9" ∧
      let r := new Method.get ("" ++ "?" ++ Text.encodeForm pairs)
      r.args = pairs ∧
        (∀ key, r.arg? key = (pairs.find? fun pair => pair.1 = key).map (·.2)) ∧
        (∀ key, r.hasArg key = true ↔ ∃ value, r.arg? key = some value) ∧ r.path = "/" :=
  ⟨by decide, by decide, arguments_come_back Method.get "" _ (by decide)⟩

end WebService.Request
