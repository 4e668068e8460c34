import WebService.Log.Entry
import WebService.Proofs.Text.Substitution
import WebService.Response.Build

/-!
Lines of the access log in formats of one's own. Each variable of a format is replaced once, unless
a value is put in that another variable is found in.
-/
namespace WebService.Log.Entry

open Text (Table)

/-- The variables of formats with their values, as characters. -/
def table (e : Entry) : Table :=
  e.placeholders.map fun entry => (entry.1.toList, entry.2.toList)

theorem isProper_table (e : Entry) : e.table.IsProper '$' := by
  have hnames : e.table.names = ["$remote_addr", "$time_local", "$time_iso8601",
      "$request_time", "$request_method", "$request_uri", "$request", "$status",
      "$body_bytes_sent", "$http_referer", "$http_user_agent"].map String.toList := by
    simp only [Table.names, table, placeholders, List.map_cons, List.map_nil]
  constructor
  · intro name hname
    rw [hnames] at hname
    refine ⟨name.tail, ?_⟩
    revert name
    decide
  · rw [hnames]
    decide +kernel

theorem custom_eq_replaceEach (e : Entry) (pattern : String) :
    e.custom pattern = String.ofList (e.table.replaceEach pattern.toList) := by
  rw [custom, Table.replaceEach, table, List.foldl_map]

theorem format_eq_custom {pattern : String} (h : pattern ∉ ["combined", "common", "json"])
    (e : Entry) : e.format pattern = e.custom pattern := by
  simp only [List.mem_cons, List.not_mem_nil, or_false, not_or] at h
  unfold format
  split
  · exact absurd rfl h.1
  · exact absurd rfl h.2.1
  · exact absurd rfl h.2.2
  · rfl

/-- A format of one's own makes the line in which each of its variables, the longest that fits, has
its value, and all else stands as it does in the format, if no variable is disturbed by the values
that are put in before it. -/
theorem format_fills_variables (e : Entry) (pattern : String)
    (hown : pattern ∉ ["combined", "common", "json"])
    (hundisturbed : e.table.Undisturbed pattern.toList) (line : String) :
    e.table.Fills pattern.toList line.toList ↔ line = e.format pattern := by
  rw [Table.fills_iff e.isProper_table hundisturbed, format_eq_custom hown, custom_eq_replaceEach]
  constructor
  · intro h
    rw [← h, String.ofList_toList]
  · rintro rfl
    rw [String.toList_ofList]

/-- Marks may stand before variables and in values, and the last variable of all may have any value,
such as the name of another one. -/
theorem format_fills_variables_of_marks :
    let request := (Request.new Method.get "/a?$req=$").withField "User-Agent" "$status"
    let e := ofExchange request (Response.ok "x") ⟨Calendar.Date.epoch, Calendar.Time.midnight⟩ 5
    let pattern := "$$remote_addr \"$request\" $request_uri: $$statuses $http_user_agent"
    let line := "$- \"GET /a?$req=$ HTTP/1.1\" /a?$req=$: $200es $status"
    pattern ∉ ["combined", "common", "json"] ∧ e.table.Undisturbed pattern.toList ∧
      e.format pattern = line ∧ e.table.Fills pattern.toList line.toList := by
  intro request e pattern line
  have hown : pattern ∉ ["combined", "common", "json"] := by decide
  have hundisturbed : e.table.Undisturbed pattern.toList := by decide +kernel
  have hline : e.format pattern = line := by decide +kernel
  have hfills := (format_fills_variables e pattern hown hundisturbed line).mpr hline.symm
  exact ⟨hown, hundisturbed, hline, hfills⟩

/-- A query that holds the name of a variable is altered, as the variable is replaced in it. -/
theorem query_with_variable_is_altered :
    let e := ofExchange (Request.new Method.get "/x?$status") (Response.ok "x")
      ⟨Calendar.Date.epoch, Calendar.Time.midnight⟩ 0
    e.uri = "/x?$status" ∧ e.format "$request_uri" = "/x?200" ∧
      e.table.Fills "$request_uri".toList "/x?$status".toList ∧
      ¬ e.table.Fills "$request_uri".toList (e.format "$request_uri").toList ∧
      ¬ e.uri.toList <:+: (e.format "$request_uri").toList := by
  intro e
  have huri : e.uri = "/x?$status" := by decide +kernel
  have hline : e.format "$request_uri" = "/x?200" := by decide +kernel
  have hmem : ("$request_uri".toList, "/x?$status".toList) ∈ e.table := by decide +kernel
  have hstands : e.table.StandsAt "$request_uri".toList ("$request_uri".toList ++ []) := by
    decide +kernel
  have hfills : e.table.Fills "$request_uri".toList "/x?$status".toList :=
    .value hmem hstands .nil
  refine ⟨huri, hline, hfills, ?_, ?_⟩
  · intro h
    rw [hline] at h
    exact absurd (hfills.unique e.isProper_table h) (by decide +kernel)
  · rw [huri, hline]
    decide +kernel

end WebService.Log.Entry
