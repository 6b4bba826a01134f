import BucketQuery.Proofs.Service.Report
import BucketQuery.Proofs.Text.Character

set_option autoImplicit false

/-! # The rows of replies

What a reply comes to, for every status and every body. A body that states success and no errors
gives its results, whatever the status is; one that states anything else is a failed query with
the errors it states; and only what a body means that states no report depends on the status
(`Reply.rows_stated`). So a failed exchange gives rows after all when its body states success
(`Reply.rows_failed`).
-/

namespace BucketQuery

/-! ## Wordings -/

theorem Number.ofList_chars_ofInt64 (n : Int64) :
    String.ofList (ofInt64 n).chars = toString n.toInt := by
  show String.ofList (if n.toInt < 0 then '-' :: digitsOf n.toInt.natAbs else _) = Int.repr _
  cases n.toInt with
  | ofNat m => rfl
  | negSucc m =>
      rw [if_pos (Int.negSucc_lt_zero m), Int.repr, ← List.singleton_append, String.ofList_append]
      rfl

theorem ServiceError.text_eq (error : ServiceError) :
    error.text = match error.code with
      | some code => "[" ++ toString code.toInt ++ "] " ++ error.message
      | none => error.message := by
  rw [text]
  cases error.code with
  | none => rfl
  | some code => exact congrArg (fun n => "[" ++ n ++ "] " ++ _) (Number.ofList_chars_ofInt64 code)

/-! ## Outcomes -/

theorem Report.rows_eq_ok_iff (report : Report) (status : Nat) (results : List Json) :
    report.rows status = .ok results ↔ report = ⟨"success", results, []⟩ := by
  obtain ⟨stated, reported, errors⟩ := report
  rw [rows]
  constructor
  · intro h
    split at h
    · next hsuccess =>
      obtain ⟨rfl, hnone⟩ := hsuccess
      obtain rfl := List.isEmpty_iff.mp hnone
      cases h
      rfl
    · cases h
  · rintro ⟨⟩
    rfl

namespace Reply

/-- What a body that states a report comes to. -/
theorem rows_of_stated {status : Nat} {body : String} {report : Report}
    (h : Report.StatedIn body report) : rows ⟨status, body⟩ = report.rows status := by
  rw [rows, (Report.read?_eq_some_iff body report).mpr h]

/-- What a body that states no report comes to. -/
theorem rows_of_not_stated {status : Nat} {body : String}
    (h : ∀ report, ¬ Report.StatedIn body report) :
    rows ⟨status, body⟩ =
      if 200 ≤ status ∧ status < 300 then .error (.response "the body is no report")
      else .error (.query (toString status) (trimBlanks body)) := by
  have hnone : Report.read? body = none :=
    Option.eq_none_iff_forall_ne_some.mpr fun report hread =>
      h report ((Report.read?_eq_some_iff body report).mp hread)
  rw [rows, hnone]
  rfl

theorem rows_eq_ok_iff (status : Nat) (body : String) (results : List Json) :
    rows ⟨status, body⟩ = .ok results ↔ Report.StatedIn body ⟨"success", results, []⟩ := by
  constructor
  · intro h
    by_cases hstated : ∃ report, Report.StatedIn body report
    · obtain ⟨report, hreport⟩ := hstated
      rw [rows_of_stated hreport, Report.rows_eq_ok_iff] at h
      rwa [← h]
    · rw [rows_of_not_stated (not_exists.mp hstated)] at h
      split at h <;> cases h
  · intro h
    rw [rows_of_stated h, Report.rows_eq_ok_iff]

/-- **The rows of a reply, in all cases.** Rows are the results of a body that states success and no
errors. A body that states a failure is a failed query, with the status that it states, or that of
the exchange when that is empty, and with the errors in their order. A body that states no report
is malformed in a successful exchange, and else the message of a failed query. Rearranging the body
of a report makes no difference. -/
theorem rows_stated (status : Nat) (body : String) :
    (∀ results, rows ⟨status, body⟩ = .ok results ↔
      Report.StatedIn body ⟨"success", results, []⟩) ∧
    (∀ report, Report.StatedIn body report → report.status ≠ "success" ∨ report.errors ≠ [] →
      rows ⟨status, body⟩ = .error (.query
        (if report.status = "" then toString status else report.status)
        (String.intercalate "; " (report.errors.map fun error =>
          match error.code with
          | some code => "[" ++ toString code.toInt ++ "] " ++ error.message
          | none => error.message)))) ∧
    ((∀ report, ¬ Report.StatedIn body report) →
      if 200 ≤ status ∧ status < 300 then ∃ reason, rows ⟨status, body⟩ = .error (.response reason)
      else ∃ message, IsTrimmed body.toList message.toList ∧
        rows ⟨status, body⟩ = .error (.query (toString status) message)) ∧
    (∀ tree report rearranged body', Written.Spells body.toList tree → Report.Stated tree report →
      Relation.ReflTransGen Report.Rearranged tree rearranged →
      Written.Spells body'.toList rearranged → rows ⟨status, body'⟩ = rows ⟨status, body⟩) := by
  refine ⟨rows_eq_ok_iff status body, ?_, ?_, ?_⟩
  · intro report h hfailed
    have hnot : ¬ (report.status = Report.success ∧ report.errors.isEmpty = true) := by
      rintro ⟨hsuccess, hnone⟩
      exact hfailed.elim (· hsuccess) (· (List.isEmpty_iff.mp hnone))
    rw [rows_of_stated h, Report.rows, if_neg hnot, funext ServiceError.text_eq]
    rfl
  · intro h
    rw [rows_of_not_stated h]
    split
    · exact ⟨_, rfl⟩
    · exact ⟨_, isTrimmed_trimBlanks body, rfl⟩
  · intro tree report rearranged body' htree hreport hrearranged hbody'
    have hsame := hreport.rearranged hrearranged
    rw [rows_of_stated ⟨rearranged, hbody', hsame⟩, rows_of_stated ⟨tree, htree, hreport⟩]

/-- A body that states success and two results, of which the first has one key twice. -/
def resultsBody : String :=
  "\x7b\"results\":[\x7b\"k\":\"a\",\"l\":true,\"k\":\"b\"\x7d,null],\"status\":\"success\"\x7d"

/-- A body that states a failure. -/
def fatalBody : String :=
  "\x7b\"status\":\"fatal\",\"errors\":[\x7b\"msg\":\"timeout\"\x7d]\x7d"

/-- The same report with its members the other way round and two more members. -/
def fatalBodyRearranged : String :=
  "\x7b\"took\":null,\"errors\":[\x7b\"retry\":[],\"msg\":\"timeout\"\x7d],\"status\":\"fatal\"\x7d"

theorem not_statedIn_of_read? {body : String} (h : Report.read? body = none) (report : Report) :
    ¬ Report.StatedIn body report := fun hstated => by
  rw [← Report.read?_eq_some_iff, h] at hstated
  cases hstated

set_option maxRecDepth 4000 in
/-- Results come in their order, with the last value of a repeated key. A failure is the same when
its body is rearranged, and a body that states no report is judged by the status. -/
theorem rows_stated_bodies :
    rows ⟨200, resultsBody⟩ =
      .ok [.object [("k", .string "b"), ("l", .bool true)], .null] ∧
    rows ⟨400, fatalBody⟩ = .error (.query "fatal" "timeout") ∧
    rows ⟨400, fatalBodyRearranged⟩ = rows ⟨400, fatalBody⟩ ∧
    (∃ reason, rows ⟨200, "busy"⟩ = .error (.response reason)) ∧
    ∃ message, IsTrimmed " busy\n".toList message.toList ∧
      rows ⟨503, " busy\n"⟩ = .error (.query "503" message) := by
  let row : Written := .object [("k", .string "a"), ("l", .bool true), ("k", .string "b")]
  let results : Written :=
    .object [("results", .array [row, .null]), ("status", .string "success")]
  have hresults : Report.Stated results
      ⟨"success", [.object [("k", .string "b"), ("l", .bool true)], .null], []⟩ :=
    (Report.ofWritten?_eq_some_iff _ _).mp rfl
  let error : List (String × Written) := [("msg", .string "timeout")]
  let fatal : Written := .object [("status", .string "fatal"), ("errors", .array [.object error])]
  have hspells : Written.Spells fatalBody.toList fatal := (Written.read?_eq_some_iff _ _).mp rfl
  have hfatal : Report.Stated fatal ⟨"fatal", [], [⟨none, "timeout"⟩]⟩ :=
    (Report.ofWritten?_eq_some_iff _ _).mp rfl
  obtain ⟨hrows, -, -, -⟩ := rows_stated 200 resultsBody
  obtain ⟨-, hfailed, -, hrearranged⟩ := rows_stated 400 fatalBody
  obtain ⟨-, -, hmalformed, -⟩ := rows_stated 200 "busy"
  obtain ⟨-, -, hunavailable, -⟩ := rows_stated 503 " busy\n"
  refine ⟨(hrows _).mpr ⟨results, (Written.read?_eq_some_iff _ _).mp rfl, hresults⟩,
    hfailed _ ⟨fatal, hspells, hfatal⟩ (.inl (by decide)), ?_,
    hmalformed (not_statedIn_of_read? rfl), hunavailable (not_statedIn_of_read? rfl)⟩
  have hretry : Written.Rearranged ServiceError.keys (.object error)
      (.object (("retry", .array []) :: error)) := .inserted (by decide) _ _
  have herror := Report.Rearranged.error hretry [("status", .string "fatal")] [] [] []
  have hswapped := Report.Rearranged.members (.permuted (List.Perm.swap
    ("errors", .array [.object (("retry", .array []) :: error)]) ("status", .string "fatal") []))
  have htook := Report.Rearranged.members (.inserted (show "took" ∉ Report.keys by decide) .null
    [("errors", .array [.object (("retry", .array []) :: error)]), ("status", .string "fatal")])
  exact hrearranged fatal _ _ _ hspells hfatal
    (((Relation.ReflTransGen.single herror).tail hswapped).tail htook)
    ((Written.read?_eq_some_iff _ _).mp rfl)

/-- **The rows of a failed exchange.** There are rows after all when the body states success and no
errors, and else the exchange is a failed query. -/
theorem rows_failed {status : Nat} (hstatus : ¬ (200 ≤ status ∧ status < 300)) (body : String) :
    (∀ results, rows ⟨status, body⟩ = .ok results ↔
      Report.StatedIn body ⟨"success", results, []⟩) ∧
    ∀ error, rows ⟨status, body⟩ = .error error →
      ∃ reported message, error = .query reported message := by
  refine ⟨rows_eq_ok_iff status body, fun error h => ?_⟩
  by_cases hstated : ∃ report, Report.StatedIn body report
  · obtain ⟨report, hreport⟩ := hstated
    rw [rows_of_stated hreport, Report.rows] at h
    split at h
    · cases h
    · exact ⟨_, _, (Except.error.inj h).symm⟩
  · rw [rows_of_not_stated (not_exists.mp hstated), if_neg hstatus] at h
    exact ⟨_, _, (Except.error.inj h).symm⟩

/-- A failed exchange whose body states no report is a failed query. -/
theorem rows_failed_unavailable :
    ¬ (200 ≤ 503 ∧ 503 < 300) ∧
    ∃ reported message, rows ⟨503, "Service Unavailable"⟩ = .error (.query reported message) := by
  have hstatus : ¬ (200 ≤ 503 ∧ 503 < 300) := by decide
  cases hrows : rows ⟨503, "Service Unavailable"⟩ with
  | ok results => cases hrows
  | error error =>
      obtain ⟨reported, message, rfl⟩ := (rows_failed hstatus "Service Unavailable").2 error hrows
      exact ⟨hstatus, reported, message, rfl⟩

/-- A body that states success. -/
def successBody : String := "\x7b\"status\":\"success\"\x7d"

/-- In an exchange that failed, it gives rows. -/
theorem rows_failed_success :
    ¬ (200 ≤ 500 ∧ 500 < 300) ∧ rows ⟨500, successBody⟩ = .ok [] := by
  refine ⟨by decide, ?_⟩
  rfl

end Reply

end BucketQuery
