import HttpScenario.Proofs.Http.Method
import HttpScenario.Proofs.Results
import HttpScenario.Proofs.Runner.UrlPieces
import HttpScenario.Proofs.Table

namespace HttpScenario

namespace TestCase

/-- Edits that lead from a test case to another one. Each of them is given what those before
it have made. -/
inductive EditedBy : List (TestCase → TestCase) → TestCase → TestCase → Prop
  | nil (testCase : TestCase) : EditedBy [] testCase testCase
  | cons {edit : TestCase → TestCase} {edits : List (TestCase → TestCase)}
      {testCase last : TestCase} (h : EditedBy edits (edit testCase) last) :
      EditedBy (edit :: edits) testCase last

theorem editedBy_iff {edits : List (TestCase → TestCase)} {testCase last : TestCase} :
    EditedBy edits testCase last ↔
      edits.foldl (fun testCase edit => edit testCase) testCase = last := by
  induction edits generalizing testCase with
  | nil =>
      constructor
      · intro h
        cases h
        rfl
      · rintro rfl
        exact .nil testCase
  | cons edit edits ih =>
      rw [List.foldl_cons, ← ih]
      constructor
      · intro h
        cases h with
        | cons h => exact h
      · exact .cons

structure SentBy (testCase : TestCase) (settings : RunnerSettings) (method : Method)
    (call : Call) : Prop where
  reaches : call.method = method
  url : call.request.url = testCase.url
  timeoutSeconds : call.request.timeoutSeconds = settings.timeoutSeconds
  allowRedirects : call.request.allowRedirects = testCase.allowRedirects
  headers : call.request.headers = testCase.headers
  cookies : call.request.cookies = testCase.cookies
  body : method = .post ∨ method = .put ∨ method = .patch →
    call.body = some (testCase.requestBody.getD "")
  no_body : method = .get ∨ method = .delete → call.body = none

theorem sentBy_iff {testCase : TestCase} {settings : RunnerSettings} {method : Method}
    {call : Call} :
    testCase.SentBy settings method call ↔ call = Runner.callOf settings method testCase := by
  constructor
  · intro h
    have hbody : call.body =
        if method.hasBody then some (testCase.requestBody.getD "") else none := by
      cases method with
      | get => exact h.no_body (.inl rfl)
      | delete => exact h.no_body (.inr rfl)
      | post => exact h.body (.inl rfl)
      | put => exact h.body (.inr (.inl rfl))
      | patch => exact h.body (.inr (.inr rfl))
    obtain ⟨callMethod, ⟨url, timeoutSeconds, allowRedirects, headers, cookies⟩, body⟩ := call
    obtain ⟨rfl, rfl, rfl, rfl, rfl, rfl, -, -⟩ := h
    exact congrArg (Call.mk callMethod _) hbody
  · rintro rfl
    refine ⟨rfl, rfl, rfl, rfl, rfl, rfl, ?_, ?_⟩
    · rintro (rfl | rfl | rfl) <;> rfl
    · rintro (rfl | rfl) <;> rfl

end TestCase

namespace Sending

theorem ofExcept_ok_bind {α β : Type} (a : α) (next : α → Sending β) :
    (ofExcept (.ok a : Except Failure α) >>= next : Sending β) = next a := rfl

theorem attempt_ofExcept_error {α : Type} (failure : Failure) (next : α → Sending Outcome) :
    (ofExcept (.error failure : Except Failure α) >>= next : Sending Outcome).attempt =
      ⟨.error failure, []⟩ := rfl

theorem attempt_send (transport : Transport) (call : Call) (f : Reply → Outcome) :
    (do let reply ← transport.send call; return f reply : Sending Outcome).attempt =
      ⟨(transport call).map f, [call]⟩ := by
  simp only [attempt, bind, EStateM.bind, Transport.send]
  cases transport call <;> rfl

end Sending

namespace Runner

variable {runner : Runner} {transport other : Transport} {files : Files} {file name : String}
  {options : RunOptions} {testCase : TestCase} {attempt : Attempt}

/-- The test case `ready` is `loaded` with the values of URL parameters in its URL, and with a
content type if it had none. -/
structure Completes (settings : RunnerSettings) (parameters : Table String)
    (loaded ready : TestCase) : Prop where
  url : ∃ pieces : Placeholder.UrlPieces,
    pieces.text = loaded.url ∧ pieces.filled parameters = ready.url
  headers : ∀ name, ready.headers.find? name = (loaded.headers.find? name).or
    (if name = "content-type" then settings.defaultContentType else none)
  others : ready = { loaded with url := ready.url, headers := ready.headers }

theorem find?_addContentType (settings : RunnerSettings) (testCase : TestCase) (name : String) :
    (addContentType settings testCase).headers.find? name = (testCase.headers.find? name).or
      (if name = "content-type" then settings.defaultContentType else none) := by
  rw [addContentType]
  cases settings.defaultContentType with
  | none => simp
  | some contentType => exact Table.find?_insertNew _ _ _ _

theorem fillUrl_addContentType (settings : RunnerSettings) (parameters : Table String)
    (testCase : TestCase) :
    fillUrl parameters (addContentType settings testCase) =
      { testCase with
        url := Placeholder.fillUrl parameters testCase.url
        headers := (addContentType settings testCase).headers } := by
  rw [fillUrl_eq, addContentType]
  cases settings.defaultContentType <;> rfl

theorem completes_iff {settings : RunnerSettings} {parameters : Table String}
    {loaded ready : TestCase} :
    Completes settings parameters loaded ready ↔
      fillUrl parameters (addContentType settings loaded) = ready := by
  rw [fillUrl_addContentType]
  constructor
  · intro ⟨⟨pieces, htext, hurl⟩, hheaders, hothers⟩
    have hfilled : ready.url = Placeholder.fillUrl parameters loaded.url := by
      rw [← hurl, ← htext, Placeholder.fillUrl_text]
    have htyped : ready.headers = (addContentType settings loaded).headers := by
      apply Table.ext_find?
      intro name
      rw [hheaders, find?_addContentType]
    rw [hothers, hfilled, htyped]
  · rintro rfl
    obtain ⟨pieces, htext, -⟩ := Placeholder.UrlPieces.existsUnique_text loaded.url
    refine ⟨⟨pieces, htext, ?_⟩, find?_addContentType settings loaded, rfl⟩
    rw [← htext, Placeholder.fillUrl_text]

def Prepares (runner : Runner) (files : Files) (file name : String) (options : RunOptions)
    (testCase : TestCase) : Prop :=
  ∃ loaded ready, runner.parser files runner.settings.scenariosDirectory file name
      options.edits = .ok loaded ∧
    Completes runner.settings options.urlParameters loaded ready ∧
    TestCase.EditedBy options.caseEdits ready testCase

theorem prepare_eq_ok_iff : runner.prepare files file name options = .ok testCase ↔
    runner.Prepares files file name options testCase := by
  rw [prepare, bind_eq_ok]
  constructor
  · intro ⟨loaded, hloaded, h⟩
    exact ⟨loaded, _, hloaded, completes_iff.mpr rfl, TestCase.editedBy_iff.mpr (Except.ok.inj h)⟩
  · intro ⟨loaded, ready, hloaded, hready, hedited⟩
    rw [← TestCase.editedBy_iff.mp hedited, ← completes_iff.mp hready]
    exact ⟨loaded, hloaded, rfl⟩

theorem prepare_of_error {failure : Failure}
    (h : runner.parser files runner.settings.scenariosDirectory file name options.edits =
      .error failure) : runner.prepare files file name options = .error failure := by
  rw [prepare, h]
  rfl

theorem execute_of_named {method : Method} (h : method.NamedBy testCase.method) :
    runner.execute transport testCase =
      ⟨(transport (callOf runner.settings method testCase)).map fun reply => ⟨reply, testCase⟩,
        [callOf runner.settings method testCase]⟩ := by
  rw [execute, sendCase, Method.parse_of_namedBy h, Sending.ofExcept_ok_bind]
  exact Sending.attempt_send ..

theorem execute_of_unnamed (h : ∀ method : Method, ¬ method.NamedBy testCase.method) :
    runner.execute transport testCase =
      ⟨.error (.unsupportedMethod testCase.method), []⟩ := by
  rw [execute, sendCase, Method.parse_of_unnamed h, Sending.attempt_ofExcept_error]

theorem run_of_prepares (h : runner.Prepares files file name options testCase) :
    runner.run transport files file name options = runner.execute transport testCase := by
  rw [run, prepare_eq_ok_iff.mpr h, Sending.ofExcept_ok_bind, execute]

theorem run_of_prepare_error {failure : Failure}
    (h : runner.prepare files file name options = .error failure) :
    runner.run transport files file name options = ⟨.error failure, []⟩ := by
  rw [run, h, Sending.attempt_ofExcept_error]

/-- The courses that a run can take. Nothing is sent unless the test case is ready and names a
method, and then it is sent once. -/
inductive Course (runner : Runner) (transport : Transport) (files : Files) (file name : String)
    (options : RunOptions) : Attempt → Prop
  | unprepared {failure : Failure}
      (hload : runner.parser files runner.settings.scenariosDirectory file name options.edits =
        .error failure) :
      Course runner transport files file name options ⟨.error failure, []⟩
  | unnamed {testCase : TestCase}
      (hready : runner.Prepares files file name options testCase)
      (hmethod : ∀ method : Method, ¬ method.NamedBy testCase.method) :
      Course runner transport files file name options
        ⟨.error (.unsupportedMethod testCase.method), []⟩
  | refused {testCase : TestCase} {method : Method} {call : Call} {failure : Failure}
      (hready : runner.Prepares files file name options testCase)
      (hmethod : method.NamedBy testCase.method)
      (hsent : testCase.SentBy runner.settings method call)
      (hcall : transport call = .error failure) :
      Course runner transport files file name options ⟨.error failure, [call]⟩
  | answered {testCase : TestCase} {method : Method} {call : Call} {reply : Reply}
      (hready : runner.Prepares files file name options testCase)
      (hmethod : method.NamedBy testCase.method)
      (hsent : testCase.SentBy runner.settings method call)
      (hcall : transport call = .ok reply) :
      Course runner transport files file name options ⟨.ok ⟨reply, testCase⟩, [call]⟩

theorem course_run (runner : Runner) (transport : Transport) (files : Files)
    (file name : String) (options : RunOptions) :
    runner.Course transport files file name options
      (runner.run transport files file name options) := by
  cases hload : runner.parser files runner.settings.scenariosDirectory file name options.edits with
  | error failure =>
      rw [run_of_prepare_error (prepare_of_error hload)]
      exact .unprepared hload
  | ok loaded =>
      have hready : runner.Prepares files file name options _ :=
        ⟨loaded, _, hload, completes_iff.mpr rfl, TestCase.editedBy_iff.mpr rfl⟩
      rw [run_of_prepares hready]
      generalize options.caseEdits.foldl _ _ = testCase at hready ⊢
      by_cases hnamed : ∃ method : Method, method.NamedBy testCase.method
      · obtain ⟨method, hmethod⟩ := hnamed
        have hsent := TestCase.sentBy_iff.mpr (rfl : callOf runner.settings method testCase = _)
        rw [execute_of_named hmethod]
        cases hcall : transport (callOf runner.settings method testCase) with
        | error failure => exact .refused hready hmethod hsent hcall
        | ok reply => exact .answered hready hmethod hsent hcall
      · have hmethod : ∀ method : Method, ¬ method.NamedBy testCase.method :=
          not_exists.mp hnamed
        rw [execute_of_unnamed hmethod]
        exact .unnamed hready hmethod

theorem run_of_course (h : runner.Course transport files file name options attempt) :
    runner.run transport files file name options = attempt := by
  cases h with
  | unprepared hload => exact run_of_prepare_error (prepare_of_error hload)
  | unnamed hready hmethod => rw [run_of_prepares hready, execute_of_unnamed hmethod]
  | refused hready hmethod hsent hcall =>
      rw [TestCase.sentBy_iff] at hsent
      subst hsent
      rw [run_of_prepares hready, execute_of_named hmethod, hcall]
      rfl
  | answered hready hmethod hsent hcall =>
      rw [TestCase.sentBy_iff] at hsent
      subst hsent
      rw [run_of_prepares hready, execute_of_named hmethod, hcall]
      rfl

theorem Course.length_calls_le (h : runner.Course transport files file name options attempt) :
    attempt.calls.length ≤ 1 := by
  cases h <;> simp

theorem Course.with_transport (h : runner.Course transport files file name options attempt)
    (hsame : ∀ call ∈ attempt.calls, other call = transport call) :
    runner.Course other files file name options attempt := by
  cases h with
  | unprepared hload => exact .unprepared hload
  | unnamed hready hmethod => exact .unnamed hready hmethod
  | refused hready hmethod hsent hcall =>
      exact .refused hready hmethod hsent ((hsame _ List.mem_cons_self).trans hcall)
  | answered hready hmethod hsent hcall =>
      exact .answered hready hmethod hsent ((hsame _ List.mem_cons_self).trans hcall)

/-- A run takes one of its courses and no other, it sends at most once, and nothing but the
calls that it makes depends on the transport. -/
theorem run_sends_once (runner : Runner) (transport : Transport) (files : Files)
    (file name : String) (options : RunOptions) :
    (∀ attempt, runner.run transport files file name options = attempt ↔
        runner.Course transport files file name options attempt) ∧
      (runner.run transport files file name options).calls.length ≤ 1 ∧
      ∀ other : Transport,
        (∀ call ∈ (runner.run transport files file name options).calls,
          other call = transport call) →
        runner.run other files file name options =
          runner.run transport files file name options := by
  have hcourse := course_run runner transport files file name options
  refine ⟨?_, hcourse.length_calls_le, ?_⟩
  · intro attempt
    constructor
    · rintro rfl
      exact hcourse
    · exact run_of_course
  · intro other hsame
    exact run_of_course (hcourse.with_transport hsame)

def ping (url method : String) (headers : Table String) : TestCase where
  name := "ping"
  url := url
  method := method
  allowRedirects := true
  headers := headers
  cookies := ∅
  requestBody := none
  expectedStatus := 200
  expectedBody := none
  expectedHeaders := none
  filePath := ""
  description := none

def pingRunner : Runner where
  settings := { timeoutSeconds := 3, defaultContentType := some "text/plain" }
  parser := fun _ _ _ _ _ => .ok (ping "\x7bbase\x7d/ping" "get" ∅)

def pingOptions : RunOptions where
  urlParameters := Table.ofList [("base", "/v1")]
  caseEdits := [fun testCase => { testCase with method := "Put" },
    fun testCase => { testCase with
      url := testCase.url ++ "?again"
      method := testCase.method ++ "\n" }]

def pingUrl : Placeholder.UrlPieces where
  slots := [⟨[], "base", List.not_mem_nil, by decide⟩]
  ending := ⟨"/ping".toList, [], by decide, .inl rfl⟩

theorem completes_ping :
    Completes pingRunner.settings pingOptions.urlParameters (ping "\x7bbase\x7d/ping" "get" ∅)
      (ping "/v1/ping" "get" (Table.ofList [("content-type", "text/plain")])) := by
  have htyped : Table.ofList [("content-type", "text/plain")] =
      (addContentType pingRunner.settings (ping "\x7bbase\x7d/ping" "get" ∅)).headers := rfl
  refine ⟨⟨pingUrl, rfl, rfl⟩, ?_, rfl⟩
  rw [htyped]
  exact find?_addContentType _ _

theorem run_sends_once_ping :
    pingRunner.run (fun _ => .ok {}) ⟨[], []⟩ "" "" pingOptions =
        ⟨.ok ⟨{}, ping "/v1/ping?again" "Put\n" (Table.ofList [("content-type", "text/plain")])⟩,
          [⟨.put, ⟨"/v1/ping?again", 3, true, Table.ofList [("content-type", "text/plain")], ∅⟩,
            some ""⟩]⟩ ∧
      pingRunner.run (fun call => if call.method = .put then .ok {} else .error .settings)
          ⟨[], []⟩ "" "" pingOptions =
        pingRunner.run (fun _ => .ok {}) ⟨[], []⟩ "" "" pingOptions := by
  obtain ⟨hcourse, -, hother⟩ :=
    run_sends_once pingRunner (fun _ => .ok {}) ⟨[], []⟩ "" "" pingOptions
  have hready : pingRunner.Prepares ⟨[], []⟩ "" "" pingOptions
      (ping "/v1/ping?again" "Put\n" (Table.ofList [("content-type", "text/plain")])) :=
    ⟨_, _, rfl, completes_ping, .cons (.cons (.nil _))⟩
  have hmethod : Method.put.NamedBy "Put\n" := by
    refine ⟨[], ['P', 'u', 't'], ['\n'], rfl, List.forall_mem_nil _, ?_, rfl⟩
    simp only [List.forall_mem_singleton]
    rfl
  have hrun := (hcourse _).mpr (.answered hready hmethod (TestCase.sentBy_iff.mpr rfl) rfl)
  refine ⟨hrun, hother _ ?_⟩
  rw [hrun]
  simp only [List.forall_mem_singleton]
  rfl

end Runner

end HttpScenario
