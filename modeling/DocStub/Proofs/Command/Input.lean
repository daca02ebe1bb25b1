/-
  A page on the standard input and the same page on a site give one stub.

  1. **Two ways** — in input mode the stub of a page is written in one go (`Command.inputStub`).  On a site the
     class is a group of one entry, whose functions are added to a growing text while failures are collected
     (`GroupStub.ofGroup`).
  2. **One text** — a group of one entry with a page that is had is decided by the functions of that page
     (`GroupStub.ofGroup_single`): they are all there, or the only failure is that the two lists of the
     page differ in length (`ClassPage.eq_misaligned_of_functions`).
  3. **All or nothing** — input mode prints the text of the group if it has no failure.  Otherwise it prints
     nothing, fails with this failure, and the group is left with its header
     (`Command.Program.perform_input_eq_ofGroup`).
-/
import DocStub.Command.Program
import DocStub.Proofs.Site.Grouping
import DocStub.Proofs.Text.Utf8

namespace DocStub

/-! ## A group of one entry -/

/-- A page gives no functions for one reason only: its two lists differ in length. -/
theorem ClassPage.eq_misaligned_of_functions {owner : Identifier} {page : ClassPage} {failure : Failure}
    (h : page.functions owner = .error failure) :
    page.summaries.length ≠ page.details.length
      ∧ failure = .misaligned owner page.summaries.length page.details.length := by
  rw [functions] at h
  split at h
  · cases h
  · next hne => exact ⟨hne, (Except.error.inj h).symm⟩

/-- A group of one entry whose page can be had is the stub of this page, or its one failure. -/
theorem GroupStub.ofGroup_single {fetch : Text → Except Failure Text} {e : ClassEntry} {page : Text}
    (h : fetch e.url = .ok page) :
    ofGroup fetch (ClassGroup.single e) =
      match (ClassPage.ofText page).functions e.name with
      | .ok fs => ⟨Stub.ofClass ⟨e.name, e.summary⟩ fs, fs.length, []⟩
      | .error failure => ⟨Stub.header ⟨e.name, e.summary⟩, 0, [failure]⟩ := by
  have hfunctions : functionsOf fetch e.name e = (ClassPage.ofText page).functions e.name := by
    rw [functionsOf, h]
  show add e.name ⟨Stub.header ⟨e.name, e.summary⟩, 0, []⟩ (functionsOf fetch e.name e) = _
  rw [hfunctions]
  cases (ClassPage.ofText page).functions e.name with
  | ok fs =>
    rw [add, Nat.zero_add]
    rfl
  | error failure => rfl

/-! ## Input mode -/

namespace Command

/-- The bytes of a page are read back as the page, so the input mode works on its text. -/
theorem inputStub_encodeUtf8 (className summary page : Text) :
    inputStub className summary (Text.encodeUtf8 page) =
      match (ClassPage.ofText page).functions (.normalize className) with
      | .ok fs => .ok (Stub.ofClass ⟨.normalize className, Text.collapse summary⟩ fs)
      | .error failure => .error (.badPage failure) := by
  rw [inputStub, Text.decodeUtf8?_encodeUtf8]
  cases h : (ClassPage.ofText page).functions (.normalize className) <;> simp only [h]

namespace Program

/-- What input mode does with a stub, or with what failed. -/
theorem perform_inputClass (w : Web) (c : Call) (o : Options) (className : Text) :
    perform w c { o with inputClass := some className } =
      match inputStub className o.summary c.input with
      | .ok stub => ⟨0, stub, [], false, [], c.disk⟩
      | .error f => ⟨1, [], [], false, f.report, c.disk⟩ := rfl

/-- For every page, class name and summary: input mode prints the stub that the site would get for this page,
    or it prints nothing and fails as the page fails there. -/
theorem perform_input_eq_ofGroup (w : Web) (call : Call) (o : Options) (className summary url page : Text)
    (fetch : Text → Except Failure Text) (hfetch : fetch url = .ok page) :
    let h : ClassHeader := ⟨.normalize className, Text.collapse summary⟩
    let listed := ClassPage.ofText page
    let result := perform w { call with input := Text.encodeUtf8 page }
      { o with inputClass := some className, summary := summary }
    ∃ g, ClassGroup.ofEntries [⟨url, h.name, h.summary⟩] = [g] ∧
      match listed.functions h.name with
      | .ok fs =>
        result = ⟨0, (GroupStub.ofGroup fetch g).text, [], false, [], call.disk⟩
          ∧ (GroupStub.ofGroup fetch g).count = fs.length
          ∧ (GroupStub.ofGroup fetch g).failures = []
      | .error failure =>
        failure = .misaligned h.name listed.summaries.length listed.details.length
          ∧ result = ⟨1, [], [], false, (Failed.badPage failure).report, call.disk⟩
          ∧ GroupStub.ofGroup fetch g = ⟨Stub.header h, 0, [failure]⟩ := by
  intro h listed result
  let e : ClassEntry := ⟨url, h.name, h.summary⟩
  -- both sides are told by the functions of the page
  have hgroup : GroupStub.ofGroup fetch (ClassGroup.single e) =
      match listed.functions h.name with
      | .ok fs => ⟨Stub.ofClass h fs, fs.length, []⟩
      | .error failure => ⟨Stub.header h, 0, [failure]⟩ := GroupStub.ofGroup_single (e := e) hfetch
  have hresult : result =
      match inputStub className summary (Text.encodeUtf8 page) with
      | .ok stub => ⟨0, stub, [], false, [], call.disk⟩
      | .error f => ⟨1, [], [], false, f.report, call.disk⟩ :=
    perform_inputClass w { call with input := Text.encodeUtf8 page } { o with summary := summary } className
  rw [inputStub_encodeUtf8] at hresult
  refine ⟨ClassGroup.single e, rfl, ?_⟩
  cases hfunctions : listed.functions h.name with
  | ok fs =>
    have hpage : (ClassPage.ofText page).functions (.normalize className) = .ok fs := hfunctions
    rw [hpage] at hresult
    rw [hfunctions] at hgroup
    rw [hgroup]
    exact ⟨hresult, rfl, rfl⟩
  | error failure =>
    have hpage : (ClassPage.ofText page).functions (.normalize className) = .error failure := hfunctions
    rw [hpage] at hresult
    rw [hfunctions] at hgroup
    exact ⟨(ClassPage.eq_misaligned_of_functions hfunctions).2, hresult, hgroup⟩

/-- A page that lists a function, but has no text for it. -/
def sampleBrokenPage : Text := "<table class=function_list><tr><td class=name><a>f</a></table>".toList

/-- The same page with the text. -/
def samplePage : Text := sampleBrokenPage ++ "<dl class=function><dd>Does f.</dl>".toList

def sampleCall : Call := ⟨[], [], none, false, .empty⟩

/-- A page that is in order, and one that is not. -/
theorem perform_input_eq_ofGroup_sample :
    let entries : List ClassEntry := [⟨"x".toList, ⟨"A".toList⟩, "b c".toList⟩]
    let o := { Options.default with inputClass := some "a".toList, summary := " b\nc ".toList }
    let result (page : Text) := perform (fun _ => .error []) { sampleCall with input := Text.encodeUtf8 page } o
    let stub (page : Text) := GroupStub.ofGroup fun _ => .ok page
    (∃ g, ClassGroup.ofEntries entries = [g] ∧
      result samplePage = ⟨0, (stub samplePage g).text, [], false, [], .empty⟩
        ∧ (stub samplePage g).count = 1 ∧ (stub samplePage g).failures = [])
    ∧ ∃ g, ClassGroup.ofEntries entries = [g] ∧
      result sampleBrokenPage =
          ⟨1, [], [], false, "Error: A: 1 summary entries but 0 detailed entries".toList, .empty⟩
        ∧ stub sampleBrokenPage g
          = ⟨Stub.header ⟨⟨"A".toList⟩, "b c".toList⟩, 0, [.misaligned ⟨"A".toList⟩ 1 0]⟩ := by
  intro entries o result stub
  constructor
  · obtain ⟨g, hg, hcase⟩ := perform_input_eq_ofGroup (fun _ => .error []) sampleCall o "a".toList
      " b\nc ".toList "x".toList samplePage (fun _ => .ok samplePage) rfl
    refine ⟨g, hg, ?_⟩
    have hfunctions : (ClassPage.ofText samplePage).functions (.normalize "a".toList)
        = .ok [.ofBlob ⟨"F".toList⟩ [] "Does f.".toList] := by decide +kernel
    rw [hfunctions] at hcase
    exact hcase
  · obtain ⟨g, hg, hcase⟩ := perform_input_eq_ofGroup (fun _ => .error []) sampleCall o "a".toList
      " b\nc ".toList "x".toList sampleBrokenPage (fun _ => .ok sampleBrokenPage) rfl
    refine ⟨g, hg, ?_⟩
    have hfunctions : (ClassPage.ofText sampleBrokenPage).functions (.normalize "a".toList)
        = .error (.misaligned ⟨"A".toList⟩ 1 0) := by decide +kernel
    rw [hfunctions] at hcase
    exact ⟨hcase.2.1, hcase.2.2⟩

end Program

end Command

end DocStub
