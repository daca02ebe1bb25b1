/-
  A page that fails costs its own functions.

  1. **Good pages** — an address gives a page if the page can be had and its two lists are equally long; else there
     is one failure (`pageAt`).
  2. **The stub of a group** — its functions are those of the pages that its entries give, in the order of the
     entries, and its failures are those of the other entries (`functionsIn_eq`, `failuresIn_eq`).
  3. **One page more** — what an entry adds to a stub depends on the answer for its own address (`Repaired`).  So
     when an address that gave no page gives one, its functions come in at every entry with this address, the
     failures of these entries go, and nothing else changes (`ofGroup_pages`).
-/
import DocStub.Proofs.Site.Grouping

namespace DocStub

namespace ClassPage

/-- The two lists of the page belong together. -/
def IsAligned (page : ClassPage) : Prop := page.summaries.length = page.details.length

instance (page : ClassPage) : Decidable page.IsAligned := inferInstanceAs (Decidable (_ = _))

/-- The functions of a page, each one from its row in the table and its text. -/
def listed (page : ClassPage) : List FunctionDoc :=
  page.summaries.zipWith (fun s blob => .ofBlob s.name s.description blob) page.details

/-- An aligned page gives a function for each row. -/
theorem functions_of_isAligned {page : ClassPage} (h : page.IsAligned) (owner : Identifier) :
    page.functions owner = .ok page.listed :=
  if_pos h

/-- Any other page gives no function at all, and says how long its two lists are. -/
theorem functions_of_not_isAligned {page : ClassPage} (h : ¬ page.IsAligned) (owner : Identifier) :
    page.functions owner = .error (.misaligned owner page.summaries.length page.details.length) :=
  if_neg h

end ClassPage

namespace GroupStub

section

variable (fetch : Text → Except Failure Text) (owner : Identifier)

/-! ## Good pages -/

/-- The page at an address, or why there is no good one. -/
def pageAt (url : Text) : Except Failure ClassPage :=
  match fetch url with
  | .ok text =>
    let page := ClassPage.ofText text
    if page.IsAligned then .ok page
    else .error (.misaligned owner page.summaries.length page.details.length)
  | .error failure => .error failure

/-- The functions that an address adds to the stub. -/
def functionsAt (url : Text) : List FunctionDoc :=
  match pageAt fetch owner url with
  | .ok page => page.listed
  | .error _ => []

/-- Why an address adds nothing. -/
def failureAt? (url : Text) : Option Failure :=
  match pageAt fetch owner url with
  | .ok _ => none
  | .error failure => some failure

/-- What an entry gives is what the good page at its address lists. -/
theorem pageAt_map (e : ClassEntry) : functionsOf fetch owner e = (pageAt fetch owner e.url).map (·.listed) := by
  unfold functionsOf pageAt
  cases fetch e.url with
  | error failure => rfl
  | ok text =>
    show (ClassPage.ofText text).functions owner = Except.map _ (ite ..)
    split
    · next h => exact ClassPage.functions_of_isAligned h owner
    · next h => exact ClassPage.functions_of_not_isAligned h owner

theorem found_functionsOf (e : ClassEntry) :
    found (functionsOf fetch owner e) = functionsAt fetch owner e.url := by
  unfold functionsAt
  rw [pageAt_map]
  cases pageAt fetch owner e.url <;> rfl

theorem failed?_functionsOf (e : ClassEntry) :
    failed? (functionsOf fetch owner e) = failureAt? fetch owner e.url := by
  unfold failureAt?
  rw [pageAt_map]
  cases pageAt fetch owner e.url <;> rfl

/-- An address adds its functions if the page can be had and its two lists are equally long. -/
theorem failureAt?_eq_none_iff {url : Text} :
    failureAt? fetch owner url = none ↔ ∃ text, fetch url = .ok text ∧ (ClassPage.ofText text).IsAligned := by
  unfold failureAt? pageAt
  cases fetch url with
  | error failure => simp
  | ok text =>
    by_cases haligned : (ClassPage.ofText text).IsAligned
    · simp [haligned]
    · simp [haligned]

/-! ## The stub of a group -/

/-- The functions of a group are those at the addresses of its entries, in order. -/
theorem functionsIn_eq (g : ClassGroup) :
    functionsIn fetch g = g.entries.flatMap fun e => functionsAt fetch g.header.name e.url :=
  List.flatMap_congr fun e _ => found_functionsOf fetch g.header.name e

/-- The failures of a group are those at the addresses of its entries, in order. -/
theorem failuresIn_eq (g : ClassGroup) :
    failuresIn fetch g = g.entries.filterMap fun e => failureAt? fetch g.header.name e.url :=
  List.filterMap_congr fun e _ => failed?_functionsOf fetch g.header.name e

/-- Addresses without a good page add nothing, so only the good pages count. -/
theorem flatMap_functionsAt (es : List ClassEntry) :
    (es.flatMap fun e => functionsAt fetch owner e.url)
      = (es.filterMap fun e => (pageAt fetch owner e.url).toOption).flatMap (·.listed) := by
  induction es with
  | nil => rfl
  | cons e es ih =>
    rw [List.flatMap_cons, ih, List.filterMap_cons]
    unfold functionsAt
    cases pageAt fetch owner e.url <;> rfl

/-- The stub of a group, entry by entry. -/
theorem text_ofGroup (g : ClassGroup) :
    (ofGroup fetch g).text = Stub.header g.header
      ++ g.entries.flatMap fun e => Stub.functions g.header.name (functionsAt fetch g.header.name e.url) := by
  rw [ofGroup_eq, functionsIn_eq]
  show Stub.header g.header ++ (g.entries.flatMap _).flatMap (Stub.function g.header.name) = _
  rw [List.flatMap_assoc]
  rfl

/-- The failures of a group, entry by entry. -/
theorem failures_ofGroup (g : ClassGroup) :
    (ofGroup fetch g).failures = g.entries.flatMap fun e => (failureAt? fetch g.header.name e.url).toList := by
  rw [ofGroup_eq, failuresIn_eq]
  exact List.filterMap_eq_flatMap_toList _ _

end

/-! ## One page more -/

/-- The address gave no good page and now gives one; every other answer is what it was. -/
structure Repaired (fetch fetch' : Text → Except Failure Text) (owner : Identifier) (url : Text)
    (failure : Failure) (page : ClassPage) : Prop where
  before : pageAt fetch owner url = .error failure
  after : pageAt fetch' owner url = .ok page
  others : ∀ v, v ≠ url → fetch' v = fetch v

namespace Repaired

variable {fetch fetch' : Text → Except Failure Text} {owner : Identifier} {url : Text} {failure : Failure}
  {page : ClassPage} (h : Repaired fetch fetch' owner url failure page)

include h

/-- The other addresses give what they gave. -/
theorem pageAt_of_ne {v : Text} (hv : v ≠ url) : pageAt fetch' owner v = pageAt fetch owner v := by
  unfold pageAt
  rw [h.others v hv]

/-- Before the repair the address adds nothing. -/
theorem functionsAt_before (v : Text) :
    functionsAt fetch owner v = if v = url then [] else functionsAt fetch owner v := by
  split
  · next hv =>
    unfold functionsAt
    rw [hv, h.before]
  · rfl

/-- After the repair the address adds what its page lists, and the others add what they did. -/
theorem functionsAt_after (v : Text) :
    functionsAt fetch' owner v = if v = url then page.listed else functionsAt fetch owner v := by
  split
  · next hv =>
    unfold functionsAt
    rw [hv, h.after]
  · next hv =>
    unfold functionsAt
    rw [h.pageAt_of_ne hv]

/-- Before the repair the address has its failure. -/
theorem failureAt?_before (v : Text) :
    failureAt? fetch owner v = if v = url then some failure else failureAt? fetch owner v := by
  split
  · next hv =>
    unfold failureAt?
    rw [hv, h.before]
  · rfl

/-- After the repair the address has no failure, and the others have those they had. -/
theorem failureAt?_after (v : Text) :
    failureAt? fetch' owner v = if v = url then none else failureAt? fetch owner v := by
  split
  · next hv =>
    unfold failureAt?
    rw [hv, h.after]
  · next hv =>
    unfold failureAt?
    rw [h.pageAt_of_ne hv]

/-- The page is counted once for each entry that has its address. -/
theorem length_functions (es : List ClassEntry) :
    (es.flatMap fun e => functionsAt fetch' owner e.url).length
      = (es.flatMap fun e => functionsAt fetch owner e.url).length
        + (es.filter (·.url = url)).length * page.listed.length := by
  induction es with
  | nil => simp
  | cons e es ih =>
    rw [List.flatMap_cons, List.flatMap_cons, List.length_append, List.length_append, ih,
      h.functionsAt_after, h.functionsAt_before]
    by_cases he : e.url = url
    · rw [if_pos he, if_pos he, List.filter_cons_of_pos (by simpa using he), List.length_cons, Nat.succ_mul,
        List.length_nil]
      omega
    · rw [if_neg he, if_neg he, List.filter_cons_of_neg (by simpa using he)]
      omega

end Repaired

/-- **A page that fails costs its own functions.**  The stub of a group has the functions of the good pages of its
    entries, and the failures of the other entries.  One address more that gives a good page brings in the
    functions of this page at each of its entries, and takes away their failures. -/
theorem ofGroup_pages (fetch : Text → Except Failure Text) (g : ClassGroup) :
    let owner := g.header.name
    let fs := (g.entries.filterMap fun e => (pageAt fetch owner e.url).toOption).flatMap (·.listed)
    ofGroup fetch g
        = ⟨Stub.ofClass g.header fs, fs.length, g.entries.filterMap fun e => failureAt? fetch owner e.url⟩
    ∧ ∀ fetch' url failure page, Repaired fetch fetch' owner url failure page →
      (ofGroup fetch g).text = Stub.header g.header ++ g.entries.flatMap (fun e =>
        Stub.functions owner (if e.url = url then [] else functionsAt fetch owner e.url))
      ∧ (ofGroup fetch' g).text = Stub.header g.header ++ g.entries.flatMap (fun e =>
        Stub.functions owner (if e.url = url then page.listed else functionsAt fetch owner e.url))
      ∧ (ofGroup fetch g).failures = g.entries.flatMap (fun e =>
        (if e.url = url then some failure else failureAt? fetch owner e.url).toList)
      ∧ (ofGroup fetch' g).failures = g.entries.flatMap (fun e =>
        (if e.url = url then none else failureAt? fetch owner e.url).toList)
      ∧ (ofGroup fetch' g).count = (ofGroup fetch g).count
        + (g.entries.filter (·.url = url)).length * page.listed.length := by
  intro owner fs
  constructor
  · rw [ofGroup_eq, functionsIn_eq, failuresIn_eq, flatMap_functionsAt]
  · intro fetch' url failure page h
    -- entry by entry, each one told by its own address
    refine ⟨?_, ?_, ?_, ?_, ?_⟩
    · rw [text_ofGroup]
      congr 1
      apply List.flatMap_congr
      intro e _
      exact congrArg _ (h.functionsAt_before e.url)
    · rw [text_ofGroup]
      congr 1
      apply List.flatMap_congr
      intro e _
      exact congrArg _ (h.functionsAt_after e.url)
    · rw [failures_ofGroup]
      apply List.flatMap_congr
      intro e _
      exact congrArg _ (h.failureAt?_before e.url)
    · rw [failures_ofGroup]
      apply List.flatMap_congr
      intro e _
      exact congrArg _ (h.failureAt?_after e.url)
    · rw [ofGroup_eq, ofGroup_eq, functionsIn_eq, functionsIn_eq]
      exact h.length_functions g.entries

/-- The text of a page of one function. -/
def sampleText : Text :=
  "<table class=function_list><tr><td class=name><a>f</a></table><dl class=function><dd>Does f.</dl>".toList

/-- What that page holds. -/
def sampleListing : ClassPage := ⟨[⟨⟨"F".toList⟩, []⟩], ["Does f.".toList]⟩

/-- No page can be had. -/
def sampleOutage (url : Text) : Except Failure Text := .error (.fetch url "gone".toList)

/-- The page at `x` can be had again. -/
def sampleRepair (url : Text) : Except Failure Text :=
  if url = "x".toList then .ok sampleText else sampleOutage url

/-- Three entries of one class, of which the first and the last have one address. -/
def sampleEntries : ClassGroup :=
  ⟨⟨⟨"A".toList⟩, []⟩, [⟨"x".toList, ⟨"A".toList⟩, []⟩, ⟨"y".toList, ⟨"A".toList⟩, []⟩,
    ⟨"x".toList, ⟨"A".toList⟩, []⟩]⟩

theorem repaired_sample : Repaired sampleOutage sampleRepair ⟨"A".toList⟩ "x".toList
    (.fetch "x".toList "gone".toList) sampleListing where
  before := rfl
  after := by
    have hpage : ClassPage.ofText sampleText = sampleListing := by decide +kernel
    have haligned : sampleListing.IsAligned := rfl
    unfold pageAt
    rw [sampleRepair, if_pos rfl]
    show ite (ClassPage.ofText sampleText).IsAligned _ _ = _
    rw [hpage, if_pos haligned]
  others := fun v hv => by rw [sampleRepair, if_neg hv]

/-- The functions of the page come in twice, and one of three failures is left. -/
theorem ofGroup_pages_sample :
    Repaired sampleOutage sampleRepair ⟨"A".toList⟩ "x".toList (.fetch "x".toList "gone".toList) sampleListing
    ∧ (ofGroup sampleOutage sampleEntries).failures
      = [.fetch "x".toList "gone".toList, .fetch "y".toList "gone".toList, .fetch "x".toList "gone".toList]
    ∧ (ofGroup sampleRepair sampleEntries).failures = [.fetch "y".toList "gone".toList]
    ∧ let fs := Stub.functions ⟨"A".toList⟩ sampleListing.listed
      (ofGroup sampleRepair sampleEntries).text = Stub.header sampleEntries.header ++ (fs ++ fs) := by
  obtain ⟨-, hpages⟩ := ofGroup_pages sampleOutage sampleEntries
  obtain ⟨-, htext, hbefore, hafter, -⟩ := hpages _ _ _ _ repaired_sample
  refine ⟨repaired_sample, hbefore, hafter, ?_⟩
  intro fs
  rw [htext]
  show _ ++ (fs ++ (fs ++ [])) = _
  rw [List.append_nil]

end GroupStub

end DocStub
