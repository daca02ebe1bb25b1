/-
  What capital letters are.

  1. **The table** — `changes` lists every character that becomes something else, with what it becomes: the runs
     and the single entries written out.  All other characters stay as they are
     (`capitals_eq_self_or_mem`).  So a fact about capitals is a fact about single characters, and a check
     of the table (`capitals_eq_self_or_passes`).
  2. **Capitals stay** — the character with which capitals begin is not itself in the table, so it is its own
     capital form (`capitals_of_capitals`).  Searching the table once for every entry of it takes too
     long; the code points are compared as the bits of two numbers.
  3. **ASCII** — no other character becomes a separator or a newline (`not_mem_capitals`), and capitals begin
     with a C or an L only if the character is one (`eq_of_capitals`).
-/
import DocStub.Text.Capital

namespace DocStub

namespace CaseRun

/-- The code points that the run holds. -/
def members (r : CaseRun) : List Nat := List.range' r.first ((r.last - r.first) / r.step + 1) r.step

/-- The run that is found holds the number, so the number is one of its members. -/
theorem mem_members_of_find? {runs : List CaseRun} {r : CaseRun} {n : Nat}
    (h : runs.find? (·.holds n) = some r) : r ∈ runs ∧ n ∈ r.members := by
  have hholds := List.find?_some h
  simp only [holds, Bool.and_eq_true, decide_eq_true_eq] at hholds
  obtain ⟨⟨hfirst, hlast⟩, hstep⟩ := hholds
  have hlength : (n - r.first) / r.step ≤ (r.last - r.first) / r.step := Nat.div_le_div_right (by omega)
  have hn : r.step * ((n - r.first) / r.step) = n - r.first := Nat.mul_div_cancel' (Nat.dvd_of_mod_eq_zero hstep)
  have hmem : n ∈ r.members := List.mem_range'.2 ⟨(n - r.first) / r.step, by omega, by omega⟩
  exact ⟨List.mem_of_find?_eq_some h, hmem⟩

end CaseRun

namespace Text

/-! ## The table -/

/-- The characters that change, by their code points, with what they become. -/
def changes : List (Nat × Text) :=
  severalCapitals.map (fun entry => (entry.1, entry.2.map Char.ofNat))
    ++ towardsStart.flatMap (fun r => r.members.map fun n => (n, [Char.ofNat (n - r.distance)]))
    ++ towardsEnd.flatMap (fun r => r.members.map fun n => (n, [Char.ofNat (n + r.distance)]))

/-- A character is its own capital, or it stands in the table of changes. -/
theorem capitals_eq_self_or_mem (c : Char) : capitals c = [c] ∨ (c.toNat, capitals c) ∈ changes := by
  rw [capitals]
  -- the three parts of the table, in the order in which they are searched
  split
  · next entry hentry =>
    have hcode : entry.1 = c.toNat := by simpa using List.find?_some hentry
    refine Or.inr (List.mem_append_left _ (List.mem_append_left _ ?_))
    exact List.mem_map.2 ⟨entry, List.mem_of_find?_eq_some hentry, by rw [hcode]⟩
  · rw [capitalCode]
    split
    · next r hr =>
      obtain ⟨hrun, hmem⟩ := CaseRun.mem_members_of_find? hr
      refine Or.inr (List.mem_append_left _ (List.mem_append_right _ ?_))
      exact List.mem_flatMap.2 ⟨r, hrun, List.mem_map.2 ⟨c.toNat, hmem, rfl⟩⟩
    · split
      · next r hr =>
        obtain ⟨hrun, hmem⟩ := CaseRun.mem_members_of_find? hr
        refine Or.inr (List.mem_append_right _ ?_)
        exact List.mem_flatMap.2 ⟨r, hrun, List.mem_map.2 ⟨c.toNat, hmem, rfl⟩⟩
      · rw [Char.ofNat_toNat]
        exact Or.inl rfl

/-- A character that is not in the table is its own capital form. -/
theorem capitals_of_not_mem {c : Char} (h : c.toNat ∉ changes.map (·.1)) : capitals c = [c] := by
  rcases capitals_eq_self_or_mem c with hself | hmem
  · exact hself
  · exact absurd (List.mem_map_of_mem hmem) h

/-- What a check of the table finds holds of all capitals that are something else. -/
theorem capitals_eq_self_or_passes {test : Nat × Text → Bool} (h : changes.all test = true) (c : Char) :
    capitals c = [c] ∨ test (c.toNat, capitals c) = true :=
  (capitals_eq_self_or_mem c).imp_right (List.all_eq_true.1 h _)

/-- No character is lost when it becomes a capital. -/
theorem capitals_ne_nil (c : Char) : capitals c ≠ [] := by
  have htable : changes.all (fun p => !p.2.isEmpty) = true := by decide +kernel
  rcases capitals_eq_self_or_passes htable c with hself | hpasses
  · rw [hself]
    exact List.cons_ne_nil c []
  · simpa using hpasses

/-! ## Capitals stay -/

/-- Numbers as the bits of one number. -/
def bitsOf (ns : List Nat) : Nat := ns.foldr (fun n bits => bits ||| 1 <<< n) 0

/-- Each number of the list sets its own bit. -/
theorem testBit_bitsOf {n : Nat} {ns : List Nat} (h : n ∈ ns) : (bitsOf ns).testBit n = true := by
  induction ns with
  | nil => cases h
  | cons m ns ih =>
    show (bitsOf ns ||| 1 <<< m).testBit n = true
    rw [Nat.testBit_or, Bool.or_eq_true]
    rcases List.mem_cons.1 h with rfl | h
    · exact Or.inr (by simp)
    · exact Or.inl (ih h)

/-- Numbers without a common bit have no common member. -/
theorem not_mem_of_bitsOf {ms ns : List Nat} (h : bitsOf ms &&& bitsOf ns = 0) {n : Nat} (hn : n ∈ ms) : n ∉ ns := by
  intro hmem
  have hbit : (bitsOf ms &&& bitsOf ns).testBit n = true := by
    rw [Nat.testBit_and, testBit_bitsOf hn, testBit_bitsOf hmem]
    rfl
  rw [h, Nat.zero_testBit] at hbit
  cases hbit

/-- No entry of the table begins with a character that is in the table. -/
theorem heads_apart :
    bitsOf (changes.map fun p => (p.2.headD '\x00').toNat) &&& bitsOf (changes.map (·.1)) = 0 := by
  decide +kernel

/-- The first capital of a character is its own capital form. -/
theorem capitals_of_capitals {c d : Char} {t : Text} (h : capitals c = d :: t) : capitals d = [d] := by
  rcases capitals_eq_self_or_mem c with hself | hmem
  · obtain ⟨rfl, -⟩ := List.cons.inj (hself.symm.trans h)
    exact hself
  · rw [h] at hmem
    exact capitals_of_not_mem (not_mem_of_bitsOf heads_apart (List.mem_map.2 ⟨_, hmem, rfl⟩))

/-! ## ASCII -/

/-- A character that no entry of the table makes is made of itself only. -/
theorem not_mem_capitals {c x : Char} (htable : changes.all (!·.2.contains x) = true) (h : c ≠ x) :
    x ∉ capitals c := by
  rcases capitals_eq_self_or_passes htable c with hself | hpasses
  · rw [hself]
    simpa using Ne.symm h
  · simpa using hpasses

/-- What the table makes of a character does not begin with a C or an L, or is that letter alone. -/
def startsPlain (p : Nat × Text) : Bool :=
  match p.2 with
  | [] => true
  | d :: t => (d.toLower != 'c' && d.toLower != 'l') || (t.isEmpty && (Char.ofNat p.1).toLower == d.toLower)

/-- Capitals begin with a C or an L only if the character is that letter, and then there is one capital. -/
theorem eq_of_capitals {c d : Char} {t : Text} (h : capitals c = d :: t) (hd : d.toLower = 'c' ∨ d.toLower = 'l') :
    t = [] ∧ c.toLower = d.toLower := by
  have htable : changes.all startsPlain = true := by decide +kernel
  rcases capitals_eq_self_or_passes htable c with hself | hpasses
  · obtain ⟨rfl, rfl⟩ := List.cons.inj (hself.symm.trans h)
    exact ⟨rfl, rfl⟩
  · rw [h] at hpasses
    rcases hd with hd | hd <;> simpa [startsPlain, hd, Char.ofNat_toNat] using hpasses

end Text

end DocStub
