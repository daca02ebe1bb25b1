/-
  The path of a file in a directory.

  A name without a slash that is joined to a path adds one piece at the end, and changes nothing else of the
  route: it begins where the path begins, and it does not end in a slash (`pieces_join`,
  `isRooted_join`, `endsInSlash_join`).
-/
import DocStub.Disk.Path
import DocStub.Proofs.Text.Lines
import Mathlib.Logic.Basic

namespace DocStub.Path

/-! ## Pieces -/

/-- A slash is a seam between pieces. -/
theorem pieces_append_slash (a b : Text) : pieces (a ++ '/' :: b) = pieces a ++ pieces b := by
  rw [pieces, Text.splitAt_append_cons, List.filter_append]
  rfl

/-- A name without a slash is one piece. -/
theorem pieces_of_not_mem {name : Text} (hne : name ≠ []) (h : '/' ∉ name) : pieces name = [name] := by
  rw [pieces, Text.splitAt_eq_singleton h, List.filter_cons_of_pos (by simpa using hne)]
  rfl

/-- A slash at the end adds no piece. -/
theorem pieces_eq_of_endsInSlash {p : Text} (h : endsInSlash p = true) :
    ∃ q, p = q ++ ['/'] ∧ pieces p = pieces q := by
  have hlast : p.getLast? = some '/' := by simpa [endsInSlash] using h
  obtain ⟨q, hq⟩ := List.getLast?_eq_some_iff.1 hlast
  refine ⟨q, hq, ?_⟩
  rw [hq, pieces_append_slash]
  exact List.append_nil _

/-! ## Joining a name -/

/-- A name without a slash does not begin at the root. -/
theorem isRooted_of_not_mem {name : Text} (h : '/' ∉ name) : isRooted name = false := by
  cases name with
  | nil => rfl
  | cons c r =>
    have hc : c ≠ '/' := fun hc => h (hc ▸ List.mem_cons_self)
    simpa [isRooted] using hc

/-- The three ways to join a name. -/
theorem join_cases (base : Text) {name : Text} (h : '/' ∉ name) :
    base = [] ∧ join base name = name
      ∨ base ≠ [] ∧ endsInSlash base = true ∧ join base name = base ++ name
      ∨ base ≠ [] ∧ endsInSlash base = false ∧ join base name = base ++ '/' :: name := by
  rw [join, isRooted_of_not_mem h]
  by_cases hbase : base = []
  · exact Or.inl ⟨hbase, by simp [hbase]⟩
  · cases hslash : endsInSlash base with
    | true => exact Or.inr (Or.inl ⟨hbase, rfl, by simp [hbase]⟩)
    | false => exact Or.inr (Or.inr ⟨hbase, rfl, by simp [hbase]⟩)

/-- A name that is joined to a path is one piece more. -/
theorem pieces_join (base : Text) {name : Text} (hne : name ≠ []) (h : '/' ∉ name) :
    pieces (join base name) = pieces base ++ [name] := by
  rcases join_cases base h with ⟨rfl, hj⟩ | ⟨-, hslash, hj⟩ | ⟨-, -, hj⟩
  · rw [hj, pieces_of_not_mem hne h]
    rfl
  · obtain ⟨q, rfl, hq⟩ := pieces_eq_of_endsInSlash hslash
    rw [hj, hq, List.append_assoc, List.singleton_append, pieces_append_slash, pieces_of_not_mem hne h]
  · rw [hj, pieces_append_slash, pieces_of_not_mem hne h]

/-- A path still begins where it did when a name is joined to it. -/
theorem isRooted_join (base : Text) {name : Text} (h : '/' ∉ name) :
    isRooted (join base name) = isRooted base := by
  rcases join_cases base h with ⟨rfl, hj⟩ | ⟨hbase, -, hj⟩ | ⟨hbase, -, hj⟩
  · rw [hj, isRooted_of_not_mem h]
    rfl
  · obtain ⟨c, r, rfl⟩ := List.exists_cons_of_ne_nil hbase
    rw [hj]
    rfl
  · obtain ⟨c, r, rfl⟩ := List.exists_cons_of_ne_nil hbase
    rw [hj]
    rfl

/-- A path that a name was joined to asks for no directory: it ends in the name. -/
theorem endsInSlash_join (base : Text) {name : Text} (hne : name ≠ []) (h : '/' ∉ name) :
    endsInSlash (join base name) = false := by
  obtain ⟨c, hc⟩ : ∃ c, name.getLast? = some c := Option.isSome_iff_exists.1 (by simpa using hne)
  have hslash : c ≠ '/' := fun he => h (he ▸ List.mem_of_getLast? hc)
  have hlast : (join base name).getLast? = some c := by
    rcases join_cases base h with ⟨-, hj⟩ | ⟨-, -, hj⟩ | ⟨-, -, hj⟩
    · rw [hj, hc]
    · rw [hj, List.getLast?_append, hc]
      rfl
    · rw [hj, List.getLast?_append, List.getLast?_cons, hc]
      rfl
  rw [endsInSlash, hlast]
  simpa using hslash

/-! ## The parts between the slashes -/

/-- The pieces of a text have no characters of their own. -/
theorem mem_of_mem_splitAt {c x : Char} {s p : Text} (hp : p ∈ Text.splitAt c s) (hx : x ∈ p) : x ∈ s := by
  induction s generalizing p with
  | nil =>
    rw [List.mem_singleton.1 hp] at hx
    cases hx
  | cons y r ih =>
    rw [Text.splitAt] at hp
    split at hp
    · rcases List.mem_cons.1 hp with rfl | hp
      · cases hx
      · exact List.mem_cons_of_mem y (ih hp hx)
    · -- the character went to the front of the first piece
      cases hr : Text.splitAt c r with
      | nil => exact absurd hr (Text.splitAt_ne_nil c r)
      | cons q qs =>
        rw [hr] at hp ih
        rcases List.mem_cons.1 hp with rfl | hp
        · rcases List.mem_cons.1 hx with rfl | hx
          · exact List.mem_cons_self
          · exact List.mem_cons_of_mem y (ih List.mem_cons_self hx)
        · exact List.mem_cons_of_mem y (ih (List.mem_cons_of_mem q hp) hx)

/-- What is cut behind the slash of a rooted path, and at the front of any other one. -/
theorem exists_splitAt_join (base : Text) {name : Text} (h : '/' ∉ name) :
    ∃ names, Text.splitAt '/' (if isRooted (join base name) then (join base name).tail
        else join base name) = names ++ [name] ∧
      names.filter (· != []) = pieces base ∧ (base = [] → names = []) ∧
      ∀ n ∈ names, ∀ c ∈ n, c ∈ base := by
  rcases eq_or_ne base [] with rfl | hbase
  · refine ⟨[], ?_, rfl, fun _ => rfl, fun n hn => nomatch hn⟩
    have hj : join [] name = name := by simp [join]
    rw [hj, isRooted_of_not_mem h, if_neg (by simp), Text.splitAt_eq_singleton h]
    rfl
  · -- a slash at the end of the path is the one in front of the name
    obtain ⟨q, hj, hpieces, hmem⟩ :
        ∃ q, join base name = q ++ '/' :: name ∧ pieces base = pieces q ∧ ∀ c ∈ q, c ∈ base := by
      rcases join_cases base h with ⟨he, -⟩ | ⟨-, hslash, hj⟩ | ⟨-, -, hj⟩
      · exact absurd he hbase
      · obtain ⟨q, rfl, hq⟩ := pieces_eq_of_endsInSlash hslash
        exact ⟨q, by rw [hj, List.append_assoc]; rfl, hq, fun c hc => List.mem_append_left _ hc⟩
      · exact ⟨base, hj, rfl, fun _ hc => hc⟩
    have hsplit (r : Text) : Text.splitAt '/' (r ++ '/' :: name) = Text.splitAt '/' r ++ [name] := by
      rw [Text.splitAt_append_cons, Text.splitAt_eq_singleton h]
    rw [hj, hpieces]
    cases q with
    | nil =>
      refine ⟨[], ?_, rfl, fun _ => rfl, fun n hn => nomatch hn⟩
      show Text.splitAt '/' name = _
      rw [Text.splitAt_eq_singleton h]
      rfl
    | cons x r =>
      by_cases hx : x = '/'
      · subst hx
        refine ⟨Text.splitAt '/' r, hsplit r, (pieces_append_slash [] r).symm,
          fun he => absurd he hbase, fun n hn c hc => hmem c ?_⟩
        exact List.mem_cons_of_mem _ (mem_of_mem_splitAt hn hc)
      · have hrooted : isRooted (x :: r ++ '/' :: name) = false := by simpa [isRooted] using hx
        rw [hrooted, if_neg (by simp)]
        exact ⟨Text.splitAt '/' (x :: r), hsplit (x :: r), rfl, fun he => absurd he hbase,
          fun n hn c hc => hmem c (mem_of_mem_splitAt hn hc)⟩

end DocStub.Path
