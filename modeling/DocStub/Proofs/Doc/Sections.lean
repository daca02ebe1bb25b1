/-
  Finding the sections of a text that was put together from them.

  1. **Cuts** — no keyword has a capital letter but its first character.  So an occurrence that begins in
     front of a keyword does not reach into it: the text can be cut there (`IsCut`), and what is found at
     the front of a text does not depend on what follows the cut (`cut?_append`).
  2. **One part** — over a text in which no new keyword occurs (`Free`) the scan goes to the cut behind it
     (`scan_append`), and there the keyword opens its section (`scan_keyword`).
  3. **All parts** — the parts that the scan finds, put together, are the text again (`write_scan`).  By
     induction on the parts, the scan of a text written from them finds exactly these parts, whatever
     keywords were seen already (`scan_write`).  A keyword of an earlier section may stand again in a
     later one.
-/
import DocStub.Doc.Section

namespace DocStub

namespace Text

/-- If what follows begins with a character that the word does not have, the word cannot reach into it. -/
theorem dropPrefix?_append_of_not_mem {s : Text} :
    ∀ {w t : Text}, (∀ c, s.head? = some c → c ∉ w) →
      dropPrefix? w (t ++ s) = (dropPrefix? w t).map (· ++ s)
  | [], _, _ => rfl
  | x :: w, [], h => by
    cases s with
    | nil => rfl
    | cons c s =>
      have hx : x ≠ c := fun hx => h c rfl (hx ▸ List.mem_cons_self)
      simp [dropPrefix?, hx]
  | x :: w, y :: t, h => by
    rw [List.cons_append, dropPrefix?, dropPrefix?]
    split
    · exact dropPrefix?_append_of_not_mem fun c hc hw => h c hc (List.mem_cons_of_mem x hw)
    · rfl

end Text

namespace Keyword

theorem mem_all (k : Keyword) : k ∈ all := by cases k <;> decide

theorem text_ne_nil (k : Keyword) : k.text ≠ [] := by cases k <;> decide

/-! ## Cuts -/

/-- No keyword occurs in the text, other than those in `seen`. -/
def Free (seen : List Keyword) (t : Text) : Prop := ∀ k, k ∉ seen → ¬ k.text <:+: t

/-- No keyword that begins in front of the text can reach into it. -/
def IsCut (s : Text) : Prop := ∀ c, s.head? = some c → ∀ k : Keyword, c ∉ k.text.tail

/-- Every text can be cut at its end. -/
theorem isCut_nil : IsCut [] := fun _ h => nomatch h

/-- A text can be cut in front of a keyword, for a keyword has one capital letter, its first. -/
theorem isCut_keyword (k : Keyword) (s : Text) : IsCut (k.text ++ s) := by
  intro c hc j
  cases k <;> obtain rfl := Option.some.inj hc <;> cases j <;> decide

/-- What is found at the front does not depend on what follows the cut. -/
theorem cut?_append {s : Text} (hs : IsCut s) (c : Char) (t : Text) :
    cut? (c :: t ++ s) = (cut? (c :: t)).map fun p => (p.1, p.2 ++ s) := by
  have hdrop (k : Keyword) :
      Text.dropPrefix? k.text (c :: t ++ s) = (Text.dropPrefix? k.text (c :: t)).map (· ++ s) := by
    obtain ⟨x, w, hw⟩ : ∃ x w, k.text = x :: w := by cases k <;> exact ⟨_, _, rfl⟩
    rw [hw, List.cons_append, Text.dropPrefix?, Text.dropPrefix?]
    split
    · refine Text.dropPrefix?_append_of_not_mem fun d hd hmem => hs d hd k ?_
      rw [hw]
      exact hmem
    · rfl
  simp only [cut?, all, List.findSome?_cons, List.findSome?_nil, hdrop, Option.map_map]
  cases Text.dropPrefix? usage.text (c :: t) <;> cases Text.dropPrefix? returns.text (c :: t) <;>
    cases Text.dropPrefix? parameters.text (c :: t) <;> rfl

/-- The keywords begin with different letters, so the one that stands there is the one that is found. -/
theorem cut?_keyword (k : Keyword) (s : Text) : cut? (k.text ++ s) = some (k, s) := by
  cases k <;> rfl

/-- A cut takes the keyword away, and nothing else. -/
theorem eq_of_cut? {k : Keyword} {s r : Text} (h : cut? s = some (k, r)) : s = k.text ++ r := by
  obtain ⟨j, -, hj⟩ := List.exists_of_findSome?_eq_some h
  obtain ⟨t, ht, he⟩ := Option.map_eq_some_iff.1 hj
  obtain ⟨rfl, rfl⟩ := Prod.mk.inj he
  exact Text.dropPrefix?_eq_some_iff.1 ht

/-- A keyword that is found at the front occurs in the text. -/
theorem infix_of_cut? {k : Keyword} {s r : Text} (h : cut? s = some (k, r)) : k.text <:+: s := by
  rw [eq_of_cut? h]
  exact List.infix_append' [] k.text r

end Keyword

namespace Sections

open Keyword (Free IsCut)

/-! ## One part -/

/-- Where nothing new begins, the scan goes one character further. -/
theorem scan_of_seen {seen : List Keyword} {c : Char} {r : Text}
    (h : ∀ k b, Keyword.cut? (c :: r) = some (k, b) → k ∈ seen) :
    scan seen (c :: r) = (c :: (scan seen r).1, (scan seen r).2) := by
  rw [scan]
  split
  · next k b hk => rw [if_pos (h k b hk)]
  · rfl

/-- Over a text without new keywords the scan goes to the cut behind it. -/
theorem scan_append {seen : List Keyword} {t s : Text} (ht : Free seen t) (hs : IsCut s) :
    scan seen (t ++ s) = (t ++ (scan seen s).1, (scan seen s).2) := by
  induction t with
  | nil => rfl
  | cons c t ih =>
    have hfree : Free seen t := fun k hk hin => ht k hk (List.infix_cons hin)
    -- what stands here does not reach over the cut, so it stands in the text in front of it
    have hseen : ∀ k b, Keyword.cut? (c :: (t ++ s)) = some (k, b) → k ∈ seen := by
      intro k b hk
      rw [← List.cons_append, Keyword.cut?_append hs] at hk
      obtain ⟨p, hp, he⟩ := Option.map_eq_some_iff.1 hk
      obtain ⟨rfl, -⟩ := Prod.mk.inj he
      exact Classical.not_not.1 fun hnot => ht p.1 hnot (Keyword.infix_of_cut? hp)
    rw [List.cons_append, scan_of_seen hseen, ih hfree]
    rfl

/-- A text without new keywords has no sections. -/
theorem scan_of_free {seen : List Keyword} {t : Text} (ht : Free seen t) : scan seen t = (t, []) := by
  have h := scan_append ht Keyword.isCut_nil
  rwa [List.append_nil, scan, List.append_nil] at h

/-- A new keyword opens its section, and is not new any more. -/
theorem scan_keyword {seen : List Keyword} {k : Keyword} (hk : k ∉ seen) (s : Text) :
    scan seen (k.text ++ s) = ([], (k, (scan (k :: seen) s).1) :: (scan (k :: seen) s).2) := by
  obtain ⟨c, w, hw⟩ : ∃ c w, k.text = c :: w := by cases k <;> exact ⟨_, _, rfl⟩
  have hcut := Keyword.cut?_keyword k s
  rw [hw, List.cons_append] at hcut ⊢
  rw [scan]
  split
  · next j b hj =>
    rw [hcut] at hj
    obtain ⟨rfl, rfl⟩ := Prod.mk.inj (Option.some.inj hj)
    rw [if_neg hk]
  · next hnone => exact absurd (hcut.symm.trans hnone) (by simp)

/-! ## All parts -/

/-- A description, and sections behind it. -/
def write (description : Text) (parts : List (Keyword × Text)) : Text :=
  description ++ parts.flatMap fun p => p.1.text ++ p.2

/-- The keywords are new and differ, and the body of a section holds none that comes only later. -/
def Apart : List Keyword → List (Keyword × Text) → Prop
  | _, [] => True
  | seen, (k, body) :: parts => k ∉ seen ∧ Free (k :: seen) body ∧ Apart (k :: seen) parts

/-- A text can be cut in front of written sections, also if there are none. -/
theorem isCut_parts (parts : List (Keyword × Text)) :
    IsCut (parts.flatMap fun p => p.1.text ++ p.2) := by
  cases parts with
  | nil => exact Keyword.isCut_nil
  | cons p parts =>
    rw [List.flatMap_cons, List.append_assoc]
    exact Keyword.isCut_keyword p.1 _

/-- Nothing of a text is lost when it is cut into its parts. -/
theorem write_scan (seen : List Keyword) (s : Text) : write (scan seen s).1 (scan seen s).2 = s := by
  fun_induction scan seen s with
  | case1 => rfl
  | case2 seen c r k body hcut hk ih => exact congrArg (c :: ·) ih
  | case3 seen c r k body hcut hk ih =>
    have hbody : k.text ++ write (scan (k :: seen) body).1 (scan (k :: seen) body).2 = c :: r := by
      rw [ih, Keyword.eq_of_cut? hcut]
    rw [← hbody, write, write, List.nil_append, List.flatMap_cons, List.append_assoc]
  | case4 seen c r hcut ih => exact congrArg (c :: ·) ih

/-- The description stands in the text. -/
theorem description_infix (blob : Text) : (split blob).description <:+: blob :=
  ⟨[], _, write_scan [] blob⟩

/-- The body of a section stands in the text. -/
theorem lookup_infix {k : Keyword} {blob body : Text} (h : (scan [] blob).2.lookup k = some body) :
    body <:+: blob := by
  obtain ⟨front, back, hparts, -⟩ := List.lookup_eq_some_iff.1 h
  have hblob := write_scan [] blob
  rw [hparts, write, List.flatMap_append, List.flatMap_cons] at hblob
  refine ⟨(scan [] blob).1 ++ (front.flatMap fun p => p.1.text ++ p.2) ++ k.text,
    back.flatMap fun p => p.1.text ++ p.2, ?_⟩
  simpa only [List.append_assoc] using hblob

/-- The scan of written parts finds these parts. -/
theorem scan_write {seen : List Keyword} {description : Text} {parts : List (Keyword × Text)}
    (hd : Free seen description) (hp : Apart seen parts) :
    scan seen (write description parts) = (description, parts) := by
  induction parts generalizing seen description with
  | nil => rw [write, List.flatMap_nil, List.append_nil, scan_of_free hd]
  | cons p parts ih =>
    obtain ⟨k, body⟩ := p
    obtain ⟨hk, hbody, hparts⟩ := hp
    -- behind its keyword, the body is to the rest what the description was to all
    have hrest : scan (k :: seen) (body ++ parts.flatMap fun p => p.1.text ++ p.2) = (body, parts) :=
      ih hbody hparts
    rw [write, scan_append hd (isCut_parts _), List.flatMap_cons, List.append_assoc, scan_keyword hk,
      hrest, List.append_nil]

/-- Distinct keywords, and no keyword in the bodies: the parts are apart. -/
theorem apart_of_free {seen : List Keyword} {parts : List (Keyword × Text)}
    (hnodup : (parts.map (·.1)).Nodup) (hseen : ∀ p ∈ parts, p.1 ∉ seen)
    (hfree : ∀ p ∈ parts, Free [] p.2) : Apart seen parts := by
  induction parts generalizing seen with
  | nil => trivial
  | cons p parts ih =>
    obtain ⟨hnew, hnodup⟩ := List.nodup_cons.1 hnodup
    refine ⟨hseen p List.mem_cons_self, fun k _ => hfree p List.mem_cons_self k List.not_mem_nil, ?_⟩
    refine ih hnodup (fun q hq hmem => ?_) fun q hq => hfree q (List.mem_cons_of_mem p hq)
    rcases List.mem_cons.1 hmem with he | hmem
    · exact hnew (List.mem_map.2 ⟨q, hq, he⟩)
    · exact hseen q (List.mem_cons_of_mem p hq) hmem

end Sections

end DocStub
