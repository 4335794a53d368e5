import Mathlib.Data.List.Basic
import MeshAudit.Gateway.Glob

/-!
# What a host name pattern stands for

A pattern stands for every name that comes out of it when each star gives way to a text without a
line break. The matcher reads the pattern from left to right and keeps marks on the places of the
name. A mark stands where the part of the pattern read so far can end, and every character keeps it
so. After the whole pattern, the mark on the last place tells whether the pattern stands for the
name.
-/

namespace MeshAudit.Glob

/-- A pattern stands for a name: a star for any text without a line break, and every other character
for itself. -/
inductive Fits : List Char → List Char → Prop where
  /-- Nothing stands for nothing. -/
  | nil : Fits [] []
  /-- A character stands for itself. -/
  | char {c : Char} {pattern name : List Char} (hc : c ≠ '*') (rest : Fits pattern name) :
    Fits (c :: pattern) (c :: name)
  /-- A star stands for a text without a line break. -/
  | star {fill pattern name : List Char} (hfill : '\n' ∉ fill) (rest : Fits pattern name) :
    Fits ('*' :: pattern) (fill ++ name)

section

variable {pattern other name : List Char}

/-- The empty pattern stands for the empty name only. -/
theorem fits_nil_iff : Fits [] name ↔ name = [] := by
  constructor
  · rintro ⟨⟩
    rfl
  · rintro rfl
    exact .nil

/-- A pattern that starts with a character stands for names that start with it. -/
theorem fits_char_iff {c : Char} (hc : c ≠ '*') :
    Fits (c :: pattern) name ↔ ∃ rest, name = c :: rest ∧ Fits pattern rest := by
  constructor
  · intro h
    cases h with
    | char _ rest => exact ⟨_, rfl, rest⟩
    | star _ _ => exact absurd rfl hc
  · rintro ⟨rest, rfl, h⟩
    exact .char hc h

/-- A pattern that starts with a star stands for names that start with its text. -/
theorem fits_star_iff :
    Fits ('*' :: pattern) name ↔
      ∃ fill rest, name = fill ++ rest ∧ '\n' ∉ fill ∧ Fits pattern rest := by
  constructor
  · intro h
    cases h with
    | char hc _ => exact absurd rfl hc
    | star hfill rest => exact ⟨_, _, rfl, hfill, rest⟩
  · rintro ⟨fill, rest, rfl, hfill, h⟩
    exact .star hfill h

/-- A pattern without stars stands for itself only. -/
theorem fits_iff_eq_of_not_mem (h : '*' ∉ pattern) :
    Fits pattern name ↔ name = pattern := by
  induction pattern generalizing name with
  | nil => exact fits_nil_iff
  | cons c pattern ih =>
    obtain ⟨hc, hpattern⟩ : c ≠ '*' ∧ '*' ∉ pattern := by simpa [eq_comm] using h
    simp [fits_char_iff hc, ih hpattern]

/-- Two patterns one after the other stand for names of the first followed by names of the
second. -/
theorem fits_append_iff :
    Fits (pattern ++ other) name ↔
      ∃ front back, name = front ++ back ∧ Fits pattern front ∧ Fits other back := by
  constructor
  · intro h
    induction pattern generalizing name with
    | nil => exact ⟨[], name, rfl, .nil, h⟩
    | cons c pattern ih =>
      by_cases hc : c = '*'
      · subst hc
        obtain ⟨fill, rest, rfl, hfill, hrest⟩ := fits_star_iff.1 h
        obtain ⟨front, back, rfl, hfront, hback⟩ := ih hrest
        exact ⟨fill ++ front, back, (List.append_assoc ..).symm, .star hfill hfront, hback⟩
      · obtain ⟨rest, rfl, hrest⟩ := (fits_char_iff hc).1 h
        obtain ⟨front, back, rfl, hfront, hback⟩ := ih hrest
        exact ⟨c :: front, back, rfl, .char hc hfront, hback⟩
  · rintro ⟨front, back, rfl, hfront, hback⟩
    induction hfront with
    | nil => exact hback
    | char hc _ ih => exact .char hc ih
    | star hfill _ ih =>
      rw [List.append_assoc]
      exact .star hfill ih

end

/-! ### Marked places -/

/-- Marks on the places of a name that stand exactly where a beginning of it has a property. -/
inductive Marks : (List Char → Prop) → List Char → Places → Prop where
  /-- An empty name has one place. -/
  | nil {reached : List Char → Prop} {here : Bool} (hhere : here = true ↔ reached []) :
    Marks reached [] [here]
  /-- The other places are those of the rest of the name. -/
  | cons {reached : List Char → Prop} {d : Char} {name : List Char} {here : Bool}
      {places : Places} (hhere : here = true ↔ reached [])
      (rest : Marks (fun front => reached (d :: front)) name places) :
    Marks reached (d :: name) (here :: places)

section

variable {reached : List Char → Prop} {name : List Char} {places : Places}

/-- Marks are about nothing but the property itself. -/
theorem Marks.congr {other : List Char → Prop} (h : Marks reached name places)
    (hsame : ∀ front, reached front ↔ other front) : Marks other name places := by
  have hproperty : reached = other := funext fun front => propext (hsame front)
  exact hproperty ▸ h

/-- There is a place even in an empty name. -/
theorem Marks.ne_nil (h : Marks reached name places) : places ≠ [] := by
  cases h <;> exact List.cons_ne_nil _ _

/-- The mark on the last place is about the whole name. -/
theorem Marks.getLast?_eq_some_iff (h : Marks reached name places) :
    places.getLast? = some true ↔ reached name := by
  induction h with
  | nil hhere => simpa using hhere
  | cons _ rest ih =>
    obtain ⟨first, others, hplaces⟩ := List.exists_cons_of_ne_nil rest.ne_nil
    rw [hplaces] at ih ⊢
    rw [List.getLast?_cons_cons]
    exact ih

/-- At first nothing but the first place can be marked. -/
theorem marks_first (here : Bool) (name : List Char) :
    Marks (fun front => front = [] ∧ here = true) name (here :: name.map fun _ => false) := by
  induction name generalizing here with
  | nil => exact .nil (by simp)
  | cons d name ih =>
    refine .cons (by simp) ?_
    exact (ih false).congr fun front => by simp

/-- Before the pattern is read, only the empty beginning is reached. -/
theorem marks_start (name : List Char) : Marks (fun front => front = []) name (start name) :=
  (marks_first true name).congr fun front => by simp

/-- A character moves the marks over itself; the first mark is given. -/
theorem Marks.zipWith (h : Marks reached name places) (c : Char) (first : Bool) :
    Marks (fun front => front = [] ∧ first = true ∨ ∃ before, front = before ++ [c] ∧ reached before)
      name (first :: List.zipWith (fun d here => here && d == c) name places) := by
  induction h generalizing first with
  | nil _ => exact .nil (by simp)
  | @cons reached d name here places hhere rest ih =>
    refine .cons (by simp) ?_
    refine (ih (here && d == c)).congr fun front => ?_
    constructor
    · rintro (⟨rfl, hmark⟩ | ⟨before, rfl, hbefore⟩)
      · obtain ⟨hmark, hd⟩ : here = true ∧ d = c := by simpa using hmark
        exact .inr ⟨[], by rw [hd]; rfl, hhere.1 hmark⟩
      · exact .inr ⟨d :: before, rfl, hbefore⟩
    · rintro (⟨hnil, -⟩ | ⟨before, hfront, hbefore⟩)
      · cases hnil
      · cases before with
        | nil =>
          obtain ⟨rfl, rfl⟩ : d = c ∧ front = [] := by simpa using hfront
          exact .inl ⟨rfl, by simp [hhere.2 hbefore]⟩
        | cons e before =>
          obtain ⟨rfl, rfl⟩ := List.cons_eq_cons.1 hfront
          exact .inr ⟨before, rfl, hbefore⟩

/-- After a character, the beginnings are reached that were reached without it at their end. -/
theorem Marks.overChar (h : Marks reached name places) (c : Char) :
    Marks (fun front => ∃ before, front = before ++ [c] ∧ reached before) name
      (Glob.overChar c name places) :=
  (h.zipWith c false).congr fun front => by simp

/-- After a star, the beginnings are reached that were reached without a text at their end that has
no line break. A text that began before the name can end in it as well. -/
theorem Marks.overStar (h : Marks reached name places) (running : Bool) :
    Marks (fun front => running = true ∧ '\n' ∉ front ∨
        ∃ before fill, front = before ++ fill ∧ reached before ∧ '\n' ∉ fill)
      name (Glob.overStar running name places) := by
  induction h generalizing running with
  | nil hhere => exact .nil (by simp [hhere])
  | @cons reached d name here places hhere rest ih =>
    refine .cons (by simp [hhere]) ?_
    refine (ih ((running || here) && d != '\n')).congr fun front => ?_
    constructor
    · rintro (⟨hrunning, hfront⟩ | ⟨before, fill, rfl, hbefore, hfill⟩)
      · obtain ⟨hstart, hd⟩ : (running = true ∨ here = true) ∧ d ≠ '\n' := by
          simpa using hrunning
        have hline : '\n' ∉ d :: front := by simp [hd.symm, hfront]
        rcases hstart with hrunning | hmark
        · exact .inl ⟨hrunning, hline⟩
        · exact .inr ⟨[], d :: front, rfl, hhere.1 hmark, hline⟩
      · exact .inr ⟨d :: before, fill, rfl, hbefore, hfill⟩
    · have hgoes : (running || here) = true → '\n' ∉ d :: front →
          ((running || here) && d != '\n') = true ∧ '\n' ∉ front := by
        intro hstart hline
        obtain ⟨hd, hfront⟩ : '\n' ≠ d ∧ '\n' ∉ front := by simpa using hline
        exact ⟨by simp [hstart, hd.symm], hfront⟩
      rintro (⟨hrunning, hline⟩ | ⟨before, fill, hfront, hbefore, hfill⟩)
      · exact .inl (hgoes (by simp [hrunning]) hline)
      · cases before with
        | nil =>
          rw [List.nil_append] at hfront
          exact .inl (hgoes (by simp [hhere.2 hbefore]) (hfront ▸ hfill))
        | cons e before =>
          obtain ⟨rfl, rfl⟩ := List.cons_eq_cons.1 hfront
          exact .inr ⟨before, fill, rfl, hbefore, hfill⟩

end

/-- One more character of the pattern leaves marks where the longer pattern can end. -/
theorem Marks.advance {pattern name : List Char} {places : Places}
    (h : Marks (Fits pattern) name places) (c : Char) :
    Marks (Fits (pattern ++ [c])) name (Glob.advance name places c) := by
  unfold Glob.advance
  split
  · next hc =>
    refine (h.overStar false).congr fun front => ?_
    rw [hc, fits_append_iff]
    simp [fits_star_iff, fits_nil_iff]
  · next hc =>
    refine (h.overChar c).congr fun front => ?_
    simp only [fits_append_iff, fits_char_iff hc, fits_nil_iff]
    simp

/-- The characters of a pattern one after another leave marks where the pattern can end. -/
theorem Marks.foldl_advance {pattern name : List Char} {places : Places}
    (h : Marks (Fits pattern) name places) (more : List Char) :
    Marks (Fits (pattern ++ more)) name (more.foldl (Glob.advance name) places) := by
  induction more generalizing pattern places with
  | nil => simpa using h
  | cons c more ih =>
    have hnext := ih (h.advance c)
    rwa [List.append_assoc] at hnext

/-- The matcher finds out what a pattern stands for. -/
theorem matchesChars_iff_fits {pattern name : List Char} :
    matchesChars pattern name = true ↔ Fits pattern name := by
  have hstart : Marks (Fits []) name (start name) :=
    (marks_start name).congr fun front => fits_nil_iff.symm
  have hmarks := hstart.foldl_advance pattern
  rw [matchesChars, beq_iff_eq]
  exact hmarks.getLast?_eq_some_iff

end MeshAudit.Glob
