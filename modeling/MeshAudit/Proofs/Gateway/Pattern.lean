import MeshAudit.Gateway.Pattern
import MeshAudit.Proofs.Gateway.Glob

/-!
# The regular expression of a host name pattern

The parts of a host name between its stars stand in every name that it stands for, one after another
and with a text without a line break in every gap. The regular expression of the pattern is found in
exactly these names: escaping leaves nothing of a part that means something else than itself, and
the anchors leave nothing of the name beside the parts and the gaps. The matcher of the gateway
checks agrees with it.
-/

namespace MeshAudit

/-! ### Parts and gaps -/

namespace Glob

/-- Parts one after another, with texts in the gaps between them. -/
def weave : List (List Char) → List (List Char) → List Char
  | [], _ => []
  | part :: _, [] => part
  | part :: parts, fill :: fills => part ++ fill ++ weave parts fills

/-- A character in front of the first part is in front of the whole. -/
theorem weave_cons_cons (c : Char) (part : List Char) (parts fills : List (List Char)) :
    weave ((c :: part) :: parts) fills = c :: weave (part :: parts) fills := by
  cases fills <;> rfl

/-- A star in front puts an empty part in front. -/
theorem splitOn_star_cons (pattern : List Char) :
    ('*' :: pattern).splitOn '*' = [] :: pattern.splitOn '*' := by
  simp [List.splitOn_cons_eq_if_modifyHead]

/-- Another character in front is in front of the first part. -/
theorem splitOn_char_cons {c : Char} (hc : c ≠ '*') (pattern : List Char) :
    ∃ part parts, pattern.splitOn '*' = part :: parts ∧
      (c :: pattern).splitOn '*' = (c :: part) :: parts := by
  obtain ⟨part, parts, hparts⟩ := List.exists_cons_of_ne_nil (List.splitOn_ne_nil '*' pattern)
  refine ⟨part, parts, hparts, ?_⟩
  have hne : ¬ (c == '*') = true := by simpa using hc
  rw [List.splitOn_cons_eq_if_modifyHead, if_neg hne, hparts, List.modifyHead_cons]

/-- A pattern stands for the names that are made of its parts with texts in the gaps. -/
theorem fits_iff_weave {pattern name : List Char} :
    Fits pattern name ↔
      ∃ fills : List (List Char), fills.length + 1 = (pattern.splitOn '*').length ∧
        (∀ fill ∈ fills, '\n' ∉ fill) ∧ name = weave (pattern.splitOn '*') fills := by
  induction pattern generalizing name with
  | nil =>
    rw [fits_nil_iff]
    constructor
    · rintro rfl
      exact ⟨[], by simp, by simp, by simp [weave]⟩
    · rintro ⟨fills, hlength, -, rfl⟩
      cases fills <;> simp_all [weave]
  | cons c pattern ih =>
    by_cases hc : c = '*'
    · subst hc
      rw [fits_star_iff, splitOn_star_cons]
      constructor
      · rintro ⟨fill, rest, rfl, hfill, hrest⟩
        obtain ⟨fills, hlength, hfills, rfl⟩ := ih.1 hrest
        exact ⟨fill :: fills, by simp [hlength], List.forall_mem_cons.2 ⟨hfill, hfills⟩, rfl⟩
      · rintro ⟨fills, hlength, hfills, rfl⟩
        cases fills with
        | nil => simp at hlength
        | cons fill fills =>
          obtain ⟨hfill, hfills⟩ := List.forall_mem_cons.1 hfills
          have hgaps : fills.length + 1 = (pattern.splitOn '*').length := by simpa using hlength
          exact ⟨fill, _, rfl, hfill, ih.2 ⟨fills, hgaps, hfills, rfl⟩⟩
    · obtain ⟨part, parts, hparts, hsplit⟩ := splitOn_char_cons hc pattern
      rw [fits_char_iff hc, hsplit]
      simp only [ih, hparts, weave_cons_cons, List.length_cons]
      constructor
      · rintro ⟨rest, rfl, fills, hlength, hfills, rfl⟩
        exact ⟨fills, hlength, hfills, rfl⟩
      · rintro ⟨fills, hlength, hfills, rfl⟩
        exact ⟨_, rfl, fills, hlength, hfills, rfl⟩

end Glob

/-! ### Reading the expression -/

namespace Regex

/-- A character that means itself is read as such. -/
theorem read?_cons_of_not_mem {c : Char} (hc : c ∉ metaChars) (rest : List Char) :
    read? (c :: rest) = (read? rest).map fun steps => .char c :: steps := by
  have hmeta : ∀ d ∈ metaChars, c ≠ d := fun d hd h => hc (h ▸ hd)
  have hslash := hmeta '\\' (by decide)
  have hdot := hmeta '.' (by decide)
  have hstart := hmeta '^' (by decide)
  have hend := hmeta '$' (by decide)
  rw [read?, if_neg hc] <;> simp [hslash, hdot, hstart, hend]

/-- An escaped character is read as the character. -/
theorem read?_escape_append (c : Char) (rest : List Char) :
    read? (escape [c] ++ rest) = (read? rest).map fun steps => .char c :: steps := by
  by_cases hc : c ∈ metaChars
  · simp [escape, hc, read?]
  · have hescape : escape [c] = [c] := by simp [escape, hc]
    rw [hescape, List.singleton_append, read?_cons_of_not_mem hc]

/-- A character of a host name pattern as it stands in the expression. -/
def writeChar (c : Char) : List Char := if c = '*' then ['.', '*'] else escape [c]

/-- The step that a character of a host name pattern asks for. -/
def stepOf (c : Char) : Step := if c = '*' then .anyRun else .char c

/-- Escaped parts with runs between them are the characters of the pattern one after another. -/
theorem intercalate_escape_splitOn (pattern : List Char) :
    ['.', '*'].intercalate ((pattern.splitOn '*').map escape) = pattern.flatMap writeChar := by
  induction pattern with
  | nil => simp [escape]
  | cons c pattern ih =>
    rw [List.flatMap_cons, ← ih]
    by_cases hc : c = '*'
    · subst hc
      obtain ⟨part, parts, hparts⟩ := List.exists_cons_of_ne_nil (List.splitOn_ne_nil '*' pattern)
      rw [Glob.splitOn_star_cons, hparts]
      simp [writeChar, escape, List.intercalate_cons_cons]
    · obtain ⟨part, parts, hparts, hsplit⟩ := Glob.splitOn_char_cons hc pattern
      have hescape : escape (c :: part) = escape [c] ++ escape part := by simp [escape]
      rw [hsplit, hparts, writeChar, if_neg hc]
      cases parts <;> simp [hescape, List.intercalate_cons_cons]

/-- The characters of a pattern are read as their steps. -/
theorem read?_flatMap_append (pattern rest : List Char) :
    read? (pattern.flatMap writeChar ++ rest) =
      (read? rest).map fun steps => pattern.map stepOf ++ steps := by
  induction pattern with
  | nil => simp
  | cons c pattern ih =>
    have hchar : read? (writeChar c ++ (pattern.flatMap writeChar ++ rest)) =
        (read? (pattern.flatMap writeChar ++ rest)).map fun steps => stepOf c :: steps := by
      by_cases hc : c = '*'
      · simp [writeChar, stepOf, hc, read?]
      · rw [writeChar, stepOf, if_neg hc, if_neg hc, read?_escape_append]
    rw [List.flatMap_cons, List.append_assoc, hchar, ih, Option.map_map]
    rfl

/-- The expression of a host name pattern is read as the steps of its characters between the
anchors. -/
theorem read?_hostPattern (hostname : String) :
    read? (hostPattern hostname).toList =
      some (.textStart :: (hostname.toList.map stepOf ++ [.textEnd])) := by
  have hparts : ((hostname.toList.splitOn '*').map fun part => String.ofList (escape part)).map
      String.toList = (hostname.toList.splitOn '*').map escape := by
    simp [Function.comp_def]
  have hrun : ".*".toList = ['.', '*'] := rfl
  have hchars : (hostPattern hostname).toList =
      '^' :: (hostname.toList.flatMap writeChar ++ ['$']) := by
    simp only [hostPattern, String.toList_append, String.toList_intercalate, hparts, hrun,
      intercalate_escape_splitOn]
    rfl
  rw [hchars, read?, read?_flatMap_append]
  rfl

/-! ### Finding the expression -/

section

variable {steps : List Step} {before after : List Char}

/-- The start of the text is a place with nothing before it. -/
theorem leads_textStart_iff :
    Leads (.textStart :: steps) before after ↔ before = [] ∧ Leads steps [] after := by
  constructor
  · intro h
    cases h with
    | textStart rest => exact ⟨rfl, rest⟩
  · rintro ⟨rfl, h⟩
    exact .textStart h

/-- The end of the text is a place with nothing after it. -/
theorem leads_textEnd_iff : Leads [.textEnd] before after ↔ after = [] := by
  constructor
  · intro h
    cases h with
    | textEnd rest => rfl
  · rintro rfl
    exact .textEnd .done

/-- Between the anchors, the steps of a pattern lead over the names that it stands for. -/
theorem leads_stepOf_iff {pattern : List Char} :
    Leads (pattern.map stepOf ++ [.textEnd]) before after ↔ Glob.Fits pattern after := by
  induction pattern generalizing before after with
  | nil => rw [Glob.fits_nil_iff, List.map_nil, List.nil_append, leads_textEnd_iff]
  | cons c pattern ih =>
    rw [List.map_cons, List.cons_append]
    by_cases hc : c = '*'
    · subst hc
      rw [Glob.fits_star_iff, stepOf, if_pos rfl]
      constructor
      · intro h
        cases h with
        | anyRun hrun rest => exact ⟨_, _, rfl, hrun, ih.1 rest⟩
      · rintro ⟨fill, rest, rfl, hfill, h⟩
        exact .anyRun hfill (ih.2 h)
    · rw [Glob.fits_char_iff hc, stepOf, if_neg hc]
      constructor
      · intro h
        cases h with
        | char rest => exact ⟨_, rfl, ih.1 rest⟩
      · rintro ⟨rest, rfl, h⟩
        exact .char (ih.2 h)

/-- The expression of a pattern is found in the names that the pattern stands for. -/
theorem isFound_stepOf_iff {pattern name : List Char} :
    IsFound (.textStart :: (pattern.map stepOf ++ [.textEnd])) name ↔ Glob.Fits pattern name := by
  simp [IsFound, leads_textStart_iff, leads_stepOf_iff]

end

end Regex

/-! ### Names of a host name -/

/-- A name comes out of a host name when every star gives way to a text without a line break: it is
made of the parts of the host name with one such text in every gap between them. -/
def FillsStars (hostname name : String) : Prop :=
  ∃ fills : List (List Char), fills.length + 1 = (hostname.toList.splitOn '*').length ∧
    (∀ fill ∈ fills, '\n' ∉ fill) ∧ name.toList = Glob.weave (hostname.toList.splitOn '*') fills

/-- The names of a host name are those that it stands for as a pattern. -/
theorem fillsStars_iff_fits {hostname name : String} :
    FillsStars hostname name ↔ Glob.Fits hostname.toList name.toList :=
  Glob.fits_iff_weave.symm

/-- The matcher finds out the names of a host name. -/
theorem globMatches_iff_fillsStars {hostname name : String} :
    globMatches hostname name = true ↔ FillsStars hostname name := by
  rw [globMatches, Glob.matchesChars_iff_fits, fillsStars_iff_fits]

/-- The regular expression of a host name can be read and is found in exactly the names that fill
the gaps between its parts with texts without line breaks. The matcher accepts the same names. -/
theorem hostPattern_finds_fillsStars (hostname : String) :
    ∃ steps, Regex.read? (hostPattern hostname).toList = some steps ∧
      ∀ name : String,
        (Regex.IsFound steps name.toList ↔ FillsStars hostname name) ∧
        (globMatches hostname name = true ↔ FillsStars hostname name) ∧
        ('*' ∉ hostname.toList → (globMatches hostname name = true ↔ name = hostname)) := by
  refine ⟨_, Regex.read?_hostPattern hostname, fun name => ⟨?_, globMatches_iff_fillsStars, ?_⟩⟩
  · rw [Regex.isFound_stepOf_iff, fillsStars_iff_fits]
  · intro hplain
    rw [globMatches_iff_fillsStars, fillsStars_iff_fits, Glob.fits_iff_eq_of_not_mem hplain,
      String.toList_inj]

/-- A dot in a host name stands for nothing but a dot, neither in the expression nor for the
matcher. -/
theorem hostPattern_finds_fillsStars_dot :
    '*' ∉ "reviews.com".toList ∧
    (∃ steps, Regex.read? (hostPattern "reviews.com").toList = some steps ∧
      Regex.IsFound steps "reviews.com".toList ∧ ¬ Regex.IsFound steps "reviews-com".toList) ∧
    globMatches "reviews.com" "reviews-com" = false := by
  have hplain : '*' ∉ "reviews.com".toList := by decide
  obtain ⟨steps, hread, hnames⟩ := hostPattern_finds_fillsStars "reviews.com"
  obtain ⟨hfound, hmatches, heq⟩ := hnames "reviews.com"
  obtain ⟨hfoundOther, hmatchesOther, heqOther⟩ := hnames "reviews-com"
  have hself : globMatches "reviews.com" "reviews.com" = true := (heq hplain).2 rfl
  have hother : ¬ globMatches "reviews.com" "reviews-com" = true := by
    rw [heqOther hplain]
    decide
  refine ⟨hplain, ⟨steps, hread, hfound.2 (hmatches.1 hself), fun h => ?_⟩, ?_⟩
  · exact hother (hmatchesOther.2 (hfoundOther.1 h))
  · simpa using hother

end MeshAudit
