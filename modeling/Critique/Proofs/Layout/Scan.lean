import Critique.Proofs.Text.Blank
import Critique.Scan

/-!
# Visible code and the blanks around a line

Blanks in front of a line are visible or lie in a comment, and the rest is read as before. What
follows a line behind a blank is read as the line leaves the scanner (`modeAfter?`,
`visible_append`), and changes nothing of what is before it. So the trimmed visible code of a line
and the comment that it leaves open do not depend on the blanks around it.
-/

namespace Critique.Scan

open Text (blank isBlank)

variable {margin trail : Text} {c : Char} {directive : Bool}

-- ---------------------------------------------------------------------------
-- Blank characters mean nothing to the scanner
-- ---------------------------------------------------------------------------

theorem isQuote_of_isBlank (h : isBlank c = true) : isQuote c = false :=
  Text.forall_blank (P := fun c => isQuote c = false) (by decide) h

theorem isAlpha_of_isBlank (h : isBlank c = true) : c.isAlpha = false :=
  Text.forall_blank (P := fun c => c.isAlpha = false) (by decide) h

theorem ne_of_isBlank {d : Char} (h : isBlank c = true) (hd : isBlank d = false) : c ≠ d := by
  rintro rfl
  simp [h] at hd

theorem visible_code_blank {afterDot : Bool} (h : isBlank c = true) (rest : Text) :
    visible directive (.code afterDot) (c :: rest) =
      (c :: (visible directive (.code afterDot) rest).1,
        (visible directive (.code afterDot) rest).2) := by
  have hslash : c ≠ '/' := ne_of_isBlank h (by decide)
  have hhash : c ≠ '#' := ne_of_isBlank h (by decide)
  rw [visible.eq_def]
  simp [hslash, hhash, isQuote_of_isBlank h, h]

theorem visible_comment_blank (h : isBlank c = true) (rest : Text) :
    visible directive .comment (c :: rest) = visible directive .comment rest := by
  have hstar : c ≠ '*' := ne_of_isBlank h (by decide)
  rw [visible.eq_def]
  simp [hstar]

theorem visible_quoted_blank {mark : Char} (h : isBlank c = true) (hm : isBlank mark = false)
    (rest : Text) :
    visible directive (.quoted mark) (c :: rest) = visible directive (.quoted mark) rest := by
  have hslash : c ≠ '\\' := ne_of_isBlank h (by decide)
  rw [visible.eq_def]
  simp [hslash, ne_of_isBlank h hm]

-- ---------------------------------------------------------------------------
-- Blanks in front
-- ---------------------------------------------------------------------------

theorem visible_code_append (hm : blank margin = true) (afterDot : Bool) (l : Text) :
    visible directive (.code afterDot) (margin ++ l) =
      (margin ++ (visible directive (.code afterDot) l).1,
        (visible directive (.code afterDot) l).2) := by
  induction margin with
  | nil => rfl
  | cons c margin ih =>
    obtain ⟨hc, hm⟩ := Text.blank_cons.mp hm
    rw [List.cons_append, visible_code_blank hc, ih hm]
    rfl

theorem visible_comment_append (hm : blank margin = true) (l : Text) :
    visible directive .comment (margin ++ l) = visible directive .comment l := by
  induction margin with
  | nil => rfl
  | cons c margin ih =>
    obtain ⟨hc, hm⟩ := Text.blank_cons.mp hm
    rw [List.cons_append, visible_comment_blank hc, ih hm]

theorem isDirective_margin (hm : blank margin = true) (l : Text) :
    isDirective (margin ++ l) = isDirective l := by
  rw [isDirective, Text.trimStart_blank_append hm, isDirective]

/-- Blanks in front of a line are read as blanks or not at all. -/
theorem line_margin (hm : blank margin = true) (inComment : Bool) (l : Text) :
    Text.trim (line inComment (margin ++ l)).1 = Text.trim (line inComment l).1 ∧
      (line inComment (margin ++ l)).2 = (line inComment l).2 := by
  rw [line, line, isDirective_margin hm]
  cases inComment with
  | false =>
    rw [if_neg Bool.false_ne_true, visible_code_append hm]
    exact ⟨Text.trim_blank_append hm _, rfl⟩
  | true =>
    rw [if_pos rfl, visible_comment_append hm]
    exact ⟨rfl, rfl⟩

-- ---------------------------------------------------------------------------
-- The mode behind a text
-- ---------------------------------------------------------------------------

/-- How the scanner stands behind a text, unless it takes what follows on the line for a comment. -/
def modeAfter? (directive : Bool) : Mode → Text → Option Mode
  | mode, [] => some mode
  | .comment, '*' :: '/' :: rest => modeAfter? directive (.code false) rest
  | .comment, _ :: rest => modeAfter? directive .comment rest
  | .quoted mark, ['\\'] => some (.quoted mark)
  | .quoted mark, '\\' :: _ :: rest => modeAfter? directive (.quoted mark) rest
  | .quoted mark, c :: rest =>
    modeAfter? directive (if c = mark then .code false else .quoted mark) rest
  | .code _, '/' :: '/' :: _ => none
  | .code _, '/' :: '*' :: rest => modeAfter? directive .comment rest
  | .code afterDot, c :: rest =>
    if c = '#' && !directive && hashStartsComment afterDot rest.head? then none
    else modeAfter? directive
      (if isQuote c then .quoted c else .code (if isBlank c then afterDot else c == '.')) rest

/-- A string literal is between quotes. -/
def Mode.Proper : Mode → Prop
  | .quoted mark => isQuote mark = true
  | _ => True

theorem not_isBlank_of_isQuote (h : isQuote c = true) : isBlank c = false := by
  cases hb : isBlank c with
  | false => rfl
  | true => simp [isQuote_of_isBlank hb] at h

theorem Mode.proper_next (c : Char) (afterDot : Bool) :
    (if isQuote c then Mode.quoted c else .code afterDot).Proper := by
  split
  · assumption
  · trivial

theorem Mode.proper_inside {mark : Char} (h : (Mode.quoted mark).Proper) (c : Char) :
    (if c = mark then Mode.code false else .quoted mark).Proper := by
  split
  · trivial
  · exact h

theorem modeAfter?_proper {mode last : Mode} {l : Text} (hmode : mode.Proper)
    (h : modeAfter? directive mode l = some last) : last.Proper := by
  fun_induction modeAfter? directive mode l with
  | case1 mode => exact Option.some.inj h ▸ hmode
  | case2 rest ih => exact ih trivial h
  | case3 c rest _ ih => exact ih trivial h
  | case4 mark => exact Option.some.inj h ▸ hmode
  | case5 mark c rest ih => exact ih hmode h
  | case6 mark c rest _ _ ih => exact ih (Mode.proper_inside hmode c) h
  | case7 | case9 => cases h
  | case8 afterDot rest ih => exact ih trivial h
  | case10 afterDot c rest _ _ _ ih => exact ih (Mode.proper_next c _) h

/-- A block comment is open behind a text if the scanner stands in one. -/
theorem visible_snd (directive : Bool) (mode : Mode) (l : Text) :
    (visible directive mode l).2 = decide (modeAfter? directive mode l = some .comment) := by
  fun_induction visible directive mode l with
  | case1 mode => simp [modeAfter?]
  | case2 rest ih => simpa only [modeAfter?] using ih
  | case3 c rest hclose ih => rwa [modeAfter?.eq_3 _ _ _ hclose]
  | case4 mark => simp [modeAfter?]
  | case5 mark c rest ih => simpa only [modeAfter?] using ih
  | case6 mark rest hend hnext seen isOpen hseen ih =>
    rw [hseen] at ih
    rwa [modeAfter?.eq_6 _ _ _ _ hend hnext, if_pos rfl]
  | case7 mark c rest hend hnext hne ih => rwa [modeAfter?.eq_6 _ _ _ _ hend hnext, if_neg hne]
  | case8 afterDot rest => simp [modeAfter?]
  | case9 afterDot rest ih => simpa only [modeAfter?] using ih
  | case10 afterDot c rest hline hblock hhash =>
    simp [modeAfter?.eq_9 _ _ _ _ hline hblock, hhash]
  | case11 afterDot c rest hline hblock hhash mode seen isOpen hseen ih =>
    rw [hseen] at ih
    rwa [modeAfter?.eq_9 _ _ _ _ hline hblock, if_neg hhash]

-- ---------------------------------------------------------------------------
-- What a blank divides
-- ---------------------------------------------------------------------------

/-- A blank behind a text does not put a character that is not blank next. -/
theorem append_ne_cons {d : Char} (hd : isBlank d = false) (hc : isBlank c = true) {l : Text}
    (h : ∀ tail, l = d :: tail → False) (more tail : Text) :
    l ++ c :: more = d :: tail → False := by
  intro he
  cases l with
  | nil =>
    obtain ⟨rfl, -⟩ := List.cons.inj he
    simp [hc] at hd
  | cons e l => exact h l (by simp_all)

theorem hashStartsComment_append (afterDot : Bool) (hc : isBlank c = true) (l more : Text) :
    hashStartsComment afterDot (l ++ c :: more).head? = hashStartsComment afterDot l.head? := by
  cases l with
  | cons d l => rfl
  | nil =>
    have hopen : c ≠ '[' := ne_of_isBlank hc (by decide)
    have hbang : c ≠ '!' := ne_of_isBlank hc (by decide)
    simp [hashStartsComment, hopen, hbang]

/-- Behind a text that ends in front of a blank, the scanner goes on as it stands there. -/
theorem visible_append (directive : Bool) {mode : Mode} (hmode : mode.Proper)
    (hc : isBlank c = true) (l more : Text) :
    visible directive mode (l ++ c :: more) =
      match modeAfter? directive mode l with
      | none => visible directive mode l
      | some last => ((visible directive mode l).1 ++ (visible directive last (c :: more)).1,
          (visible directive last (c :: more)).2) := by
  have hslash : isBlank '/' = false := by decide
  have hstar : isBlank '*' = false := by decide
  -- The scanner looks at up to two characters. If the text ends after the first, the second is now
  -- a blank, which none of its cases asks for.
  fun_induction visible directive mode l with
  | case1 mode => simp [modeAfter?]
  | case2 rest ih => simpa only [List.cons_append, visible, modeAfter?] using ih trivial
  | case3 d rest hclose ih =>
    rw [List.cons_append, visible.eq_3 _ _ _ fun tail hd =>
      append_ne_cons hslash hc (fun _ => hclose _ hd) more tail, modeAfter?.eq_3 _ _ _ hclose]
    exact ih trivial
  | case4 mark =>
    have hm := not_isBlank_of_isQuote hmode
    simp [visible, modeAfter?, visible_quoted_blank hc hm]
  | case5 mark d rest ih => simpa only [List.cons_append, visible, modeAfter?] using ih hmode
  | case6 mark rest hend hnext seen isOpen hseen ih =>
    have hd : mark ≠ '\\' := by
      rintro rfl
      cases hmode
    rw [List.cons_append, visible.eq_6 _ _ _ _ (absurd · hd) (fun _ _ => (absurd · hd)),
      if_pos rfl, ih trivial, hseen, modeAfter?.eq_6 _ _ _ _ hend hnext, if_pos rfl]
    cases modeAfter? directive (.code false) rest <;> rfl
  | case7 mark d rest hend hnext hne ih =>
    have hd : d ≠ '\\' := by
      rintro rfl
      cases rest with
      | nil => exact hend rfl rfl
      | cons e rest => exact hnext e rest rfl rfl
    rw [List.cons_append, visible.eq_6 _ _ _ _ (absurd · hd) (fun _ _ => (absurd · hd)),
      if_neg hne, ih hmode, modeAfter?.eq_6 _ _ _ _ hend hnext, if_neg hne]
  | case8 afterDot rest => simp only [List.cons_append, visible, modeAfter?]
  | case9 afterDot rest ih =>
    simpa only [List.cons_append, visible, modeAfter?] using ih trivial
  | case10 afterDot d rest hline hblock hhash =>
    rw [List.cons_append, visible.eq_9 _ _ _ _
      (fun tail hd => append_ne_cons hslash hc (fun _ => hline _ hd) more tail)
      (fun tail hd => append_ne_cons hstar hc (fun _ => hblock _ hd) more tail),
      hashStartsComment_append afterDot hc, if_pos hhash,
      modeAfter?.eq_9 _ _ _ _ hline hblock, if_pos hhash]
  | case11 afterDot d rest hline hblock hhash mode seen isOpen hseen ih =>
    have hnext := ih (Mode.proper_next d _)
    rw [hseen] at hnext
    rw [List.cons_append, visible.eq_9 _ _ _ _
      (fun tail hd => append_ne_cons hslash hc (fun _ => hline _ hd) more tail)
      (fun tail hd => append_ne_cons hstar hc (fun _ => hblock _ hd) more tail),
      hashStartsComment_append afterDot hc, if_neg hhash,
      modeAfter?.eq_9 _ _ _ _ hline hblock, if_neg hhash]
    simp only
    rw [hnext]
    cases modeAfter? directive mode rest <;> rfl

-- ---------------------------------------------------------------------------
-- Blanks behind
-- ---------------------------------------------------------------------------

theorem visible_blank (directive : Bool) {mode : Mode} (hmode : mode.Proper)
    (ht : blank trail = true) :
    ∃ rest, blank rest = true ∧
      visible directive mode trail = (rest, decide (mode = .comment)) := by
  induction trail with
  | nil => exact ⟨[], rfl, visible.eq_1 ..⟩
  | cons c trail ih =>
    obtain ⟨hc, ht⟩ := Text.blank_cons.mp ht
    obtain ⟨rest, hb, hr⟩ := ih ht
    cases mode with
    | code afterDot =>
      exact ⟨c :: rest, by simpa [blank, hc] using hb, by rw [visible_code_blank hc, hr]⟩
    | quoted mark =>
      exact ⟨rest, hb, by rw [visible_quoted_blank hc (not_isBlank_of_isQuote hmode), hr]⟩
    | comment => exact ⟨rest, hb, by rw [visible_comment_blank hc, hr]⟩

theorem visible_append_blank (directive : Bool) {mode : Mode} (hmode : mode.Proper)
    (ht : blank trail = true) (l : Text) :
    ∃ rest, blank rest = true ∧ visible directive mode (l ++ trail) =
      ((visible directive mode l).1 ++ rest, (visible directive mode l).2) := by
  cases trail with
  | nil => exact ⟨[], rfl, by simp⟩
  | cons c trail =>
    rw [visible_append directive hmode (Text.blank_cons.mp ht).1]
    cases hlast : modeAfter? directive mode l with
    | none => exact ⟨[], rfl, by simp⟩
    | some last =>
      obtain ⟨rest, hb, hr⟩ := visible_blank directive (modeAfter?_proper hmode hlast) ht
      exact ⟨rest, hb, by simp only [hr, visible_snd, hlast, Option.some.injEq]⟩

/-- A text that goes on with a blank, behind which there is neither a letter nor a hash. -/
structure Apart (more : Text) : Prop where
  blankFirst : ∀ c ∈ more.head?, isBlank c = true
  noWord : (Text.trimStart more).takeWhile Char.isAlpha = []
  noHash : ∀ rest, Text.trimStart more ≠ '#' :: rest

theorem Apart.of_blank (ht : blank trail = true) : Apart trail := by
  constructor
  · exact Text.head_of_blank ht
  · rw [Text.trimStart_of_blank ht]
    rfl
  · rw [Text.trimStart_of_blank ht]
    exact fun rest h => nomatch h

variable {more : Text}

theorem Apart.firstWord_append (h : Apart more) (l : Text) :
    (Text.trimStart (l ++ more)).takeWhile Char.isAlpha =
      (Text.trimStart l).takeWhile Char.isAlpha := by
  cases hl : blank l with
  | true => rw [Text.trimStart_blank_append hl, Text.trimStart_of_blank hl, h.noWord]; rfl
  | false =>
    have hword : ∀ c ∈ more.head?, c.isAlpha = false :=
      fun c hc => isAlpha_of_isBlank (h.blankFirst c hc)
    rw [Text.trimStart_append_blank hl, Text.takeWhile_append_of_head hword]

theorem Apart.isDirective_append (h : Apart more) (l : Text) :
    isDirective (l ++ more) = isDirective l := by
  cases hl : blank l with
  | true =>
    rw [isDirective, isDirective, Text.trimStart_blank_append hl, Text.trimStart_of_blank hl]
    split
    · next rest hrest => exact absurd hrest (h.noHash rest)
    · rfl
  | false =>
    rw [isDirective, isDirective, Text.trimStart_append_blank hl]
    cases hs : Text.trimStart l with
    | nil =>
      have : blank l = true := List.all_eq_true.mpr (List.dropWhile_eq_nil_iff.mp hs)
      simp [hl] at this
    | cons c rest =>
      by_cases hc : c = '#'
      · subst hc
        simp only [List.cons_append, h.firstWord_append]
      · simp [hc]

theorem line_append_blank (ht : blank trail = true) (inComment : Bool) (l : Text) :
    Text.trim (line inComment (l ++ trail)).1 = Text.trim (line inComment l).1 ∧
      (line inComment (l ++ trail)).2 = (line inComment l).2 := by
  have hmode : Mode.Proper (if inComment then .comment else .code false) := by
    cases inComment <;> trivial
  obtain ⟨rest, hb, hr⟩ := visible_append_blank (isDirective l) hmode ht l
  rw [line, line, (Apart.of_blank ht).isDirective_append, hr]
  exact ⟨Text.trim_append_blank hb _, rfl⟩

theorem line_of_blank {l : Text} (h : blank l = true) (inComment : Bool) :
    Text.trim (line inComment l).1 = [] ∧ (line inComment l).2 = inComment := by
  have hstart : line inComment [] = ([], inComment) := by cases inComment <;> rfl
  obtain ⟨hcode, hcomment⟩ := line_append_blank h inComment []
  rw [List.nil_append, hstart] at hcode hcomment
  exact ⟨hcode, hcomment⟩

end Critique.Scan
