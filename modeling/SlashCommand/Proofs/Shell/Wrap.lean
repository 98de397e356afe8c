import SlashCommand.Proofs.Text.Strip
import SlashCommand.Shell.Console

/-!
# How a text begins on the console

A text is cut into lines, tabs are filled up, and lines that are too wide are broken.  None of it
touches the beginning of a text as long as that has no breaks and no tabs in it, its characters
take one cell each, and no line is broken before its end (`exists_fitLines_eq_cons`).
-/

namespace SlashCommand

namespace Text

variable {start cs : List Char} {c : Char}

/-! ## Pieces and blank ends -/

lemma exists_pieces_eq_cons (separator : Char) (cs : List Char) :
    ∃ piece rest, pieces separator cs = piece :: rest := by
  cases cs with
  | nil => exact ⟨[], [], rfl⟩
  | cons c cs =>
    rw [pieces]
    split
    · split_ifs <;> exact ⟨_, _, rfl⟩
    · exact ⟨_, _, rfl⟩

/-- The first piece begins with what is in front of the first separator. -/
lemma exists_pieces_append_eq_cons {separator : Char} (h : separator ∉ start) (cs : List Char) :
    ∃ piece rest, pieces separator (start ++ cs) = (start ++ piece) :: rest := by
  induction start with
  | nil => exact exists_pieces_eq_cons separator cs
  | cons c start ih =>
    obtain ⟨hc, hstart⟩ := not_or.mp (List.mem_cons.not.mp h)
    obtain ⟨piece, rest, hpieces⟩ := ih hstart
    refine ⟨piece, rest, ?_⟩
    have hne : (c == separator) = false := beq_eq_false_iff_ne.mpr (Ne.symm hc)
    rw [List.cons_append, pieces, hpieces, hne]
    rfl

/-- Cutting the blank end of a text leaves what stands in front of a character that is not
blank. -/
lemma prefix_dropBlankEnd (h : isBlank c = false) (start cs : List Char) :
    start ++ [c] <+: dropBlankEnd (start ++ c :: cs) := by
  rw [dropBlankEnd, dropBlank, List.reverse_append, List.reverse_cons, List.append_assoc,
    List.dropWhile_append]
  split
  · rw [List.singleton_append, List.dropWhile_cons_of_neg (by simp [h])]
    simp
  · simp

end Text

namespace Shell

open Text

variable {start cs : List Char} {width first cells fuel place : Nat} {overflow : Overflow}

/-! ## Tabs -/

lemma exists_expandTabs_append (h : '\t' ∉ start) (cs : List Char) :
    ∃ more, expandTabs (start ++ cs) = start ++ more := by
  obtain ⟨piece, rest, hpieces⟩ := exists_pieces_append_eq_cons h cs
  rw [expandTabs, hpieces]
  cases rest with
  | nil => exact ⟨piece, rfl⟩
  | cons next rest =>
    simp only [fillTabs, List.append_assoc]
    exact ⟨_, rfl⟩

/-! ## Places -/

lemma le_of_mem_foldWord {parts : List (List Char)} (h : place ∈ (foldWord first parts).1) :
    first ≤ place := by
  induction parts generalizing first with
  | nil => cases h
  | cons part parts ih =>
    cases parts with
    | nil =>
      simp only [foldWord] at h
      split_ifs at h
      · cases h
      · exact Nat.le_of_eq (List.mem_singleton.mp h).symm
    | cons next parts =>
      have hlater (h : place ∈ (foldWord (first + part.length) (next :: parts)).1) :
          first ≤ place := Nat.le_of_add_right_le (ih h)
      simp only [foldWord] at h
      split_ifs at h
      · exact hlater h
      · rcases List.mem_cons.mp h with rfl | hrest
        · exact Nat.le_refl place
        · exact hlater hrest

/-- A line is not broken in front of the word that is looked at. -/
lemma le_of_mem_breakPlaces (h : place ∈ breakPlaces width overflow first cells fuel cs) :
    first ≤ place := by
  induction fuel generalizing first cells cs with
  | zero => cases h
  | succ fuel ih =>
    rw [breakPlaces] at h
    split at h
    · cases h
    · next word rest _ =>
      have hlater : ∀ {cells : Nat},
          place ∈ breakPlaces width overflow (first + word.length) cells fuel rest →
            first ≤ place := fun h => Nat.le_of_add_right_le (ih h)
      simp only at h
      split_ifs at h
      · exact hlater h
      · rcases List.mem_append.mp h with hfold | hbehind
        · exact le_of_mem_foldWord hfold
        · exact hlater hbehind
      · exact hlater h
      · rcases List.mem_cons.mp h with rfl | hbehind
        · exact Nat.le_refl place
        · exact hlater hbehind
      · rcases List.mem_cons.mp h with rfl | hbehind
        · exact Nat.le_refl place
        · exact hlater hbehind
      · exact hlater h

/-! ## Parts -/

lemma exists_partsAt_eq_cons {places : List Nat} (h : ∀ place ∈ places, start.length ≤ place)
    (cs : List Char) : ∃ more rest, partsAt (start ++ cs) 0 places = (start ++ more) :: rest := by
  cases places with
  | nil => exact ⟨cs, [], rfl⟩
  | cons place places =>
    have hplace := h place List.mem_cons_self
    rw [partsAt, Nat.sub_zero, List.take_append, List.take_of_length_le hplace]
    exact ⟨_, _, rfl⟩

/-- Blanks that are too many are dropped behind the last character that is not blank. -/
lemma exists_dropExcess_eq_append {c : Char} (h : isBlank c = false) (width : Nat)
    (start cs : List Char) :
    ∃ count, dropExcess width (start ++ c :: cs) = start ++ c :: cs.take count := by
  have hprefix := (prefix_dropBlankEnd h start cs).length_le
  have hlength : (start ++ c :: cs).length = start.length + 1 + cs.length := by
    rw [List.length_append, List.length_cons, Nat.add_assoc, Nat.add_comm 1]
  rw [List.length_append, List.length_singleton] at hprefix
  have hkept : start.length + 1 ≤ (start ++ c :: cs).length -
      min ((start ++ c :: cs).length - (dropBlankEnd (start ++ c :: cs)).length)
        ((start ++ c :: cs).length - width) := by omega
  obtain ⟨count, hcount⟩ := Nat.exists_eq_add_of_le hkept
  refine ⟨count, ?_⟩
  simp only [dropExcess, hcount]
  rw [Nat.add_assoc, List.take_length_add_append, Nat.add_comm 1, List.take_succ_cons]

/-! ## Cutting off -/

/-- Whether a character takes a cell of its own and changes nothing about others. -/
def isPlain (c : Char) : Bool :=
  c != joiner && c != selector && charWidth c == 1

/-- A plain character ends the cluster in front of it and begins one. -/
lemma clustersFrom_of_isPlain {c d : Char} (h : isPlain d = true) (grows : Bool)
    (cs : List Char) :
    clustersFrom [c] 1 grows (d :: cs) = ⟨[c], 1⟩ :: clustersFrom [d] 1 (isWidened d) cs := by
  simp only [isPlain, Bool.and_eq_true, bne_iff_ne, beq_iff_eq] at h
  obtain ⟨⟨hjoiner, hselector⟩, hwidth⟩ := h
  rw [clustersFrom.eq_def]
  simp [hjoiner, hselector, hwidth]

/-- A text of plain characters takes as many cells as it has characters. -/
lemma widthBehind_of_isPlain (h : ∀ c ∈ start, isPlain c = true) (grows : Bool) :
    widthBehind grows start = start.length := by
  induction start generalizing grows with
  | nil => rfl
  | cons c start ih =>
    have hc := h c List.mem_cons_self
    simp only [isPlain, Bool.and_eq_true, bne_iff_ne, beq_iff_eq] at hc
    obtain ⟨⟨hjoiner, hselector⟩, hwidth⟩ := hc
    rw [widthBehind.eq_def]
    simp [hjoiner, hselector, hwidth, ih fun d hd => h d (List.mem_cons_of_mem _ hd),
      Nat.add_comm]

lemma startOf_cons_of_pos (h : 0 < width) (c : Char) (clusters : List Cluster) :
    startOf width (⟨[c], 1⟩ :: clusters) = c :: startOf (width - 1) clusters := by
  have hne : width ≠ 0 := Nat.ne_of_gt h
  have hroom : 1 ≤ width := h
  simp only [startOf, hne, hroom, if_true, if_false]
  rfl

/-- Plain characters in front of a plain one are kept as far as there is room. -/
lemma prefix_startOf_clustersFrom {c d : Char} (hstart : ∀ e ∈ start, isPlain e = true)
    (hd : isPlain d = true) (hwidth : start.length < width) (grows : Bool) (cs : List Char) :
    c :: start <+: startOf width (clustersFrom [c] 1 grows (start ++ d :: cs)) := by
  induction start generalizing c width grows with
  | nil =>
    rw [List.nil_append, clustersFrom_of_isPlain hd, startOf_cons_of_pos hwidth]
    exact List.prefix_append [c] _
  | cons e start ih =>
    have hpos : 0 < width := Nat.zero_lt_of_lt hwidth
    have hrest : start.length < width - 1 := Nat.lt_sub_of_add_lt hwidth
    rw [List.cons_append, clustersFrom_of_isPlain (hstart e List.mem_cons_self),
      startOf_cons_of_pos hpos]
    exact (List.prefix_cons_inj c).mpr
      (ih (fun f hf => hstart f (List.mem_cons_of_mem _ hf)) hrest _)

/-- Plain characters that there is room for are not cut off. -/
lemma prefix_cutOff (hstart : ∀ c ∈ start, isPlain c = true) (hwidth : start.length ≤ width)
    (hcs : ∀ d ∈ cs.head?, isPlain d = true) : start <+: cutOff width .fold (start ++ cs) := by
  rw [cutOff]
  split_ifs with hwide
  · rw [setWidth, if_neg (Nat.not_le_of_gt hwide)]
    cases cs with
    | nil =>
      -- the text is not wider than it is long
      rw [List.append_nil, Text.width, widthBehind_of_isPlain hstart] at hwide
      exact absurd hwidth (Nat.not_le_of_gt hwide)
    | cons d cs =>
      cases start with
      | nil => exact List.nil_prefix
      | cons c start =>
        have hc := hstart c List.mem_cons_self
        simp only [isPlain, Bool.and_eq_true, bne_iff_ne, beq_iff_eq] at hc
        obtain ⟨⟨hjoiner, hselector⟩, hcells⟩ := hc
        have hfirst : clusters (c :: (start ++ d :: cs)) =
            clustersFrom [c] 1 (isWidened c) (start ++ d :: cs) := by
          rw [clusters, clustersFrom.eq_def]
          simp [hjoiner, hselector, hcells]
        rw [List.cons_append, hfirst]
        exact prefix_startOf_clustersFrom (fun e he => hstart e (List.mem_cons_of_mem _ he))
          (hcs d rfl) hwidth _ cs
  · exact List.prefix_append start cs

/-! ## Words -/

/-- Whether a text is a word of plain characters. -/
structure IsPlainWord (word : List Char) : Prop where
  ne_nil : word ≠ []
  isPlain : ∀ c ∈ word, isPlain c = true
  not_isBlank : ∀ c ∈ word, isBlank c = false

lemma dropBlankEnd_append_of_isBlank {blanks : List Char} (h : ∀ c ∈ blanks, isBlank c = true)
    (cs : List Char) : dropBlankEnd (cs ++ blanks) = dropBlankEnd cs := by
  have hreverse : ∀ c ∈ blanks.reverse, isBlank c = true := fun c hc =>
    h c (List.mem_reverse.mp hc)
  rw [dropBlankEnd, dropBlank, List.reverse_append, List.dropWhile_append_of_pos hreverse,
    dropBlankEnd, dropBlank]

namespace IsPlainWord

variable {word : List Char}

lemma of_all (hne : word.isEmpty = false)
    (h : word.all (fun c => Shell.isPlain c && !isBlank c) = true) : IsPlainWord word := by
  simp only [List.all_eq_true, Bool.and_eq_true, Bool.not_eq_true'] at h
  exact ⟨List.isEmpty_eq_false_iff.mp hne, fun c hc => (h c hc).1, fun c hc => (h c hc).2⟩

/-- The first word of a text is taken along with the blanks behind it. -/
lemma takeWord?_append (h : IsPlainWord word) (cs : List Char) :
    takeWord? (word ++ ' ' :: cs) =
      some (word ++ ' ' :: cs.takeWhile isBlank, cs.drop (cs.takeWhile isBlank).length) := by
  have hblank : (word ++ ' ' :: cs).takeWhile isBlank = [] := by
    obtain ⟨c, rest, rfl⟩ := List.exists_cons_of_ne_nil h.ne_nil
    rw [List.cons_append, List.takeWhile_cons_of_neg]
    simp [h.not_isBlank c List.mem_cons_self]
  have hword : ((word ++ ' ' :: cs).takeWhile fun c => !isBlank c) = word := by
    rw [List.takeWhile_append_of_pos fun c hc => by simp [h.not_isBlank c hc],
      List.takeWhile_cons_of_neg (by decide), List.append_nil]
  have hbehind : (' ' :: cs).takeWhile isBlank = ' ' :: cs.takeWhile isBlank :=
    List.takeWhile_cons_of_pos (by decide)
  simp only [takeWord?, hblank, List.length_nil, List.drop_zero, hword, List.drop_left, hbehind,
    List.isEmpty_eq_false_iff.mpr h.ne_nil, List.nil_append, List.length_cons,
    List.drop_length_add_append, List.drop_succ_cons, Bool.false_eq_true, if_false]

/-- A word takes as many cells as it has characters, however many blanks are behind it. -/
lemma width_dropBlankEnd (h : IsPlainWord word) {blanks : List Char}
    (hblanks : ∀ c ∈ blanks, isBlank c = true) :
    Text.width (dropBlankEnd (word ++ blanks)) = word.length := by
  have hreverse : ∀ c ∈ word.reverse, isBlank c = false := fun c hc =>
    h.not_isBlank c (List.mem_reverse.mp hc)
  rw [dropBlankEnd_append_of_isBlank hblanks, dropBlankEnd, dropBlank_of_not_isBlank hreverse,
    List.reverse_reverse, Text.width, widthBehind_of_isPlain h.isPlain]

end IsPlainWord

/-- Words with a blank behind each. -/
def spaced (words : List (List Char)) : List Char :=
  words.flatMap fun word => word ++ [' ']

section

variable {words : List (List Char)}

lemma spaced_cons (word : List Char) (words : List (List Char)) (cs : List Char) :
    spaced (word :: words) ++ cs = word ++ ' ' :: (spaced words ++ cs) := by
  simp only [spaced, List.flatMap_cons, List.append_assoc, List.cons_append, List.nil_append]

lemma length_spaced_cons (word : List Char) (words : List (List Char)) :
    (spaced (word :: words)).length = word.length + 1 + (spaced words).length := by
  simp only [spaced, List.flatMap_cons, List.length_append, List.length_singleton]

lemma isPlain_of_mem_spaced (hwords : ∀ word ∈ words, IsPlainWord word) :
    ∀ c ∈ spaced words, isPlain c = true := by
  intro c hc
  obtain ⟨word, hword, hc⟩ := List.mem_flatMap.mp hc
  rcases List.mem_append.mp hc with hc | hc
  · exact (hwords word hword).isPlain c hc
  · obtain rfl := List.mem_singleton.mp hc
    decide

/-- In front of the last blank is the end of a word. -/
lemma exists_spaced_eq_append (hwords : ∀ word ∈ words, IsPlainWord word) (hne : words ≠ []) :
    ∃ start c, spaced words = start ++ [c, ' '] ∧ isBlank c = false := by
  obtain ⟨before, last, rfl⟩ := (List.eq_nil_or_concat' words).resolve_left hne
  have hlast := hwords last List.mem_concat_self
  obtain ⟨start, c, rfl⟩ := (List.eq_nil_or_concat' last).resolve_left hlast.ne_nil
  refine ⟨spaced before ++ start, c, ?_, hlast.not_isBlank c List.mem_concat_self⟩
  simp [spaced]

end

/-- Where there is room for a plain word, the line goes on behind it. -/
lemma breakPlaces_word {word : List Char} (hword : IsPlainWord word)
    (hroom : cells + word.length ≤ width) (cs : List Char) :
    breakPlaces width overflow first cells (fuel + 1) (word ++ ' ' :: cs) =
      breakPlaces width overflow (first + (word ++ ' ' :: cs.takeWhile isBlank).length)
        (cells + Text.width (word ++ ' ' :: cs.takeWhile isBlank)) fuel
        (cs.drop (cs.takeWhile isBlank).length) := by
  have hblanks : ∀ c ∈ ' ' :: cs.takeWhile isBlank, isBlank c = true := by
    intro c hc
    rcases List.mem_cons.mp hc with rfl | hc
    · decide
    · exact List.mem_takeWhile_imp hc
  simp only [breakPlaces, hword.takeWord?_append, hword.width_dropBlankEnd hblanks, hroom, if_true]

/-- A line is not broken within plain words that there is room for. -/
theorem length_spaced_le_of_mem_breakPlaces {words : List (List Char)}
    (hwords : ∀ word ∈ words, IsPlainWord word)
    (hwidth : first + (spaced words).length ≤ width + 1)
    (h : place ∈ breakPlaces width overflow first first fuel (spaced words ++ cs)) :
    first + (spaced words).length ≤ place := by
  induction words generalizing first fuel with
  | nil => exact le_of_mem_breakPlaces h
  | cons word words ih =>
    cases fuel with
    | zero => cases h
    | succ fuel =>
      have hword := hwords word List.mem_cons_self
      rw [length_spaced_cons] at hwidth ⊢
      rw [spaced_cons, breakPlaces_word hword (by omega)] at h
      cases words with
      | nil =>
        have hplace := le_of_mem_breakPlaces h
        rw [List.length_append, List.length_cons] at hplace
        have hnil : (spaced []).length = 0 := rfl
        omega
      | cons next words =>
        -- the next word begins right behind the blank
        have hnext : (spaced (next :: words) ++ cs).takeWhile isBlank = [] := by
          have hnextWord := hwords next (List.mem_cons_of_mem _ List.mem_cons_self)
          obtain ⟨c, rest, rfl⟩ := List.exists_cons_of_ne_nil hnextWord.ne_nil
          rw [spaced_cons, List.cons_append, List.takeWhile_cons_of_neg]
          simp [hnextWord.not_isBlank c List.mem_cons_self]
        have hplain : ∀ c ∈ word ++ [' '], isPlain c = true := fun c hc =>
          isPlain_of_mem_spaced hwords c (List.mem_append_left (spaced (next :: words)) hc)
        have hlength : (word ++ [' ']).length = word.length + 1 := List.length_append
        rw [hnext, Text.width, widthBehind_of_isPlain hplain, hlength, List.length_nil,
          List.drop_zero] at h
        have hplace := ih (fun word hmem => hwords word (List.mem_cons_of_mem _ hmem))
          (by omega) h
        omega

/-! ## Lines -/

/-- Plain words that there is room for begin the first line.  The last blank may be dropped. -/
theorem exists_fitLines_eq_cons {words : List (List Char)}
    (hwords : ∀ word ∈ words, IsPlainWord word) (hne : words ≠ [])
    (hwidth : (spaced words).length ≤ width + 1) (cs : List Char) :
    ∃ line lines, fitLines width .fold (spaced words ++ cs) = line :: lines ∧
      (spaced words).dropLast <+: line := by
  have hplain := isPlain_of_mem_spaced hwords
  have habsent : ∀ c, isPlain c = false → c ∉ spaced words := fun c hc hmem =>
    Bool.false_ne_true (hc.symm.trans (hplain c hmem))
  obtain ⟨piece, pieces, hpieces⟩ := exists_pieces_append_eq_cons (habsent '\n' (by decide)) cs
  obtain ⟨more, htabs⟩ := exists_expandTabs_append (habsent '\t' (by decide)) piece
  have hplaces (place : Nat) (h : place ∈ breakPlaces width .fold 0 0
      ((spaced words ++ more).length + 1) (spaced words ++ more)) :
      (spaced words).length ≤ place := by
    have hplace := length_spaced_le_of_mem_breakPlaces hwords (by omega) h
    omega
  obtain ⟨part, parts, hparts⟩ := exists_partsAt_eq_cons hplaces more
  obtain ⟨start, c, hspaced, hc⟩ := exists_spaced_eq_append hwords hne
  obtain ⟨count, hkept⟩ := exists_dropExcess_eq_append hc width start (' ' :: part)
  have hdropped : dropExcess width (spaced words ++ part) =
      start ++ [c] ++ (' ' :: part).take count := by
    rw [hspaced, List.append_assoc, ← List.append_cons, ← hkept]
    rfl
  have hfirst : (spaced words).dropLast = start ++ [c] := by
    rw [hspaced, List.append_cons, List.dropLast_concat]
  refine ⟨cutOff width .fold (start ++ [c] ++ (' ' :: part).take count),
    (parts.map fun part => cutOff width .fold (dropExcess width part)) ++
      pieces.flatMap fun line => wrap width .fold (expandTabs line), ?_, ?_⟩
  · rw [fitLines, hpieces, List.flatMap_cons, htabs, wrap, hparts, List.map_cons, hdropped,
      List.cons_append]
  · rw [hfirst]
    rw [hspaced, List.append_cons] at hplain hwidth
    refine prefix_cutOff (fun d hd => hplain d (List.mem_append_left _ hd)) ?_ fun d hd => ?_
    · rw [List.length_append, List.length_singleton] at hwidth
      exact Nat.le_of_succ_le_succ hwidth
    · cases count with
      | zero => cases hd
      | succ count =>
        obtain rfl := Option.some.inj hd
        decide

end Shell

end SlashCommand
