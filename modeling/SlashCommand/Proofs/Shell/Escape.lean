import Mathlib.Data.List.Basic
import SlashCommand.Shell.Console

/-!
# Escaped text holds no tags

A tag in a markup stays text if an odd number of backslashes stands in front of it.  `escapeFrom`
makes the number odd in front of every tag, and puts nothing but backslashes in.  It remains to be
seen that this makes no tags of what was none: what is no tag lacks its closing bracket in front of
the next opening one, and a backslash more does not change that (`escapedTag?_escapeFrom`).  So the
pieces of escaped text are all text (`isText_piecesFrom_escapeFrom`), and it can always be printed.
-/

namespace SlashCommand.Shell.Markup

variable {c : Char} {cs rest tag tail : List Char} {fuel room position : Nat} {before : List Char}

/-! ## Tags in front -/

lemma backslashes_cons_backslash (cs : List Char) :
    backslashes ('\\' :: cs) = backslashes cs + 1 :=
  rfl

lemma backslashes_cons_of_ne (h : c ≠ '\\') (cs : List Char) : backslashes (c :: cs) = 0 := by
  rw [backslashes, List.takeWhile_cons_of_neg (by simpa using h), List.length_nil]

/-- The tag behind the backslashes that the characters begin with, and the characters behind it. -/
def escapedTag? (cs : List Char) : Option (List Char × List Char) :=
  tag? (cs.drop (backslashes cs))

lemma escapedTag?_cons_backslash (cs : List Char) : escapedTag? ('\\' :: cs) = escapedTag? cs := by
  rw [escapedTag?, backslashes_cons_backslash, List.drop_succ_cons, escapedTag?]

lemma escapedTag?_cons_of_ne (h : c ≠ '\\') (cs : List Char) :
    escapedTag? (c :: cs) = tag? (c :: cs) := by
  rw [escapedTag?, backslashes_cons_of_ne h, List.drop_zero]

lemma tagBody?_cons_of_ne (hopen : c ≠ '[') (hclose : c ≠ ']') (cs : List Char) :
    tagBody? (c :: cs) = (tagBody? cs).map fun (body, rest) => (c :: body, rest) := by
  simp only [tagBody?]

/-- What is cut off as the body of a tag is cut off in front of any other characters as well. -/
lemma tagBody?_append {body : List Char} (h : tagBody? cs = some (body, rest)) :
    cs = body ++ rest ∧ ∀ more, tagBody? (body ++ more) = some (body, more) := by
  induction cs generalizing body with
  | nil => cases h
  | cons c cs ih =>
    by_cases hopen : c = '['
    · subst hopen
      cases h
    · by_cases hclose : c = ']'
      · subst hclose
        obtain ⟨rfl, rfl⟩ := Prod.mk.inj (Option.some.inj h)
        exact ⟨rfl, fun more => rfl⟩
      · rw [tagBody?_cons_of_ne hopen hclose, Option.map_eq_some_iff] at h
        obtain ⟨⟨inner, behind⟩, hinner, heq⟩ := h
        obtain ⟨rfl, rfl⟩ := Prod.mk.inj heq
        obtain ⟨rfl, hmore⟩ := ih hinner
        refine ⟨rfl, fun more => ?_⟩
        rw [List.cons_append, tagBody?_cons_of_ne hopen hclose, hmore]
        rfl

lemma tag?_cons_of_ne (h : c ≠ '[') (cs : List Char) : tag? (c :: cs) = none := by
  unfold tag?
  split
  · next heq => exact absurd (List.cons.inj heq).1 h
  · rfl

lemma tag?_eq_none_of_not_opensTag {d : Char} (h : opensTag d = false) (cs : List Char) :
    tag? ('[' :: d :: cs) = none := by
  rw [tag?, h]
  rfl

/-- What is cut off as a tag begins with its bracket, and is cut off in front of any other
characters as well. -/
lemma tag?_append (h : tag? cs = some (tag, rest)) :
    (∃ inner, tag = '[' :: inner) ∧ cs = tag ++ rest ∧
      ∀ more, tag? (tag ++ more) = some (tag, more) := by
  unfold tag? at h
  split at h
  · next c cs =>
    split at h
    · next hopens =>
      obtain ⟨⟨body, behind⟩, hbody, heq⟩ := Option.map_eq_some_iff.mp h
      obtain ⟨rfl, rfl⟩ := Prod.mk.inj heq
      obtain ⟨rfl, hmore⟩ := tagBody?_append hbody
      refine ⟨⟨c :: body, rfl⟩, rfl, fun more => ?_⟩
      rw [List.cons_append, List.cons_append, tag?, if_pos hopens, hmore]
      rfl
    · cases h
  · cases h

/-! ## What is no tag -/

lemma escapeFrom_nil (fuel : Nat) : escapeFrom fuel [] = [] := by
  cases fuel <;> rfl

lemma escapeFrom_of_tag (h : escapedTag? cs = some (tag, rest)) (fuel : Nat) :
    escapeFrom (fuel + 1) cs =
      List.replicate (2 * backslashes cs + 1) '\\' ++ tag ++ escapeFrom fuel rest := by
  rw [escapedTag?] at h
  simp only [escapeFrom, h]

lemma escapeFrom_cons_of_none (h : escapedTag? (c :: cs) = none) (fuel : Nat) :
    escapeFrom (fuel + 1) (c :: cs) = c :: escapeFrom fuel cs := by
  rw [escapedTag?] at h
  simp only [escapeFrom, h]

lemma tagBody?_backslashes_append_bracket (count : Nat) (cs : List Char) :
    tagBody? (List.replicate count '\\' ++ '[' :: cs) = none := by
  induction count with
  | zero => rfl
  | succ count ih =>
    rw [List.replicate_succ, List.cons_append, tagBody?_cons_of_ne (by decide) (by decide), ih]
    rfl

section

variable (htail : ∀ c ∈ tail, c = '\\')

include htail

lemma tagBody?_of_backslashes : tagBody? tail = none := by
  induction tail with
  | nil => rfl
  | cons c tail ih =>
    obtain rfl := htail c List.mem_cons_self
    rw [tagBody?_cons_of_ne (by decide) (by decide),
      ih fun d hd => htail d (List.mem_cons_of_mem _ hd)]
    rfl

lemma escapedTag?_of_backslashes : escapedTag? tail = none := by
  induction tail with
  | nil => rfl
  | cons c tail ih =>
    obtain rfl := htail c List.mem_cons_self
    rw [escapedTag?_cons_backslash]
    exact ih fun d hd => htail d (List.mem_cons_of_mem _ hd)

/-- No tag is closed in escaped text that was not closed before. -/
lemma tagBody?_escapeFrom (hbody : tagBody? cs = none) (hlength : cs.length ≤ fuel) :
    tagBody? (escapeFrom fuel cs ++ tail) = none := by
  induction fuel generalizing cs with
  | zero =>
    rw [List.length_eq_zero_iff.mp (Nat.le_zero.mp hlength)]
    exact tagBody?_of_backslashes htail
  | succ fuel ih =>
    cases cs with
    | nil => exact tagBody?_of_backslashes htail
    | cons c cs =>
      cases hescaped : escapedTag? (c :: cs) with
      | some found =>
        obtain ⟨tag, rest⟩ := found
        obtain ⟨⟨inner, rfl⟩, -, -⟩ := tag?_append hescaped
        rw [escapeFrom_of_tag hescaped, List.append_assoc, List.append_assoc, List.cons_append]
        exact tagBody?_backslashes_append_bracket _ _
      | none =>
        rw [escapeFrom_cons_of_none hescaped, List.cons_append]
        by_cases hopen : c = '['
        · subst hopen
          rfl
        · have hclose : c ≠ ']' := by
            rintro rfl
            cases hbody
          rw [tagBody?_cons_of_ne hopen hclose, Option.map_eq_none_iff] at hbody ⊢
          exact ih hbody (Nat.le_of_succ_le_succ hlength)

/-- A character that begins no tag begins none in front of escaped text. -/
lemma tag?_cons_escapeFrom (htag : tag? (c :: cs) = none) (hlength : cs.length ≤ fuel) :
    tag? (c :: (escapeFrom fuel cs ++ tail)) = none := by
  by_cases hopen : c = '['
  · subst hopen
    cases cs with
    | nil =>
      rw [escapeFrom_nil, List.nil_append]
      cases tail with
      | nil => rfl
      | cons d tail =>
        obtain rfl := htail d List.mem_cons_self
        exact tag?_eq_none_of_not_opensTag (by decide) tail
    | cons d cs =>
      obtain ⟨fuel, rfl⟩ : ∃ less, fuel = less + 1 := ⟨fuel - 1, by grind⟩
      cases hescaped : escapedTag? (d :: cs) with
      | some found =>
        -- a backslash is put between the bracket and what follows
        obtain ⟨tag, rest⟩ := found
        rw [escapeFrom_of_tag hescaped, List.replicate_succ]
        exact tag?_eq_none_of_not_opensTag (by decide) _
      | none =>
        rw [escapeFrom_cons_of_none hescaped, List.cons_append]
        by_cases hopens : opensTag d = true
        · rw [tag?, if_pos hopens, Option.map_eq_none_iff] at htag ⊢
          exact tagBody?_escapeFrom htail htag (Nat.le_of_succ_le_succ hlength)
        · exact tag?_eq_none_of_not_opensTag (eq_false_of_ne_true hopens) _
  · exact tag?_cons_of_ne hopen _

/-- What begins with no tag begins with none when it is escaped. -/
theorem escapedTag?_escapeFrom (htag : escapedTag? cs = none) (hlength : cs.length ≤ fuel) :
    escapedTag? (escapeFrom fuel cs ++ tail) = none := by
  induction fuel generalizing cs with
  | zero =>
    rw [List.length_eq_zero_iff.mp (Nat.le_zero.mp hlength)]
    exact escapedTag?_of_backslashes htail
  | succ fuel ih =>
    cases cs with
    | nil => exact escapedTag?_of_backslashes htail
    | cons c cs =>
      rw [escapeFrom_cons_of_none htag, List.cons_append]
      have hrest : cs.length ≤ fuel := Nat.le_of_succ_le_succ hlength
      by_cases hbackslash : c = '\\'
      · subst hbackslash
        rw [escapedTag?_cons_backslash] at htag ⊢
        exact ih htag hrest
      · rw [escapedTag?_cons_of_ne hbackslash] at htag ⊢
        exact tag?_cons_escapeFrom htail htag hrest

end

/-! ## Pieces -/

/-- Whether a piece is text. -/
def Piece.IsText : Piece → Prop
  | .text _ => True
  | .tag .. => False

lemma isText_of_mem_textPiece {characters : List Char} :
    ∀ piece ∈ textPiece characters, piece.IsText := by
  intro piece hpiece
  rw [textPiece] at hpiece
  split at hpiece
  · cases hpiece
  · obtain rfl := List.mem_singleton.mp hpiece
    trivial

lemma piecesFrom_nil (position : Nat) (before : List Char) (room : Nat) :
    piecesFrom position before (room + 1) [] = textPiece before.reverse :=
  rfl

/-- Where no tag begins, the first character is text. -/
lemma piecesFrom_cons_of_none (h : escapedTag? (c :: cs) = none) (position : Nat)
    (before : List Char) (room : Nat) :
    piecesFrom position before (room + 1) (c :: cs) =
      piecesFrom (position + 1) (c :: before) room cs := by
  rw [escapedTag?] at h
  simp only [piecesFrom, h]

lemma backslashes_replicate_append_bracket (count : Nat) (cs : List Char) :
    backslashes (List.replicate count '\\' ++ '[' :: cs) = count := by
  induction count with
  | zero => rfl
  | succ count ih =>
    rw [List.replicate_succ, List.cons_append, backslashes_cons_backslash, ih]

/-- Behind an odd number of backslashes a tag is text. -/
lemma piecesFrom_odd_tag (htag : ∀ more, tag? (tag ++ more) = some (tag, more))
    (hbracket : ∃ inner, tag = '[' :: inner) (count position : Nat) (before : List Char)
    (room : Nat) (cs : List Char) :
    piecesFrom position before (room + 1)
        (List.replicate (2 * count + 1) '\\' ++ tag ++ cs) =
      textPiece before.reverse ++ textPiece (List.replicate count '\\') ++
        .text tag :: piecesFrom (position + (2 * count + 1) + tag.length) [] room cs := by
  obtain ⟨inner, rfl⟩ := hbracket
  have hcount : backslashes (List.replicate (2 * count + 1) '\\' ++ ('[' :: inner) ++ cs) =
      2 * count + 1 := by
    rw [List.append_assoc, List.cons_append]
    exact backslashes_replicate_append_bracket _ _
  have hdrop : (List.replicate (2 * count + 1) '\\' ++ ('[' :: inner) ++ cs).drop
      (2 * count + 1) = ('[' :: inner) ++ cs := by
    rw [List.append_assoc, List.drop_left' List.length_replicate]
  have hhalf : (2 * count + 1) / 2 = count := by omega
  have hodd : (2 * count + 1) % 2 = 1 := by omega
  simp only [piecesFrom, hcount, hdrop, htag, hhalf, hodd, if_true]

lemma isText_of_mem_piecesFrom_zero :
    ∀ piece ∈ piecesFrom position before 0 cs, piece.IsText := by
  intro piece hpiece
  cases hpiece

lemma isText_piecesFrom_of_backslashes (htail : ∀ c ∈ tail, c = '\\') :
    ∀ piece ∈ piecesFrom position before room tail, piece.IsText := by
  induction tail generalizing position before room with
  | nil =>
    cases room with
    | zero => exact isText_of_mem_piecesFrom_zero
    | succ room => exact isText_of_mem_textPiece
  | cons c tail ih =>
    cases room with
    | zero => exact isText_of_mem_piecesFrom_zero
    | succ room =>
      rw [piecesFrom_cons_of_none (escapedTag?_of_backslashes htail)]
      exact ih fun d hd => htail d (List.mem_cons_of_mem _ hd)

/-- The pieces of escaped text are text, whatever backslashes are put behind it. -/
theorem isText_piecesFrom_escapeFrom (htail : ∀ c ∈ tail, c = '\\')
    (hlength : cs.length ≤ fuel) :
    ∀ piece ∈ piecesFrom position before room (escapeFrom fuel cs ++ tail), piece.IsText := by
  induction fuel generalizing cs position before room with
  | zero =>
    rw [List.length_eq_zero_iff.mp (Nat.le_zero.mp hlength)]
    exact isText_piecesFrom_of_backslashes htail
  | succ fuel ih =>
    cases cs with
    | nil => exact isText_piecesFrom_of_backslashes htail
    | cons c cs =>
      cases room with
      | zero => exact isText_of_mem_piecesFrom_zero
      | succ room =>
        cases hescaped : escapedTag? (c :: cs) with
        | none =>
          have hnone := escapedTag?_escapeFrom htail hescaped hlength
          rw [escapeFrom_cons_of_none hescaped, List.cons_append] at hnone ⊢
          rw [piecesFrom_cons_of_none hnone]
          exact ih (Nat.le_of_succ_le_succ hlength)
        | some found =>
          obtain ⟨tag, rest⟩ := found
          obtain ⟨hbracket, hcut, htag⟩ := tag?_append hescaped
          have hrest : rest.length ≤ fuel := by
            obtain ⟨inner, rfl⟩ := hbracket
            have hlengths := congrArg List.length hcut
            simp only [List.length_drop, List.length_append, List.length_cons] at hlengths hlength
            omega
          rw [escapeFrom_of_tag hescaped, List.append_assoc, piecesFrom_odd_tag htag hbracket]
          intro piece hpiece
          simp only [List.mem_append, List.mem_cons] at hpiece
          rcases hpiece with (hbefore | hslashes) | rfl | hbehind
          · exact isText_of_mem_textPiece piece hbefore
          · exact isText_of_mem_textPiece piece hslashes
          · trivial
          · exact ih hrest piece hbehind

/-- Escaped text ends in a backslash more, if at all. -/
lemma exists_toList_escape (text : String) :
    ∃ tail, (∀ c ∈ tail, c = '\\') ∧
      (escape text).toList = escapeFrom (text.length + 1) text.toList ++ tail := by
  simp only [escape]
  split
  · exact ⟨['\\'], by simp, String.toList_ofList⟩
  · split
    · exact ⟨[], by simp, by rw [String.toList_ofList, List.append_nil]⟩
    · exact ⟨['\\'], by simp, String.toList_ofList⟩
  · exact ⟨[], by simp, by rw [String.toList_ofList, List.append_nil]⟩

/-- Whatever is put in front of it, the pieces of escaped text are text. -/
theorem isText_piecesFrom_escape (text : String) (position : Nat) (before : List Char)
    (room : Nat) : ∀ piece ∈ piecesFrom position before room (escape text).toList,
      piece.IsText := by
  obtain ⟨tail, htail, hescape⟩ := exists_toList_escape text
  rw [hescape]
  exact isText_piecesFrom_escapeFrom htail (Nat.le_succ text.length)

/-! ## Printing -/

/-- Characters that begin no tag and escape none are text. -/
lemma piecesFrom_append_of_plain (hplain : cs.all (fun c => c != '[' && c != '\\') = true)
    (position : Nat) (before : List Char) (room : Nat) (rest : List Char) :
    piecesFrom position before (room + cs.length) (cs ++ rest) =
      piecesFrom (position + cs.length) (cs.reverse ++ before) room rest := by
  induction cs generalizing position before with
  | nil => rfl
  | cons c cs ih =>
    rw [List.all_cons, Bool.and_eq_true, Bool.and_eq_true, bne_iff_ne, bne_iff_ne] at hplain
    obtain ⟨⟨hopen, hbackslash⟩, hplain⟩ := hplain
    have hnone : escapedTag? (c :: (cs ++ rest)) = none := by
      rw [escapedTag?_cons_of_ne hbackslash, tag?_cons_of_ne hopen]
    rw [List.length_cons, ← Nat.add_assoc, List.cons_append, piecesFrom_cons_of_none hnone,
      ih hplain]
    rw [List.reverse_cons, List.append_assoc, List.singleton_append, Nat.add_assoc,
      Nat.add_comm 1]

/-- A tag that nothing escapes is a tag. -/
lemma piecesFrom_tag (htag : ∀ more, tag? (tag ++ more) = some (tag, more))
    (hbracket : ∃ inner, tag = '[' :: inner) (position : Nat) (before : List Char) (room : Nat)
    (cs : List Char) :
    piecesFrom position before (room + 1) (tag ++ cs) =
      textPiece before.reverse ++ .ofTag position tag ::
        piecesFrom (position + tag.length) [] room cs := by
  obtain ⟨inner, rfl⟩ := hbracket
  have hcount : backslashes ('[' :: inner ++ cs) = 0 := backslashes_cons_of_ne (by decide) _
  have hslashes : textPiece (List.replicate (0 / 2) '\\') = [] := rfl
  simp only [piecesFrom, hcount, List.drop_zero, htag, hslashes, List.append_nil, Nat.add_zero]
  rfl

/-- The first piece begins with the text that is in front. -/
lemma exists_piecesFrom_eq_cons (hbefore : before ≠ []) (hroom : cs.length < room)
    (position : Nat) :
    ∃ characters rest,
      piecesFrom position before room cs = .text (before.reverse ++ characters) :: rest := by
  induction room generalizing cs before position with
  | zero => cases hroom
  | succ room ih =>
    have hpiece : textPiece before.reverse = [.text before.reverse] := by
      rw [textPiece, List.isEmpty_reverse, List.isEmpty_eq_false_iff.mpr hbefore]
      rfl
    cases hescaped : escapedTag? cs with
    | some found =>
      obtain ⟨tag, rest⟩ := found
      rw [escapedTag?] at hescaped
      simp only [piecesFrom, hescaped, hpiece, List.cons_append]
      exact ⟨[], _, by rw [List.append_nil]⟩
    | none =>
      cases cs with
      | nil => exact ⟨[], [], by rw [piecesFrom_nil, hpiece, List.append_nil]⟩
      | cons c cs =>
        obtain ⟨characters, rest, hpieces⟩ :=
          ih (List.cons_ne_nil c before) (Nat.lt_of_succ_lt_succ hroom) (position + 1)
        rw [piecesFrom_cons_of_none hescaped, hpieces, List.reverse_cons, List.append_assoc]
        exact ⟨_, _, rfl⟩

lemma exists_renderPieces_eq_ok {pieces : List Piece} (h : ∀ piece ∈ pieces, piece.IsText)
    (opened : Opened) : ∃ characters, renderPieces opened pieces = .ok characters := by
  induction pieces with
  | nil => exact ⟨[], rfl⟩
  | cons piece pieces ih =>
    cases piece with
    | text characters =>
      obtain ⟨more, hmore⟩ := ih fun piece hpiece => h piece (List.mem_cons_of_mem _ hpiece)
      rw [renderPieces, hmore]
      exact ⟨_, rfl⟩
    | tag position name parameters => exact absurd (h _ List.mem_cons_self) not_false

lemma checkStyles_of_isText {pieces : List Piece} (h : ∀ piece ∈ pieces, piece.IsText) :
    checkStyles pieces = .ok () := by
  induction pieces with
  | nil => rfl
  | cons piece pieces ih =>
    cases piece with
    | text characters => exact ih fun piece hpiece => h piece (List.mem_cons_of_mem _ hpiece)
    | tag position name parameters => exact absurd (h _ List.mem_cons_self) not_false

end SlashCommand.Shell.Markup
