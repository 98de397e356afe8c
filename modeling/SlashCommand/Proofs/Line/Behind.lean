import SlashCommand.Proofs.Line.Cut
import SlashCommand.Proofs.Line.Spelling

/-!
# Behind the first word

A line that begins with a plain word and a blank character is read in two parts that know nothing
of each other.  The word is the first token, and what follows is read as if it were a line of its
own, only further to the right.  So a cursor behind the word sees what it would see in the rest
alone, behind one more token: the same tokens, the same stem, and the same range, moved by the
length of the word (`focus_append`).
-/

namespace SlashCommand.Line

open Scan

/-! ## Plain words -/

/-- Whether a word is read as it is written: it has characters, and none of them is blank or a
quote. -/
structure IsPlain (word : String) : Prop where
  ne_empty : word ≠ ""
  not_isBlank : ∀ c ∈ word.toList, Text.isBlank c = false
  not_isQuote : ∀ c ∈ word.toList, isQuote c = false

/-- Whether a word is plain can be read off its characters. -/
lemma isPlain_iff {word : String} :
    IsPlain word ↔
      word ≠ "" ∧ (word.toList.all fun c => !Text.isBlank c && !isQuote c) = true := by
  simp only [List.all_eq_true, Bool.and_eq_true, Bool.not_eq_true']
  constructor
  · intro h
    exact ⟨h.ne_empty, fun c hc => ⟨h.not_isBlank c hc, h.not_isQuote c hc⟩⟩
  · rintro ⟨hne, hall⟩
    exact ⟨hne, fun c hc => (hall c hc).1, fun c hc => (hall c hc).2⟩

instance (word : String) : Decidable (IsPlain word) :=
  decidable_of_iff _ isPlain_iff.symm

namespace IsPlain

variable {word : String}

lemma toList_ne_nil (h : IsPlain word) : word.toList ≠ [] := by
  rw [ne_eq, String.toList_eq_nil_iff]
  exact h.ne_empty

/-- A plain word spells itself. -/
lemma spells (h : IsPlain word) : Spells word.toList word.toList false :=
  spells_self h.toList_ne_nil h.not_isBlank h.not_isQuote

/-- A plain word stays one with the slash in front. -/
lemma slash (h : IsPlain word) : IsPlain ("/" ++ word) where
  ne_empty := by
    rw [← String.toList_inj.ne, String.toList_append]
    exact List.cons_ne_nil '/' word.toList
  not_isBlank := by
    rw [String.toList_append]
    exact List.forall_mem_cons.mpr ⟨by decide, h.not_isBlank⟩
  not_isQuote := by
    rw [String.toList_append]
    exact List.forall_mem_cons.mpr ⟨by decide, h.not_isQuote⟩

/-- The token of a plain word at the start of a line. -/
def token (word : String) : Token :=
  ⟨word, 0, word.length, false⟩

end IsPlain

/-! ## What a cursor sees behind a token -/

/-- What a cursor sees if all of it is put behind a token. -/
def Focus.behind (first : Token) (focus : Focus) : Focus :=
  { tokens := first :: focus.tokens.map (Token.shift first.stop)
    active := focus.active.map (· + 1)
    stem := focus.stem
    start := focus.start + first.stop
    stop := focus.stop + first.stop }

/-- The complete tokens do not depend on the one in front of them but for where they stand. -/
lemma Focus.map_text_settled_behind (focus : Focus) (first second : Token) :
    (focus.behind first).settled.map (·.text) = (focus.behind second).settled.map (·.text) := by
  cases hactive : focus.active with
  | none =>
    simp only [settled, behind, hactive, Option.map_none, List.drop_succ_cons, List.drop_zero,
      List.map_map]
    rfl
  | some index =>
    simp only [settled, behind, hactive, Option.map_some, List.take_succ_cons, List.drop_succ_cons,
      List.drop_zero, ← List.map_take, List.map_map]
    rfl

lemma Token.holds_shift (token : Token) (distance place : Nat) :
    (token.shift distance).holds (place + distance) = token.holds place := by
  simp [Token.holds, Token.shift]

lemma stemBetween_append (head line : List Char) (start cursor : Nat) :
    stemBetween (head ++ line) (start + head.length) (cursor + head.length) =
      stemBetween line start cursor := by
  have htake : (head ++ line).take (cursor + head.length) = head ++ line.take cursor := by
    rw [Nat.add_comm, List.take_length_add_append]
  have hdrop : (head ++ line.take cursor).drop (start + head.length) =
      (line.take cursor).drop start := by
    rw [Nat.add_comm, List.drop_length_add_append]
  rw [stemBetween, stemBetween, htake, hdrop]

/-- The token that holds a place is found behind another token as it is found without it. -/
lemma find?_holds_shift (tokens : List Token) (distance place : Nat) :
    ((tokens.map (Token.shift distance)).zipIdx 1).find?
        (fun entry => entry.1.holds (place + distance)) =
      (tokens.zipIdx.find? fun entry => entry.1.holds place).map
        (Prod.map (Token.shift distance) (· + 1)) := by
  have hholds : (fun entry : Token × Nat =>
      (entry.1.shift distance).holds (place + distance)) = fun entry => entry.1.holds place :=
    funext fun entry => entry.1.holds_shift distance place
  rw [List.zipIdx_map, List.zipIdx_succ, List.map_map, List.find?_map, ← hholds]
  rfl

variable {head tail : String}

/-- The tokens of a line that begins with a plain word and a blank character. -/
lemma tokenize_append (hhead : IsPlain head)
    (htail : ∀ c ∈ tail.toList.head?, Text.isBlank c = true) :
    tokenize (head ++ tail) =
      IsPlain.token head :: (tokenize tail).map (Token.shift head.length) := by
  have htokens := hhead.spells.tokens_append htail 0
  rw [Nat.zero_add, String.ofList_toList, String.length_toList,
    tokens_eq_map_shift head.length] at htokens
  rw [tokenize, String.toList_append]
  exact htokens

/-- Behind a plain word and a blank character, a cursor sees what it sees without the word. -/
theorem focus_append (hhead : IsPlain head)
    (htail : ∃ c ∈ tail.toList.head?, Text.isBlank c = true) {k : Nat} (hk : 0 < k) :
    focus (head ++ tail) (head.length + k : Nat) =
      (focus tail k).behind (IsPlain.token head) := by
  obtain ⟨blank, hhead?, hblank⟩ := htail
  have hnotEmpty : 0 < tail.length := by
    rw [← String.length_toList]
    exact List.length_pos_of_mem (List.mem_of_mem_head? hhead?)
  have hplace : clamp (head ++ tail).length (head.length + k : Nat) =
      clamp tail.length k + head.length := by
    simp only [clamp, String.length_append, Int.toNat_natCast]
    omega
  have hclamp : 0 < clamp tail.length k := by
    simp only [clamp, Int.toNat_natCast]
    omega
  -- the cursor is too far to the right to be in the word
  have hword : (IsPlain.token head).holds (clamp tail.length k + head.length) = false :=
    not_holds_of_stop_lt (by simp only [IsPlain.token]; omega)
  have hfirst : ∀ c ∈ tail.toList.head?, Text.isBlank c = true := by
    intro c hc
    rwa [Option.mem_unique hc hhead?]
  simp only [focus, hplace, tokenize_append hhead hfirst, List.zipIdx_cons, List.find?_cons, hword,
    Nat.zero_add, find?_holds_shift]
  cases (tokenize tail).zipIdx.find? fun entry => entry.1.holds (clamp tail.length k) with
  | none => rfl
  | some entry =>
    obtain ⟨token, index⟩ := entry
    have hstem := stemBetween_append head.toList tail.toList token.start (clamp tail.length k)
    rw [String.length_toList] at hstem
    simp only [Option.map_some, Prod.map_apply, Token.shift, String.toList_append, hstem]
    rfl

end SlashCommand.Line
