import SlashCommand.Proofs.Outcome
import SlashCommand.Text.Utf8

/-!
# Bytes that are texts

The bytes that are decoded are those that characters are written with, and no others
(`decode_eq_ok_iff`).  A character that is begun is of one of six kinds, by how many bytes it has
and how many of them are read; each kind bounds the code as far as it is known (`Begins`).  One
more byte leads from a kind to another one or to a character (`spells_push`), and from between two
characters the bytes of every character lead to it (`leads_whole`).

Where bytes are no text, those in front of the fault are one (`locates_of_decode_eq_error`).
-/

namespace SlashCommand.Text.Utf8

variable {mark more code : Nat} {c : Char} {byte first : UInt8} {bytes : List UInt8}
  {begun : Begun} {reader next : Reader} {fault : Fault}

/-! ## Characters as bytes -/

/-- The bytes of a text. -/
def encode (cs : List Char) : List UInt8 :=
  cs.flatMap String.utf8EncodeChar

/-- A code on several bytes: `more` stand behind the first one, which is marked with their
number. -/
def written (mark : Nat) : (more : Nat) → (code : Nat) → List UInt8
  | 0, code => [UInt8.ofNat (mark + code)]
  | more + 1, code => written mark more (code / 64) ++ [UInt8.ofNat (0x80 + code % 64)]

/-- The marks of characters of several bytes, and from which code to which one there are so many
bytes. -/
inductive Row : (mark more least limit : Nat) → Prop
  | two : Row 0xC0 1 0x80 0x800
  | three : Row 0xE0 2 0x800 0x10000
  | four : Row 0xF0 3 0x10000 0x110000

lemma utf8EncodeChar_one (h : c.toNat < 0x80) :
    String.utf8EncodeChar c = [UInt8.ofNat c.toNat] := by
  change c.val.toNat < 0x80 at h
  simp only [String.utf8EncodeChar, if_pos (Nat.le_of_lt_succ h)]
  rfl

lemma utf8EncodeChar_eq_written {least limit : Nat} (hrow : Row mark more least limit)
    (hleast : least ≤ c.toNat) (hlimit : c.toNat < limit) :
    String.utf8EncodeChar c = written mark more c.toNat := by
  change least ≤ c.val.toNat at hleast
  change c.val.toNat < limit at hlimit
  change _ = written mark more c.val.toNat
  cases hrow with
  | two =>
    have hfirst : 0xC0 + c.val.toNat / 64 = c.val.toNat / 64 % 32 + 192 := by omega
    simp only [String.utf8EncodeChar, written, hfirst, Nat.add_comm 0x80]
    rw [if_neg (by omega), if_pos (by omega)]
    rfl
  | three =>
    have hfirst : 0xE0 + c.val.toNat / 64 / 64 = c.val.toNat / 4096 % 16 + 224 := by omega
    simp only [String.utf8EncodeChar, written, hfirst, Nat.add_comm 0x80]
    rw [if_neg (by omega), if_neg (by omega), if_pos (by omega)]
    rfl
  | four =>
    have hfirst : 0xF0 + c.val.toNat / 4096 / 64 = c.val.toNat / 262144 % 8 + 240 := by omega
    have hsecond : c.val.toNat / 64 / 64 = c.val.toNat / 4096 := by omega
    simp only [String.utf8EncodeChar, written, hsecond, hfirst, Nat.add_comm 0x80]
    rw [if_neg (by omega), if_neg (by omega), if_neg (by omega)]
    rfl

lemma toNat_ofNat_of_valid (h : code < 0xD800 ∨ 0xDFFF < code ∧ code < 0x110000) :
    (Char.ofNat code).toNat = code := by
  have hchar : Char.ofNat code = Char.ofNatAux code h := dif_pos h
  rw [hchar]
  rfl

/-! ## Characters that are begun -/

/-- What is known of a character of which some bytes are read and some are missing. -/
inductive Begins : Begun → Prop
  | ofTwo {code : Nat} (hleast : 2 ≤ code) (hlimit : code < 0x20) :
      Begins ⟨written 0xC0 0 code, code, 1⟩
  | ofThree {code : Nat} (hlimit : code < 0x10) : Begins ⟨written 0xE0 0 code, code, 2⟩
  | twoOfThree {code : Nat} (hleast : 0x20 ≤ code) (hlimit : code < 0x400) :
      Begins ⟨written 0xE0 1 code, code, 1⟩
  | ofFour {code : Nat} (hlimit : code < 5) : Begins ⟨written 0xF0 0 code, code, 3⟩
  | twoOfFour {code : Nat} (hleast : 0x10 ≤ code) (hlimit : code < 0x110) :
      Begins ⟨written 0xF0 1 code, code, 2⟩
  | threeOfFour {code : Nat} (hleast : 0x400 ≤ code) (hlimit : code < 0x4400) :
      Begins ⟨written 0xF0 2 code, code, 1⟩

/-- A character of which all bytes are read. -/
def whole (c : Char) : Begun :=
  ⟨String.utf8EncodeChar c, c.toNat, 0⟩

/-- Whether the bytes that are read are the beginning of a character, or all of it. -/
inductive Spells : Begun → Prop
  | begins {begun : Begun} (h : Begins begun) : Spells begun
  | whole (c : Char) : Spells (whole c)

lemma written_zero_sub (h : mark ≤ byte.toNat) : written mark 0 (byte.toNat - mark) = [byte] := by
  rw [written, Nat.add_sub_cancel' h, UInt8.ofNat_toNat]

lemma spells_of_begin?_eq_some (h : begin? first = some begun) : Spells begun := by
  unfold begin? at h
  dsimp only at h
  split_ifs at h with hone hcontinues htwo hthree hfour <;> obtain rfl := Option.some.inj h
  · have hcode : (Char.ofNat first.toNat).toNat = first.toNat := toNat_ofNat_of_valid (by omega)
    have hwhole := Spells.whole (Char.ofNat first.toNat)
    rwa [Utf8.whole, utf8EncodeChar_one (by omega), hcode, UInt8.ofNat_toNat] at hwhole
  · rw [← written_zero_sub (by omega : 0xC0 ≤ first.toNat)]
    exact .begins (.ofTwo (by omega) (by omega))
  · rw [← written_zero_sub (by omega : 0xE0 ≤ first.toNat)]
    exact .begins (.ofThree (by omega))
  · rw [← written_zero_sub (by omega : 0xF0 ≤ first.toNat)]
    exact .begins (.ofFour (by omega))

/-- One more byte adds its digits to a code. -/
lemma push_written {missing : Nat} (hleast : 0x80 ≤ byte.toNat) (hlimit : byte.toNat < 0xC0) :
    (Begun.mk (written mark more code) code (missing + 1)).push byte =
      ⟨written mark (more + 1) (code * 64 + (byte.toNat - 0x80)),
        code * 64 + (byte.toNat - 0x80), missing⟩ := by
  have hdigit : 0x80 + (code * 64 + (byte.toNat - 0x80)) % 64 = byte.toNat := by omega
  have hcode : (code * 64 + (byte.toNat - 0x80)) / 64 = code := by omega
  rw [Begun.push, written, hcode, hdigit, UInt8.ofNat_toNat]
  rfl

lemma isContinuedBy_iff : begun.isContinuedBy byte = true ↔
    begun.isHalf = false ∧ 0x80 ≤ byte.toNat ∧ byte.toNat < 0xC0 ∧
      (begun.push byte).isPossible = true := by
  simp [Begun.isContinuedBy, and_assoc]

lemma Begun.isHalf_eq_false_iff : begun.isHalf = false ↔
    (begun.missing = 1 → begun.code * 64 < 0xD800 ∨ 0xE000 ≤ begun.code * 64) := by
  simp only [Begun.isHalf, isHalfCode, Bool.and_eq_false_iff, decide_eq_false_iff_not]
  omega

lemma spells_written {least limit : Nat} (hrow : Row mark more least limit)
    (hleast : least ≤ code) (hlimit : code < limit) (hhalf : code < 0xD800 ∨ 0xDFFF < code) :
    Spells ⟨written mark more code, code, 0⟩ := by
  have hcode : (Char.ofNat code).toNat = code := toNat_ofNat_of_valid <| by
    cases hrow <;> omega
  have hwritten := utf8EncodeChar_eq_written (c := Char.ofNat code) hrow (by omega) (by omega)
  have hwhole := Spells.whole (Char.ofNat code)
  rwa [Utf8.whole, hwritten, hcode] at hwhole

/-- One more byte brings a character that is begun further, or to its end. -/
theorem spells_push (h : Begins begun) (hbyte : begun.isContinuedBy byte = true) :
    Spells (begun.push byte) := by
  obtain ⟨hhalf, hlow, hhigh, hpossible⟩ := isContinuedBy_iff.mp hbyte
  rw [Begun.isHalf_eq_false_iff] at hhalf
  cases h with
  | ofTwo hleast hlimit =>
    rw [push_written hlow hhigh]
    exact spells_written .two (by omega) (by omega) (by omega)
  | ofThree hlimit =>
    rw [push_written hlow hhigh] at hpossible ⊢
    simp only [Begun.isPossible, decide_eq_true_eq] at hpossible
    exact .begins (.twoOfThree hpossible (by omega))
  | twoOfThree hleast hlimit =>
    specialize hhalf rfl
    dsimp only at hhalf
    rw [push_written hlow hhigh]
    exact spells_written .three (by omega) (by omega) (by omega)
  | ofFour hlimit =>
    rw [push_written hlow hhigh] at hpossible ⊢
    simp only [Begun.isPossible, Bool.and_eq_true, decide_eq_true_eq] at hpossible
    exact .begins (.twoOfFour hpossible.1 hpossible.2)
  | twoOfFour hleast hlimit =>
    rw [push_written hlow hhigh]
    exact .begins (.threeOfFour (by omega) (by omega))
  | threeOfFour hleast hlimit =>
    rw [push_written hlow hhigh]
    exact spells_written .four (by omega) (by omega) (by omega)

/-! ## Reading bytes -/

/-- What is known of a reader behind some bytes. -/
structure Reader.Behind (bytes : List UInt8) (reader : Reader) : Prop where
  bytes_eq : bytes = encode reader.chars.reverse ++ reader.begun.elim [] Begun.bytes
  position_eq : reader.position = (encode reader.chars.reverse).length
  begins : ∀ begun, reader.begun = some begun → Begins begun

/-- Whether a fault is found in bytes where it says: behind a text, at bytes that are there. -/
structure Locates (bytes : List UInt8) (fault : Fault) : Prop where
  exists_eq : ∃ cs rest, bytes = encode cs ++ (fault.bytes ++ rest) ∧
    fault.position = (encode cs).length
  bytes_ne_nil : fault.bytes ≠ []

lemma encode_append (cs ds : List Char) : encode (cs ++ ds) = encode cs ++ encode ds :=
  List.flatMap_append

lemma encode_singleton (c : Char) : encode [c] = String.utf8EncodeChar c := by
  rw [encode, List.flatMap_singleton]

lemma Begins.missing_ne_zero (h : Begins begun) : begun.missing ≠ 0 := by
  cases h <;> exact Nat.succ_ne_zero _

lemma Begins.bytes_ne_nil (h : Begins begun) : begun.bytes ≠ [] := by
  cases h <;> simp [written]

lemma bytes_of_begin?_eq_some (h : begin? first = some begun) : begun.bytes = [first] := by
  unfold begin? at h
  dsimp only at h
  split_ifs at h <;> obtain rfl := Option.some.inj h <;> rfl

namespace Reader.Behind

/-- A byte that brings a character further is taken. -/
lemma take (h : Behind bytes reader) (hspells : Spells begun)
    (hbytes : begun.bytes = reader.begun.elim [] Begun.bytes ++ [byte]) :
    Behind (bytes ++ [byte]) (reader.take begun) := by
  have hbehind : bytes ++ [byte] = encode reader.chars.reverse ++ begun.bytes := by
    rw [h.bytes_eq, List.append_assoc, hbytes]
  cases hspells with
  | begins hbegins =>
    rw [Reader.take, if_neg hbegins.missing_ne_zero]
    refine ⟨hbehind, h.position_eq, fun other hother => ?_⟩
    obtain rfl := Option.some.inj hother
    exact hbegins
  | whole c =>
    have hmissing : (whole c).missing = 0 := rfl
    have hchar : Char.ofNat (whole c).code = c := Char.ofNat_toNat c
    have hencode : encode (c :: reader.chars).reverse =
        encode reader.chars.reverse ++ (whole c).bytes := by
      rw [List.reverse_cons, encode_append, encode_singleton]
      rfl
    rw [Reader.take, if_pos hmissing, hchar]
    refine ⟨?_, ?_, fun other hother => by cases hother⟩
    · rw [hencode, hbehind, Option.elim_none, List.append_nil]
    · rw [hencode, h.position_eq, List.length_append]

/-- Every byte that is read is one of a text or of a character that is begun. -/
lemma step (h : Behind bytes reader) (hstep : reader.step byte = .ok next) :
    Behind (bytes ++ [byte]) next := by
  unfold Reader.step at hstep
  split at hstep
  · next hnone =>
    split at hstep
    · next begun hbegun =>
      obtain rfl := Except.ok.inj hstep
      refine h.take (spells_of_begin?_eq_some hbegun) ?_
      rw [hnone, bytes_of_begin?_eq_some hbegun]
      rfl
    · cases hstep
  · next begun hsome =>
    split_ifs at hstep with hcontinued
    obtain rfl := Except.ok.inj hstep
    refine h.take (spells_push (h.begins begun hsome) hcontinued) ?_
    rw [hsome]
    rfl

theorem run {more : List UInt8} (h : Behind bytes reader)
    (hrun : more.foldlM Reader.step reader = .ok next) : Behind (bytes ++ more) next := by
  induction more generalizing bytes reader with
  | nil =>
    obtain rfl := Except.ok.inj hrun
    rwa [List.append_nil]
  | cons byte more ih =>
    rw [List.foldlM_cons] at hrun
    obtain ⟨later, hstep, hmore⟩ := bind_eq_ok_iff.mp hrun
    rw [List.append_cons]
    exact ih (h.step hstep) hmore

lemma start : Behind [] Reader.start :=
  ⟨rfl, rfl, fun _ hbegun => by cases hbegun⟩

/-- What is begun is at fault if it goes no further. -/
lemma locates_fault (h : Behind bytes reader) (hbegun : reader.begun = some begun) (flaw : Flaw)
    (late : Bool) (more : List UInt8) : Locates (bytes ++ more) (reader.fault begun flaw late) := by
  have hbytes := h.bytes_eq
  rw [hbegun, Option.elim_some] at hbytes
  have hne := (h.begins begun hbegun).bytes_ne_nil
  unfold Reader.fault
  split_ifs
  · refine ⟨⟨reader.chars.reverse, begun.bytes.drop 1 ++ more, ?_, h.position_eq⟩, ?_⟩
    · rw [hbytes, ← List.append_assoc (begun.bytes.take 1), List.take_append_drop,
        List.append_assoc]
    · simpa using hne
  · refine ⟨⟨reader.chars.reverse, more, ?_, h.position_eq⟩, hne⟩
    rw [hbytes, List.append_assoc]

lemma locates_of_step (h : Behind bytes reader) (hstep : reader.step byte = .error fault)
    (more : List UInt8) : Locates (bytes ++ byte :: more) fault := by
  unfold Reader.step at hstep
  split at hstep
  · next hnone =>
    split at hstep
    · cases hstep
    · obtain rfl := Except.error.inj hstep
      refine ⟨⟨reader.chars.reverse, more, ?_, h.position_eq⟩, List.cons_ne_nil _ _⟩
      rw [h.bytes_eq, hnone, Option.elim_none, List.append_nil]
      rfl
  · next begun hsome =>
    split_ifs at hstep
    obtain rfl := Except.error.inj hstep
    exact h.locates_fault hsome _ _ _

theorem locates_of_run {more : List UInt8} (h : Behind bytes reader)
    (hrun : more.foldlM Reader.step reader = .error fault) : Locates (bytes ++ more) fault := by
  induction more generalizing bytes reader with
  | nil => cases hrun
  | cons byte more ih =>
    rw [List.foldlM_cons] at hrun
    rcases bind_eq_error_iff.mp hrun with hstep | ⟨later, hstep, hmore⟩
    · exact h.locates_of_step hstep more
    · rw [List.append_cons]
      exact ih (h.step hstep) hmore

end Reader.Behind

/-! ## Bytes of characters -/

/-- Whether a reader is led to a part of a character by the bytes of the part. -/
def Leads (reader : Reader) (begun : Begun) : Prop :=
  begun.bytes.foldlM Reader.step reader = .ok (reader.take begun)

lemma leads_of_begin?_eq_some (hreader : reader.begun = none) (h : begin? first = some begun) :
    Leads reader begun := by
  rw [Leads, bytes_of_begin?_eq_some h, List.foldlM_cons, Reader.step, hreader]
  simp only [h]
  rfl

/-- A reader that is led to a part is led on by the next byte. -/
lemma Leads.push (h : Leads reader begun) (hmissing : begun.missing ≠ 0)
    (hbyte : begun.isContinuedBy byte = true) : Leads reader (begun.push byte) := by
  have hbegun : reader.take begun = { reader with begun := some begun } := by
    rw [Reader.take, if_neg hmissing]
  have hstep : Reader.step { reader with begun := some begun } byte =
      .ok (reader.take (begun.push byte)) := by
    simp only [Reader.step, hbyte, if_true]
    rfl
  rw [Leads] at h
  rw [Leads, Begun.push, List.foldlM_append, h, hbegun]
  exact bind_eq_ok_iff.mpr ⟨_, rfl, bind_eq_ok_iff.mpr ⟨_, hstep, rfl⟩⟩

/-- A code with one more digit is that of the part with one more byte. -/
lemma Leads.written_succ {missing : Nat}
    (h : Leads reader ⟨written mark more (code / 64), code / 64, missing + 1⟩)
    (hhalf : missing = 0 → code < 0xD800 ∨ 0xDFFF < code)
    (hpossible : Begun.isPossible ⟨written mark (more + 1) code, code, missing⟩ = true) :
    Leads reader ⟨written mark (more + 1) code, code, missing⟩ := by
  have hbyte : (UInt8.ofNat (0x80 + code % 64)).toNat = 0x80 + code % 64 :=
    UInt8.toNat_ofNat_of_lt' (show 0x80 + code % 64 < 256 by omega)
  have hcode : code / 64 * 64 + (0x80 + code % 64 - 0x80) = code := by omega
  have hpush : (Begun.mk (written mark more (code / 64)) (code / 64) (missing + 1)).push
      (UInt8.ofNat (0x80 + code % 64)) = ⟨written mark (more + 1) code, code, missing⟩ := by
    rw [push_written (by omega) (by omega), hbyte, hcode]
  rw [← hpush]
  refine h.push (Nat.succ_ne_zero missing) (isContinuedBy_iff.mpr ?_)
  rw [hpush, Begun.isHalf_eq_false_iff]
  refine ⟨fun hmissing => ?_, by omega, by omega, hpossible⟩
  dsimp only at hmissing ⊢
  omega

/-- The marks of first bytes with others behind them, and from which digit to which one they are
used. -/
inductive Marks : (mark more least limit : Nat) → Prop
  | two : Marks 0xC0 1 2 0x20
  | three : Marks 0xE0 2 0 0x10
  | four : Marks 0xF0 3 0 5

/-- The first byte of a character tells how many more there are. -/
lemma begin?_of_marks {least limit : Nat} (hmarks : Marks mark more least limit)
    (hleast : least ≤ code) (hlimit : code < limit) :
    begin? (UInt8.ofNat (mark + code)) = some ⟨written mark 0 code, code, more⟩ := by
  have hbyte : mark + code < 256 → (UInt8.ofNat (mark + code)).toNat = mark + code :=
    fun h => UInt8.toNat_ofNat_of_lt' h
  unfold begin?
  dsimp only
  cases hmarks with
  | two =>
    rw [hbyte (by omega), if_neg (by omega), if_neg (by omega), if_pos (by omega),
      Nat.add_sub_cancel_left]
    rfl
  | three =>
    rw [hbyte (by omega), if_neg (by omega), if_neg (by omega), if_neg (by omega),
      if_pos (by omega), Nat.add_sub_cancel_left]
    rfl
  | four =>
    rw [hbyte (by omega), if_neg (by omega), if_neg (by omega), if_neg (by omega),
      if_neg (by omega), if_pos (by omega), Nat.add_sub_cancel_left]
    rfl

lemma begin?_of_lt (h : code < 0x80) :
    begin? (UInt8.ofNat code) = some ⟨[UInt8.ofNat code], code, 0⟩ := by
  have hbyte : (UInt8.ofNat code).toNat = code :=
    UInt8.toNat_ofNat_of_lt' (show code < 256 by omega)
  unfold begin?
  dsimp only
  rw [hbyte, if_pos h]

/-- The bytes of a character lead to the character. -/
theorem leads_whole (hreader : reader.begun = none) (c : Char) : Leads reader (whole c) := by
  have hvalid : c.toNat < 0xD800 ∨ 0xDFFF < c.toNat ∧ c.toNat < 0x110000 := c.valid
  by_cases hone : c.toNat < 0x80
  · rw [whole, utf8EncodeChar_one hone]
    exact leads_of_begin?_eq_some hreader (begin?_of_lt hone)
  by_cases htwo : c.toNat < 0x800
  · have hbegin : begin? (UInt8.ofNat (0xC0 + c.toNat / 64)) = some _ :=
      begin?_of_marks .two (by omega) (by omega)
    have hfirst := leads_of_begin?_eq_some hreader hbegin
    rw [whole, utf8EncodeChar_eq_written .two (by omega) htwo]
    exact hfirst.written_succ (by omega) rfl
  by_cases hthree : c.toNat < 0x10000
  · have hbegin : begin? (UInt8.ofNat (0xE0 + c.toNat / 64 / 64)) = some _ :=
      begin?_of_marks .three (by omega) (by omega)
    have hfirst := leads_of_begin?_eq_some hreader hbegin
    have hleast : 0x20 ≤ c.toNat / 64 := by omega
    have hsecond := hfirst.written_succ (by omega) (decide_eq_true hleast)
    rw [whole, utf8EncodeChar_eq_written .three (by omega) hthree]
    exact hsecond.written_succ (by omega) rfl
  · have hbegin : begin? (UInt8.ofNat (0xF0 + c.toNat / 64 / 64 / 64)) = some _ :=
      begin?_of_marks .four (by omega) (by omega)
    have hfirst := leads_of_begin?_eq_some hreader hbegin
    have hbounds : 0x10 ≤ c.toNat / 64 / 64 ∧ c.toNat / 64 / 64 < 0x110 := by omega
    have hsecond := hfirst.written_succ (by omega) (by simpa [Begun.isPossible] using hbounds)
    have hleast : 0x20 ≤ c.toNat / 64 := by omega
    have hthird := hsecond.written_succ (by omega) (decide_eq_true hleast)
    rw [whole, utf8EncodeChar_eq_written .four (by omega) (by omega)]
    exact hthird.written_succ (by omega) rfl

/-- The bytes of a text lead to the text. -/
theorem foldlM_step_encode (cs : List Char) (hreader : reader.begun = none) :
    (encode cs).foldlM Reader.step reader =
      .ok ⟨cs.reverse ++ reader.chars, reader.position + (encode cs).length, none⟩ := by
  induction cs generalizing reader with
  | nil =>
    obtain ⟨chars, position, begun⟩ := reader
    obtain rfl : begun = none := hreader
    rfl
  | cons c cs ih =>
    have hmissing : (whole c).missing = 0 := rfl
    have hchar : Char.ofNat (whole c).code = c := Char.ofNat_toNat c
    have hwhole := leads_whole hreader c
    rw [Leads, Reader.take, if_pos hmissing, hchar] at hwhole
    have hencode : encode (c :: cs) = (whole c).bytes ++ encode cs := List.flatMap_cons
    rw [hencode, List.foldlM_append]
    refine bind_eq_ok_iff.mpr ⟨_, hwhole, ?_⟩
    rw [ih rfl, List.reverse_cons, List.append_assoc, List.singleton_append, List.length_append,
      Nat.add_assoc]

/-! ## Decoding -/

theorem decode_encode (text : String) : decode (encode text.toList) = .ok text := by
  refine bind_eq_ok_iff.mpr ⟨_, foldlM_step_encode text.toList rfl, ?_⟩
  change Except.ok (String.ofList (text.toList.reverse ++ []).reverse) = _
  rw [List.append_nil, List.reverse_reverse, String.ofList_toList]

lemma eq_encode_of_decode_eq_ok {text : String} (h : decode bytes = .ok text) :
    bytes = encode text.toList := by
  obtain ⟨reader, hrun, hfinish⟩ := bind_eq_ok_iff.mp h
  have hbytes := (Reader.Behind.start.run hrun).bytes_eq
  unfold Reader.finish at hfinish
  split at hfinish
  · next hnone =>
    obtain rfl := Except.ok.inj hfinish
    rw [String.toList_ofList]
    rwa [hnone, Option.elim_none, List.append_nil, List.nil_append] at hbytes
  · cases hfinish

/-- Bytes are decoded if and only if they are those of a text. -/
theorem decode_eq_ok_iff {text : String} :
    decode bytes = .ok text ↔ bytes = encode text.toList := by
  constructor
  · exact eq_encode_of_decode_eq_ok
  · rintro rfl
    exact decode_encode text

/-- Where decoding fails, it says behind which text and at which bytes. -/
theorem locates_of_decode_eq_error (h : decode bytes = .error fault) : Locates bytes fault := by
  rcases bind_eq_error_iff.mp h with hrun | ⟨reader, hrun, hfinish⟩
  · exact Reader.Behind.start.locates_of_run hrun
  · have hbehind := Reader.Behind.start.run hrun
    unfold Reader.finish at hfinish
    split at hfinish
    · cases hfinish
    · next begun hsome =>
      obtain rfl := Except.error.inj hfinish
      have hlocates := hbehind.locates_fault hsome .ended true []
      rwa [List.append_nil, List.nil_append] at hlocates

/-- The first two bytes of the sign of the euro behind a letter. -/
example : (fault? (decode [0x61, 0xE2, 0x82])).map Fault.message =
    some "'utf-8' codec can't decode bytes in position 1-2: unexpected end of data" := by
  decide +kernel

end SlashCommand.Text.Utf8
