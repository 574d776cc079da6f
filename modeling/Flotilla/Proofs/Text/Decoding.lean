import Flotilla.Text.Utf8
import Mathlib.Algebra.Ring.Nat
import Mathlib.Data.List.Basic

/-!
# Bytes and the text they are read as

The machine that reads bytes is held to the encoding of the standard library.  While it is inside a
character it has read the first bytes of the code of every character that the bytes still owed can
lead to (`Opened`), so it ends on the right one.

* `decode_eq_ok_iff`: a text is read exactly from its own bytes.
* `lossy_split`, `exists_split_of_lossy`: a byte below 128 is a character by itself wherever it
  stands, and such a character comes from nothing else.  What is malformed reaches up to it and does
  not swallow it.
* `infix_decodeLossy_iff`: so a word of such characters is in the text exactly if its bytes are in
  the bytes.
-/

namespace Flotilla.Text

open String (utf8EncodeChar)

/-! ## The code of a character -/

/-- The last bytes of a code, with six bits each. -/
def lastBytes (v : Nat) : Nat → List UInt8
  | 0 => []
  | n + 1 => UInt8.ofNat (v / 64 ^ n % 64 + 128) :: lastBytes v n

/-- The bytes owed can be the last ones of this number's code. -/
structure Leads (p : Partial) (v : Nat) : Prop where
  bits : v / 64 ^ p.owed = p.bits
  low : p.low ≤ v / 64 ^ (p.owed - 1) % 64 + 128
  high : v / 64 ^ (p.owed - 1) % 64 + 128 ≤ p.high

/-- A part of a character was read, and these are its bytes. -/
structure Opened (p : Partial) (front : List UInt8) : Prop where
  /-- The next byte is one that only goes on. -/
  low : 0x80 ≤ p.low
  high : p.high ≤ 0xBF
  owed : 0 < p.owed
  /-- The bytes owed lead only to characters whose code starts with these bytes. -/
  code : ∀ v, Leads p v →
    v.isValidChar ∧ 0x80 ≤ v ∧ utf8EncodeChar (Char.ofNat v) = front ++ lastBytes v p.owed

/-- What was read of the character that comes next. -/
def Holds : Option Partial → List UInt8 → Prop
  | none, front => front = []
  | some p, front => Opened p front

theorem holds_none : Holds none [] := rfl

theorem holds_some {p : Partial} {front : List UInt8} (h : Opened p front) : Holds (some p) front :=
  h

theorem toNat_ofNat {v : Nat} (h : v.isValidChar) : (Char.ofNat v).toNat = v := by
  rw [Char.ofNat, dif_pos h]
  rfl

theorem utf8EncodeChar_ofNat {v : Nat} (h : v.isValidChar) :
    utf8EncodeChar (Char.ofNat v) =
      if v ≤ 127 then [UInt8.ofNat v]
      else if v ≤ 2047 then UInt8.ofNat (v / 64 % 32 + 192) :: lastBytes v 1
      else if v ≤ 65535 then UInt8.ofNat (v / 4096 % 16 + 224) :: lastBytes v 2
      else UInt8.ofNat (v / 262144 % 8 + 240) :: lastBytes v 3 := by
  have hv : (Char.ofNat v).val.toNat = v := toNat_ofNat h
  simp only [utf8EncodeChar, hv, lastBytes, Nat.reducePow, Nat.div_one]

theorem ofNat_eq {n : Nat} {b : UInt8} (h : n = b.toNat) : UInt8.ofNat n = b := by
  rw [h, UInt8.ofNat_toNat]

/-! ## The first byte -/

theorem leads_two {bits read low high v : Nat} :
    Leads ⟨bits, read, 1, low, high⟩ v ↔
      v / 64 = bits ∧ low ≤ v % 64 + 128 ∧ v % 64 + 128 ≤ high := by
  constructor
  · rintro ⟨hbits, hlow, hhigh⟩
    exact ⟨by simpa using hbits, by simpa using hlow, by simpa using hhigh⟩
  · rintro ⟨hbits, hlow, hhigh⟩
    exact ⟨by simpa using hbits, by simpa using hlow, by simpa using hhigh⟩

theorem leads_three {bits read low high v : Nat} :
    Leads ⟨bits, read, 2, low, high⟩ v ↔
      v / 4096 = bits ∧ low ≤ v / 64 % 64 + 128 ∧ v / 64 % 64 + 128 ≤ high :=
  ⟨fun ⟨hbits, hlow, hhigh⟩ => ⟨hbits, hlow, hhigh⟩,
    fun ⟨hbits, hlow, hhigh⟩ => ⟨hbits, hlow, hhigh⟩⟩

theorem leads_four {bits read low high v : Nat} :
    Leads ⟨bits, read, 3, low, high⟩ v ↔
      v / 262144 = bits ∧ low ≤ v / 4096 % 64 + 128 ∧ v / 4096 % 64 + 128 ≤ high :=
  ⟨fun ⟨hbits, hlow, hhigh⟩ => ⟨hbits, hlow, hhigh⟩,
    fun ⟨hbits, hlow, hhigh⟩ => ⟨hbits, hlow, hhigh⟩⟩

section

variable {b : UInt8} {bits low high : Nat}

theorem opened_two (hlow : 0xC2 ≤ b.toNat) (hhigh : b.toNat ≤ 0xDF) :
    Opened ⟨b.toNat - 0xC0, 1, 1, 0x80, 0xBF⟩ [b] := by
  refine ⟨Nat.le_refl _, Nat.le_refl _, Nat.one_pos, fun v hleads => ?_⟩
  obtain ⟨hv, -, -⟩ := leads_two.mp hleads
  have hvalid : v.isValidChar := Or.inl (by omega)
  have hfirst : UInt8.ofNat (v / 64 % 32 + 192) = b := ofNat_eq (by omega)
  refine ⟨hvalid, by omega, ?_⟩
  rw [utf8EncodeChar_ofNat hvalid, if_neg (by omega), if_pos (by omega), hfirst]
  rfl

/-- The least second byte keeps out what is too short, and the greatest the surrogates. -/
theorem opened_three (hbits : b.toNat = bits + 0xE0) (hbound : bits ≤ 0xF) (hlow : 0x80 ≤ low)
    (hhigh : high ≤ 0xBF) (hshort : bits = 0 → 0xA0 ≤ low) (hsurrogate : bits = 0xD → high ≤ 0x9F) :
    Opened ⟨bits, 1, 2, low, high⟩ [b] := by
  refine ⟨hlow, hhigh, Nat.two_pos, fun v hleads => ?_⟩
  obtain ⟨hv, hvlow, hvhigh⟩ := leads_three.mp hleads
  have hvalid : v.isValidChar := by
    show v < 0xD800 ∨ 0xDFFF < v ∧ v < 0x110000
    omega
  have hfirst : UInt8.ofNat (v / 4096 % 16 + 224) = b := ofNat_eq (by omega)
  refine ⟨hvalid, by omega, ?_⟩
  rw [utf8EncodeChar_ofNat hvalid, if_neg (by omega), if_neg (by omega), if_pos (by omega), hfirst]
  rfl

/-- The least second byte keeps out what is too short, and the greatest what is too great. -/
theorem opened_four (hbits : b.toNat = bits + 0xF0) (hbound : bits ≤ 4) (hlow : 0x80 ≤ low)
    (hhigh : high ≤ 0xBF) (hshort : bits = 0 → 0x90 ≤ low) (hgreat : bits = 4 → high ≤ 0x8F) :
    Opened ⟨bits, 1, 3, low, high⟩ [b] := by
  refine ⟨hlow, hhigh, Nat.succ_pos 2, fun v hleads => ?_⟩
  obtain ⟨hv, hvlow, hvhigh⟩ := leads_four.mp hleads
  have hvalid : v.isValidChar := Or.inr (by omega)
  have hfirst : UInt8.ofNat (v / 262144 % 8 + 240) = b := ofNat_eq (by omega)
  refine ⟨hvalid, by omega, ?_⟩
  rw [utf8EncodeChar_ofNat hvalid, if_neg (by omega), if_neg (by omega), if_neg (by omega), hfirst]
  rfl

end

theorem startByte_ascii {b : Nat} (h : b < 0x80) : startByte b = (none, [.char (Char.ofNat b)]) :=
  if_pos h

/-- A byte from 128 on opens a character or is malformed. -/
theorem startByte_cases {b : UInt8} (h : 0x80 ≤ b.toNat) :
    (∃ p, startByte b.toNat = (some p, []) ∧ Opened p [b]) ∨
      startByte b.toNat = (none, [.malformed 1]) := by
  unfold startByte
  rw [if_neg (Nat.not_lt.mpr h)]
  split_ifs with h2 hE0 hED h3 hF0 h4 hF4
  · exact Or.inl ⟨_, rfl, opened_two h2.1 h2.2⟩
  · exact Or.inl ⟨_, rfl, opened_three (by omega) (by omega) (by omega) (by omega) (by omega)
      (by omega)⟩
  · exact Or.inl ⟨_, rfl, opened_three (by omega) (by omega) (by omega) (by omega) (by omega)
      (by omega)⟩
  · exact Or.inl ⟨_, rfl, opened_three (by omega) (by omega) (by omega) (by omega) (by omega)
      (by omega)⟩
  · exact Or.inl ⟨_, rfl, opened_four (by omega) (by omega) (by omega) (by omega) (by omega)
      (by omega)⟩
  · exact Or.inl ⟨_, rfl, opened_four (by omega) (by omega) (by omega) (by omega) (by omega)
      (by omega)⟩
  · exact Or.inl ⟨_, rfl, opened_four (by omega) (by omega) (by omega) (by omega) (by omega)
      (by omega)⟩
  · exact Or.inr rfl

/-! ## The next byte -/

theorem sixBits {v n bits b : Nat} (hlow : 0x80 ≤ b) (hhigh : b ≤ 0xBF) :
    v / 64 ^ n = bits * 64 + (b - 0x80) ↔ v / 64 ^ (n + 1) = bits ∧ v / 64 ^ n % 64 + 128 = b := by
  rw [Nat.pow_succ, ← Nat.div_div_eq_div_mul]
  omega

theorem stepByte_last {p : Partial} {b : Nat} (h : p.low ≤ b ∧ b ≤ p.high) (howed : p.owed ≤ 1) :
    stepByte (some p) b = (none, [.char (Char.ofNat (p.bits * 64 + (b - 0x80)))]) := by
  simp only [stepByte, if_pos h, if_pos howed, charOfBits]

theorem stepByte_more {p : Partial} {b : Nat} (h : p.low ≤ b ∧ b ≤ p.high) (howed : ¬ p.owed ≤ 1) :
    stepByte (some p) b =
      (some ⟨p.bits * 64 + (b - 0x80), p.read + 1, p.owed - 1, 0x80, 0xBF⟩, []) := by
  simp only [stepByte, if_pos h, if_neg howed]

theorem stepByte_outside {p : Partial} {b : Nat} (h : ¬ (p.low ≤ b ∧ b ≤ p.high)) :
    stepByte (some p) b = ((startByte b).1, .malformed p.read :: (startByte b).2) := by
  simp only [stepByte, if_neg h]

theorem chunksFrom_cons (st : Option Partial) (b : UInt8) (bytes : List UInt8) :
    chunksFrom st (b :: bytes) =
      (stepByte st b.toNat).2 ++ chunksFrom (stepByte st b.toNat).1 bytes := by
  cases st <;> rfl

/-- A byte that goes on ends the character or leaves more of it open. -/
theorem Opened.step {p : Partial} {front : List UInt8} {b : UInt8} (hopened : Opened p front)
    (h : p.low ≤ b.toNat ∧ b.toNat ≤ p.high) :
    (∃ c : Char, stepByte (some p) b.toNat = (none, [.char c]) ∧ 0x80 ≤ c.toNat ∧
        utf8EncodeChar c = front ++ [b]) ∨
      ∃ q, stepByte (some p) b.toNat = (some q, []) ∧ Opened q (front ++ [b]) := by
  have hb : 0x80 ≤ b.toNat ∧ b.toNat ≤ 0xBF :=
    ⟨Nat.le_trans hopened.low h.1, Nat.le_trans h.2 hopened.high⟩
  obtain ⟨n, hn⟩ : ∃ n, p.owed = n + 1 := ⟨p.owed - 1, by have := hopened.owed; omega⟩
  -- Whatever goes on with this byte is a character that the part read before led to.
  have hcode : ∀ v, v / 64 ^ n = p.bits * 64 + (b.toNat - 0x80) → v.isValidChar ∧ 0x80 ≤ v ∧
      utf8EncodeChar (Char.ofNat v) = front ++ [b] ++ lastBytes v n := by
    intro v hv
    obtain ⟨hbits, hnext⟩ := (sixBits hb.1 hb.2).mp hv
    have hleads : Leads p v := by
      refine ⟨by rw [hn, hbits], ?_, ?_⟩
      · rw [hn, Nat.add_sub_cancel, hnext]
        exact h.1
      · rw [hn, Nat.add_sub_cancel, hnext]
        exact h.2
    obtain ⟨hvalid, hv80, hutf⟩ := hopened.code v hleads
    refine ⟨hvalid, hv80, ?_⟩
    rw [hutf, hn, lastBytes, hnext, UInt8.ofNat_toNat, List.append_assoc, List.singleton_append]
  by_cases howed : p.owed ≤ 1
  · obtain rfl : n = 0 := by omega
    obtain ⟨hvalid, hv80, hutf⟩ := hcode _ (by rw [Nat.pow_zero, Nat.div_one])
    refine Or.inl ⟨_, stepByte_last h howed, ?_, ?_⟩
    · rwa [toNat_ofNat hvalid]
    · rw [hutf, lastBytes, List.append_nil]
  · refine Or.inr ⟨_, stepByte_more h howed, Nat.le_refl _, Nat.le_refl _,
      Nat.sub_pos_of_lt (Nat.not_le.mp howed), ?_⟩
    intro v hv
    have hbits := hv.bits
    simp only [hn, Nat.add_sub_cancel] at hbits ⊢
    exact hcode v hbits

/-- What one byte does: it stands for itself, goes on inside a character or ends one, or shows that
what was read is malformed. -/
theorem stepByte_cases {st : Option Partial} {front : List UInt8} (b : UInt8)
    (h : Holds st front) :
    (∃ c, stepByte st b.toNat = (none, [.char c]) ∧ utf8EncodeChar c = front ++ [b]) ∨
      (∃ q, stepByte st b.toNat = (some q, []) ∧ Opened q (front ++ [b])) ∨
      ∃ next n out, stepByte st b.toNat = (next, .malformed n :: out) := by
  cases st with
  | none =>
    obtain rfl : front = [] := h
    by_cases hb : b.toNat < 0x80
    · have hvalid : b.toNat.isValidChar := Or.inl (by omega)
      refine Or.inl ⟨_, startByte_ascii hb, ?_⟩
      rw [utf8EncodeChar_ofNat hvalid, if_pos (by omega), UInt8.ofNat_toNat]
      rfl
    · obtain ⟨p, hp, hopened⟩ | hbad := startByte_cases (Nat.not_lt.mp hb)
      · exact Or.inr (Or.inl ⟨p, hp, hopened⟩)
      · exact Or.inr (Or.inr ⟨none, 1, [], hbad⟩)
  | some p =>
    by_cases hb : p.low ≤ b.toNat ∧ b.toNat ≤ p.high
    · obtain ⟨c, hc, _, hutf⟩ | hmore := Opened.step h hb
      · exact Or.inl ⟨c, hc, hutf⟩
      · exact Or.inr (Or.inl hmore)
    · exact Or.inr (Or.inr ⟨_, _, _, stepByte_outside hb⟩)

/-! ## A text is read from its own bytes -/

/-- Bytes that are read without a mark are those of the characters read. -/
theorem eq_of_charsOf {bytes : List UInt8} : ∀ {st front seen cs}, Holds st front →
    charsOf seen (chunksFrom st bytes) = .ok cs → front ++ bytes = cs.flatMap utf8EncodeChar := by
  induction bytes with
  | nil =>
    intro st front seen cs hholds hread
    cases st with
    | none =>
      obtain rfl : front = [] := hholds
      cases hread
      rfl
    | some p => cases hread
  | cons b bytes ih =>
    intro st front seen cs hholds hread
    rw [chunksFrom_cons] at hread
    obtain ⟨c, hstep, hutf⟩ | ⟨q, hstep, hopened⟩ | ⟨next, n, out, hstep⟩ := stepByte_cases b hholds
    · rw [hstep] at hread
      cases hrest : charsOf (seen + c.utf8Size) (chunksFrom none bytes) with
      | error m => simp [charsOf, hrest, Except.map] at hread
      | ok cs' =>
        simp only [charsOf, List.cons_append, List.nil_append, hrest, Except.map,
          Except.ok.injEq] at hread
        subst hread
        have hbytes : bytes = cs'.flatMap utf8EncodeChar := ih holds_none hrest
        rw [List.flatMap_cons, hutf, ← hbytes, List.append_assoc, List.singleton_append]
    · rw [hstep] at hread
      rw [← ih (holds_some hopened) hread, List.append_assoc, List.singleton_append]
    · rw [hstep] at hread
      cases hread

theorem toNat_lastByte (k : Nat) : (UInt8.ofNat (k % 64 + 128)).toNat = k % 64 + 128 := by
  rw [UInt8.toNat_ofNat']
  omega

/-- The last bytes of a character that was led to are read to their end. -/
theorem chunksFrom_lastBytes {v n : Nat} (rest : List UInt8) : ∀ {p : Partial}, p.owed = n + 1 →
    Leads p v → chunksFrom (some p) (lastBytes v (n + 1) ++ rest) =
      .char (Char.ofNat v) :: chunksFrom none rest := by
  induction n with
  | zero =>
    intro p howed hleads
    have hbits : v / 64 = p.bits := by simpa [howed] using hleads.bits
    have hlow : p.low ≤ v % 64 + 128 := by simpa [howed] using hleads.low
    have hhigh : v % 64 + 128 ≤ p.high := by simpa [howed] using hleads.high
    have hv : p.bits * 64 + (v % 64 + 128 - 0x80) = v := by omega
    rw [lastBytes, Nat.pow_zero, Nat.div_one, List.cons_append, chunksFrom_cons, toNat_lastByte,
      stepByte_last ⟨hlow, hhigh⟩ (by omega), hv]
    rfl
  | succ n ih =>
    intro p howed hleads
    have hbits : v / 64 ^ (n + 2) = p.bits := by simpa [howed] using hleads.bits
    have hlow : p.low ≤ v / 64 ^ (n + 1) % 64 + 128 := by simpa [howed] using hleads.low
    have hhigh : v / 64 ^ (n + 1) % 64 + 128 ≤ p.high := by simpa [howed] using hleads.high
    rw [lastBytes, List.cons_append, chunksFrom_cons, toNat_lastByte,
      stepByte_more ⟨hlow, hhigh⟩ (by omega)]
    refine ih (by simp [howed]) ⟨?_, ?_, ?_⟩
    · rw [howed]
      exact (sixBits (by omega) (by omega)).mpr ⟨hbits, rfl⟩
    · exact Nat.le_add_left _ _
    · show v / 64 ^ _ % 64 + 128 ≤ 0xBF
      omega

/-- The first byte of a character from 128 on leads to it. -/
theorem startByte_two {v : Nat} (hlow : 128 ≤ v) (hhigh : v ≤ 2047) :
    ∃ p, p.owed = 1 ∧ Leads p v ∧ startByte (v / 64 + 192) = (some p, []) := by
  refine ⟨⟨v / 64 + 192 - 0xC0, 1, 1, 0x80, 0xBF⟩, rfl, leads_two.mpr (by omega), ?_⟩
  rw [startByte, if_neg (by omega), if_pos (by omega)]

theorem startByte_three {v : Nat} (hvalid : v.isValidChar) (hlow : 2048 ≤ v) (hhigh : v ≤ 65535) :
    ∃ p, p.owed = 2 ∧ Leads p v ∧ startByte (v / 4096 + 224) = (some p, []) := by
  have hscalar : v < 0xD800 ∨ 0xDFFF < v ∧ v < 0x110000 := hvalid
  unfold startByte
  rw [if_neg (by omega), if_neg (by omega)]
  split
  · exact ⟨_, rfl, leads_three.mpr (by omega), rfl⟩
  split
  · exact ⟨_, rfl, leads_three.mpr (by omega), rfl⟩
  · rw [if_pos (by omega)]
    exact ⟨_, rfl, leads_three.mpr (by omega), rfl⟩

theorem startByte_four {v : Nat} (hvalid : v.isValidChar) (hlow : 65536 ≤ v) :
    ∃ p, p.owed = 3 ∧ Leads p v ∧ startByte (v / 262144 + 240) = (some p, []) := by
  have hscalar : v < 0xD800 ∨ 0xDFFF < v ∧ v < 0x110000 := hvalid
  unfold startByte
  rw [if_neg (by omega), if_neg (by omega), if_neg (by omega), if_neg (by omega),
    if_neg (by omega)]
  split
  · exact ⟨_, rfl, leads_four.mpr (by omega), rfl⟩
  split
  · exact ⟨_, rfl, leads_four.mpr (by omega), rfl⟩
  · rw [if_pos (by omega)]
    exact ⟨_, rfl, leads_four.mpr (by omega), rfl⟩

/-- A code is read as its character. -/
theorem chunksFrom_code (c : Char) (rest : List UInt8) :
    chunksFrom none (utf8EncodeChar c ++ rest) = .char c :: chunksFrom none rest := by
  have hvalid : c.toNat.isValidChar := c.valid
  have hscalar : c.toNat < 0xD800 ∨ 0xDFFF < c.toNat ∧ c.toNat < 0x110000 := hvalid
  have hcode := utf8EncodeChar_ofNat hvalid
  rw [Char.ofNat_toNat] at hcode
  -- A lead and the last bytes make the character.
  have hlead : ∀ {n first p}, first < 256 → p.owed = n + 1 → Leads p c.toNat →
      startByte first = (some p, []) →
      chunksFrom none (UInt8.ofNat first :: lastBytes c.toNat (n + 1) ++ rest) =
        .char c :: chunksFrom none rest := by
    intro n first p hfirst howed hleads hstart
    have hbyte : (UInt8.ofNat first).toNat = first := UInt8.toNat_ofNat_of_lt' hfirst
    rw [List.cons_append, chunksFrom_cons, hbyte, stepByte, hstart,
      chunksFrom_lastBytes rest howed hleads, Char.ofNat_toNat]
    rfl
  rw [hcode]
  split
  · next h =>
    have hbyte : (UInt8.ofNat c.toNat).toNat = c.toNat :=
      UInt8.toNat_ofNat_of_lt' (Nat.lt_of_le_of_lt h (by decide))
    rw [List.singleton_append, chunksFrom_cons, hbyte, stepByte, startByte_ascii (by omega),
      Char.ofNat_toNat]
    rfl
  split
  · next h1 h2 =>
    obtain ⟨p, howed, hleads, hstart⟩ := startByte_two (Nat.not_le.mp h1) h2
    rw [Nat.mod_eq_of_lt (by omega)]
    exact hlead (by omega) howed hleads hstart
  split
  · next _ h1 h2 =>
    obtain ⟨p, howed, hleads, hstart⟩ := startByte_three hvalid (Nat.not_le.mp h1) h2
    rw [Nat.mod_eq_of_lt (by omega)]
    exact hlead (by omega) howed hleads hstart
  · next h =>
    obtain ⟨p, howed, hleads, hstart⟩ := startByte_four hvalid (Nat.not_le.mp h)
    rw [Nat.mod_eq_of_lt (by omega)]
    exact hlead (by omega) howed hleads hstart

theorem chunks_flatMap (cs : List Char) :
    chunks (cs.flatMap utf8EncodeChar) = cs.map .char := by
  induction cs with
  | nil => rfl
  | cons c cs ih =>
    have hrec := chunksFrom_code c (cs.flatMap utf8EncodeChar)
    rw [List.flatMap_cons, chunks, hrec, ← chunks, ih, List.map_cons]

theorem charsOf_map_char (cs : List Char) : ∀ seen, charsOf seen (cs.map .char) = .ok cs := by
  induction cs with
  | nil => exact fun _ => rfl
  | cons c cs ih =>
    intro seen
    rw [List.map_cons, charsOf, ih]
    rfl

/-! ## The bytes of a text -/

theorem toList_loop (bs : ByteArray) (i : Nat) (acc : List UInt8) :
    ByteArray.toList.loop bs i acc = acc.reverse ++ bs.data.toList.drop i := by
  fun_induction ByteArray.toList.loop bs i acc with
  | case1 i acc hi ih =>
    have hlen : i < bs.data.toList.length := hi
    have hget : bs.get! i = bs.data.toList[i] := getElem!_pos bs.data i hi
    rw [ih, List.reverse_cons, List.append_assoc, List.singleton_append, hget,
      ← List.drop_eq_getElem_cons hlen]
  | case2 i acc hi =>
    have hlen : bs.data.toList.length ≤ i := Nat.not_lt.mp hi
    rw [List.drop_eq_nil_of_le hlen, List.append_nil]

theorem encode_ofList (cs : List Char) : encode (String.ofList cs) = cs.flatMap utf8EncodeChar := by
  rw [encode, ByteArray.toList, toList_loop, String.toUTF8, String.toByteArray_ofList,
    List.utf8Encode, List.toList_data_toByteArray]
  rfl

/-- A text is read exactly from its own bytes. -/
theorem decode_eq_ok_iff {bytes : List UInt8} {s : String} :
    decode bytes = .ok s ↔ encode s = bytes := by
  constructor
  · intro h
    cases hread : charsOf 0 (chunks bytes) with
    | error m => simp [decode, hread, Except.map] at h
    | ok cs =>
      simp only [decode, hread, Except.map, Except.ok.injEq] at h
      rw [← h, encode_ofList, ← eq_of_charsOf holds_none hread, List.nil_append]
  · intro h
    have hbytes : bytes = s.toList.flatMap utf8EncodeChar := by
      rw [← h, ← encode_ofList, String.ofList_toList]
    rw [decode, hbytes, chunks_flatMap, charsOf_map_char]
    exact congrArg Except.ok String.ofList_toList

/-- Texts with the same bytes are the same. -/
theorem encode_injective {s t : String} (h : encode s = encode t) : s = t := by
  have hs : decode (encode t) = .ok s := decode_eq_ok_iff.mpr h
  have ht : decode (encode t) = .ok t := decode_eq_ok_iff.mpr rfl
  exact Except.ok.inj (hs.symm.trans ht)

/-! ## A text with the replacement character -/

/-- The text of an input that goes on from a part of a character. -/
def lossyFrom (st : Option Partial) (bytes : List UInt8) : List Char :=
  (chunksFrom st bytes).map Chunk.lossy

/-- A character whose code is one byte. -/
def Ascii (c : Char) : Prop := c.toNat < 0x80

instance (c : Char) : Decidable (Ascii c) := inferInstanceAs (Decidable (c.toNat < 0x80))

theorem lossyFrom_cons (st : Option Partial) (b : UInt8) (bytes : List UInt8) :
    lossyFrom st (b :: bytes) =
      (stepByte st b.toNat).2.map Chunk.lossy ++ lossyFrom (stepByte st b.toNat).1 bytes := by
  rw [lossyFrom, chunksFrom_cons, List.map_append, lossyFrom]

/-- The one byte of the code. -/
def byteOf (c : Char) : UInt8 := UInt8.ofNat c.toNat

theorem toNat_byteOf {c : Char} (hc : Ascii c) : (byteOf c).toNat = c.toNat :=
  UInt8.toNat_ofNat_of_lt' (Nat.lt_of_lt_of_le hc (by decide))

theorem byteOf_ofNat {b : UInt8} (hb : b.toNat < 0x80) : byteOf (Char.ofNat b.toNat) = b := by
  rw [byteOf, toNat_ofNat (Or.inl (by omega)), UInt8.ofNat_toNat]

theorem utf8EncodeChar_ascii {c : Char} (hc : Ascii c) : utf8EncodeChar c = [byteOf c] := by
  have hvalid : c.toNat.isValidChar := c.valid
  have hcode := utf8EncodeChar_ofNat hvalid
  rw [Char.ofNat_toNat] at hcode
  exact hcode.trans (if_pos (Nat.le_of_lt_succ hc))

/-- What is left of a part before the end or before a byte that does not go on. -/
theorem not_ascii_of_mem_lossyFrom_nil {st : Option Partial} {c : Char}
    (hc : c ∈ lossyFrom st []) : ¬ Ascii c := by
  cases st with
  | none => exact absurd hc List.not_mem_nil
  | some p =>
    obtain rfl : c = '\ufffd' := List.mem_singleton.mp hc
    decide

/-- A byte below 128 ends whatever was read and is a character. -/
theorem stepByte_ascii {st : Option Partial} {front : List UInt8} {b : UInt8}
    (h : Holds st front) (hb : b.toNat < 0x80) : (stepByte st b.toNat).1 = none ∧
      (stepByte st b.toNat).2.map Chunk.lossy = lossyFrom st [] ++ [Char.ofNat b.toNat] := by
  cases st with
  | none =>
    rw [stepByte, startByte_ascii hb]
    exact ⟨rfl, rfl⟩
  | some p =>
    have hlow : 0x80 ≤ p.low := Opened.low h
    rw [stepByte_outside (by omega), startByte_ascii hb]
    exact ⟨rfl, rfl⟩

theorem startByte_high {b : UInt8} (hb : 0x80 ≤ b.toNat) :
    (∀ c ∈ (startByte b.toNat).2.map Chunk.lossy, ¬ Ascii c) ∧
      ∃ front, Holds (startByte b.toNat).1 front := by
  obtain ⟨p, hp, hopened⟩ | hbad := startByte_cases hb
  · rw [hp]
    exact ⟨fun c hc => absurd hc List.not_mem_nil, _, holds_some hopened⟩
  · rw [hbad]
    refine ⟨fun c hc => ?_, _, holds_none⟩
    obtain rfl : c = '\ufffd' := List.mem_singleton.mp hc
    decide

/-- A byte from 128 on ends no character below 128, and what it leaves open was read. -/
theorem stepByte_high {st : Option Partial} {front : List UInt8} {b : UInt8}
    (h : Holds st front) (hb : 0x80 ≤ b.toNat) :
    (∀ c ∈ (stepByte st b.toNat).2.map Chunk.lossy, ¬ Ascii c) ∧
      ∃ front', Holds (stepByte st b.toNat).1 front' := by
  cases st with
  | none => exact startByte_high hb
  | some p =>
    by_cases hin : p.low ≤ b.toNat ∧ b.toNat ≤ p.high
    · obtain ⟨c, hstep, hc, _⟩ | ⟨q, hstep, hopened⟩ := Opened.step h hin
      · rw [hstep]
        refine ⟨fun d hd => ?_, _, holds_none⟩
        obtain rfl : d = c := List.mem_singleton.mp hd
        exact Nat.not_lt.mpr hc
      · rw [hstep]
        exact ⟨fun c hc => absurd hc List.not_mem_nil, _, holds_some hopened⟩
    · rw [stepByte_outside hin]
      obtain ⟨hout, hnext⟩ := startByte_high hb
      refine ⟨fun c hc => ?_, hnext⟩
      obtain rfl | hc := List.mem_cons.mp hc
      · show ¬ Ascii '\ufffd'
        decide
      · exact hout c hc

theorem stepByte_holds {st : Option Partial} {front : List UInt8} (b : UInt8)
    (h : Holds st front) : ∃ front', Holds (stepByte st b.toNat).1 front' := by
  by_cases hb : b.toNat < 0x80
  · rw [(stepByte_ascii h hb).1]
    exact ⟨_, holds_none⟩
  · exact (stepByte_high h (Nat.not_lt.mp hb)).2

theorem eq_nil_of_lossyFrom_eq_nil {bytes : List UInt8} : ∀ {st front}, Holds st front →
    lossyFrom st bytes = [] → st = none ∧ bytes = [] := by
  induction bytes with
  | nil =>
    intro st front _ htext
    cases st with
    | none => exact ⟨rfl, rfl⟩
    | some p => exact absurd htext (List.cons_ne_nil _ _)
  | cons b bytes ih =>
    intro st front h htext
    rw [lossyFrom_cons] at htext
    obtain ⟨hout, hrest⟩ := List.append_eq_nil_iff.mp htext
    obtain ⟨c, hstep, _⟩ | ⟨q, hstep, hopened⟩ | ⟨next, n, out, hstep⟩ := stepByte_cases b h
    · exact absurd hout (by simp [hstep])
    · rw [hstep] at hrest
      exact absurd (ih (holds_some hopened) hrest).1 (Option.some_ne_none q)
    · exact absurd hout (by simp [hstep])

/-- A character below 128 is its byte by itself, and the text is cut there. -/
theorem lossy_split {c : Char} (hc : Ascii c) (post : List UInt8) (pre : List UInt8) :
    ∀ {st front}, Holds st front → lossyFrom st (pre ++ byteOf c :: post) =
      lossyFrom st pre ++ c :: lossyFrom none post := by
  induction pre with
  | nil =>
    intro st front h
    have hb : (byteOf c).toNat < 0x80 := by rwa [toNat_byteOf hc]
    obtain ⟨hnext, hout⟩ := stepByte_ascii h hb
    rw [List.nil_append, lossyFrom_cons, hnext, hout, toNat_byteOf hc, Char.ofNat_toNat,
      List.append_assoc, List.singleton_append]
  | cons a pre ih =>
    intro st front h
    obtain ⟨front', h'⟩ := stepByte_holds a h
    rw [List.cons_append, lossyFrom_cons, lossyFrom_cons, ih h', List.append_assoc]

/-- A member of an appended list that is not in the first one is in the second. -/
theorem append_eq_append_cons {out rest x y : List Char} {c : Char} (hc : c ∉ out)
    (h : out ++ rest = x ++ c :: y) : ∃ x', x = out ++ x' ∧ rest = x' ++ c :: y := by
  obtain ⟨x', hx, hrest⟩ | ⟨y', hout, hy⟩ := List.append_eq_append_iff.mp h
  · exact ⟨x', hx, hrest⟩
  · cases y' with
    | nil => exact ⟨[], by simpa using hout.symm, by simpa using hy.symm⟩
    | cons d y' =>
      obtain ⟨rfl, _⟩ := List.cons.inj hy
      exact absurd (by simp [hout]) hc

/-- A character below 128 comes from its own byte. -/
theorem exists_split_of_lossy {c : Char} (hc : Ascii c) {y : List Char} {bytes : List UInt8} :
    ∀ {st front x}, Holds st front → lossyFrom st bytes = x ++ c :: y →
      ∃ pre post, bytes = pre ++ byteOf c :: post ∧ lossyFrom st pre = x ∧
        lossyFrom none post = y := by
  induction bytes with
  | nil =>
    intro st front x _ htext
    have hmem : c ∈ lossyFrom st [] := by
      rw [htext]
      exact List.mem_append_right x List.mem_cons_self
    exact absurd hc (not_ascii_of_mem_lossyFrom_nil hmem)
  | cons b bytes ih =>
    intro st front x h htext
    by_cases hb : b.toNat < 0x80
    · obtain ⟨hnext, hout⟩ := stepByte_ascii h hb
      rw [lossyFrom_cons, hnext, hout, List.append_assoc, List.singleton_append] at htext
      have hnot : c ∉ lossyFrom st [] := fun hmem => not_ascii_of_mem_lossyFrom_nil hmem hc
      obtain ⟨x', rfl, hrest⟩ := append_eq_append_cons hnot htext
      have hbyte : byteOf (Char.ofNat b.toNat) = b := byteOf_ofNat hb
      cases x' with
      | nil =>
        obtain ⟨rfl, rfl⟩ := List.cons.inj hrest
        exact ⟨[], bytes, by rw [hbyte, List.nil_append], (List.append_nil _).symm, rfl⟩
      | cons d x' =>
        obtain ⟨rfl, hbytes⟩ := List.cons.inj hrest
        obtain ⟨pre, post, rfl, hpre, hpost⟩ := ih holds_none hbytes
        refine ⟨b :: pre, post, rfl, ?_, hpost⟩
        rw [lossyFrom_cons, hnext, hout, hpre, List.append_assoc, List.singleton_append]
    · obtain ⟨hout, front', h'⟩ := stepByte_high h (Nat.not_lt.mp hb)
      rw [lossyFrom_cons] at htext
      obtain ⟨x', rfl, hrest⟩ := append_eq_append_cons (fun hmem => hout c hmem hc) htext
      obtain ⟨pre, post, rfl, rfl, hpost⟩ := ih h' hrest
      exact ⟨b :: pre, post, rfl, lossyFrom_cons st b pre, hpost⟩

/-! ## Words of one-byte characters -/

section

variable {word : List Char} {bytes : List UInt8}

/-- A word begins the text exactly if its bytes begin the bytes. -/
theorem prefix_lossyFrom_iff (hword : ∀ c ∈ word, Ascii c) :
    word <+: lossyFrom none bytes ↔ word.map byteOf <+: bytes := by
  induction word generalizing bytes with
  | nil => exact iff_of_true List.nil_prefix List.nil_prefix
  | cons c word ih =>
    obtain ⟨hc, hword⟩ := List.forall_mem_cons.mp hword
    constructor
    · rintro ⟨y, htext⟩
      obtain ⟨pre, post, rfl, hpre, hpost⟩ :=
        exists_split_of_lossy (x := []) hc holds_none htext.symm
      obtain rfl : pre = [] := (eq_nil_of_lossyFrom_eq_nil holds_none hpre).2
      have hrest : word.map byteOf <+: post := (ih hword).mp ⟨y, hpost.symm⟩
      exact (List.prefix_cons_inj _).mpr hrest
    · rintro ⟨post, rfl⟩
      have hsplit := lossy_split hc (word.map byteOf ++ post) [] holds_none
      have hrest : word <+: lossyFrom none (word.map byteOf ++ post) :=
        (ih hword).mpr (List.prefix_append _ _)
      rw [List.map_cons, List.cons_append]
      exact hsplit ▸ (List.prefix_cons_inj c).mpr hrest

/-- A word of characters below 128 is in the text exactly if its bytes are in the bytes. -/
theorem infix_lossyFrom_iff (hword : ∀ c ∈ word, Ascii c) :
    word <:+: lossyFrom none bytes ↔ word.map byteOf <:+: bytes := by
  cases word with
  | nil => exact iff_of_true List.nil_infix List.nil_infix
  | cons c word =>
    obtain ⟨hc, hword⟩ := List.forall_mem_cons.mp hword
    constructor
    · rintro ⟨x, y, htext⟩
      rw [List.append_assoc, List.cons_append] at htext
      obtain ⟨pre, post, rfl, _, hpost⟩ := exists_split_of_lossy hc holds_none htext.symm
      obtain ⟨rest, rfl⟩ := (prefix_lossyFrom_iff hword).mp ⟨y, hpost.symm⟩
      exact ⟨pre, rest, by simp⟩
    · rintro ⟨pre, rest, rfl⟩
      have hsplit := lossy_split hc (word.map byteOf ++ rest) pre holds_none
      obtain ⟨y, hy⟩ := (prefix_lossyFrom_iff hword).mpr (List.prefix_append (word.map byteOf) rest)
      refine ⟨lossyFrom none pre, y, ?_⟩
      rw [List.map_cons, List.append_assoc, List.append_assoc, List.cons_append, List.cons_append,
        hsplit, hy]

end

/-- A text of characters below 128 has one byte for each. -/
theorem encode_ascii {word : List Char} (hword : ∀ c ∈ word, Ascii c) :
    encode (String.ofList word) = word.map byteOf := by
  rw [encode_ofList]
  induction word with
  | nil => rfl
  | cons c word ih =>
    obtain ⟨hc, hword⟩ := List.forall_mem_cons.mp hword
    rw [List.flatMap_cons, utf8EncodeChar_ascii hc, ih hword, List.singleton_append, List.map_cons]

/-- What is malformed neither hides a word of characters below 128 nor makes one. -/
theorem infix_decodeLossy_iff {word : String} (hword : ∀ c ∈ word.toList, Ascii c)
    {bytes : List UInt8} :
    word.toList <:+: (decodeLossy bytes).toList ↔ encode word <:+: bytes := by
  have hcode : encode word = word.toList.map byteOf := by
    rw [← encode_ascii hword, String.ofList_toList]
  rw [hcode, ← infix_lossyFrom_iff hword, decodeLossy, String.toList_ofList]
  rfl

end Flotilla.Text
