import AccessControl.Text.Utf8
import AccessControl.Proofs.Failure.Results
import Mathlib.Data.List.TakeWhile
import Mathlib.Tactic

/-!
# Reading what is written in UTF-8

The bytes of a text are read as the text, `Utf8.decode_encode`.  A character is written as a
first byte, which tells the number of bytes, and bytes that may follow it.
-/

namespace AccessControl

namespace Utf8

/-! ### Bytes that follow a first byte -/

/-- The bytes may follow the first byte of a character. -/
def Follow (first : UInt8) : List UInt8 → Prop
  | [] => True
  | b :: more => maySecond first b = true ∧ ∀ c ∈ more, isContinuation c = true

theorem fitting_append
    {first : UInt8} {tail : List UInt8} (h : Follow first tail) (htail : tail ≠ [])
    (rest : List UInt8) :
  fitting first (tail.length + 1) (tail ++ rest) = tail.length
  := by
  cases tail with
  | nil => exact absurd rfl htail
  | cons b more =>
      obtain ⟨hb, hmore⟩ := h
      have hsize : (b :: more).length + 1 - 2 = more.length := by simp
      rw [List.cons_append, fitting, if_pos hb, hsize, List.take_left,
        List.takeWhile_eq_self_iff.mpr hmore, List.length_cons, Nat.add_comm]

/-- The number that the bits of a first byte and of the bytes after it form. -/
def code (first : UInt8) (tail : List UInt8) : Nat :=
  tail.foldl (fun code c => code * 64 + c.toNat % 64) (leadBits (tail.length + 1) first)

/-- A first byte and the bytes after it write the character of a number. -/
structure Writes (n : Nat) (first : UInt8) (tail : List UInt8) : Prop where
  size : size? first = some (tail.length + 1)
  follow : Follow first tail
  code : code first tail = n

/-- A character is read from the bytes that write it, and the rest after it. -/
theorem decodeFrom_append
    {n : Nat} {first : UInt8} {tail : List UInt8} (h : Writes n first tail)
    (fuel position : Nat) (rest : List UInt8) :
  decodeFrom (fuel + 1) position (first :: (tail ++ rest))
    = (decodeFrom fuel (position + (tail.length + 1)) rest).map (Char.ofNat n :: ·)
  := by
  have hfit : (if tail.length + 1 = 1 then 0
      else fitting first (tail.length + 1) (tail ++ rest)) = tail.length := by
    split
    case isTrue hone =>
      rw [Nat.add_eq_right] at hone
      rw [hone]
    case isFalse hmore =>
      apply fitting_append h.follow
      rintro rfl
      apply hmore
      rfl
  rw [decodeFrom, h.size]
  dsimp only
  rw [hfit, if_pos rfl, List.take_left, List.drop_left, ← h.code, code]
  cases decodeFrom fuel (position + (tail.length + 1)) rest <;> rfl

/-! ### Bytes as numbers -/

theorem isContinuation_iff {b : UInt8} :
  isContinuation b = true ↔ 0x80 ≤ b.toNat ∧ b.toNat ≤ 0xBF
  := by
  simp [isContinuation, UInt8.le_iff_toNat_le]

theorem maySecond_iff {first b : UInt8} :
  maySecond first b = true ↔ (0x80 ≤ b.toNat ∧ b.toNat ≤ 0xBF) ∧
    (first.toNat = 0xE0 → 0xA0 ≤ b.toNat) ∧ (first.toNat = 0xED → b.toNat < 0xA0) ∧
    (first.toNat = 0xF0 → 0x90 ≤ b.toNat) ∧ (first.toNat = 0xF4 → b.toNat < 0x90)
  := by
  have himp : ∀ (n : UInt8) (p : Bool),
      (first != n || p) = true ↔ (first.toNat = n.toNat → p = true) := by
    intro n p
    rw [Bool.or_eq_true, bne_iff_ne, Ne, ← UInt8.toNat_inj, imp_iff_not_or]
  simp only [maySecond, Bool.and_eq_true, himp, isContinuation_iff, decide_eq_true_eq,
    UInt8.lt_iff_toNat_lt, UInt8.le_iff_toNat_le, and_assoc]
  rfl

theorem size?_eq (b : UInt8) :
  size? b = if b.toNat < 0x80 then some 1
    else if 0xC2 ≤ b.toNat ∧ b.toNat ≤ 0xDF then some 2
    else if 0xE0 ≤ b.toNat ∧ b.toNat ≤ 0xEF then some 3
    else if 0xF0 ≤ b.toNat ∧ b.toNat ≤ 0xF4 then some 4
    else none
  := by
  simp only [size?, Bool.and_eq_true, decide_eq_true_eq, UInt8.lt_iff_toNat_lt,
    UInt8.le_iff_toNat_le]
  rfl

/-! ### Characters -/

theorem toNat_byte {n : Nat} (h : n < 256) :
  (UInt8.ofNat n).toNat = n
  := UInt8.toNat_ofNat_of_lt h

/-- A byte after the first one holds six bits of the number of a character. -/
theorem toNat_sixBits (n : Nat) :
  (UInt8.ofNat (n % 0x40 + 0x80)).toNat = n % 0x40 + 0x80
  := toNat_byte (by omega)

theorem isContinuation_sixBits (n : Nat) :
  isContinuation (UInt8.ofNat (n % 0x40 + 0x80)) = true
  := by
  rw [isContinuation_iff, toNat_sixBits]
  omega

theorem writes_one {n : Nat} (h : n ≤ 0x7f) :
  Writes n (.ofNat n) []
  := by
  have hfirst : (UInt8.ofNat n).toNat = n := toNat_byte (by omega)
  constructor
  · rw [size?_eq, hfirst, if_pos (by omega)]
    rfl
  · trivial
  · apply hfirst

theorem writes_two {n : Nat} (h : 0x7f < n) (h' : n ≤ 0x7ff) :
  Writes n (.ofNat (n / 64 % 0x20 + 0xc0)) [.ofNat (n % 0x40 + 0x80)]
  := by
  have hfirst : (UInt8.ofNat (n / 64 % 0x20 + 0xc0)).toNat = n / 64 % 0x20 + 0xc0 :=
    toNat_byte (by omega)
  constructor
  · rw [size?_eq, hfirst, if_neg (by omega), if_pos (by omega)]
    rfl
  · constructor
    · rw [maySecond_iff, hfirst, toNat_sixBits]
      omega
    · simp
  · simp only [code, List.length_cons, List.length_nil, List.foldl_cons, List.foldl_nil, leadBits,
      hfirst, toNat_sixBits]
    omega

theorem writes_three {n : Nat} (h : 0x7ff < n) (h' : n ≤ 0xffff)
    (hscalar : n < 0xD800 ∨ 0xDFFF < n) :
  Writes n (.ofNat (n / 4096 % 0x10 + 0xe0))
    [.ofNat (n / 64 % 0x40 + 0x80), .ofNat (n % 0x40 + 0x80)]
  := by
  have hfirst : (UInt8.ofNat (n / 4096 % 0x10 + 0xe0)).toNat = n / 4096 % 0x10 + 0xe0 :=
    toNat_byte (by omega)
  constructor
  · rw [size?_eq, hfirst, if_neg (by omega), if_neg (by omega), if_pos (by omega)]
    rfl
  · constructor
    · rw [maySecond_iff, hfirst, toNat_sixBits]
      omega
    · rw [List.forall_mem_singleton]
      apply isContinuation_sixBits
  · simp only [code, List.length_cons, List.length_nil, List.foldl_cons, List.foldl_nil, leadBits,
      hfirst, toNat_sixBits]
    omega

theorem writes_four {n : Nat} (h : 0xffff < n) (h' : n < 0x110000) :
  Writes n (.ofNat (n / 262144 % 0x08 + 0xf0))
    [.ofNat (n / 4096 % 0x40 + 0x80), .ofNat (n / 64 % 0x40 + 0x80), .ofNat (n % 0x40 + 0x80)]
  := by
  have hfirst : (UInt8.ofNat (n / 262144 % 0x08 + 0xf0)).toNat = n / 262144 % 0x08 + 0xf0 :=
    toNat_byte (by omega)
  constructor
  · rw [size?_eq, hfirst, if_neg (by omega), if_neg (by omega), if_neg (by omega),
      if_pos (by omega)]
    rfl
  · constructor
    · rw [maySecond_iff, hfirst, toNat_sixBits]
      omega
    · rw [List.forall_mem_cons, List.forall_mem_singleton]
      constructor
      · apply isContinuation_sixBits
      · apply isContinuation_sixBits
  · simp only [code, List.length_cons, List.length_nil, List.foldl_cons, List.foldl_nil, leadBits,
      hfirst, toNat_sixBits]
    omega

/-- The bytes of a character write it. -/
theorem writes_character (c : Char) :
  ∃ first tail, String.utf8EncodeChar c = first :: tail ∧ Writes c.toNat first tail
  := by
  have hscalar : c.toNat < 0xD800 ∨ 0xDFFF < c.toNat ∧ c.toNat < 0x110000 := c.valid
  have hv : c.val.toNat = c.toNat := rfl
  rw [String.utf8EncodeChar, hv]
  by_cases hone : c.toNat ≤ 0x7f
  · rw [if_pos hone]
    exact ⟨_, _, rfl, writes_one hone⟩
  rw [if_neg hone]
  by_cases htwo : c.toNat ≤ 0x7ff
  · rw [if_pos htwo]
    exact ⟨_, _, rfl, writes_two (by omega) htwo⟩
  rw [if_neg htwo]
  by_cases hthree : c.toNat ≤ 0xffff
  · rw [if_pos hthree]
    exact ⟨_, _, rfl, writes_three (by omega) hthree (by omega)⟩
  · rw [if_neg hthree]
    exact ⟨_, _, rfl, writes_four (by omega) (by omega)⟩

/-! ### Texts -/

/-- The bytes of characters are read as the characters. -/
theorem decodeFrom_characters
    (cs : List Char) {fuel : Nat} (h : cs.length ≤ fuel) (position : Nat) :
  decodeFrom fuel position (cs.flatMap String.utf8EncodeChar) = .ok cs
  := by
  induction cs generalizing fuel position with
  | nil => cases fuel <;> rfl
  | cons c rest ih =>
      cases fuel with
      | zero => cases h
      | succ fuel =>
          obtain ⟨first, tail, hbytes, hwrites⟩ := writes_character c
          rw [List.flatMap_cons, hbytes, List.cons_append, decodeFrom_append hwrites,
            ih (Nat.le_of_succ_le_succ h), Char.ofNat_toNat]
          rfl

theorem toList_loop (bytes : ByteArray) (i : Nat) (read : List UInt8) :
  ByteArray.toList.loop bytes i read = read.reverse ++ bytes.data.toList.drop i
  := by
  fun_induction ByteArray.toList.loop bytes i read with
  | case1 i read hi ih =>
      have hi' : i < bytes.data.toList.length := hi
      rw [ih, List.reverse_cons, List.append_assoc, List.drop_eq_getElem_cons hi']
      have hget : bytes.get! i = bytes.data.toList[i] := by
        apply getElem!_pos bytes.data i hi
      rw [hget]
      rfl
  | case2 i read hi =>
      rw [List.drop_eq_nil_of_le (Nat.le_of_not_lt hi), List.append_nil]

/-- The bytes of a text are those of its characters. -/
theorem encode_eq (s : String) :
  encode s = s.toList.flatMap String.utf8EncodeChar
  := by
  rw [encode, ByteArray.toList, toList_loop, List.reverse_nil, List.nil_append, List.drop_zero,
    String.toUTF8_eq_toByteArray, ← String.utf8Encode_toList, List.utf8Encode,
    List.data_toByteArray]

/-- A text is read from its bytes. -/
theorem decode_encode (s : String) :
  decode (encode s) = .ok s
  := by
  have hlength : s.toList.length ≤ (encode s).length := by
    rw [encode_eq]
    induction s.toList with
    | nil => apply Nat.le_refl
    | cons c rest ih =>
        have hc := List.length_pos_iff.mpr (String.utf8EncodeChar_ne_nil (c := c))
        rw [List.flatMap_cons, List.length_append, List.length_cons]
        omega
  rw [decode]
  generalize (encode s).length = fuel at hlength
  rw [encode_eq, decodeFrom_characters _ hlength, Except.map, String.ofList_toList]

end Utf8

end AccessControl
