import ScrapeFleet.Text.Utf8

/-!
# Reading the bytes of a text

The bytes of a text are read back as its characters.  None of them is above 0xF7, so
that the greater ones can mark ends between texts.
-/

namespace ScrapeFleet.Utf8

/-! ## Lists of bytes -/

theorem toList_loop_eq (b : ByteArray) (i : Nat) (acc : List UInt8) :
    ByteArray.toList.loop b i acc = acc.reverse ++ b.data.toList.drop i := by
  induction h : b.size - i generalizing i acc with
  | zero =>
      rw [ByteArray.toList.loop, if_neg (by omega), List.drop_eq_nil_of_le, List.append_nil]
      exact Nat.le_of_sub_eq_zero h
  | succ n ih =>
      have hi : i < b.data.toList.length := by
        have hsize : b.size = b.data.toList.length := rfl
        omega
      rw [ByteArray.toList.loop, if_pos (by omega), ih (i + 1) _ (by omega),
        List.drop_eq_getElem_cons hi, List.reverse_cons, List.append_assoc]
      have hget : b.get! i = b.data.toList[i] := by
        have hi' : i < b.data.size := hi
        simp [ByteArray.get!, getElem!_pos b.data i hi']
      rw [hget]
      rfl

theorem toList_eq (b : ByteArray) : b.toList = b.data.toList := toList_loop_eq b 0 []

theorem toList_toUTF8 (s : String) : s.toUTF8.toList = s.toList.flatMap String.utf8EncodeChar := by
  rw [toList_eq, String.toUTF8_eq_toByteArray, ← String.utf8Encode_toList, List.utf8Encode,
    List.toList_data_toByteArray]

theorem toUTF8_toList_inj {s t : String} : s.toUTF8.toList = t.toUTF8.toList ↔ s = t := by
  constructor
  · intro h
    rw [toList_eq, toList_eq, Array.toList_inj] at h
    exact String.toByteArray_inj.1 (ByteArray.ext h)
  · rintro rfl
    rfl

/-! ## One character -/

theorem valid_toNat (c : Char) : c.toNat < 0xD800 ∨ 0xDFFF < c.toNat ∧ c.toNat < 0x110000 := c.valid

theorem byte_lt {c : Char} {b : UInt8} (hb : b ∈ String.utf8EncodeChar c) : b.toNat < 0xF8 := by
  have hvalid := valid_toNat c
  have hc : c.toNat = c.val.toNat := rfl
  unfold String.utf8EncodeChar at hb
  grind [UInt8.toNat_ofNat']

theorem byte_lt_of_mem_toUTF8 {s : String} {b : UInt8} (hb : b ∈ s.toUTF8.toList) :
    b.toNat < 0xF8 := by
  rw [toList_toUTF8, List.mem_flatMap] at hb
  obtain ⟨c, -, hb⟩ := hb
  exact byte_lt hb

theorem tails_tail (acc done more : Nat) (n : Nat) (rest : List UInt8) :
    tails acc done (more + 1) (UInt8.ofNat (n % 64 + 0x80) :: rest) =
      tails (acc * 64 + n % 64) (done + 1) more rest := by
  have hbyte : (UInt8.ofNat (n % 64 + 0x80)).toNat = n % 64 + 0x80 := by
    rw [UInt8.toNat_ofNat']
    omega
  have htail : isTail (n % 64 + 0x80) = true := by
    simp only [isTail, Bool.and_eq_true, decide_eq_true_eq]
    omega
  rw [tails, hbyte, if_pos htail]
  congr 2
  omega

theorem next_one {n : Nat} (hn : n < 0x80) (rest : List UInt8) :
    next (UInt8.ofNat n :: rest) = .char (Char.ofNat n) 1 := by
  have hbyte : (UInt8.ofNat n).toNat = n := by
    rw [UInt8.toNat_ofNat']
    omega
  simp [next, announced, hbyte, hn]

/-- After a first byte that announces `more + 1` further ones and a second byte within its bounds
come tails. -/
theorem next_more {a b more : Nat} (ha : a < 256) (hb : b < 256)
    (hannounced : announced a = more + 2)
    (hbounds : (secondBounds a).1 ≤ b ∧ b ≤ (secondBounds a).2) (rest : List UInt8) :
    next (UInt8.ofNat a :: UInt8.ofNat b :: rest) =
      tails ((if more = 0 then a % 32 else if more = 1 then a % 16 else a % 8) * 64 + b % 64) 2
        more rest := by
  have hfirst : (UInt8.ofNat a).toNat = a := UInt8.toNat_ofNat_of_lt ha
  have hsecond : (UInt8.ofNat b).toNat = b := UInt8.toNat_ofNat_of_lt hb
  simp only [next, hfirst, hannounced, hsecond, decide_eq_true hbounds.1,
    decide_eq_true hbounds.2, Bool.and_self, if_true]

theorem next_encode (c : Char) (rest : List UInt8) :
    next (String.utf8EncodeChar c ++ rest) = .char c (String.utf8EncodeChar c).length := by
  have hvalid := valid_toNat c
  have hchar : Char.ofNat c.toNat = c := Char.ofNat_toNat c
  have hval : c.val.toNat = c.toNat := rfl
  unfold String.utf8EncodeChar
  simp only [hval]
  generalize c.toNat = n at hvalid hchar
  -- The four lengths of an encoding: one byte is read alone, the others go on with tails.
  split
  · rw [List.singleton_append, next_one (by omega), hchar]
    rfl
  split
  · have hannounced : announced (n / 64 % 0x20 + 0xC0) = 0 + 2 := by grind [announced]
    have hvalue : (n / 64 % 0x20 + 0xC0) % 32 * 64 + (n % 64 + 0x80) % 64 = n := by omega
    simp only [List.cons_append, List.nil_append]
    rw [next_more (by omega) (by omega) hannounced (by grind [secondBounds]), if_pos rfl, hvalue,
      tails, hchar]
    rfl
  split
  · have hannounced : announced (n / 4096 % 0x10 + 0xE0) = 1 + 2 := by grind [announced]
    have hvalue : ((n / 4096 % 0x10 + 0xE0) % 16 * 64 + (n / 64 % 64 + 0x80) % 64) * 64 + n % 64 = n := by
      omega
    simp only [List.cons_append, List.nil_append]
    rw [next_more (by omega) (by omega) hannounced (by grind [secondBounds]), if_neg (by omega),
      if_pos rfl, tails_tail, hvalue, tails, hchar]
    rfl
  · have hannounced : announced (n / 262144 % 0x08 + 0xF0) = 2 + 2 := by grind [announced]
    have hvalue : (((n / 262144 % 0x08 + 0xF0) % 8 * 64 + (n / 4096 % 64 + 0x80) % 64) * 64 +
        n / 64 % 64) * 64 + n % 64 = n := by
      omega
    simp only [List.cons_append, List.nil_append]
    rw [next_more (by omega) (by omega) hannounced (by grind [secondBounds]), if_neg (by omega),
      if_neg (by omega), tails_tail, tails_tail, hvalue, tails, hchar]
    rfl

/-! ## Whole texts -/

theorem decodeWithFrom_encode (mark : Char) (cs acc : List Char) (fuel : Nat)
    (hfuel : cs.length < fuel) :
    decodeWithFrom mark fuel acc (cs.flatMap String.utf8EncodeChar) = acc.reverse ++ cs := by
  induction cs generalizing fuel acc with
  | nil =>
      obtain ⟨fuel, rfl⟩ := Nat.exists_eq_add_of_lt hfuel
      rw [List.append_nil]
      rfl
  | cons c cs ih =>
      obtain ⟨fuel, rfl⟩ : ∃ n, fuel = n + 1 := ⟨fuel - 1, by omega⟩
      rw [List.flatMap_cons, decodeWithFrom, next_encode]
      simp only [List.drop_left]
      rw [ih _ _ (by simpa using hfuel)]
      simp

theorem length_le_size (s : String) : s.toList.length ≤ s.toUTF8.size := by
  have hsize : s.toUTF8.size = s.toUTF8.toList.length := by
    rw [toList_eq]
    rfl
  rw [hsize, toList_toUTF8]
  induction s.toList with
  | nil => simp
  | cons c cs ih =>
      have hc := String.utf8EncodeChar_ne_nil (c := c)
      have hpos := List.length_pos_iff.2 hc
      rw [List.flatMap_cons, List.length_append, List.length_cons]
      omega

theorem decodeWith_toUTF8 (mark : Char) (s : String) : decodeWith mark s.toUTF8 = s.toList := by
  have hlength := length_le_size s
  rw [decodeWith, toList_toUTF8, decodeWithFrom_encode _ _ _ _ (by omega)]
  rfl

end ScrapeFleet.Utf8
