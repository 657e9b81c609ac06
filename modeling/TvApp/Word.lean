import Mathlib.Tactic

/-! Big-endian sixteen-bit words and low-bit masks, as natural-number facts.
`word` puts two bytes together the way the C expression `(hi << 8) + lo` does;
`wordBytes` is the encoder that it undoes. -/
namespace TvApp

def word (hi lo : UInt8) : UInt16 := (hi.toUInt16 <<< 8) + lo.toUInt16

/-- The two bytes of the low sixteen bits of `n`, most significant first. -/
def wordBytes (n : ℕ) : List UInt8 := [UInt8.ofNat (n/256),UInt8.ofNat n]

@[simp] theorem wordBytes_length (n : ℕ) : (wordBytes n).length = 2 := rfl

theorem word_toNat (hi lo : UInt8) : (word hi lo).toNat = 256*hi.toNat+lo.toNat := by
  have hh := hi.toNat_lt
  have hl := lo.toNat_lt
  have hs : UInt16.toNat 8 % 16 = 8 := rfl
  simp only [word,UInt16.toNat_add,UInt16.toNat_shiftLeft,UInt8.toNat_toUInt16,Nat.shiftLeft_eq,hs]
  omega

theorem word_wordBytes (n : ℕ) : word (UInt8.ofNat (n/256)) (UInt8.ofNat n) = UInt16.ofNat n := by
  apply UInt16.toNat_inj.mp
  rw [word_toNat,UInt8.toNat_ofNat',UInt8.toNat_ofNat',UInt16.toNat_ofNat']
  omega

theorem toNat_and_mask16 (w : UInt16) (k : ℕ) (hk : k ≤ 16) :
    (w &&& UInt16.ofNat (2^k-1)).toNat = w.toNat % 2^k := by
  have hp : 2^k ≤ 2^16 := Nat.pow_le_pow_right (by omega) hk
  have h0 : 0 < 2^k := Nat.two_pow_pos k
  rw [UInt16.toNat_and,UInt16.toNat_ofNat_of_lt' (by change _ < 2^16; omega),
    Nat.and_two_pow_sub_one_eq_mod]

theorem toNat_and_mask8 (b : UInt8) (k : ℕ) (hk : k ≤ 8) :
    (b &&& UInt8.ofNat (2^k-1)).toNat = b.toNat % 2^k := by
  have hp : 2^k ≤ 2^8 := Nat.pow_le_pow_right (by omega) hk
  have h0 : 0 < 2^k := Nat.two_pow_pos k
  rw [UInt8.toNat_and,UInt8.toNat_ofNat_of_lt' (by change _ < 2^8; omega),
    Nat.and_two_pow_sub_one_eq_mod]

theorem and_0FFF_toNat (w : UInt16) : (w &&& 0x0FFF).toNat = w.toNat % 4096 :=
  toNat_and_mask16 w 12 (by omega)

theorem and_1FFF_toNat (w : UInt16) : (w &&& 0x1FFF).toNat = w.toNat % 8192 :=
  toNat_and_mask16 w 13 (by omega)

@[simp] theorem and_FFFF (w : UInt16) : w &&& 0xFFFF = w := by
  apply UInt16.toNat_inj.mp
  rw [show (w &&& 0xFFFF).toNat = w.toNat % 2^16 from toNat_and_mask16 w 16 (by omega)]
  exact Nat.mod_eq_of_lt w.toNat_lt

@[simp] theorem and_FF (b : UInt8) : b &&& 0xFF = b := by
  apply UInt8.toNat_inj.mp
  rw [show (b &&& 0xFF).toNat = b.toNat % 2^8 from toNat_and_mask8 b 8 (by omega)]
  exact Nat.mod_eq_of_lt b.toNat_lt

theorem and_01_toNat (b : UInt8) : (b &&& 0x01).toNat = b.toNat % 2 :=
  toNat_and_mask8 b 1 (by omega)

theorem shiftRight7_and_01_toNat (b : UInt8) : (b >>> 7 &&& 0x01).toNat = b.toNat / 128 := by
  have hb := b.toNat_lt
  have hs : UInt8.toNat 7 % 8 = 7 := rfl
  rw [and_01_toNat,UInt8.toNat_shiftRight,Nat.shiftRight_eq_div_pow,hs]
  omega

theorem shiftRight1_and_1F_toNat (b : UInt8) :
    (b >>> 1 &&& 0x1F).toNat = b.toNat / 2 % 32 := by
  rw [show (b >>> 1 &&& 0x1F).toNat = (b >>> 1).toNat % 2^5 from toNat_and_mask8 _ 5 (by omega),
    UInt8.toNat_shiftRight,Nat.shiftRight_eq_div_pow]
  rfl

theorem toNat_succ (b : UInt8) (hb : b.toNat < 255) : (b+1).toNat = b.toNat+1 := by
  rw [UInt8.toNat_add]
  exact Nat.mod_eq_of_lt (by change b.toNat+1 < 256; omega)

theorem mod_eq_of_or_eq {x y m : UInt8} (k : ℕ) (hm : m.toNat % 2^k = 0) (h : x ||| m = y ||| m) :
    x.toNat % 2^k = y.toNat % 2^k := by
  have hx := congrArg (fun b => UInt8.toNat b % 2^k) h
  simpa only [UInt8.toNat_or,Nat.or_mod_two_pow,hm,Nat.or_zero] using hx

theorem div_eq_of_or_eq {x y m : UInt8} (k : ℕ) (hm : m.toNat / 2^k = 0) (h : x ||| m = y ||| m) :
    x.toNat / 2^k = y.toNat / 2^k := by
  have hx := congrArg (fun b => UInt8.toNat b / 2^k) h
  simpa only [UInt8.toNat_or,Nat.or_div_two_pow,hm,Nat.or_zero] using hx

theorem word_and_0FFF_congr {x y lo : UInt8} (h : x.toNat % 2^4 = y.toNat % 2^4) :
    word x lo &&& 0x0FFF = word y lo &&& 0x0FFF := by
  apply UInt16.toNat_inj.mp
  rw [and_0FFF_toNat,and_0FFF_toNat,word_toNat,word_toNat]
  omega

theorem word_and_1FFF_congr {x y lo : UInt8} (h : x.toNat % 2^5 = y.toNat % 2^5) :
    word x lo &&& 0x1FFF = word y lo &&& 0x1FFF := by
  apply UInt16.toNat_inj.mp
  rw [and_1FFF_toNat,and_1FFF_toNat,word_toNat,word_toNat]
  omega

theorem shiftRight7_congr {x y : UInt8} (h : x.toNat / 2^7 = y.toNat / 2^7) :
    (x >>> 7 &&& 0x01 : UInt8) = y >>> 7 &&& 0x01 := by
  apply UInt8.toNat_inj.mp
  rw [shiftRight7_and_01_toNat,shiftRight7_and_01_toNat]
  exact h

theorem shiftRight1_congr {x y : UInt8} (h : x.toNat % 2^6 = y.toNat % 2^6) :
    (x >>> 1 &&& 0x1F : UInt8) = y >>> 1 &&& 0x1F := by
  apply UInt8.toNat_inj.mp
  rw [shiftRight1_and_1F_toNat,shiftRight1_and_1F_toNat]
  omega

theorem and_01_congr {x y : UInt8} (h : x.toNat % 2^6 = y.toNat % 2^6) :
    (x &&& 0x01 : UInt8) = y &&& 0x01 := by
  apply UInt8.toNat_inj.mp
  rw [and_01_toNat,and_01_toNat]
  omega

theorem toInt_toInt16 (w : UInt16) (hw : w.toNat < 2^15) : w.toInt16.toInt = w.toNat := by
  change w.toBitVec.toInt = w.toNat
  rw [BitVec.toInt_eq_toNat_of_lt (by change 2*w.toNat < 2^16; omega)]
  rfl

theorem toInt16_eq_neg_one_iff (w : UInt16) : w.toInt16 = -1 ↔ w = 0xFFFF := by
  constructor
  · intro h
    exact congrArg Int16.toUInt16 h
  · rintro rfl
    rfl

theorem toInt_toInt16_neg (w : UInt16) (hw : 2^15 ≤ w.toNat) : w.toInt16.toInt < 0 := by
  change w.toBitVec.toInt < 0
  rw [BitVec.toInt_eq_toNat_cond,if_neg (by change ¬ 2*w.toNat < 2^16; omega)]
  have hlt : w.toNat < 2^16 := w.toNat_lt
  change (w.toNat : ℤ)-_ < 0
  omega

end TvApp
