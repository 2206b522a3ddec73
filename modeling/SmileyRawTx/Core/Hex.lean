import SmileyRawTx.Core.Codec

/-!
# Hex text

Raw transactions travel through the RPC interface as hex strings. `HexStr`, `HexDigit`,
`IsHex`, `ParseHex` and `uint256::GetHex` live in `util.cpp` / `uint256.h`, not under src/;
they are modelled from the spec's "hex-encoded" (§4.1, §4.6): `HexStr` writes two lowercase
digits per byte, `ParseHex` reads pairs of digits back (skipping blanks before a pair and
stopping at the first character that is not a digit), and `IsHex` accepts a non-empty,
even-length string of digits. The one law everything downstream uses is `parseHex_hexStr`.
-/

namespace SmileyRawTx

/-- The sixteen lowercase digits `HexStr` writes. -/
def hexDigitChars : List Char := "0123456789abcdef".toList

/-- The lowercase digit of a value below sixteen. -/
def hexChar (v : Nat) : Char := hexDigitChars.getD v '0'

/-- The two digits of one byte, high half first. -/
def hexPair (b : BitVec 8) : List Char := [hexChar (b.toNat / 16), hexChar (b.toNat % 16)]

/-- `HexStr`: two lowercase digits per byte. -/
def hexStr (bs : Bytes) : String := ⟨bs.flatMap hexPair⟩

/-- `HexDigit`: the value of a hex digit of either case; `none` stands for its `-1`. -/
def hexDigit (c : Char) : Option Nat :=
  if '0' ≤ c ∧ c ≤ '9' then some (c.toNat - '0'.toNat)
  else if 'a' ≤ c ∧ c ≤ 'f' then some (c.toNat - 'a'.toNat + 10)
  else if 'A' ≤ c ∧ c ≤ 'F' then some (c.toNat - 'A'.toNat + 10)
  else none

/-- C's `isspace` in the "C" locale. -/
def isSpace (c : Char) : Bool :=
  c = ' ' || c = '\t' || c = '\n' || c = '\x0b' || c = '\x0c' || c = '\r'

/-- `ParseHex`: pairs of digits, each pair preceded by optional blanks, up to the first
character that does not continue a pair. -/
def parseHex : List Char → Bytes
  | [] => []
  | c :: cs =>
    if isSpace c then parseHex cs
    else match cs with
      | [] => []
      | c₂ :: cs' =>
        match hexDigit c, hexDigit c₂ with
        | some hi, some lo => BitVec.ofNat 8 (hi * 16 + lo) :: parseHex cs'
        | _, _ => []

/-- `IsHex`: only digits, and a positive even number of them. -/
def isHex (s : String) : Bool :=
  s.toList.all (fun c => (hexDigit c).isSome) && 0 < s.length && s.length % 2 == 0

/-- `uint256::GetHex`: the 32 little-endian bytes printed most significant first. -/
def getHex (h : BitVec 256) : String := hexStr (putLE 32 h.toNat).reverse

/-! ## Round trip -/

theorem hexDigit_hexChar : ∀ v : Fin 16, hexDigit (hexChar v) = some v := by decide

theorem isSpace_hexChar : ∀ v : Fin 16, isSpace (hexChar v) = false := by decide

theorem hexDigit_hexChar_of_lt {v : Nat} (h : v < 16) : hexDigit (hexChar v) = some v :=
  hexDigit_hexChar ⟨v, h⟩

theorem isSpace_hexChar_of_lt {v : Nat} (h : v < 16) : isSpace (hexChar v) = false :=
  isSpace_hexChar ⟨v, h⟩

/-- A byte is sixteen times its high digit plus its low digit. -/
theorem byte_halves (b : BitVec 8) : BitVec.ofNat 8 (b.toNat / 16 * 16 + b.toNat % 16) = b := by
  rw [Nat.div_add_mod', BitVec.ofNat_toNat, BitVec.setWidth_eq]

theorem parseHex_hexPairs (bs : Bytes) : parseHex (bs.flatMap hexPair) = bs := by
  induction bs with
  | nil => rfl
  | cons b bs ih =>
    have hb : b.toNat < 256 := b.isLt
    have hi : b.toNat / 16 < 16 := by omega
    have lo : b.toNat % 16 < 16 := by omega
    rw [List.flatMap_cons, hexPair, List.cons_append, List.cons_append, List.nil_append,
      parseHex, isSpace_hexChar_of_lt hi, if_neg Bool.false_ne_true]
    simp only [hexDigit_hexChar_of_lt hi, hexDigit_hexChar_of_lt lo, byte_halves, ih]

/-- `ParseHex` reads back what `HexStr` wrote. -/
theorem parseHex_hexStr (bs : Bytes) : parseHex (hexStr bs).data = bs :=
  parseHex_hexPairs bs

theorem length_hexPairs (bs : Bytes) : (bs.flatMap hexPair).length = 2 * bs.length := by
  induction bs with
  | nil => rfl
  | cons b bs ih => simp [hexPair, ih]; omega

/-- The digits of byte `k` stand at positions `2k` and `2k + 1`, high half first. -/
theorem getElem?_hexPairs (bs : Bytes) (k : Nat) :
    (bs.flatMap hexPair)[2 * k]? = bs[k]?.map (fun b => hexChar (b.toNat / 16)) ∧
      (bs.flatMap hexPair)[2 * k + 1]? = bs[k]?.map (fun b => hexChar (b.toNat % 16)) := by
  induction bs generalizing k with
  | nil => simp
  | cons b bs ih =>
    cases k with
    | zero => simp [hexPair]
    | succ k =>
      rw [show 2 * (k + 1) = 2 * k + 2 by omega]
      simpa [hexPair] using ih k

theorem isSome_hexDigit_of_mem_hexPairs {bs : Bytes} {c : Char} (h : c ∈ bs.flatMap hexPair) :
    (hexDigit c).isSome := by
  obtain ⟨b, -, hc⟩ := List.mem_flatMap.mp h
  have hb : b.toNat < 256 := b.isLt
  simp only [hexPair, List.mem_cons, List.mem_singleton, List.not_mem_nil, or_false] at hc
  rcases hc with rfl | rfl
  · simp [hexDigit_hexChar_of_lt (show b.toNat / 16 < 16 by omega)]
  · simp [hexDigit_hexChar_of_lt (show b.toNat % 16 < 16 by omega)]

/-- What `HexStr` writes passes `IsHex` exactly when it is not empty. -/
theorem isHex_hexStr (bs : Bytes) : isHex (hexStr bs) = !bs.isEmpty := by
  have hl : (hexStr bs).length = 2 * bs.length := length_hexPairs bs
  have hall : (hexStr bs).toList.all (fun c => (hexDigit c).isSome) = true :=
    List.all_eq_true.mpr fun _ hc => isSome_hexDigit_of_mem_hexPairs hc
  rw [isHex, hall, hl]
  cases bs <;> simp

end SmileyRawTx
