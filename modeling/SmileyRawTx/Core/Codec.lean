import Mathlib.Data.List.Basic
import Mathlib.Algebra.Group.Nat.Basic

/-!
# Wire format: field codecs

The transaction serialisation of `serialize.h` and `core.h` is not under src/, but every raw
transaction the RPC calls of `rpcrawtransaction.cpp` read or print goes through it. It is
modelled here from the spec's description of the canonical encoding (§4.1, §6): fixed-width
little-endian fields, CompactSize counts that are refused when out of range, and reads that
fail on truncated input.

Each field type comes with a `Codec`: a writer, a reader that consumes a prefix of a buffer,
the law that reading what was written gives it back with the same tail (or fails with
`sizeTooLarge` when the value is over the format's limits), and the fact that a successful
read consumes at least one byte. Composite codecs are assembled with the combinators of §3,
so each law is proved once per combinator and never for a concrete record.
-/

namespace SmileyRawTx

/-- A byte string, `std::vector<unsigned char>`. -/
abbrev Bytes := List (BitVec 8)

/-- Why a `CDataStream` read throws. -/
inductive DecodeError where
  /-- `CDataStream::read() : end of data` -/
  | endOfData
  /-- `ReadCompactSize() : size too large` -/
  | sizeTooLarge
deriving DecidableEq, Repr

/-! ## §0  `Except` plumbing -/

instance instDecidableEqExcept {ε α : Type} [DecidableEq ε] [DecidableEq α] :
    DecidableEq (Except ε α)
  | .ok a, .ok b => decidable_of_iff (a = b) (by simp)
  | .error a, .error b => decidable_of_iff (a = b) (by simp)
  | .ok _, .error _ => isFalse (by simp)
  | .error _, .ok _ => isFalse (by simp)

@[simp] theorem ok_bind {ε α β : Type} (a : α) (f : α → Except ε β) :
    (Except.ok a >>= f) = f a := rfl

@[simp] theorem error_bind {ε α β : Type} (e : ε) (f : α → Except ε β) :
    (Except.error e >>= f) = Except.error e := rfl

/-- Inversion of a successful bind: the one fact every proof about a sequence of reads uses. -/
theorem bind_eq_ok {ε α β : Type} {x : Except ε α} {f : α → Except ε β} {b : β} :
    (x >>= f) = .ok b ↔ ∃ a, x = .ok a ∧ f a = .ok b := by
  cases x <;> simp

/-- A serialiser paired with its reader. -/
structure Codec (α : Type) where
  write : α → Bytes
  read : Bytes → Except DecodeError (α × Bytes)
  /-- The value is within the format's size limits, so that it reads back. -/
  fits : α → Bool
  read_write : ∀ x rest,
    read (write x ++ rest) = if fits x then .ok (x, rest) else .error .sizeTooLarge
  read_shrinks : ∀ {bs x rest}, read bs = .ok (x, rest) → rest.length < bs.length

/-! ## §1  Fixed-width little-endian integers -/

/-- The `k` little-endian bytes of `n`, i.e. its low `8 k` bits. -/
def putLE : Nat → Nat → Bytes
  | 0, _ => []
  | k + 1, n => BitVec.ofNat 8 n :: putLE k (n / 256)

/-- Read `k` little-endian bytes. -/
def getLE : Nat → Bytes → Except DecodeError (Nat × Bytes)
  | 0, bs => .ok (0, bs)
  | _ + 1, [] => .error .endOfData
  | k + 1, b :: bs => do
    let (n, rest) ← getLE k bs
    .ok (b.toNat + 256 * n, rest)

theorem getLE_putLE (k n : Nat) (rest : Bytes) :
    getLE k (putLE k n ++ rest) = .ok (n % 256 ^ k, rest) := by
  induction k generalizing n with
  | zero => simp [getLE, putLE, Nat.mod_one]
  | succ k ih =>
    have h : n % 256 ^ (k + 1) = n % 256 + 256 * (n / 256 % 256 ^ k) := by
      rw [Nat.pow_succ', Nat.mod_mul]
    rw [putLE, List.cons_append, getLE, ih, ok_bind, BitVec.toNat_ofNat, h]

theorem getLE_shrinks {k : Nat} {bs rest : Bytes} {n : Nat} (h : getLE k bs = .ok (n, rest)) :
    rest.length + k = bs.length := by
  induction k generalizing bs n with
  | zero => cases h; rfl
  | succ k ih =>
    cases bs with
    | nil => cases h
    | cons b bs =>
      obtain ⟨⟨m, r⟩, hr, h⟩ := bind_eq_ok.mp h
      cases h
      simp [← ih hr]
      omega

/-- The little-endian codec of a `w = 8 k` bit word (`int`, `unsigned int`, `int64_t`,
`uint256`). -/
def Codec.word (k w : Nat) (hw : w = 8 * k) (hk : 0 < k) : Codec (BitVec w) where
  write x := putLE k x.toNat
  read bs := do
    let (n, rest) ← getLE k bs
    .ok (BitVec.ofNat w n, rest)
  fits _ := true
  read_write x rest := by
    have hlt : x.toNat < 256 ^ k := by
      simpa [hw, Nat.pow_mul] using x.isLt
    simp [getLE_putLE, Nat.mod_eq_of_lt hlt]
  read_shrinks {bs x rest} h := by
    obtain ⟨⟨n, r⟩, hr, h⟩ := bind_eq_ok.mp h
    cases h
    have := getLE_shrinks hr
    omega

/-! ## §2  CompactSize counts -/

/-- The largest count `ReadCompactSize` accepts (`MAX_SIZE`, 32 MiB). -/
def MAX_SIZE : Nat := 0x02000000

/-- `WriteCompactSize`. A C++ container never holds `2 ^ 64` elements; lengths at or above that
are written as the largest 64-bit count, so that they read back as out of range. -/
def writeCompactSize (n : Nat) : Bytes :=
  if n < 253 then [BitVec.ofNat 8 n]
  else if n ≤ 0xFFFF then 253 :: putLE 2 n
  else if n ≤ 0xFFFFFFFF then 254 :: putLE 4 n
  else 255 :: putLE 8 (min n (2 ^ 64 - 1))

/-- The count a CompactSize marker byte announces, read from the bytes after it. -/
def readCompactPayload (chSize : BitVec 8) (bs : Bytes) : Except DecodeError (Nat × Bytes) :=
  if chSize.toNat < 253 then .ok (chSize.toNat, bs)
  else if chSize.toNat = 253 then getLE 2 bs
  else if chSize.toNat = 254 then getLE 4 bs
  else getLE 8 bs

/-- `ReadCompactSize`: a marker byte, its payload, and the `MAX_SIZE` check. -/
def readCompactSize : Bytes → Except DecodeError (Nat × Bytes)
  | [] => .error .endOfData
  | chSize :: bs => do
    let (nSizeRet, rest) ← readCompactPayload chSize bs
    if MAX_SIZE < nSizeRet then .error .sizeTooLarge else .ok (nSizeRet, rest)

/-- Every marker form reads back the count it was written for (saturated at `2 ^ 64 - 1`). -/
theorem readCompactPayload_write (n : Nat) (rest : Bytes) : ∃ b bs,
    writeCompactSize n = b :: bs ∧
      readCompactPayload b (bs ++ rest) = .ok (min n (2 ^ 64 - 1), rest) := by
  unfold writeCompactSize
  split_ifs with h₁ h₂ h₃
  · refine ⟨_, [], rfl, ?_⟩
    have : n % 256 = n := Nat.mod_eq_of_lt (by omega)
    simp [readCompactPayload, BitVec.toNat_ofNat, this, h₁]
    omega
  · refine ⟨_, _, rfl, ?_⟩
    simp [readCompactPayload, getLE_putLE, Nat.mod_eq_of_lt (show n < 65536 by omega)]
    omega
  · refine ⟨_, _, rfl, ?_⟩
    simp [readCompactPayload, getLE_putLE, Nat.mod_eq_of_lt (show n < 4294967296 by omega)]
    omega
  · refine ⟨_, _, rfl, ?_⟩
    have : min n (2 ^ 64 - 1) % 256 ^ 8 = min n (2 ^ 64 - 1) := Nat.mod_eq_of_lt (by omega)
    rw [readCompactPayload, getLE_putLE, this]
    rfl

theorem readCompactSize_write (n : Nat) (rest : Bytes) :
    readCompactSize (writeCompactSize n ++ rest) =
      if n ≤ MAX_SIZE then .ok (n, rest) else .error .sizeTooLarge := by
  obtain ⟨b, bs, hw, hp⟩ := readCompactPayload_write n rest
  rw [hw, List.cons_append, readCompactSize, hp, ok_bind]
  unfold MAX_SIZE
  dsimp only
  split_ifs with h₁ h₂ <;> first | omega | rfl | rw [Nat.min_eq_left (by omega)]

theorem readCompactSize_shrinks {bs rest : Bytes} {n : Nat}
    (h : readCompactSize bs = .ok (n, rest)) : rest.length < bs.length := by
  match bs, h with
  | chSize :: bs, h =>
    obtain ⟨⟨m, r⟩, hr, h⟩ := bind_eq_ok.mp h
    have hle : r.length ≤ bs.length := by
      unfold readCompactPayload at hr
      split_ifs at hr <;> first
        | (cases hr; exact le_rfl)
        | (have hs := getLE_shrinks hr; omega)
    dsimp only at h
    split_ifs at h
    cases h
    simp
    omega

/-! ## §3  Combinators -/

/-- `std::vector<unsigned char>` (and `CScript`): a count, then the bytes themselves. -/
def Codec.bytes : Codec Bytes where
  write s := writeCompactSize s.length ++ s
  read bs := do
    let (n, bs) ← readCompactSize bs
    if n ≤ bs.length then .ok (bs.take n, bs.drop n) else .error .endOfData
  fits s := decide (s.length ≤ MAX_SIZE)
  read_write s rest := by
    dsimp only
    rw [List.append_assoc, readCompactSize_write]
    by_cases h : s.length ≤ MAX_SIZE <;> simp [h]
  read_shrinks {bs x rest} h := by
    obtain ⟨⟨n, r⟩, hr, h⟩ := bind_eq_ok.mp h
    have := readCompactSize_shrinks hr
    dsimp only at h
    split_ifs at h
    cases h
    simp
    omega

/-- Read `n` values one after the other. -/
def readMany {α : Type} (c : Codec α) : Nat → Bytes → Except DecodeError (List α × Bytes)
  | 0, bs => .ok ([], bs)
  | n + 1, bs => do
    let (x, bs) ← c.read bs
    let (xs, bs) ← readMany c n bs
    .ok (x :: xs, bs)

theorem readMany_write {α : Type} (c : Codec α) (xs : List α) (rest : Bytes) :
    readMany c xs.length (xs.flatMap c.write ++ rest) =
      if xs.all c.fits then .ok (xs, rest) else .error .sizeTooLarge := by
  induction xs with
  | nil => rfl
  | cons x xs ih =>
    rw [List.length_cons, readMany, List.flatMap_cons, List.append_assoc, c.read_write]
    by_cases hx : c.fits x <;> simp [hx, ih]
    split_ifs <;> rfl

theorem readMany_shrinks {α : Type} {c : Codec α} {n : Nat} {bs rest : Bytes} {xs : List α}
    (h : readMany c n bs = .ok (xs, rest)) : rest.length ≤ bs.length := by
  induction n generalizing bs xs with
  | zero => cases h; exact le_rfl
  | succ n ih =>
    obtain ⟨⟨x, r⟩, hr, h⟩ := bind_eq_ok.mp h
    obtain ⟨⟨ys, r'⟩, hr', h⟩ := bind_eq_ok.mp h
    cases h
    have := c.read_shrinks hr
    have := ih hr'
    omega

/-- `std::vector<T>`: a count, then the elements. -/
def Codec.vector {α : Type} (c : Codec α) : Codec (List α) where
  write xs := writeCompactSize xs.length ++ xs.flatMap c.write
  read bs := do
    let (n, bs) ← readCompactSize bs
    readMany c n bs
  fits xs := decide (xs.length ≤ MAX_SIZE) && xs.all c.fits
  read_write xs rest := by
    dsimp only
    rw [List.append_assoc, readCompactSize_write]
    by_cases h : xs.length ≤ MAX_SIZE
    · rw [if_pos h, ok_bind]
      simp only [readMany_write, h, decide_True, Bool.true_and]
    · simp only [if_neg h, error_bind, h, decide_False, Bool.false_and]
      rfl
  read_shrinks {bs x rest} h := by
    obtain ⟨⟨n, r⟩, hr, h⟩ := bind_eq_ok.mp h
    have := readCompactSize_shrinks hr
    have := readMany_shrinks h
    omega

/-- Two fields in sequence. -/
def Codec.prod {α β : Type} (c₁ : Codec α) (c₂ : Codec β) : Codec (α × β) where
  write p := c₁.write p.1 ++ c₂.write p.2
  read bs := do
    let (a, bs) ← c₁.read bs
    let (b, bs) ← c₂.read bs
    .ok ((a, b), bs)
  fits p := c₁.fits p.1 && c₂.fits p.2
  read_write p rest := by
    dsimp only
    rw [List.append_assoc, c₁.read_write]
    by_cases h₁ : c₁.fits p.1 <;> simp [h₁, c₂.read_write]
    split_ifs <;> rfl
  read_shrinks {bs x rest} h := by
    obtain ⟨⟨a, r⟩, hr, h⟩ := bind_eq_ok.mp h
    obtain ⟨⟨b, r'⟩, hr', h⟩ := bind_eq_ok.mp h
    cases h
    have := c₁.read_shrinks hr
    have := c₂.read_shrinks hr'
    omega

/-- A record stored as the tuple of its fields. -/
def Codec.map {α β : Type} (c : Codec α) (f : α → β) (g : β → α)
    (fg : ∀ y, f (g y) = y) :
    Codec β where
  write y := c.write (g y)
  read bs := do
    let (a, rest) ← c.read bs
    .ok (f a, rest)
  fits y := c.fits (g y)
  read_write y rest := by
    dsimp only
    rw [c.read_write]
    split_ifs <;> simp [fg]
  read_shrinks {bs x rest} h := by
    obtain ⟨⟨a, r⟩, hr, h⟩ := bind_eq_ok.mp h
    cases h
    exact c.read_shrinks hr

end SmileyRawTx
