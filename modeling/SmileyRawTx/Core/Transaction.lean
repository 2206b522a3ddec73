import SmileyRawTx.Core.Hex

/-!
# Transactions, outputs and coins

The records of `core.h` and `coins.h` that `rpcrawtransaction.cpp` reads and builds, with the
source's field names, and their wire codecs assembled from the field codecs of
`SmileyRawTx.Core.Codec` in the order `core.h` serialises them. `CTransaction` and
`CMutableTransaction` have the same fields and the same wire format; one record serves both.

`txCodec.fits t` is the format's size limit: every count and script of `t` is at most
`MAX_SIZE`. Transactions within it round-trip (`read_tx_write`); the others fail to read back.
-/

namespace SmileyRawTx

/-- `uint256`. -/
abbrev uint256 := BitVec 256

/-- `CScript`: the raw script bytes. -/
abbrev CScript := Bytes

/-- `COutPoint`: a transaction id and an output index. -/
structure COutPoint where
  hash : uint256
  n : BitVec 32
deriving DecidableEq, Repr

/-- `CTxIn`. `CTxIn(COutPoint)` leaves the unlocking script empty and the sequence at
`std::numeric_limits<unsigned int>::max()`. -/
structure CTxIn where
  prevout : COutPoint
  scriptSig : CScript := []
  nSequence : BitVec 32 := 0xFFFFFFFF
deriving DecidableEq, Repr

/-- `CTxOut`: an `int64_t` amount and a locking script. -/
structure CTxOut where
  nValue : BitVec 64
  scriptPubKey : CScript
deriving DecidableEq, Repr

/-- `CMutableTransaction` (and `CTransaction`). A default-constructed one has version
`CTransaction::CURRENT_VERSION = 1`, no inputs, no outputs and lock time 0. -/
structure CMutableTransaction where
  nVersion : BitVec 32 := 1
  vin : List CTxIn := []
  vout : List CTxOut := []
  nLockTime : BitVec 32 := 0
deriving DecidableEq, Repr

/-- `CTransaction`: the same record; only its cached hash differs in the C++. -/
abbrev CTransaction := CMutableTransaction

/-- `COIN`, the number of base units in one coin. -/
def COIN : BitVec 64 := 100000000

/-- `OP_RETURN`. -/
def OP_RETURN : BitVec 8 := 0x6a

/-- Modelled from the spec: `CScript() << data`, one push of the bytes: their length as the
opcode when below `OP_PUSHDATA1`, else `OP_PUSHDATA1`, `OP_PUSHDATA2` or `OP_PUSHDATA4` followed
by the length in 1, 2 or 4 little-endian bytes, then the bytes. -/
def pushData (b : Bytes) : CScript :=
  if b.length < 0x4c then BitVec.ofNat 8 b.length :: b
  else if b.length ≤ 0xff then 0x4c :: BitVec.ofNat 8 b.length :: b
  else if b.length ≤ 0xffff then 0x4d :: putLE 2 b.length ++ b
  else 0x4e :: putLE 4 b.length ++ b

/-! ## Outputs and coins -/

/-- `CTxOut()` / `SetNull()`: the marker of a spent or absent output. -/
def CTxOut.null : CTxOut := ⟨-1, []⟩

/-- `CTxOut::IsNull`. -/
def CTxOut.IsNull (o : CTxOut) : Bool := o.nValue == -1

/-- `CCoins`: the outputs of one transaction as a coins view holds them, spent ones null. -/
structure CCoins where
  vout : List CTxOut := []
  nHeight : Nat := 0
deriving DecidableEq, Repr

/-- The output at `nPos` when `CCoins::IsAvailable(nPos)`: in range and not null. -/
def CCoins.availableOut (coins : CCoins) (nPos : Nat) : Option CTxOut :=
  match coins.vout[nPos]? with
  | some o => if o.IsNull then none else some o
  | none => none

/-! ## Wire codecs -/

/-- `int` and `unsigned int` fields. -/
def Codec.word32 : Codec (BitVec 32) := Codec.word 4 32 rfl (by decide)

/-- `int64_t` fields. -/
def Codec.word64 : Codec (BitVec 64) := Codec.word 8 64 rfl (by decide)

/-- `uint256` fields. -/
def Codec.word256 : Codec uint256 := Codec.word 32 256 rfl (by decide)

/-- `COutPoint`: `hash`, `n`. -/
def outPointCodec : Codec COutPoint :=
  (Codec.word256.prod Codec.word32).map (fun p => ⟨p.1, p.2⟩) (fun o => (o.hash, o.n))
    fun _ => rfl

/-- `CTxIn`: `prevout`, `scriptSig`, `nSequence`. -/
def txInCodec : Codec CTxIn :=
  (outPointCodec.prod (Codec.bytes.prod Codec.word32)).map (fun p => ⟨p.1, p.2.1, p.2.2⟩)
    (fun i => (i.prevout, i.scriptSig, i.nSequence)) fun _ => rfl

/-- `CTxOut`: `nValue`, `scriptPubKey`. -/
def txOutCodec : Codec CTxOut :=
  (Codec.word64.prod Codec.bytes).map (fun p => ⟨p.1, p.2⟩)
    (fun o => (o.nValue, o.scriptPubKey))
    fun _ => rfl

/-- `CTransaction`: `nVersion`, `vin`, `vout`, `nLockTime`. -/
def txCodec : Codec CMutableTransaction :=
  (Codec.word32.prod ((Codec.vector txInCodec).prod ((Codec.vector txOutCodec).prod
    Codec.word32))).map (fun p => ⟨p.1, p.2.1, p.2.2.1, p.2.2.2⟩)
    (fun t => (t.nVersion, t.vin, t.vout, t.nLockTime)) fun _ => rfl

/-- `ssTx << tx`. -/
def serializeTx (t : CMutableTransaction) : Bytes := txCodec.write t

/-- `ssData >> tx` on the front of a stream. -/
def unserializeTx (bs : Bytes) : Except DecodeError (CMutableTransaction × Bytes) :=
  txCodec.read bs

theorem unserializeTx_serializeTx (t : CMutableTransaction) (rest : Bytes) :
    unserializeTx (serializeTx t ++ rest) =
      if txCodec.fits t then .ok (t, rest) else .error .sizeTooLarge :=
  txCodec.read_write t rest

theorem unserializeTx_shrinks {bs rest : Bytes} {t : CMutableTransaction}
    (h : unserializeTx bs = .ok (t, rest)) : rest.length < bs.length :=
  txCodec.read_shrinks h

end SmileyRawTx
