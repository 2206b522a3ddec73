import SmileyRawTx.Build.Spec
import SmileyRawTx.Node.Submit

/-!
# The display calls

`decoderawtransaction` (lines 434–499), `getrawtransaction` (lines 115–200) and `decodescript`
(lines 501–540) print transactions and scripts as JSON objects, with `TxToJSON` (lines 58–113)
and `ScriptPubKeyToJSON` (lines 33–56). They read the node and never change it.

What they call outside the file, the classification of scripts, the printing of addresses and
amounts, and the chain's transactions and block index, is taken as the fields of a `ViewEnv`,
which extends the collaborators of the other calls.

The projection and the calls that read it compose as follows:
* `decoderawtransaction` on the hex of a transaction, with any bytes after it, returns the
  projection of that transaction exactly when the transaction fits the wire limits
  (`decoderawtransaction_hexStr`);
* the verbose answer of `getrawtransaction` is `decoderawtransaction`'s answer on its own hex,
  with the hex in front and the block's fields after (`getrawtransaction_decoderawtransaction`);
* the `"vin"` array of a projection, passed back to `createrawtransaction`, rebuilds the inputs
  only when every output index and sequence is below `2 ^ 31`: `get_int` reads the printed
  `int64` back as an `int`, so the default sequence `0xFFFFFFFF` reads as `-1`
  (`createrawtransaction_decoded_vin`);
* `decodescript` reads back every script from its hex, the empty one included
  (`decodescript_hexStr`);
* a transaction built by `createrawtransaction` and decoded is built again from its `"vin"`
  only when every input gave its sequence (`createrawtransaction_decode_rebuild`).
-/

namespace SmileyRawTx

/-- `CBlockIndex`, the fields `TxToJSON` reads. -/
structure CBlockIndex where
  nHeight : Int
  nTime : BitVec 32
deriving DecidableEq, Repr

/-- The collaborators of the display calls. -/
structure ViewEnv extends Env where
  /-- `ValueFromAmount(amount)`: the amount in coins as a JSON number. -/
  ValueFromAmount : BitVec 64 → Value
  /-- `ExtractDestinations(script, type, addresses, nRequired)`: `GetTxnOutputType(type)` of the
  type it sets, and `nRequired` and `addresses` when it returns true. -/
  ExtractDestinations : CScript → String × Option (Int × List CTxDestination)
  /-- `CBitcoinAddress(dest).ToString()`. -/
  encodeAddress : CTxDestination → String
  /-- `CScript::GetID()`: the hash a pay-to-script-hash address names. -/
  scriptID : CScript → BitVec 160
  /-- `GetTransaction(hash, tx, hashBlock, true)`: the transaction and `hashBlock`, 0 for one
  that is in no block. -/
  GetTransactionSlow : Node → uint256 → Option (CTransaction × uint256)
  /-- `mapBlockIndex.find(hash)`, when it finds a non-null index. -/
  blockIndex : Node → uint256 → Option CBlockIndex
  /-- `chainActive.Contains(pindex)`. -/
  chainContains : Node → CBlockIndex → Bool
  /-- `chainActive.Height()`. -/
  chainHeight : Node → Int

/-- `COutPoint::IsNull()` of `core.h`: the outpoint of a coinbase input. -/
def COutPoint.IsNull (o : COutPoint) : Bool := o.hash == 0 && o.n == 0xFFFFFFFF

/-- `CTransaction::IsCoinBase()` of `core.h`: one input, spending the null outpoint. -/
def CMutableTransaction.IsCoinBase (tx : CMutableTransaction) : Bool :=
  match tx.vin with
  | [txin] => txin.prevout.IsNull
  | _ => false

section Display

variable (env : ViewEnv)

/-! ## §1 The projection -/

/-- `ScriptPubKeyToJSON(scriptPubKey, out, fIncludeHex)`: the members it appends. -/
def ScriptPubKeyToJSON (scriptPubKey : CScript) (fIncludeHex : Bool) : List (String × Value) :=
  let out := ("asm", .str (env.scriptToString scriptPubKey)) ::
    if fIncludeHex then [("hex", .str (hexStr scriptPubKey))] else []
  match env.ExtractDestinations scriptPubKey with
  | (type, none) => out ++ [("type", .str type)]
  | (type, some (nRequired, addresses)) =>
    out ++ [("reqSigs", .int nRequired), ("type", .str type),
      ("addresses", .array (addresses.map fun addr => .str (env.encodeAddress addr)))]

/-- Lines 64–78: one entry of `"vin"`. -/
def txInToJSON (fCoinBase : Bool) (txin : CTxIn) : Value :=
  .obj ((if fCoinBase then [("coinbase", .str (hexStr txin.scriptSig))]
    else [("txid", .str (getHex txin.prevout.hash)), ("vout", .int txin.prevout.n.toNat),
      ("scriptSig", .obj [("asm", .str (env.scriptToString txin.scriptSig)),
        ("hex", .str (hexStr txin.scriptSig))])]) ++
    [("sequence", .int txin.nSequence.toNat)])

/-- Lines 82–91: the entry of `"vout"` for the output at index `i`. -/
def txOutToJSON (i : Nat) (txout : CTxOut) : Value :=
  .obj [("value", env.ValueFromAmount txout.nValue), ("n", .int i),
    ("scriptPubKey", .obj (ScriptPubKeyToJSON env txout.scriptPubKey true))]

/-- Lines 94–112: the fields of the block holding the transaction, when `hashBlock` is not 0. -/
def blockToJSON (node : Node) (hashBlock : uint256) : List (String × Value) :=
  if hashBlock ≠ 0 then
    ("blockhash", .str (getHex hashBlock)) ::
      match env.blockIndex node hashBlock with
      | some pindex =>
        if env.chainContains node pindex then
          [("confirmations", .int (1 + env.chainHeight node - pindex.nHeight)),
            ("time", .int pindex.nTime.toNat), ("blocktime", .int pindex.nTime.toNat)]
        else [("confirmations", .int 0)]
      | none => []
  else []

/-- `TxToJSON(tx, hashBlock, entry)`: the members it appends. -/
def TxToJSON (node : Node) (tx : CTransaction) (hashBlock : uint256) : List (String × Value) :=
  [("txid", .str (getHex (env.GetHash tx))), ("version", .int tx.nVersion.toInt),
    ("locktime", .int tx.nLockTime.toNat),
    ("vin", .array (tx.vin.map (txInToJSON env tx.IsCoinBase))),
    ("vout", .array (tx.vout.enum.map fun (i, txout) => txOutToJSON env i txout))] ++
  blockToJSON env node hashBlock

/-! ## §2 The calls -/

/-- The help text that `decoderawtransaction` throws on `help` or a wrong number of parameters. -/
def decoderawtransactionHelp : String :=
  "decoderawtransaction \"hexstring\"\n" ++
  "\nReturn a JSON object representing the serialized, hex-encoded transaction.\n" ++
  "\nArguments:\n" ++
  "1. \"hex\"      (string, required) The transaction hex string\n" ++
  "\nResult:\n" ++
  "\x7b\n" ++
  "  \"txid\" : \"id\",        (string) The transaction id\n" ++
  "  \"version\" : n,          (numeric) The version\n" ++
  "  \"locktime\" : ttt,       (numeric) The lock time\n" ++
  "  \"vin\" : [               (array of json objects)\n" ++
  "     \x7b\n" ++
  "       \"txid\": \"id\",    (string) The transaction id\n" ++
  "       \"vout\": n,         (numeric) The output number\n" ++
  "       \"scriptSig\": \x7b     (json object) The script\n" ++
  "         \"asm\": \"asm\",  (string) asm\n" ++
  "         \"hex\": \"hex\"   (string) hex\n" ++
  "       \x7d,\n" ++
  "       \"sequence\": n     (numeric) The script sequence number\n" ++
  "     \x7d\n" ++
  "     ,...\n" ++
  "  ],\n" ++
  "  \"vout\" : [             (array of json objects)\n" ++
  "     \x7b\n" ++
  "       \"value\" : x.xxx,            (numeric) The value in btc\n" ++
  "       \"n\" : n,                    (numeric) index\n" ++
  "       \"scriptPubKey\" : \x7b          (json object)\n" ++
  "         \"asm\" : \"asm\",          (string) the asm\n" ++
  "         \"hex\" : \"hex\",          (string) the hex\n" ++
  "         \"reqSigs\" : n,            (numeric) The required sigs\n" ++
  "         \"type\" : \"pubkeyhash\",  (string) The type, eg 'pubkeyhash'\n" ++
  "         \"addresses\" : [           (json array of string)\n" ++
  "           \"12tvKAXCxZjSmdNbao16dKXC8tRWfcF5oc\"   (string) smileycoin address\n" ++
  "           ,...\n" ++
  "         ]\n" ++
  "       \x7d\n" ++
  "     \x7d\n" ++
  "     ,...\n" ++
  "  ],\n" ++
  "\x7d\n" ++
  "\nExamples:\n" ++
  env.HelpExampleCli "decoderawtransaction" "\"hexstring\"" ++
  env.HelpExampleRpc "decoderawtransaction" "\"hexstring\""

/-- `decoderawtransaction(params, fHelp)`. -/
def decoderawtransaction (params : List Value) (fHelp : Bool) : RpcM Value := do
  checkUsage (fHelp || params.length != 1) (decoderawtransactionHelp env)
  let txData ← liftExcept (ParseHexV (params.getD 0 .null) "argument")
  let tx ← liftExcept (decodeTx txData)
  pure (.obj (TxToJSON env (← get) tx 0))

/-- The help text that `getrawtransaction` throws on `help` or a wrong number of parameters. -/
def getrawtransactionHelp : String :=
  "getrawtransaction \"txid\" ( verbose )\n" ++
  "\nReturn the raw transaction data.\n" ++
  "\nIf verbose=0, returns a string that is serialized, hex-encoded data for 'txid'.\n" ++
  "If verbose is non-zero, returns an Object with information about 'txid'.\n" ++
  "\nArguments:\n" ++
  "1. \"txid\"      (string, required) The transaction id\n" ++
  "2. verbose       (numeric, optional, default=0) If 0, return a string, other return a json " ++
  "object\n" ++
  "\nResult (if verbose is not set or set to 0):\n" ++
  "\"data\"      (string) The serialized, hex-encoded data for 'txid'\n" ++
  "\nResult (if verbose > 0):\n" ++
  "\x7b\n" ++
  "  \"hex\" : \"data\",       (string) The serialized, hex-encoded data for 'txid'\n" ++
  "  \"txid\" : \"id\",        (string) The transaction id (same as provided)\n" ++
  "  \"version\" : n,          (numeric) The version\n" ++
  "  \"locktime\" : ttt,       (numeric) The lock time\n" ++
  "  \"vin\" : [               (array of json objects)\n" ++
  "     \x7b\n" ++
  "       \"txid\": \"id\",    (string) The transaction id\n" ++
  "       \"vout\": n,         (numeric) \n" ++
  "       \"scriptSig\": \x7b     (json object) The script\n" ++
  "         \"asm\": \"asm\",  (string) asm\n" ++
  "         \"hex\": \"hex\"   (string) hex\n" ++
  "       \x7d,\n" ++
  "       \"sequence\": n      (numeric) The script sequence number\n" ++
  "     \x7d\n" ++
  "     ,...\n" ++
  "  ],\n" ++
  "  \"vout\" : [              (array of json objects)\n" ++
  "     \x7b\n" ++
  "       \"value\" : x.xxx,            (numeric) The value in btc\n" ++
  "       \"n\" : n,                    (numeric) index\n" ++
  "       \"scriptPubKey\" : \x7b          (json object)\n" ++
  "         \"asm\" : \"asm\",          (string) the asm\n" ++
  "         \"hex\" : \"hex\",          (string) the hex\n" ++
  "         \"reqSigs\" : n,            (numeric) The required sigs\n" ++
  "         \"type\" : \"pubkeyhash\",  (string) The type, eg 'pubkeyhash'\n" ++
  "         \"addresses\" : [           (json array of string)\n" ++
  "           \"smileycoinaddress\"     (string) smileycoin address\n" ++
  "           ,...\n" ++
  "         ]\n" ++
  "       \x7d\n" ++
  "     \x7d\n" ++
  "     ,...\n" ++
  "  ],\n" ++
  "  \"blockhash\" : \"hash\",   (string) the block hash\n" ++
  "  \"confirmations\" : n,      (numeric) The confirmations\n" ++
  "  \"time\" : ttt,             (numeric) The transaction time in seconds since epoch (Jan 1 " ++
  "1970 GMT)\n" ++
  "  \"blocktime\" : ttt         (numeric) The block time in seconds since epoch (Jan 1 1970 " ++
  "GMT)\n" ++
  "\x7d\n" ++
  "\nExamples:\n" ++
  env.HelpExampleCli "getrawtransaction" "\"mytxid\"" ++
  env.HelpExampleCli "getrawtransaction" "\"mytxid\" 1" ++
  env.HelpExampleRpc "getrawtransaction" "\"mytxid\", 1"

/-- `getrawtransaction(params, fHelp)`. -/
def getrawtransaction (params : List Value) (fHelp : Bool) : RpcM Value := do
  checkUsage (fHelp || params.length < 1 || params.length > 2) (getrawtransactionHelp env)
  let hash ← liftExcept (ParseHashV (params.getD 0 .null) "parameter 1")
  let fVerbose ← liftExcept <|
    if params.length > 1 then (params.getD 1 .null).getInt.map (· != 0) else .ok false
  let node ← get
  match env.GetTransactionSlow node hash with
  | none => throw (.json RPC_INVALID_ADDRESS_OR_KEY "No information available about transaction")
  | some (tx, hashBlock) =>
    let strHex := hexStr (serializeTx tx)
    if fVerbose then pure (.obj (("hex", .str strHex) :: TxToJSON env node tx hashBlock))
    else pure (.str strHex)

/-- The help text that `decodescript` throws on `help` or a wrong number of parameters. -/
def decodescriptHelp : String :=
  "decodescript \"hex\"\n" ++
  "\nDecode a hex-encoded script.\n" ++
  "\nArguments:\n" ++
  "1. \"hex\"     (string) the hex encoded script\n" ++
  "\nResult:\n" ++
  "\x7b\n" ++
  "  \"asm\":\"asm\",   (string) Script public key\n" ++
  "  \"hex\":\"hex\",   (string) hex encoded public key\n" ++
  "  \"type\":\"type\", (string) The output type\n" ++
  "  \"reqSigs\": n,    (numeric) The required signatures\n" ++
  "  \"addresses\": [   (json array of string)\n" ++
  "     \"address\"     (string) smileycoin address\n" ++
  "     ,...\n" ++
  "  ],\n" ++
  "  \"p2sh\",\"address\" (string) script address\n" ++
  "\x7d\n" ++
  "\nExamples:\n" ++
  env.HelpExampleCli "decodescript" "\"hexstring\"" ++
  env.HelpExampleRpc "decodescript" "\"hexstring\""

/-- `decodescript(params, fHelp)`: an empty string is the empty script, which `ParseHexV` would
refuse. -/
def decodescript (params : List Value) (fHelp : Bool) : RpcM Value := do
  checkUsage (fHelp || params.length != 1) (decodescriptHelp env)
  liftExcept (RPCTypeCheck params [.str] false)
  let str ← liftExcept (params.getD 0 .null).getStr
  let script ← liftExcept <|
    if str.length > 0 then ParseHexV (params.getD 0 .null) "argument" else .ok []
  pure (.obj (ScriptPubKeyToJSON env script false ++
    [("p2sh", .str (env.encodeAddress (.scriptID (env.scriptID script))))]))

/-! ## §3 What the calls change -/

theorem decoderawtransaction_keeps (params : List Value) (fHelp : Bool) :
    (decoderawtransaction env params fHelp).Keeps :=
  .bind (RpcM.keeps_checkUsage _ _) fun _ => .bind (RpcM.keeps_liftExcept _) fun _ =>
    .bind (RpcM.keeps_liftExcept _) fun _ => .bind RpcM.keeps_get fun _ => RpcM.keeps_pure _

theorem getrawtransaction_keeps (params : List Value) (fHelp : Bool) :
    (getrawtransaction env params fHelp).Keeps :=
  .bind (RpcM.keeps_checkUsage _ _) fun _ => .bind (RpcM.keeps_liftExcept _) fun _ =>
    .bind (RpcM.keeps_liftExcept _) fun _ => .bind RpcM.keeps_get fun _ => by
      split
      · exact RpcM.keeps_throw _
      · exact .ite (RpcM.keeps_pure _) (RpcM.keeps_pure _)

theorem decodescript_keeps (params : List Value) (fHelp : Bool) :
    (decodescript env params fHelp).Keeps :=
  .bind (RpcM.keeps_checkUsage _ _) fun _ => .bind (RpcM.keeps_liftExcept _) fun _ =>
    .bind (RpcM.keeps_liftExcept _) fun _ => .bind (RpcM.keeps_liftExcept _) fun _ =>
      RpcM.keeps_pure _

/-! ## §4 Decoding what was encoded -/

/-- On the hex of any nonempty bytes, `decoderawtransaction` returns the projection of what
`decodeTx` reads from them, or throws its error. -/
theorem decoderawtransaction_hexStr_decodeTx {txData : Bytes} (h : txData ≠ []) (node : Node) :
    decoderawtransaction env [.str (hexStr txData)] false node =
      match decodeTx txData with
      | .ok tx => .ok (.obj (TxToJSON env node tx 0)) node
      | .error e => .error e node := by
  rw [decoderawtransaction, RpcM.checkUsage_bind (by simp), List.getD_cons_zero,
    ParseHexV_hexStr _ _ h, RpcM.bind_of_ok (RpcM.liftExcept_ok _)]
  cases decodeTx txData <;> rfl

/-- **`decoderawtransaction` reads back what the encoder wrote.** On the hex of a transaction,
followed by any bytes, which `ssData >> tx` leaves unread, it returns the projection of that
transaction, with no block fields, exactly when the transaction fits the wire limits; otherwise
it throws `TX decode failed`. -/
theorem decoderawtransaction_hexStr (tx : CTransaction) (rest : Bytes) (node : Node) :
    decoderawtransaction env [.str (hexStr (serializeTx tx ++ rest))] false node =
      if txCodec.fits tx then .ok (.obj (TxToJSON env node tx 0)) node
      else .error txDecodeFailed node := by
  rw [decoderawtransaction_hexStr_decodeTx env
      (List.append_ne_nil_of_left_ne_nil (serializeTx_ne_nil tx) _),
    decodeTx, unserializeTx_serializeTx]
  cases txCodec.fits tx <;> rfl

/-- A transaction in no block has no block fields. -/
theorem blockToJSON_zero (node : Node) : blockToJSON env node 0 = [] :=
  if_neg (not_not.mpr rfl)

/-- The projection of a transaction in a block is its projection in no block, then the block's
fields. -/
theorem TxToJSON_eq (node : Node) (tx : CTransaction) (hashBlock : uint256) :
    TxToJSON env node tx hashBlock = TxToJSON env node tx 0 ++ blockToJSON env node hashBlock := by
  rw [TxToJSON, TxToJSON, blockToJSON_zero, List.append_nil]

/-- Without `verbose`, `getrawtransaction` returns the hex of the transaction the node finds under
the id. -/
theorem getrawtransaction_of_found {node : Node} {h hashBlock : uint256} {tx : CTransaction}
    (hg : env.GetTransactionSlow node h = some (tx, hashBlock)) :
    getrawtransaction env [.str (getHex h)] false node =
      .ok (.str (hexStr (serializeTx tx))) node := by
  rw [getrawtransaction, RpcM.checkUsage_bind (by simp), List.getD_cons_zero, ParseHashV_getHex,
    RpcM.bind_of_ok (RpcM.liftExcept_ok _), if_neg (by simp),
    RpcM.bind_of_ok (RpcM.liftExcept_ok _), RpcM.bind_of_ok RpcM.get_apply, hg]
  rfl

/-- **`getrawtransaction` agrees with `decoderawtransaction`.** For a transaction the node finds
under the id, and that fits the wire limits: without a second parameter `getrawtransaction`
returns its hex; with one it returns the hex again when `get_int` reads the parameter as 0 (so
also for `2 ^ 32`), and otherwise `decoderawtransaction`'s object for that hex, with the hex in
front and the block's fields after. -/
theorem getrawtransaction_decoderawtransaction {node : Node} {h hashBlock : uint256}
    {tx : CTransaction} (hg : env.GetTransactionSlow node h = some (tx, hashBlock))
    (hfits : txCodec.fits tx) (verbose : Int) :
    getrawtransaction env [.str (getHex h)] false node = .ok (.str (hexStr (serializeTx tx))) node ∧
    ∃ fields, decoderawtransaction env [.str (hexStr (serializeTx tx))] false node =
        .ok (.obj fields) node ∧
      getrawtransaction env [.str (getHex h), .int verbose] false node =
        .ok (if (BitVec.ofInt 32 verbose).toInt = 0 then .str (hexStr (serializeTx tx))
          else .obj (("hex", .str (hexStr (serializeTx tx))) :: fields ++
            blockToJSON env node hashBlock)) node := by
  refine ⟨?_, TxToJSON env node tx 0, ?_, ?_⟩
  · exact getrawtransaction_of_found env hg
  · rw [decoderawtransaction_hexStr_decodeTx env (serializeTx_ne_nil tx), decodeTx,
      ← List.append_nil (serializeTx tx), unserializeTx_serializeTx, if_pos hfits]
  · rw [getrawtransaction, RpcM.checkUsage_bind (by simp), List.getD_cons_zero, ParseHashV_getHex,
      RpcM.bind_of_ok (RpcM.liftExcept_ok _), if_pos (by simp), List.getD_cons_succ,
      List.getD_cons_zero,
      show (Value.int verbose).getInt.map (· != 0) = .ok ((BitVec.ofInt 32 verbose).toInt != 0)
        from rfl, RpcM.bind_of_ok (RpcM.liftExcept_ok _), RpcM.bind_of_ok RpcM.get_apply, hg,
      TxToJSON_eq]
    by_cases hv : (BitVec.ofInt 32 verbose).toInt = 0
    · simp only [hv, bne_self_eq_false, if_true]
      rfl
    · simp only [hv, bne_iff_ne, ne_eq, not_false_eq_true, decide_True, if_false, if_true]
      rfl

/-- Display collaborators over `mintEnv` whose `GetTransaction` looks in the pool, and finds no
block. -/
def viewEnv : ViewEnv :=
  { mintEnv with
    ValueFromAmount := fun amount => .int amount.toNat
    ExtractDestinations := fun _ => ("nonstandard", none)
    encodeAddress := fun _ => ""
    scriptID := fun _ => 0
    GetTransactionSlow := fun node h =>
      (node.mempool.find? fun tx => mintEnv.GetHash tx == h).map (·, 0)
    blockIndex := fun _ _ => none
    chainContains := fun _ _ => false
    chainHeight := fun _ => 0 }

/-- A transaction with an input and an output, pooled on `viewEnv`, is found under its id 0
and fits. -/
theorem getrawtransaction_decoderawtransaction_pooled :
    let tx : CTransaction := { vin := [{ prevout := ⟨7, 0⟩ }], vout := [⟨1001 * COIN, [0x51]⟩] }
    viewEnv.GetTransactionSlow { mempool := [tx] } 0 = some (tx, 0) ∧ txCodec.fits tx ∧
    getrawtransaction viewEnv [.str (getHex 0)] false { mempool := [tx] } =
        .ok (.str (hexStr (serializeTx tx))) { mempool := [tx] } ∧
    ∃ fields, decoderawtransaction viewEnv [.str (hexStr (serializeTx tx))] false
        { mempool := [tx] } = .ok (.obj fields) { mempool := [tx] } ∧
      getrawtransaction viewEnv [.str (getHex 0), .int 1] false { mempool := [tx] } =
        .ok (if (BitVec.ofInt 32 1).toInt = 0 then .str (hexStr (serializeTx tx))
          else .obj (("hex", .str (hexStr (serializeTx tx))) :: fields ++
            blockToJSON viewEnv { mempool := [tx] } 0)) { mempool := [tx] } := by
  intro tx
  have hg : viewEnv.GetTransactionSlow { mempool := [tx] } 0 = some (tx, 0) := rfl
  have hfits : txCodec.fits tx := by decide
  exact ⟨hg, hfits, getrawtransaction_decoderawtransaction viewEnv hg hfits 1⟩

/-- **`decodescript` reads back every script from its hex**, the empty script included: its hex
is the empty string, which `ParseHexV` refuses and the call takes as the empty script. -/
theorem decodescript_hexStr (script : CScript) (node : Node) :
    decodescript env [.str (hexStr script)] false node =
      .ok (.obj (ScriptPubKeyToJSON env script false ++
        [("p2sh", .str (env.encodeAddress (.scriptID (env.scriptID script))))])) node := by
  have hT : RPCTypeCheck [.str (hexStr script)] [.str] false = .ok () := rfl
  rw [decodescript, RpcM.checkUsage_bind (by simp), hT, RpcM.bind_of_ok (RpcM.liftExcept_ok ()),
    List.getD_cons_zero, show (Value.str (hexStr script)).getStr = .ok (hexStr script) from rfl,
    RpcM.bind_of_ok (RpcM.liftExcept_ok _)]
  cases script with
  | nil => rfl
  | cons b bs =>
    have hl : (hexStr (b :: bs)).length = 2 * (bs.length + 1) := length_hexPairs _
    rw [if_pos (by omega), ParseHexV_hexStr _ _ (List.cons_ne_nil _ _)]
    rfl

/-! ## §5 Decoded inputs given back to the builder

`TxToJSON` prints an output index and a sequence as the `int64` of an `unsigned int`, and
`parseInput` reads them back with `get_int`, which keeps the low 32 bits as a signed `int`. -/

theorem ofInt_natCast_toNat {w : Nat} (x : BitVec w) : BitVec.ofInt w (x.toNat : Int) = x := by
  rw [BitVec.ofInt_natCast, BitVec.ofNat_toNat, BitVec.setWidth_eq]

theorem toInt_nonneg_iff (x : BitVec 32) : 0 ≤ x.toInt ↔ x.toNat < 2 ^ 31 := by
  rw [BitVec.toInt_eq_toNat_cond]
  split <;> omega

/-- `parseInput` on the projection of an input that is not a coinbase one: the input with its
unlocking script cleared when its index and sequence are below `2 ^ 31`, else the error of the
first of the two that is not. -/
theorem parseInput_txInToJSON (txin : CTxIn) :
    parseInput (txInToJSON env false txin) =
      if txin.prevout.n.toNat < 2 ^ 31 then
        if txin.nSequence.toNat < 2 ^ 31 then .ok { txin with scriptSig := [] }
        else .error (.json RPC_INVALID_PARAMETER "Invalid parameter, sequence must be positive")
      else .error (.json RPC_INVALID_PARAMETER "Invalid parameter, vout must be positive") := by
  obtain ⟨⟨hash, n⟩, scriptSig, nSequence⟩ := txin
  have hty : ∀ k, (Value.int k).type = .int := fun _ => rfl
  have hget : ∀ x : BitVec 32, (Value.int x.toNat).getInt = .ok x.toInt := fun x => by
    rw [Value.getInt, ofInt_natCast_toNat]
  have hneg : ∀ x : BitVec 32, x.toInt < 0 ↔ ¬x.toNat < 2 ^ 31 := fun x => by
    rw [← toInt_nonneg_iff]
    omega
  simp only [parseInput, txInToJSON, if_false, Value.getObj, ok_bind, ParseHashO, findValue_cons,
    Bool.false_eq_true, ParseHashV_getHex, List.cons_append, List.nil_append, hty, hget, ne_eq,
    not_true_eq_false, decide_False, throwIf_false, if_true, String.reduceEq, ofInt_toInt, hneg]
  by_cases hn : n.toNat < 2 ^ 31 <;> by_cases hs : nSequence.toNat < 2 ^ 31 <;>
    simp only [hn, hs, not_true_eq_false, not_false_eq_true, decide_False, decide_True,
      throwIf, if_true, if_false, ok_bind, error_bind, Bool.false_eq_true]

/-- The projection of a coinbase input has no `"txid"`. -/
theorem parseInput_txInToJSON_coinbase (txin : CTxIn) :
    parseInput (txInToJSON env true txin) =
      .error (.json RPC_INVALID_PARAMETER "txid must be hexadecimal string (not '')") := rfl

theorem parseInput_txInToJSON_eq_ok {txin y : CTxIn} :
    parseInput (txInToJSON env false txin) = .ok y ↔
      (txin.prevout.n.toNat < 2 ^ 31 ∧ txin.nSequence.toNat < 2 ^ 31) ∧
        y = { txin with scriptSig := [] } := by
  rw [parseInput_txInToJSON]
  split_ifs with hn hs
  · simp only [Except.ok.injEq, hn, hs, and_self, true_and, eq_comm]
  · exact iff_of_false (fun h => by cases h) fun h => hs h.1.2
  · exact iff_of_false (fun h => by cases h) fun h => hn h.1.1

theorem mapM_parseInput_txInToJSON {vin ys : List CTxIn} :
    (vin.map (txInToJSON env false)).mapM parseInput = .ok ys ↔
      (∀ txin ∈ vin, txin.prevout.n.toNat < 2 ^ 31 ∧ txin.nSequence.toNat < 2 ^ 31) ∧
        ys = vin.map fun txin => { txin with scriptSig := [] } := by
  rw [mapM_eq_ok_iff, List.forall₂_map_left_iff]
  induction vin generalizing ys with
  | nil => cases ys <;> simp
  | cons txin vin ih =>
    cases ys with
    | nil => simp
    | cons y ys =>
      rw [List.forall₂_cons, ih, parseInput_txInToJSON_eq_ok env]
      simp only [List.mem_cons, forall_eq_or_imp, List.map_cons, List.cons.injEq]
      tauto

theorem findValue_TxToJSON_vin (node : Node) (tx : CTransaction) (hashBlock : uint256) :
    findValue (TxToJSON env node tx hashBlock) "vin" =
      .array (tx.vin.map (txInToJSON env tx.IsCoinBase)) := by
  simp only [TxToJSON, List.cons_append, findValue_cons, String.reduceEq, if_false, if_true]

/-- The printed inputs of a transaction that is no coinbase, given back to `createrawtransaction`
with no outputs: the call returns exactly when every output index and sequence is below
`2 ^ 31`, and then builds the inputs with their unlocking scripts cleared. -/
theorem createrawtransaction_txInToJSON (vin : List CTxIn) (node : Node) {r : Value}
    {node' : Node} :
    createrawtransaction env.toEnv [.array (vin.map (txInToJSON env false)), .obj []] false node =
        .ok r node' ↔
      (∀ txin ∈ vin, txin.prevout.n.toNat < 2 ^ 31 ∧ txin.nSequence.toNat < 2 ^ 31) ∧
        r = .str (hexStr (serializeTx
          { vin := vin.map fun txin => { txin with scriptSig := [] } })) ∧ node' = node := by
  rw [createrawtransaction_obj,
    show ([] : List (String × Value)).foldlM (addSendTo env.toEnv) ([], []) = .ok ([], []) from rfl]
  cases h : (vin.map (txInToJSON env false)).mapM parseInput with
  | error e =>
    refine iff_of_false (fun h' => by cases h') fun ⟨hall, _⟩ => ?_
    rw [(mapM_parseInput_txInToJSON env).mpr ⟨hall, rfl⟩] at h
    cases h
  | ok ys =>
    obtain ⟨hall, rfl⟩ := (mapM_parseInput_txInToJSON env).mp h
    rw [EStateM.Result.ok.injEq]
    exact ⟨fun ⟨h₁, h₂⟩ => ⟨hall, h₁.symm, h₂.symm⟩, fun ⟨_, h₁, h₂⟩ => ⟨h₁.symm, h₂.symm⟩⟩

/-- **The printed inputs of a transaction, given back to `createrawtransaction`.** The `"vin"`
array of the projection of any transaction, in a block or not, passed as the input array with no
outputs, makes `createrawtransaction` return exactly when the transaction is not a coinbase and
every input's output index and sequence are below `2 ^ 31`; it then returns the hex of a
transaction with the same inputs, unsigned, and leaves the node as it was. An input with the
default sequence `0xFFFFFFFF`, printed as `4294967295`, is always refused. -/
theorem createrawtransaction_decoded_vin (node : Node) (tx : CTransaction) (hashBlock : uint256)
    {r : Value} {node' : Node} :
    createrawtransaction env.toEnv [findValue (TxToJSON env node tx hashBlock) "vin", .obj []] false
        node = .ok r node' ↔
      tx.IsCoinBase = false ∧
        (∀ txin ∈ tx.vin, txin.prevout.n.toNat < 2 ^ 31 ∧ txin.nSequence.toNat < 2 ^ 31) ∧
        r = .str (hexStr (serializeTx
          { vin := tx.vin.map fun txin => { txin with scriptSig := [] } })) ∧ node' = node := by
  rw [findValue_TxToJSON_vin]
  cases hcb : tx.IsCoinBase
  · rw [createrawtransaction_txInToJSON]
    exact (and_iff_right rfl).symm
  · obtain ⟨txin, hvin⟩ : ∃ txin, tx.vin = [txin] := by
      unfold CMutableTransaction.IsCoinBase at hcb
      split at hcb
      · exact ⟨_, ‹_›⟩
      · cases hcb
    rw [hvin, List.map_cons, List.map_nil, createrawtransaction_obj, List.mapM_cons,
      parseInput_txInToJSON_coinbase]
    exact iff_of_false (fun h => by cases h) fun h => by cases h.1

/-! ## §6 Building, decoding and building again -/

theorem forall₂_forall_iff {α β : Type} {R : α → β → Prop} {P : α → Prop} {Q : β → Prop}
    {l₁ : List α} {l₂ : List β} (h : List.Forall₂ R l₁ l₂) (hPQ : ∀ a b, R a b → (P a ↔ Q b)) :
    (∀ a ∈ l₁, P a) ↔ ∀ b ∈ l₂, Q b := by
  induction h with
  | nil => simp
  | cons hab _ ih => simp only [List.mem_cons, forall_eq_or_imp, hPQ _ _ hab, ih]

/-- An input the builder read has an output index below `2 ^ 31`, and a sequence below `2 ^ 31`
exactly when its entry gave one. -/
theorem InputSpec.bounds {input : Value} {txin : CTxIn} (h : InputSpec input txin) :
    txin.prevout.n.toNat < 2 ^ 31 ∧
      (txin.nSequence.toNat < 2 ^ 31 ↔
        ∃ o, input = .obj o ∧ (findValue o "sequence").type = .int) := by
  obtain ⟨o, rfl, -, ⟨n, -, hn, hnout⟩, -, hseq⟩ := h
  refine ⟨by rw [hnout]; exact (toInt_nonneg_iff _).mp hn, ?_⟩
  rcases hseq with ⟨s, hs, hspos, hseq⟩ | ⟨hty, hseq⟩
  · exact iff_of_true (by rw [hseq]; exact (toInt_nonneg_iff _).mp hspos) ⟨o, rfl, by rw [hs]; rfl⟩
  · refine iff_of_false (by rw [hseq]; decide) ?_
    rintro ⟨o', ho, hty'⟩
    cases ho
    exact hty hty'

/-- A transaction whose output indices are below `2 ^ 31` is no coinbase: the null outpoint has
index `0xFFFFFFFF`. -/
theorem IsCoinBase_eq_false {tx : CTransaction}
    (h : ∀ txin ∈ tx.vin, txin.prevout.n.toNat < 2 ^ 31) : tx.IsCoinBase = false := by
  unfold CMutableTransaction.IsCoinBase
  split
  · rename_i txin hvin
    have hlt := h txin (by simp [hvin])
    have hne : txin.prevout.n ≠ 0xFFFFFFFF := fun heq => by
      rw [heq] at hlt
      exact absurd hlt (by decide)
    exact Bool.and_eq_false_iff.mpr (.inr (beq_eq_false_iff_ne.mpr hne))
  · rfl

/-- **A built transaction, decoded, is rebuilt only from explicit sequences.** When
`createrawtransaction` returns the hex of a transaction and `decoderawtransaction` decodes that
hex, passing the decoded `"vin"` back to `createrawtransaction` with no outputs returns exactly
when every entry of the original input array gave a `"sequence"`: an entry without one left the
default sequence, which the second call refuses. -/
theorem createrawtransaction_decode_rebuild {inputs : List Value} {sendTo : List (String × Value)}
    {node node₁ node₂ : Node} {hex : Value} {fields : List (String × Value)}
    (hc : createrawtransaction env.toEnv [.array inputs, .obj sendTo] false node = .ok hex node₁)
    (hd : decoderawtransaction env [hex] false node₁ = .ok (.obj fields) node₂) :
    (∃ r node₃, createrawtransaction env.toEnv [findValue fields "vin", .obj []] false node₂ =
        .ok r node₃) ↔
      ∀ input ∈ inputs, ∃ o, input = .obj o ∧ (findValue o "sequence").type = .int := by
  rw [createrawtransaction_obj] at hc
  cases hin : inputs.mapM parseInput with
  | error e => rw [hin] at hc; cases hc
  | ok vin =>
    cases hout : sendTo.foldlM (addSendTo env.toEnv) ([], []) with
    | error e => rw [hin, hout] at hc; cases hc
    | ok st =>
      rw [hin, hout] at hc
      cases hc
      have hspec := mapM_parseInput_eq_ok_iff.mp hin
      rw [decoderawtransaction_hexStr_decodeTx env (serializeTx_ne_nil _)] at hd
      cases hdec : decodeTx (serializeTx { vin, vout := st.2 }) with
      | error e => rw [hdec] at hd; cases hd
      | ok tx =>
        rw [hdec] at hd
        cases hd
        cases decodeTx_serializeTx hdec
        have hn : ∀ txin ∈ vin, txin.prevout.n.toNat < 2 ^ 31 :=
          (forall₂_forall_iff hspec fun _ _ hs => iff_of_true trivial hs.bounds.1).mp
            fun _ _ => trivial
        rw [findValue_TxToJSON_vin, IsCoinBase_eq_false hn]
        simp only [createrawtransaction_txInToJSON, exists_and_left, exists_eq_left, exists_eq,
          and_true]
        refine (forall₂_forall_iff hspec fun _ _ hs => ?_).symm
        exact ⟨fun hp => ⟨hs.bounds.1, hs.bounds.2.mpr hp⟩, fun hq => hs.bounds.2.mp hq.2⟩

/-- An input without a sequence, built, decoded, and refused when built again. -/
theorem createrawtransaction_decode_rebuild_default :
    createrawtransaction viewEnv.toEnv [.array [.obj [("txid", .str (getHex 0)), ("vout", .int 0)]],
        .obj []] false {} = .ok (.str (hexStr (serializeTx { vin := [⟨⟨0, 0⟩, [], 0xFFFFFFFF⟩] })))
        {} ∧
    decoderawtransaction viewEnv [.str (hexStr (serializeTx { vin := [⟨⟨0, 0⟩, [], 0xFFFFFFFF⟩] }))]
        false {} = .ok (.obj (TxToJSON viewEnv {} { vin := [⟨⟨0, 0⟩, [], 0xFFFFFFFF⟩] } 0)) {} ∧
    ((∃ r node₃, createrawtransaction viewEnv.toEnv [findValue (TxToJSON viewEnv {}
        { vin := [⟨⟨0, 0⟩, [], 0xFFFFFFFF⟩] } 0) "vin", .obj []] false {} = .ok r node₃) ↔
      ∀ input ∈ [Value.obj [("txid", .str (getHex 0)), ("vout", .int 0)]],
        ∃ o, input = .obj o ∧ (findValue o "sequence").type = .int) :=
  have hc : createrawtransaction viewEnv.toEnv [.array [.obj [("txid", .str (getHex 0)),
      ("vout", .int 0)]], .obj []] false {} =
      .ok (.str (hexStr (serializeTx { vin := [⟨⟨0, 0⟩, [], 0xFFFFFFFF⟩] }))) {} := by
    rfl
  have hd : decoderawtransaction viewEnv [.str (hexStr (serializeTx
      { vin := [⟨⟨0, 0⟩, [], 0xFFFFFFFF⟩] }))] false {} =
      .ok (.obj (TxToJSON viewEnv {} { vin := [⟨⟨0, 0⟩, [], 0xFFFFFFFF⟩] } 0)) {} := by
    rw [decoderawtransaction_hexStr_decodeTx viewEnv (serializeTx_ne_nil _), decodeTx,
      ← List.append_nil (serializeTx _), unserializeTx_serializeTx]
    rfl
  ⟨hc, hd, createrawtransaction_decode_rebuild viewEnv hc hd⟩

end Display

end SmileyRawTx
