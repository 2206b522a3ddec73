import SmileyRawTx.Node.State

/-!
# `createrawtransaction`

`createrawtransaction` (lines 317–432) builds an unsigned transaction from a JSON array of
inputs and a JSON object of outputs, and returns its hex. Each input names an output by `txid`
and `vout`, with an optional `sequence`. Each member of the output object is either an address
with an amount, or `"data"` with `"hex:amount"`: an `OP_RETURN` output carrying the bytes, whose
amount is the coins after the colon, parsed with `strtoll`, at least 0 and multiplied by `COIN`
in `int64_t` arithmetic, which overflows above `92233720368` coins (`dataOutput_amount`). An
address may appear once; `data` any number of times.

The call reads nothing of the node: inputs are not looked up, and the transaction is neither
stored nor sent.
-/

namespace SmileyRawTx

/-- The help text that `createrawtransaction` throws on `help` or a wrong number of parameters. -/
def createrawtransactionHelp (env : Env) : String :=
  "createrawtransaction [\x7b\"txid\":\"id\",\"vout\":n\x7d,...] " ++
  "[\x7b\"address\":amount\x7d,\x7b\"data\":\"hex\"\x7d,...]\n" ++
  "\nCreate a transaction spending the given inputs and sending to the given addresses.\n" ++
  "Returns hex-encoded raw transaction.\n" ++
  "Note that the transaction's inputs are not signed, and\n" ++
  "it is not stored in the wallet or transmitted to the network.\n" ++
  "\nArguments:\n" ++
  "1. \"transactions\"        (string, required) A json array of json objects\n" ++
  "     [\n" ++
  "       \x7b\n" ++
  "         \"txid\":\"id\",  (string, required) The transaction id\n" ++
  "         \"vout\":n,       (numeric, required) The output number\n" ++
  "         \"sequence\":n    (numeric, optional) The sequence number\n" ++
  "       \x7d\n" ++
  "       ,...\n" ++
  "     ]\n" ++
  "2. \"addresses\"           (string, required) a json object with addresses as keys and " ++
  "amounts as values\n" ++
  "    \x7b\n" ++
  "      \"address\": x.xxx   (numeric, required) The key is the smileycoin address, the " ++
  "value is the btc amount\n" ++
  "      ,...\n" ++
  "    \x7d,\n" ++
  "    \x7b\n" ++
  "      \"data\": \"hex:amount\"    (obj, optional) A key-value pair. The key must be " ++
  "\"data\", the value is hex encoded data and amount of SMLY\n" ++
  "                                  to be burnt by this OP_RETURN output. Default value is " ++
  "0\n" ++
  "    \x7d\n" ++
  "    ,...                   More key-value pairs of the above form. For compatibility " ++
  "reasons, a dictionary, which holds the key-value pairs directly, is also\n" ++
  "                           accepted as second parameter.\n" ++
  "\nResult:\n" ++
  "\"transaction\"            (string) hex string of the transaction\n" ++
  "\nExamples\n" ++
  env.HelpExampleCli "createrawtransaction"
    ("\"[\x7b\\\"txid\\\":\\\"myid\\\",\\\"vout\\\":0\x7d]\" " ++
     "\"[\x7b\\\"address\\\":0.01\x7d]\"") ++
  env.HelpExampleCli "createrawtransaction"
    ("\"[\x7b\\\"txid\\\":\\\"myid\\\",\\\"vout\\\":0\x7d]\" " ++
     "\"[\x7b\\\"data\\\":\\\"00010203\\\"\x7d]\"") ++
  env.HelpExampleRpc "createrawtransaction"
    ("\"[\x7b\\\"txid\\\":\\\"myid\\\",\\\"vout\\\":0\x7d]\", " ++
     "\"[\x7b\\\"address\\\":0.01\x7d]\"") ++
  env.HelpExampleRpc "createrawtransaction"
    ("\"[\x7b\\\"txid\\\":\\\"myid\\\",\\\"vout\\\":0\x7d]\", " ++
     "\"[\x7b\\\"data\\\":\\\"00010203\\\"\x7d]\"")

/-- `LLONG_MAX`. -/
def LLONG_MAX : Int := 9223372036854775807

/-- `LLONG_MIN`. -/
def LLONG_MIN : Int := -9223372036854775808

/-- `strtoll(s, NULL, 10)` as the C standard defines it: white space, an optional sign, then
the longest run of decimal digits, 0 when there is none; a value out of the range of
`long long` gives `LLONG_MAX` or `LLONG_MIN`. -/
def strtoll (s : String) : Int :=
  let cs := s.toList.dropWhile isSpace
  let (neg, cs) : Bool × List Char := match cs with
    | '-' :: rest => (true, rest)
    | '+' :: rest => (false, rest)
    | _ => (false, cs)
  let n : Int := (cs.takeWhile Char.isDigit).foldl (fun acc c => 10 * acc + (c.toNat - 48)) 0
  max LLONG_MIN (min LLONG_MAX (if neg then -n else n))

theorem strtoll_le_LLONG_MAX (s : String) : strtoll s ≤ LLONG_MAX := by
  unfold strtoll
  dsimp only
  split <;> exact Int.max_le.mpr ⟨by decide, Int.min_le_left _ _⟩

/-- Lines 365–387: one entry of the input array, `CTxIn(COutPoint(txid, nOutput))` with the
sequence it gives, if any. -/
def parseInput (input : Value) : Except RpcError CTxIn := do
  let o ← input.getObj
  let txid ← ParseHashO o "txid"
  let vout_v := findValue o "vout"
  throwIf (vout_v.type ≠ .int) (.json RPC_INVALID_PARAMETER "Invalid parameter, missing vout key")
  let nOutput ← vout_v.getInt
  throwIf (nOutput < 0) (.json RPC_INVALID_PARAMETER "Invalid parameter, vout must be positive")
  let sequence := findValue o "sequence"
  let nSequence ←
    if sequence.type = .int then do
      let nSequence ← sequence.getInt
      throwIf (nSequence < 0)
        (.json RPC_INVALID_PARAMETER "Invalid parameter, sequence must be positive")
      .ok (BitVec.ofInt 32 nSequence)
    else .ok 0xFFFFFFFF
  .ok { prevout := ⟨txid, BitVec.ofInt 32 nOutput⟩, nSequence }

/-- Lines 396–408: the output of a `"data"` member, `"hex"` or `"hex:amount"`. The text is
split at every colon; an amount is read only when there are exactly two parts. -/
def dataOutput (hexdata : String) : Except RpcError CTxOut := do
  let str := (hexdata.toList.splitOn ':').map String.mk
  let data ← ParseHexV (.str (str.getD 0 "")) "Data"
  let amount : Int := if str.length = 2 then strtoll (str.getD 1 "") else 0
  .ok ⟨BitVec.ofInt 64 (max 0 amount) * COIN, OP_RETURN :: pushData data⟩

/-! ## What the loops read -/

/-- Every input the loop reads is unsigned: `CTxIn(COutPoint(txid, nOutput))` has an empty
unlocking script. -/
theorem parseInput_scriptSig {input : Value} {txin : CTxIn} (h : parseInput input = .ok txin) :
    txin.scriptSig = [] := by
  simp only [parseInput, bind_eq_ok] at h
  obtain ⟨o, -, txid, -, u, -, nOutput, -, u', -, h⟩ := h
  split_ifs at h
  · obtain ⟨_, -, h⟩ := bind_eq_ok.mp h
    obtain ⟨_, -, h⟩ := bind_eq_ok.mp h
    cases h
    rfl
  · cases h
    rfl

theorem mapM_parseInput_scriptSig {inputs : List Value} {vin : List CTxIn}
    (h : inputs.mapM parseInput = .ok vin) : ∀ txin ∈ vin, txin.scriptSig = [] := by
  induction inputs generalizing vin with
  | nil => cases h; simp
  | cons input inputs ih =>
    rw [List.mapM_cons] at h
    obtain ⟨txin, htxin, h⟩ := bind_eq_ok.mp h
    obtain ⟨vin', hvin, h⟩ := bind_eq_ok.mp h
    cases h
    simpa [parseInput_scriptSig htxin] using ih hvin

theorem colon_not_mem_hexStr (bs : Bytes) : ':' ∉ (hexStr bs).data := fun h => by
  simpa [hexDigit] using isSome_hexDigit_of_mem_hexPairs h

/-- `"hex:amount"` with no other colon: the bytes after `OP_RETURN`, and the amount `strtoll`
reads, at least 0, times `COIN` in 64-bit arithmetic. -/
theorem dataOutput_hexStr_append (data : Bytes) (amt : String) (hd : data ≠ [])
    (ha : ':' ∉ amt.data) :
    dataOutput (hexStr data ++ ":" ++ amt) =
      .ok ⟨BitVec.ofInt 64 (max 0 (strtoll amt)) * COIN, OP_RETURN :: pushData data⟩ := by
  have hsplit : ((hexStr data).data ++ ':' :: amt.data).splitOn ':' =
      [(hexStr data).data, amt.data] := by
    have h := List.splitOn_intercalate [(hexStr data).data, amt.data] ':'
      (by simp [colon_not_mem_hexStr, ha]) (List.cons_ne_nil _ _)
    rwa [show [':'].intercalate [(hexStr data).data, amt.data] =
      (hexStr data).data ++ ':' :: amt.data by simp [List.intercalate]] at h
  simp [dataOutput, hsplit, ParseHexV_hexStr _ _ hd]

/-- The `int64_t` product `m * COIN` of a count of coins that fits `long long`, read as a
signed number, is `m` coins exactly when that fits `long long` too. -/
theorem toInt_ofInt_mul_COIN {m : Int} (h0 : 0 ≤ m) (h1 : m ≤ LLONG_MAX) :
    (BitVec.ofInt 64 m * COIN).toInt = m * COIN.toInt ↔ m * COIN.toInt ≤ LLONG_MAX := by
  obtain ⟨n, rfl⟩ := Int.eq_ofNat_of_zero_le h0
  have hc : COIN.toNat = 100000000 := rfl
  have hci : COIN.toInt = 100000000 := by decide
  rw [LLONG_MAX] at h1 ⊢
  rw [BitVec.ofInt_natCast, BitVec.toInt_eq_toNat_cond, BitVec.toNat_mul, BitVec.toNat_ofNat, hc,
    hci, Nat.mod_eq_of_lt (by omega : n < 2 ^ 64)]
  simp only [Nat.reducePow]
  split <;> omega

/-- **The amount of a `"data"` output.** For `"hex:amount"`, the output pushes the bytes after
`OP_RETURN`, and its amount `max(DEFAULT_AMOUNT, amount) * COIN` is `max(0, strtoll(amount))`
coins exactly when that many base units fit `int64_t`, that is, up to `92233720368` coins; the
product of a larger amount, `strtoll`'s saturated `LLONG_MAX` included, overflows. -/
theorem dataOutput_amount (data : Bytes) (amt : String) (hd : data ≠ []) (ha : ':' ∉ amt.data) :
    ∃ out, dataOutput (hexStr data ++ ":" ++ amt) = .ok out ∧
      out.scriptPubKey = OP_RETURN :: pushData data ∧
      (out.nValue.toInt = max 0 (strtoll amt) * COIN.toInt ↔
        max 0 (strtoll amt) * COIN.toInt ≤ LLONG_MAX) :=
  ⟨_, dataOutput_hexStr_append data amt hd ha, rfl,
    toInt_ofInt_mul_COIN (Int.le_max_left _ _)
      (Int.max_le.mpr ⟨by decide, strtoll_le_LLONG_MAX amt⟩)⟩

/-- `"00:100000000000"`: `10^11` coins are `10^19` base units, past `2^63`, and the output's
amount comes out negative. -/
theorem dataOutput_amount_overflows :
    ∃ out, dataOutput (hexStr [0] ++ ":" ++ "100000000000") = .ok out ∧
      out.nValue.toInt ≠ max 0 (strtoll "100000000000") * COIN.toInt ∧ out.nValue.toInt < 0 := by
  obtain ⟨out, h, -, hiff⟩ := dataOutput_amount [0] "100000000000" (by decide) (by decide)
  rw [dataOutput_hexStr_append _ _ (by decide) (by decide)] at h
  cases h
  exact ⟨_, rfl, fun he => absurd (hiff.mp he) (by decide), by decide⟩

section Create

variable (env : Env)

/-- Lines 393–426: one member of the output object, given the addresses already used
(`setAddress`) and the outputs so far. -/
def addSendTo (st : List CTxDestination × List CTxOut) (s : String × Value) :
    Except RpcError (List CTxDestination × List CTxOut) :=
  if s.1 = "data" then do
    let hexdata ← s.2.getStr
    let out ← dataOutput hexdata
    .ok (st.1, st.2 ++ [out])
  else
    match env.decodeAddress s.1 with
    | none => .error (.json RPC_INVALID_ADDRESS_OR_KEY ("Invalid Smileycoin address: " ++ s.1))
    | some address =>
      if address ∈ st.1 then
        .error (.json RPC_INVALID_PARAMETER ("Invalid parameter, duplicated address: " ++ s.1))
      else do
        let nAmount ← env.AmountFromValue s.2
        .ok (st.1 ++ [address], st.2 ++ [⟨nAmount, env.scriptForDestination address⟩])

/-- `createrawtransaction(params, fHelp)`. -/
def createrawtransaction (params : List Value) (fHelp : Bool) : RpcM Value := do
  checkUsage (fHelp || params.length != 2) (createrawtransactionHelp env)
  liftExcept (RPCTypeCheck params [.array, .obj] false)
  let inputs ← liftExcept (params.getD 0 .null).getArray
  let sendTo ← liftExcept (params.getD 1 .null).getObj
  let vin ← liftExcept (inputs.mapM parseInput)
  let (_, vout) ← liftExcept (sendTo.foldlM (addSendTo env) ([], []))
  let rawTx : CMutableTransaction := { vin, vout }
  pure (.str (hexStr (serializeTx rawTx)))

theorem createrawtransaction_keeps (params : List Value) (fHelp : Bool) :
    (createrawtransaction env params fHelp).Keeps :=
  .bind (RpcM.keeps_checkUsage _ _) fun _ => .bind (RpcM.keeps_liftExcept _) fun _ =>
    .bind (RpcM.keeps_liftExcept _) fun _ => .bind (RpcM.keeps_liftExcept _) fun _ =>
      .bind (RpcM.keeps_liftExcept _) fun _ => .bind (RpcM.keeps_liftExcept _) fun _ =>
        RpcM.keeps_pure _

/-- What `createrawtransaction` returns is the hex of a transaction with no unlocking script,
and the node is as it was. -/
theorem createrawtransaction_ok {params : List Value} {fHelp : Bool} {node node' : Node}
    {v : Value} (h : createrawtransaction env params fHelp node = .ok v node') :
    node' = node ∧ ∃ T : CMutableTransaction, v = .str (hexStr (serializeTx T)) ∧
      ∀ txin ∈ T.vin, txin.scriptSig = [] := by
  refine ⟨(createrawtransaction_keeps env _ _).ok_state h, ?_⟩
  obtain ⟨_, _, -, h⟩ := RpcM.bind_eq_ok h
  obtain ⟨_, _, -, h⟩ := RpcM.bind_eq_ok h
  obtain ⟨_, _, -, h⟩ := RpcM.bind_eq_ok h
  obtain ⟨_, _, -, h⟩ := RpcM.bind_eq_ok h
  obtain ⟨vin, _, hvin, h⟩ := RpcM.bind_eq_ok h
  obtain ⟨hvin, -⟩ := RpcM.liftExcept_eq_ok hvin
  obtain ⟨⟨_, vout⟩, _, -, h⟩ := RpcM.bind_eq_ok h
  cases h
  exact ⟨_, rfl, mapM_parseInput_scriptSig hvin⟩

end Create

end SmileyRawTx
