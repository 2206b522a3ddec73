import SmileyRawTx.Node.Submit

/-!
# `signrawtransaction` and `signrawtokentransaction`

Both calls decode the variants, warm a coins view from the chain and the pool, and run the
sign-and-merge loop from the first variant. `signrawtransaction` (lines 542–770) also reads the
caller's private keys, prevout hints and sighash selector, and returns the merged transaction
with its completeness flag; `signrawtokentransaction` (lines 867–955), which `inittoken` calls,
takes the hex alone, signs with the wallet under `SIGHASH_ALL` and returns the hex.

`signrawtransaction` is split along the sections of its body: the caller's keys
(`givenKeystore`), the prevout hints (`addPrevTxs`) and the sighash type (`sigHashType`). On
variants written back to back and hints written as its help text says, it is the
sign-and-merge loop of `SmileyRawTx.Sign.Merge` run against the view of
`SmileyRawTx.Sign.View` with the hints installed, with the wallet's keys
(`signrawtransaction_wallet`) or with the caller's alone (`signrawtransaction_givenKeys`).
Neither call changes the node.

The hint loop on such hints is the loop of `SmileyRawTx.Sign.View` (`addPrevTxs_warmView`) when
every output number is below `INT_MAX` and, with the caller's keys, no script is
pay-to-script-hash. A hint at `INT_MAX`, an empty script, or a pay-to-script-hash script given
with the caller's keys but no `redeemScript` fails in its own way (`addPrevTxs_other_failures`).
-/

namespace SmileyRawTx

/-- `CBasicKeyStore::AddKey`. -/
def CBasicKeyStore.AddKey (keystore : CBasicKeyStore) (key : CKey) : CBasicKeyStore :=
  { keystore with keys := keystore.keys ++ [key] }

/-- `CBasicKeyStore::AddCScript`. -/
def CBasicKeyStore.AddCScript (keystore : CBasicKeyStore) (redeemScript : CScript) :
    CBasicKeyStore :=
  { keystore with scripts := keystore.scripts ++ [redeemScript] }

/-- The `mapSigHashValues` table of line 721. -/
def mapSigHashValues : List (String × BitVec 32) :=
  [("ALL", SIGHASH_ALL), ("ALL|ANYONECANPAY", SIGHASH_ALL ||| SIGHASH_ANYONECANPAY),
   ("NONE", SIGHASH_NONE), ("NONE|ANYONECANPAY", SIGHASH_NONE ||| SIGHASH_ANYONECANPAY),
   ("SINGLE", SIGHASH_SINGLE), ("SINGLE|ANYONECANPAY", SIGHASH_SINGLE ||| SIGHASH_ANYONECANPAY)]

/-- The help text that `signrawtransaction` throws on `help` or a wrong number of parameters. -/
def signrawtransactionHelp (env : Env) : String :=
  "signrawtransaction \"hexstring\" ( [\x7b\"txid\":\"id\",\"vout\":n,\"scriptPubKey\":\"hex\"" ++
  ",\"redeemScript\":\"hex\"\x7d,...] [\"privatekey1\",...] sighashtype )\n" ++
  "\nSign inputs for raw transaction (serialized, hex-encoded).\n" ++
  "The second optional argument (may be null) is an array of previous transaction outputs " ++
  "that\n" ++
  "this transaction depends on but may not yet be in the block chain.\n" ++
  "The third optional argument (may be null) is an array of base58-encoded private\n" ++
  "keys that, if given, will be the only keys used to sign the transaction.\n" ++
  env.HelpRequiringPassphrase ++
  "\n" ++
  "\nArguments:\n" ++
  "1. \"hexstring\"     (string, required) The transaction hex string\n" ++
  "2. \"prevtxs\"       (string, optional) An json array of previous dependent transaction " ++
  "outputs\n" ++
  "     [               (json array of json objects, or 'null' if none provided)\n" ++
  "       \x7b\n" ++
  "         \"txid\":\"id\",             (string, required) The transaction id\n" ++
  "         \"vout\":n,                  (numeric, required) The output number\n" ++
  "         \"scriptPubKey\": \"hex\",   (string, required) script key\n" ++
  "         \"redeemScript\": \"hex\"    (string, required) redeem script\n" ++
  "       \x7d\n" ++
  "       ,...\n" ++
  "    ]\n" ++
  "3. \"privatekeys\"     (string, optional) A json array of base58-encoded private keys for " ++
  "signing\n" ++
  "    [                  (json array of strings, or 'null' if none provided)\n" ++
  "      \"privatekey\"   (string) private key in base58-encoding\n" ++
  "      ,...\n" ++
  "    ]\n" ++
  "4. \"sighashtype\"     (string, optional, default=ALL) The signature hash type. Must be " ++
  "one of\n" ++
  "       \"ALL\"\n" ++
  "       \"NONE\"\n" ++
  "       \"SINGLE\"\n" ++
  "       \"ALL|ANYONECANPAY\"\n" ++
  "       \"NONE|ANYONECANPAY\"\n" ++
  "       \"SINGLE|ANYONECANPAY\"\n" ++
  "\nResult:\n" ++
  "\x7b\n" ++
  "  \"hex\": \"value\",   (string) The raw transaction with signature(s) (hex-encoded " ++
  "string)\n" ++
  "  \"complete\": n       (numeric) if transaction has a complete set of signature (0 if " ++
  "not)\n" ++
  "\x7d\n" ++
  "\nExamples:\n" ++
  env.HelpExampleCli "signrawtransaction" "\"myhex\"" ++
  env.HelpExampleRpc "signrawtransaction" "\"myhex\""

section Calls

variable (env : Env)

/-- Lines 637–648: decode each private key of `params[2]` into the temporary key store. -/
def addKeys (keystore : CBasicKeyStore) (keys : List Value) : Except RpcError CBasicKeyStore :=
  keys.foldlM (fun keystore k => do
    let s ← k.getStr
    match env.decodeSecret s with
    | some key => .ok (keystore.AddKey key)
    | none => .error (.json RPC_INVALID_ADDRESS_OR_KEY "Invalid private key")) keystore

/-- Keys the caller wrote as strings that all decode go into the store in their order. -/
theorem addKeys_str (keys : List String) {cs : List CKey}
    (hkeys : keys.map env.decodeSecret = cs.map some) (keystore : CBasicKeyStore) :
    addKeys env keystore (keys.map .str) = .ok { keystore with keys := keystore.keys ++ cs } := by
  induction keys generalizing keystore cs with
  | nil =>
    cases cs with
    | nil => rw [List.append_nil]; rfl
    | cons c cs => cases hkeys
  | cons k keys ih =>
    cases cs with
    | nil => cases hkeys
    | cons c cs =>
      simp only [List.map_cons, List.cons.injEq] at hkeys
      have h := ih hkeys.2 (keystore.AddKey c)
      rw [addKeys] at h
      rw [addKeys, List.map_cons, List.foldlM_cons]
      simp only [Value.getStr, ok_bind, hkeys.1] at h ⊢
      rw [h]
      simp [CBasicKeyStore.AddKey]

/-- Lines 660–705: one entry of `params[1]`. The hint goes into the view; with caller keys, the
redeem script of a pay-to-script-hash hint goes into the temporary key store. The type checks
walk their `std::map` in key order. -/
def addPrevTx (fGivenKeys : Bool) (st : CCoinsViewCache × CBasicKeyStore) (p : Value) :
    Except RpcError (CCoinsViewCache × CBasicKeyStore) := do
  throwIf (p.type ≠ .obj) (.json RPC_DESERIALIZATION_ERROR
    "expected object with \x7b\"txid'\",\"vout\",\"scriptPubKey\"\x7d")
  let prevOut ← p.getObj
  RPCTypeCheckObj prevOut [("scriptPubKey", .str), ("txid", .str), ("vout", .int)] false
  let txid ← ParseHashO prevOut "txid"
  let nOut ← (findValue prevOut "vout").getInt
  throwIf (nOut < 0) (.json RPC_DESERIALIZATION_ERROR "vout must be positive")
  let scriptPubKey ← ParseHexO prevOut "scriptPubKey"
  let view ← addPrevOut env.scriptToString st.1 ⟨txid, nOut.toNat, scriptPubKey⟩
  if fGivenKeys && env.IsPayToScriptHash scriptPubKey then
    RPCTypeCheckObj prevOut
      [("redeemScript", .str), ("scriptPubKey", .str), ("txid", .str), ("vout", .int)] false
    let v := findValue prevOut "redeemScript"
    if v.type ≠ .null then
      let redeemScript ← ParseHexV v "redeemScript"
      .ok (view, st.2.AddCScript redeemScript)
    else .ok (view, st.2)
  else .ok (view, st.2)

/-- A hint as the help text writes it: `{"txid":"id","vout":n,"scriptPubKey":"hex"}`. -/
def PrevTx.toValue (p : PrevTx) : Value :=
  .obj [("txid", .str (getHex p.txid)), ("vout", .int p.nOut),
    ("scriptPubKey", .str (hexStr p.scriptPubKey))]

/-- A hint written as the help text says is read back as itself and passes every check before
`addPrevOut`. After it, with the caller's keys, a pay-to-script-hash hint meets the second type
check of lines 697–698, which refuses a hint without `redeemScript`, so the `Value::null` test
after it never fails. The hint must have a script and an output number that fits an `int`. -/
theorem addPrevTx_toValue_eq (fGivenKeys : Bool) (view : CCoinsViewCache)
    (keystore : CBasicKeyStore) {p : PrevTx} (hn : p.nOut < 2 ^ 31) (hs : p.scriptPubKey ≠ []) :
    addPrevTx env fGivenKeys (view, keystore) p.toValue =
      addPrevOut env.scriptToString view p >>= fun view =>
        if fGivenKeys && env.IsPayToScriptHash p.scriptPubKey then
          .error (.json RPC_TYPE_ERROR "Missing redeemScript")
        else .ok (view, keystore) := by
  have h0 : ¬((p.nOut : Int) < 0) := by omega
  simp [addPrevTx, PrevTx.toValue, Value.type, Value.getObj, RPCTypeCheckObj, ParseHashO,
    ParseHexO, Value.getInt_of_lt hn, ParseHashV_getHex, ParseHexV_hexStr _ _ hs, h0]

/-- Unless it names a pay-to-script-hash output while the caller gave keys, such a hint is
`addPrevOut` alone. -/
theorem addPrevTx_toValue (fGivenKeys : Bool) (view : CCoinsViewCache)
    (keystore : CBasicKeyStore) {p : PrevTx} (hn : p.nOut < 2 ^ 31) (hs : p.scriptPubKey ≠ [])
    (hp : (fGivenKeys && env.IsPayToScriptHash p.scriptPubKey) = false) :
    addPrevTx env fGivenKeys (view, keystore) p.toValue =
      (addPrevOut env.scriptToString view p).map (·, keystore) := by
  rw [addPrevTx_toValue_eq env _ _ _ hn hs, hp]
  cases addPrevOut env.scriptToString view p <;> rfl

/-- The hint loop on hints written as the help text says is the loop on the parsed hints. -/
theorem foldlM_addPrevTx_toValue (fGivenKeys : Bool) (keystore : CBasicKeyStore)
    (hints : List PrevTx) (h : ∀ p ∈ hints, p.nOut < 2 ^ 31 ∧ p.scriptPubKey ≠ [] ∧
      (fGivenKeys && env.IsPayToScriptHash p.scriptPubKey) = false) (view : CCoinsViewCache) :
    (hints.map PrevTx.toValue).foldlM (addPrevTx env fGivenKeys) (view, keystore) =
      (addPrevOuts env.scriptToString view hints).map (·, keystore) := by
  induction hints generalizing view with
  | nil => rfl
  | cons p ps ih =>
    obtain ⟨hn, hs, hp⟩ := h p (List.mem_cons_self _ _)
    rw [List.map_cons, List.foldlM_cons, addPrevTx_toValue env _ _ _ hn hs hp, addPrevOuts,
      List.foldlM_cons]
    cases addPrevOut env.scriptToString view p with
    | error e => rfl
    | ok view' => exact ih (fun q hq => h q (List.mem_cons_of_mem _ hq)) view'

/-- The sign-and-merge loop of both calls, run on the decoded variants. -/
def signVariants (view : CCoinsViewCache) (keystore : CBasicKeyStore) (nHashType : BitVec 32)
    (variants : CMutableTransaction × List CMutableTransaction) : CMutableTransaction × Bool :=
  signWhatWeCan env.interp env.readPastEnd view keystore nHashType (variants.1 :: variants.2)
    variants.1

/-- The merged transaction has the first variant's skeleton. -/
theorem signVariants_skeleton (view : CCoinsViewCache) (keystore : CBasicKeyStore)
    (nHashType : BitVec 32) (variants : CMutableTransaction × List CMutableTransaction) :
    (signVariants env view keystore nHashType variants).1.skeleton = variants.1.skeleton :=
  (signFrom_rewrites env.interp env.readPastEnd view keystore nHashType _ 0 _
    (variants.1, true)).skeleton_eq

/-- Lines 635–653: with the caller's keys (`params[2]` given and not null), the temporary key
store that holds them; without them the wallet must be unlocked, and the store stays empty. -/
def givenKeystore (params : List Value) (fGivenKeys : Bool) (node : Node) :
    Except RpcError CBasicKeyStore :=
  if fGivenKeys then do
    let keys ← (params.getD 2 .null).getArray
    addKeys env {} keys
  else do
    env.EnsureWalletIsUnlocked node
    .ok {}

/-- Lines 655–705: the entries of `params[1]`, when it is given and not null, one after the
other. -/
def addPrevTxs (params : List Value) (fGivenKeys : Bool) (st : CCoinsViewCache × CBasicKeyStore) :
    Except RpcError (CCoinsViewCache × CBasicKeyStore) :=
  if params.length > 1 && (params.getD 1 .null).type != .null then do
    let prevTxs ← (params.getD 1 .null).getArray
    prevTxs.foldlM (addPrevTx env fGivenKeys) st
  else .ok st

/-- **The hint loop of `signrawtransaction`.** Take hints written as the help text says, each
with an output number below `INT_MAX`, a script, and, when the caller gave keys, a script that
is not pay-to-script-hash. On the warmed view the loop fails exactly when some hint names an
output that is available, in the warmed view or from an earlier hint, with another script, and
it then fails with the mismatch error. Otherwise it keeps the key store, every hinted output is
available with its hinted script, every other output is as warming left it, and so the output
each input spends is the hinted one or else the one the backend held at warming time. -/
theorem addPrevTxs_warmView (backend : CCoinsView) (vin : List CTxIn) (params : List Value)
    (fGivenKeys : Bool) (keystore : CBasicKeyStore) (hints : List PrevTx)
    (hlen : 1 < params.length) (hp : params.getD 1 .null = .array (hints.map PrevTx.toValue))
    (hhints : ∀ p ∈ hints, p.nOut + 1 < 2 ^ 31 ∧ p.scriptPubKey ≠ [] ∧
      (fGivenKeys && env.IsPayToScriptHash p.scriptPubKey) = false) :
    let r := addPrevTxs env params fGivenKeys (warmView backend vin, keystore)
    ((∃ e, r = .error e) ↔ HintConflict (warmView backend vin) hints) ∧
      (∀ e, r = .error e →
        ∃ old new, old ≠ new ∧ e = scriptMismatchError env.scriptToString old new) ∧
      ∀ view ks, r = .ok (view, ks) → ks = keystore ∧ view.base = viewDummy ∧
        (∀ t n, view.availableOut t n =
          match hintedScript hints t n with
          | some s => some ⟨0, s⟩
          | none => (warmView backend vin).availableOut t n) ∧
        ∀ txin ∈ vin, view.availableOut txin.prevout.hash txin.prevout.n.toNat =
          match hintedScript hints txin.prevout.hash txin.prevout.n.toNat with
          | some s => some ⟨0, s⟩
          | none => backend.availableOut txin.prevout.hash txin.prevout.n.toNat := by
  intro r
  have hloop : r = (addPrevOuts env.scriptToString (warmView backend vin) hints).map
      (·, keystore) := by
    rw [show r = addPrevTxs env params fGivenKeys (warmView backend vin, keystore) from rfl,
      addPrevTxs, hp, if_pos (by simpa [Value.type] using hlen)]
    exact foldlM_addPrevTx_toValue env fGivenKeys keystore hints
      (fun p h => ⟨by have := (hhints p h).1; omega, (hhints p h).2⟩) _
  obtain ⟨hiff, herr, hok⟩ :=
    addPrevOuts_warmView env.scriptToString backend vin fun p h => (hhints p h).1
  rw [hloop]
  cases hv : addPrevOuts env.scriptToString (warmView backend vin) hints with
  | error e =>
    refine ⟨⟨fun _ => hiff.mp ⟨e, hv⟩, fun _ => ⟨e, rfl⟩⟩, fun e' he => ?_, fun _ _ h => ?_⟩
    · cases he; exact herr e hv
    · cases h
  | ok view =>
    refine ⟨⟨fun ⟨_, h⟩ => ?_, fun hc => ?_⟩, fun _ h => ?_, fun view' ks h => ?_⟩
    · cases h
    · obtain ⟨e, he⟩ := hiff.mpr hc
      rw [hv] at he; cases he
    · cases h
    · cases h; exact ⟨rfl, hok view hv⟩

/-- One hint naming output 0 of transaction `7`, which the target's one input spends, on the
empty backend. -/
theorem addPrevTxs_warmView_one_hint :
    let p : PrevTx := ⟨7, 0, [0x51]⟩
    let vin : List CTxIn := [{ prevout := ⟨7, 0⟩ }]
    let params : List Value := [.str "", .array [p.toValue]]
    let r := addPrevTxs mintEnv params false (warmView viewDummy vin, {})
    1 < params.length ∧ params.getD 1 .null = .array ([p].map PrevTx.toValue) ∧
      (∀ q ∈ [p], q.nOut + 1 < 2 ^ 31 ∧ q.scriptPubKey ≠ [] ∧
        (false && mintEnv.IsPayToScriptHash q.scriptPubKey) = false) ∧
      (((∃ e, r = .error e) ↔ HintConflict (warmView viewDummy vin) [p]) ∧
      (∀ e, r = .error e →
        ∃ old new, old ≠ new ∧ e = scriptMismatchError mintEnv.scriptToString old new) ∧
      ∀ view ks, r = .ok (view, ks) → ks = {} ∧ view.base = viewDummy ∧
        (∀ t n, view.availableOut t n =
          match hintedScript [p] t n with
          | some s => some ⟨0, s⟩
          | none => (warmView viewDummy vin).availableOut t n) ∧
        ∀ txin ∈ vin, view.availableOut txin.prevout.hash txin.prevout.n.toNat =
          match hintedScript [p] txin.prevout.hash txin.prevout.n.toNat with
          | some s => some ⟨0, s⟩
          | none => viewDummy.availableOut txin.prevout.hash txin.prevout.n.toNat) := by
  intro p vin params r
  have hhints : ∀ q ∈ [p], q.nOut + 1 < 2 ^ 31 ∧ q.scriptPubKey ≠ [] ∧
      (false && mintEnv.IsPayToScriptHash q.scriptPubKey) = false := by
    simp [p]
  exact ⟨by decide, rfl, hhints,
    addPrevTxs_warmView mintEnv viewDummy vin params false {} [p] (by decide) rfl hhints⟩

/-- Three hints the loop refuses with none of the views' scripts in conflict: output
2147483647 of a transaction the view knows no outputs of, where `nOut + 1` wraps and `resize`
throws; an empty script, which is not hex; and, with the caller's keys, a pay-to-script-hash
script without a `redeemScript`. -/
theorem addPrevTxs_other_failures :
    addPrevTxs mintEnv [.str "", .array [PrevTx.toValue ⟨7, 2147483647, [0x51]⟩]] false
        (warmView viewDummy [], {}) = .error vectorLengthError ∧
      addPrevTxs mintEnv [.str "", .array [PrevTx.toValue ⟨7, 0, []⟩]] false
        (warmView viewDummy [], {}) =
        .error (.json RPC_INVALID_PARAMETER "scriptPubKey must be hexadecimal string (not '')") ∧
      addPrevTxs { mintEnv with IsPayToScriptHash := fun _ => true }
        [.str "", .array [PrevTx.toValue ⟨7, 0, [0x51]⟩], .array []] true
        (warmView viewDummy [], {}) = .error (.json RPC_TYPE_ERROR "Missing redeemScript") := by
  refine ⟨?_, rfl, rfl⟩
  have hc : ¬ Conflicts (warmView viewDummy []) ⟨7, 2147483647, [0x51]⟩ := by
    rintro ⟨o, ho, -⟩
    cases ho
  rw [addPrevTxs, if_pos (by rfl)]
  simp only [List.getD_cons_succ, List.getD_cons_zero, Value.getArray, ok_bind]
  rw [← List.map_singleton PrevTx.toValue,
    foldlM_addPrevTx_toValue mintEnv false {} _ (by simp) _, addPrevOuts, List.foldlM_cons,
    addPrevOut_intMax _ _ rfl hc (by decide)]
  rfl

/-- Lines 713–730: the sighash type `params[3]` names, `SIGHASH_ALL` when it is not given or
null. -/
def sigHashType (params : List Value) : Except RpcError (BitVec 32) :=
  if params.length > 3 && (params.getD 3 .null).type != .null then do
    let strHashType ← (params.getD 3 .null).getStr
    match mapSigHashValues.lookup strHashType with
    | some nHashType => .ok nHashType
    | none => .error (.json RPC_INVALID_PARAMETER "Invalid sighash param")
  else .ok SIGHASH_ALL

/-- `signrawtransaction(params, fHelp)`. -/
def signrawtransaction (params : List Value) (fHelp : Bool) : RpcM Value := do
  checkUsage (fHelp || params.length < 1 || params.length > 4) (signrawtransactionHelp env)
  liftExcept (RPCTypeCheck params [.str, .array, .array, .str] true)
  let txData ← liftExcept (ParseHexV (params.getD 0 .null) "argument 1")
  let variants ← liftExcept (decodeTxVariants txData)
  let node ← get
  let view := warmView (viewMemPool env.GetHash node) variants.1.vin
  let fGivenKeys := decide (params.length > 2) && (params.getD 2 .null).type != .null
  let tempKeystore ← liftExcept (givenKeystore env params fGivenKeys node)
  let (view, tempKeystore) ← liftExcept (addPrevTxs env params fGivenKeys (view, tempKeystore))
  let keystore := if fGivenKeys then tempKeystore else node.wallet.keystore
  let nHashType ← liftExcept (sigHashType params)
  let (mergedTx, fComplete) := signVariants env view keystore nHashType variants
  pure (.obj [("hex", .str (hexStr (serializeTx mergedTx))), ("complete", .bool fComplete)])

/-- `signrawtransaction` never changes the node, whether it returns or throws: the keys, hints
and view it builds are its own. -/
theorem signrawtransaction_keeps (params : List Value) (fHelp : Bool) :
    (signrawtransaction env params fHelp).Keeps :=
  .bind (RpcM.keeps_checkUsage _ _) fun _ => .bind (RpcM.keeps_liftExcept _) fun _ =>
    .bind (RpcM.keeps_liftExcept _) fun _ => .bind (RpcM.keeps_liftExcept _) fun _ =>
      .bind RpcM.keeps_get fun _ => .bind (RpcM.keeps_liftExcept _) fun _ =>
        .bind (RpcM.keeps_liftExcept _) fun _ => .bind (RpcM.keeps_liftExcept _) fun _ =>
          RpcM.keeps_pure _

/-- **`signrawtransaction` with the wallet's keys.** Called with the hex of variants `t :: ts`
written back to back and with hints written as the help text says, on a node whose wallet is
unlocked, it installs the hints into the view warmed from the chain and the pool, and returns
the hex of the transaction the sign-and-merge loop makes from `t` with the wallet's keys under
`SIGHASH_ALL`, and whether it is complete; a hint that contradicts the view makes it throw the
error of `addPrevOuts`. The node is unchanged either way. -/
theorem signrawtransaction_wallet (t : CMutableTransaction) (ts : List CMutableTransaction)
    (hints : List PrevTx) (node : Node) (hfits : (t :: ts).all txCodec.fits)
    (hhints : ∀ p ∈ hints, p.nOut < 2 ^ 31 ∧ p.scriptPubKey ≠ [])
    (hE : env.EnsureWalletIsUnlocked node = .ok ()) :
    signrawtransaction env [.str (hexStr ((t :: ts).flatMap serializeTx)),
        .array (hints.map PrevTx.toValue)] false node =
      match addPrevOuts env.scriptToString (warmView (viewMemPool env.GetHash node) t.vin)
          hints with
      | .ok view =>
        let r := signWhatWeCan env.interp env.readPastEnd view node.wallet.keystore SIGHASH_ALL
          (t :: ts) t
        .ok (.obj [("hex", .str (hexStr (serializeTx r.1))), ("complete", .bool r.2)]) node
      | .error e => .error e node := by
  have hdec : decodeTxVariants ((t :: ts).flatMap serializeTx) = .ok (t, ts) := by
    rw [decodeTxVariants_eq, readTxVariants_flatMap, if_pos hfits]
    rfl
  have hP := ParseHexV_hexStr ((t :: ts).flatMap serializeTx) "argument 1"
    (by simp [serializeTx_ne_nil])
  have hloop := foldlM_addPrevTx_toValue env false {} hints
    (fun p hp => ⟨(hhints p hp).1, (hhints p hp).2, rfl⟩)
    (warmView (viewMemPool env.GetHash node) t.vin)
  cases hv :
      addPrevOuts env.scriptToString (warmView (viewMemPool env.GetHash node) t.vin) hints <;>
  simp [signrawtransaction, checkUsage, bind, EStateM.bind, RPCTypeCheck, Value.type, hP, hdec,
    givenKeystore, hE, addPrevTxs, hloop, hv, sigHashType, Except.bind, Except.map, Value.getArray,
    signVariants, -List.flatMap_cons]

/-- One hint for the one input of the target, no other variant, and the wallet's keys. -/
theorem signrawtransaction_wallet_one_hint :
    let t : CMutableTransaction := { vin := [{ prevout := ⟨7, 0⟩ }] }
    let hints : List PrevTx := [⟨7, 0, [0x51]⟩]
    [t].all txCodec.fits ∧ (∀ p ∈ hints, p.nOut < 2 ^ 31 ∧ p.scriptPubKey ≠ []) ∧
      mintEnv.EnsureWalletIsUnlocked {} = .ok () ∧
      signrawtransaction mintEnv [.str (hexStr ([t].flatMap serializeTx)),
          .array (hints.map PrevTx.toValue)] false {} =
        match addPrevOuts mintEnv.scriptToString
            (warmView (viewMemPool mintEnv.GetHash {}) t.vin) hints with
        | .ok view =>
          let r := signWhatWeCan mintEnv.interp mintEnv.readPastEnd view
            ({} : Node).wallet.keystore SIGHASH_ALL [t] t
          .ok (.obj [("hex", .str (hexStr (serializeTx r.1))), ("complete", .bool r.2)]) {}
        | .error e => .error e {} := by
  intro t hints
  have hfits : [t].all txCodec.fits := by decide
  have hhints : ∀ p ∈ hints, p.nOut < 2 ^ 31 ∧ p.scriptPubKey ≠ [] := by simp [hints]
  exact ⟨hfits, hhints, rfl, signrawtransaction_wallet mintEnv t [] hints {} hfits hhints rfl⟩

/-- **`signrawtransaction` with the caller's keys.** Called as above but with private keys
`keys` that all decode, to `cs`, it signs with exactly those keys: the wallet's keys are not
used and its lock is not checked (lines 635–653), so the result is the same for every wallet.
The hints must name no pay-to-script-hash output, which would also need a `redeemScript`. -/
theorem signrawtransaction_givenKeys (t : CMutableTransaction) (ts : List CMutableTransaction)
    (hints : List PrevTx) (keys : List String) {cs : List CKey} (node : Node)
    (hfits : (t :: ts).all txCodec.fits)
    (hhints : ∀ p ∈ hints, p.nOut < 2 ^ 31 ∧ p.scriptPubKey ≠ [] ∧
      env.IsPayToScriptHash p.scriptPubKey = false)
    (hkeys : keys.map env.decodeSecret = cs.map some) :
    signrawtransaction env [.str (hexStr ((t :: ts).flatMap serializeTx)),
        .array (hints.map PrevTx.toValue), .array (keys.map .str)] false node =
      match addPrevOuts env.scriptToString (warmView (viewMemPool env.GetHash node) t.vin)
          hints with
      | .ok view =>
        let r := signWhatWeCan env.interp env.readPastEnd view { keys := cs } SIGHASH_ALL
          (t :: ts) t
        .ok (.obj [("hex", .str (hexStr (serializeTx r.1))), ("complete", .bool r.2)]) node
      | .error e => .error e node := by
  have hdec : decodeTxVariants ((t :: ts).flatMap serializeTx) = .ok (t, ts) := by
    rw [decodeTxVariants_eq, readTxVariants_flatMap, if_pos hfits]
    rfl
  have hP := ParseHexV_hexStr ((t :: ts).flatMap serializeTx) "argument 1"
    (by simp [serializeTx_ne_nil])
  have hloop := foldlM_addPrevTx_toValue env true { keys := cs } hints
    (fun p hp => ⟨(hhints p hp).1, (hhints p hp).2.1, by simp [(hhints p hp).2.2]⟩)
    (warmView (viewMemPool env.GetHash node) t.vin)
  have hne : (ValueType.array != ValueType.null) = true := rfl
  cases hv :
      addPrevOuts env.scriptToString (warmView (viewMemPool env.GetHash node) t.vin) hints <;>
  simp [signrawtransaction, checkUsage, bind, EStateM.bind, RPCTypeCheck, Value.type, hP, hdec,
    givenKeystore, addKeys_str env keys hkeys, hne, addPrevTxs, hloop, hv, sigHashType,
    Except.bind, Except.map, Value.getArray, signVariants, -List.flatMap_cons]

/-- One hint for the one input of the target, no other variant, and one private key that
decodes. -/
theorem signrawtransaction_givenKeys_one_key :
    let env : Env := { mintEnv with decodeSecret := fun _ => some ⟨1, false⟩ }
    let t : CMutableTransaction := { vin := [{ prevout := ⟨7, 0⟩ }] }
    let hints : List PrevTx := [⟨7, 0, [0x51]⟩]
    [t].all txCodec.fits ∧
      (∀ p ∈ hints, p.nOut < 2 ^ 31 ∧ p.scriptPubKey ≠ [] ∧
        env.IsPayToScriptHash p.scriptPubKey = false) ∧
      ["k"].map env.decodeSecret = [(⟨1, false⟩ : CKey)].map some ∧
      signrawtransaction env [.str (hexStr ([t].flatMap serializeTx)),
          .array (hints.map PrevTx.toValue), .array (["k"].map .str)] false {} =
        match addPrevOuts env.scriptToString (warmView (viewMemPool env.GetHash {}) t.vin)
            hints with
        | .ok view =>
          let r := signWhatWeCan env.interp env.readPastEnd view { keys := [⟨1, false⟩] }
            SIGHASH_ALL [t] t
          .ok (.obj [("hex", .str (hexStr (serializeTx r.1))), ("complete", .bool r.2)]) {}
        | .error e => .error e {} := by
  intro env t hints
  have hfits : [t].all txCodec.fits := by decide
  have hhints : ∀ p ∈ hints, p.nOut < 2 ^ 31 ∧ p.scriptPubKey ≠ [] ∧
      env.IsPayToScriptHash p.scriptPubKey = false := by
    simp [hints, env, mintEnv]
  exact ⟨hfits, hhints, rfl,
    signrawtransaction_givenKeys env t [] hints ["k"] {} hfits hhints rfl⟩

/-- `signrawtransaction` on the hex of one transaction alone leaves the node as it was and,
when it returns, returns the hex of a transaction with the same skeleton. -/
theorem signrawtransaction_hexStr (t : CMutableTransaction) {node node' : Node} {v : Value}
    (h : signrawtransaction env [.str (hexStr (serializeTx t))] false node = .ok v node') :
    node' = node ∧ ∃ (T : CMutableTransaction) (fComplete : Bool),
      v = .obj [("hex", .str (hexStr (serializeTx T))), ("complete", .bool fComplete)] ∧
        T.skeleton = t.skeleton := by
  refine ⟨(signrawtransaction_keeps env _ _).ok_state h, ?_⟩
  obtain ⟨_, _, -, h⟩ := RpcM.bind_eq_ok h
  obtain ⟨_, _, -, h⟩ := RpcM.bind_eq_ok h
  obtain ⟨txData, _, hp, h⟩ := RpcM.bind_eq_ok h
  obtain ⟨hp, rfl⟩ := RpcM.liftExcept_eq_ok hp
  rw [List.getD_cons_zero, ParseHexV_hexStr _ _ (serializeTx_ne_nil t)] at hp
  cases hp
  obtain ⟨variants, _, hv, h⟩ := RpcM.bind_eq_ok h
  obtain ⟨hv, rfl⟩ := RpcM.liftExcept_eq_ok hv
  rw [decodeTxVariants_serializeTx] at hv
  split_ifs at hv <;> cases hv
  obtain ⟨node₁, _, hg, h⟩ := RpcM.bind_eq_ok h
  cases hg
  obtain ⟨_, _, hk, h⟩ := RpcM.bind_eq_ok h
  obtain ⟨-, rfl⟩ := RpcM.liftExcept_eq_ok hk
  obtain ⟨⟨view, ks⟩, _, hpv, h⟩ := RpcM.bind_eq_ok h
  obtain ⟨-, rfl⟩ := RpcM.liftExcept_eq_ok hpv
  obtain ⟨_, _, hn, h⟩ := RpcM.bind_eq_ok h
  obtain ⟨-, rfl⟩ := RpcM.liftExcept_eq_ok hn
  cases h
  exact ⟨_, _, rfl, signVariants_skeleton env _ _ _ _⟩

/-- The `"hex"` member of a result of `signrawtransaction`. -/
def signResultHex : Value → String
  | .obj o => hexParamText (findValue o "hex")
  | _ => ""

/-- `signrawtokentransaction(txDataHex)`. -/
def signrawtokentransaction (txDataHex : String) : RpcM String := do
  let txData ← liftExcept (ParseHexV (.str txDataHex) "argument 1")
  let variants ← liftExcept (decodeTxVariants txData)
  let node ← get
  let view := warmView (viewMemPool env.GetHash node) variants.1.vin
  liftExcept (env.EnsureWalletIsUnlocked node)
  let (mergedTx, _) := signVariants env view node.wallet.keystore SIGHASH_ALL variants
  pure (hexStr (serializeTx mergedTx))

theorem signrawtokentransaction_keeps (txDataHex : String) :
    (signrawtokentransaction env txDataHex).Keeps :=
  .bind (RpcM.keeps_liftExcept _) fun _ => .bind (RpcM.keeps_liftExcept _) fun _ =>
    .bind RpcM.keeps_get fun _ => .bind (RpcM.keeps_liftExcept _) fun _ => RpcM.keeps_pure _

/-- `signrawtokentransaction` on the hex of one transaction leaves the node as it was and returns
the hex of a transaction with the same skeleton. -/
theorem signrawtokentransaction_hexStr (t : CMutableTransaction) {node node' : Node}
    {out : String} (h : signrawtokentransaction env (hexStr (serializeTx t)) node = .ok out node') :
    node' = node ∧ ∃ T : CMutableTransaction, out = hexStr (serializeTx T) ∧
      T.skeleton = t.skeleton := by
  refine ⟨(signrawtokentransaction_keeps env _).ok_state h, ?_⟩
  rw [signrawtokentransaction, ParseHexV_hexStr _ _ (serializeTx_ne_nil t),
    RpcM.bind_of_ok (RpcM.liftExcept_ok _), decodeTxVariants_serializeTx] at h
  split_ifs at h
  · rw [RpcM.bind_of_ok (RpcM.liftExcept_ok _), RpcM.bind_of_ok RpcM.get_apply] at h
    obtain ⟨u, node₁, hu, h⟩ := RpcM.bind_eq_ok h
    obtain ⟨-, rfl⟩ := RpcM.liftExcept_eq_ok hu
    cases h
    exact ⟨_, rfl, signVariants_skeleton env _ _ _ _⟩
  · rw [RpcM.bind_of_error (RpcM.liftExcept_error _)] at h
    cases h

/-- `signrawtokentransaction` on the hex of one transaction that fits, with the wallet unlocked:
the transaction signed with the wallet's keys under `SIGHASH_ALL` against the warmed view. -/
theorem signrawtokentransaction_serializeTx (t : CMutableTransaction) (node : Node)
    (hfits : txCodec.fits t) (hE : env.EnsureWalletIsUnlocked node = .ok ()) :
    signrawtokentransaction env (hexStr (serializeTx t)) node =
      .ok (hexStr (serializeTx (signVariants env (warmView (viewMemPool env.GetHash node) t.vin)
        node.wallet.keystore SIGHASH_ALL (t, [])).1)) node := by
  rw [signrawtokentransaction, ParseHexV_hexStr _ _ (serializeTx_ne_nil t),
    RpcM.bind_of_ok (RpcM.liftExcept_ok _), decodeTxVariants_serializeTx, if_pos hfits,
    RpcM.bind_of_ok (RpcM.liftExcept_ok _), RpcM.bind_of_ok RpcM.get_apply,
    RpcM.bind_of_ok (by rw [hE]; rfl)]
  rfl

end Calls

end SmileyRawTx
