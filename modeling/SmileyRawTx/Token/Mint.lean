import SmileyRawTx.Node.Sign
import SmileyRawTx.Token.Commit

/-!
# `inittoken`

`inittoken` (lines 1193–1305) mints a token for a file. It first sends 1001 coins to the first
address of the wallet's address book, the least in the map's order, whoever holds its key
(`makeInputTransactionForToken`, lines 1142–1162). It looks for the output of exactly 1001 coins
in that funding transaction, commits the file against the funding transaction's id
(`CreateToken`), and builds a transaction that spends that output, pays 1000 coins to the
destination and carries the token id after `OP_RETURN`. It signs the transaction with
`signrawtokentransaction`, submits it with the lines of `sendrawtransaction`, and returns the
token together with the transaction's id.

The destination is checked only after the funding transaction has been sent.
-/

namespace SmileyRawTx

/-- Lines 1221–1229: the index of the first output of exactly `1001 * COIN`, or the number of
outputs when none has that value. -/
def fundingOutputIndex (vout : List CTxOut) : Nat :=
  vout.findIdx (·.nValue == 1001 * COIN)

/-- Lines 1234–1254: the transaction `inittoken` signs. Its one input spends output `nOutput`
(an `int` turned into the `unsigned int` of `COutPoint`) of the funding transaction; it pays
1000 coins to `scriptPubKey` and carries `data` after `OP_RETURN`. -/
def tokenTransaction (inputtxid : uint256) (nOutput : Nat) (scriptPubKey data : Bytes) :
    CMutableTransaction :=
  { vin := [{ prevout := ⟨inputtxid, BitVec.ofNat 32 nOutput⟩ }],
    vout := [⟨1000 * COIN, scriptPubKey⟩, ⟨0, OP_RETURN :: pushData data⟩] }

/-- The help text that `inittoken` throws on `help` or a wrong number of parameters. -/
def inittokenHelp : String :=
  "inittoken \"smlyaddress\" \"pathToFile\" \"n\"" ++
  "\ncreate a token from file specified and an output from the transactions with id: " ++
  "transaction_id needs to be used in creation" ++
  "\nArguments:\n" ++
  "1. \"smlyaddress\" smileyaddress of where the token should be sent to" ++
  "2. \"PathToFile\" the path to the file that is to be reperesented as a token" ++
  "Result:\n" ++
  "\"tokenid\", \"token private key\", \"token public key\", \"transaction id\"\n"

section Mint

variable (env : Env)

/-- `makeInputTransactionForToken(am)`: send `am` coins to the first destination of the address
book, whoever holds its key, and return the id of the transaction. -/
def makeInputTransactionForToken (am : Int) : RpcM uint256 := do
  let node ← get
  let walletAddress := node.wallet.mapAddressBook.headD env.addressBookEnd
  let amount ← liftExcept (env.AmountFromValue (.int am))
  let (strError, wtx, node) := env.SendMoneyToDestination2 node walletAddress amount
  set node
  if strError ≠ "" then throw (.json RPC_WALLET_ERROR strError) else pure (env.GetHash wtx)

/-- Lines 1208–1211: `GetTransaction(inputtxid, inputTransaction, hashBlock, false)`, and
`runtime_error("Error")` when it fails. -/
def getInputTransaction (inputtxid : uint256) : RpcM CTransaction := do
  match env.GetTransaction (← get) inputtxid with
  | some inputTransaction => pure inputTransaction
  | none => throw (.runtime "Error")

/-- Lines 1243–1248: `CBitcoinAddress address(params[0].get_str())` and its `IsValid()` check. -/
def decodeDestination (strAddress : String) : RpcM CTxDestination :=
  match env.decodeAddress strAddress with
  | some dest => pure dest
  | none => throw (.json RPC_INVALID_ADDRESS_OR_KEY "Invalid smly address")

/-- Lines 1263–1295, the submission block of `inittoken`: the lines of `sendrawtransaction` on
the signed hex, with `fOverrideFees = false`. -/
def inittokenSubmit (signedValue : String) : RpcM uint256 := do
  let txData ← liftExcept (ParseHexV (.str signedValue) "parameter")
  submitRawTransaction env txData false

/-- The object `inittoken` returns: the three members of the token, read back from it, and the
id of the minting transaction. -/
def inittokenResult (token : Value) (hashTx : uint256) : Except RpcError Value := do
  let tokenObject ← token.getObj
  let tokenId ← (tokenObject.getD 0 ("", .null)).2.getStr
  let tokenPublicKey ← (tokenObject.getD 1 ("", .null)).2.getStr
  let tokenPrivateKey ← (tokenObject.getD 2 ("", .null)).2.getStr
  .ok (.obj [("Token ID", .str tokenId), ("Token public key", .str tokenPublicKey),
    ("Token private key", .str tokenPrivateKey), ("transactionid", .str (getHex hashTx))])

/-- `inittoken(params, fhelp)`; `secret` is what `MakeNewKey(false)` draws in `CreateToken`. -/
def inittoken (params : List Value) (fhelp : Bool) (secret : uint256) : RpcM Value := do
  checkUsage (fhelp || params.length < 2 || params.length > 2) inittokenHelp
  let inputtxid ← makeInputTransactionForToken env 1001
  let inputTransaction ← getInputTransaction env inputtxid
  let nOutput := fundingOutputIndex inputTransaction.vout
  let pathToFile ← liftExcept (params.getD 1 .null).getStr
  let token := CreateToken env pathToFile (getHex inputtxid) secret
  let strAddress ← liftExcept (params.getD 0 .null).getStr
  let dest ← decodeDestination env strAddress
  let data ← liftExcept (do ParseHexO (← token.getObj) "Token ID")
  let rawTx := tokenTransaction inputtxid nOutput (env.scriptForDestination dest) data
  let signedValue ← signrawtokentransaction env (hexStr (serializeTx rawTx))
  let hashTx ← inittokenSubmit env signedValue
  liftExcept (inittokenResult token hashTx)

/-! ## Steps of a run -/

theorem getInputTransaction_eq_ok {inputtxid : uint256} {node node' : Node}
    {tx : CTransaction} (h : getInputTransaction env inputtxid node = .ok tx node') :
    env.GetTransaction node inputtxid = some tx ∧ node' = node := by
  rw [getInputTransaction, RpcM.bind_of_ok RpcM.get_apply] at h
  cases hg : env.GetTransaction node inputtxid with
  | none => rw [hg] at h; cases h
  | some tx' => rw [hg] at h; cases h; exact ⟨rfl, rfl⟩

theorem getInputTransaction_of_some {inputtxid : uint256} {node : Node} {tx : CTransaction}
    (h : env.GetTransaction node inputtxid = some tx) :
    getInputTransaction env inputtxid node = .ok tx node := by
  rw [getInputTransaction, RpcM.bind_of_ok RpcM.get_apply, h]
  rfl

theorem getInputTransaction_keeps (inputtxid : uint256) :
    (getInputTransaction env inputtxid).Keeps :=
  .bind RpcM.keeps_get fun node => by
    cases env.GetTransaction node inputtxid
    · exact RpcM.keeps_throw _
    · exact RpcM.keeps_pure _

theorem decodeDestination_keeps (strAddress : String) :
    (decodeDestination env strAddress).Keeps := by
  unfold decodeDestination
  cases env.decodeAddress strAddress
  · exact RpcM.keeps_throw _
  · exact RpcM.keeps_pure _

/-- `makeInputTransactionForToken` sends to `mapAddressBook.begin()` and returns the id of the
wallet's transaction; that destination is below every other of the book. -/
theorem makeInputTransactionForToken_of_send {am : Int} {node node' : Node}
    {first : CTxDestination} {rest : List CTxDestination} {amount : BitVec 64} {wtx : CTransaction}
    (hbook : node.wallet.mapAddressBook = first :: rest)
    (ham : env.AmountFromValue (.int am) = .ok amount)
    (hsend : env.SendMoneyToDestination2 node first amount = ("", wtx, node')) :
    makeInputTransactionForToken env am node = .ok (env.GetHash wtx) node' ∧
      ∀ d ∈ rest, first.blt d := by
  refine ⟨?_, CWallet.blt_of_mapAddressBook hbook⟩
  rw [makeInputTransactionForToken, RpcM.bind_of_ok RpcM.get_apply]
  simp only [hbook, List.headD_cons]
  rw [RpcM.bind_of_ok (by rw [ham]; rfl)]
  simp only [hsend]
  rfl

theorem decodeDestination_eq_ok {strAddress : String} {node node' : Node}
    {dest : CTxDestination} (h : decodeDestination env strAddress node = .ok dest node') :
    env.decodeAddress strAddress = some dest ∧ node' = node := by
  rw [decodeDestination] at h
  cases hd : env.decodeAddress strAddress with
  | none => rw [hd] at h; cases h
  | some d => rw [hd] at h; cases h; exact ⟨rfl, rfl⟩

/-- A submission block that returns has relayed, and returns the id of, the transaction whose
hex it was given. -/
theorem inittokenSubmit_hexStr {T : CMutableTransaction} {node node' : Node} {hashTx : uint256}
    (h : inittokenSubmit env (hexStr (serializeTx T)) node = .ok hashTx node') :
    hashTx = env.GetHash T ∧ node'.relayed.getLast? = some hashTx := by
  rw [inittokenSubmit, ParseHexV_hexStr _ _ (serializeTx_ne_nil T),
    RpcM.bind_of_ok (RpcM.liftExcept_ok _)] at h
  obtain ⟨tx, hd, rfl, hr⟩ := submitRawTransaction_ok env h
  exact ⟨by rw [decodeTx_serializeTx hd], hr⟩

/-- The submission block on an encoded transaction that fits and is admitted. -/
theorem inittokenSubmit_serializeTx {T : CTransaction} {node node₁ : Node}
    (hfits : txCodec.fits T)
    (hadm : admitTransaction env T (env.GetHash T) false node = .ok () node₁) :
    inittokenSubmit env (hexStr (serializeTx T)) node =
      .ok (env.GetHash T) (node₁.RelayTransaction (env.GetHash T)) := by
  rw [inittokenSubmit, ParseHexV_hexStr _ _ (serializeTx_ne_nil T),
    RpcM.bind_of_ok (RpcM.liftExcept_ok _)]
  exact submitRawTransaction_serializeTx env hfits hadm

/-! ## What a mint produces -/

/-- **What `inittoken` mints.** When `inittoken d path` returns, the funding call returned an
id `inputtxid`, `GetTransaction` found the funding transaction, and `d` is a valid address. The
transaction `inittoken` relayed last, whose id it returns as `transactionid`, has one input,
spending the output of the funding transaction that the scan chose, and two outputs: 1000 coins
to `d`'s script, then 0 coins to `OP_RETURN` and one push of bytes `s`; the returned token id is
the hex of `s`. Signing and the hex and wire round trips in between change none of this. -/
theorem inittoken_token_transaction (d path : String) (secret : uint256) {node node' : Node}
    {r : Value} (h : inittoken env [.str d, .str path] false secret node = .ok r node') :
    ∃ inputtxid node₁ funding dest s tx pub priv,
      makeInputTransactionForToken env 1001 node = .ok inputtxid node₁ ∧
      env.GetTransaction node₁ inputtxid = some funding ∧
      env.decodeAddress d = some dest ∧
      tx.vin.map (·.prevout) =
        [⟨inputtxid, BitVec.ofNat 32 (fundingOutputIndex funding.vout)⟩] ∧
      tx.vout =
        [⟨1000 * COIN, env.scriptForDestination dest⟩, ⟨0, OP_RETURN :: pushData s⟩] ∧
      r = .obj [("Token ID", .str (hexStr s)), ("Token public key", .str pub),
        ("Token private key", .str priv), ("transactionid", .str (getHex (env.GetHash tx)))] ∧
      node'.relayed.getLast? = some (env.GetHash tx) := by
  obtain ⟨_, node₀, hu, h₀⟩ := RpcM.bind_eq_ok h
  obtain ⟨-, rfl⟩ := RpcM.checkUsage_eq_ok hu
  obtain ⟨inputtxid, node₁, hin, h₁⟩ := RpcM.bind_eq_ok h₀
  obtain ⟨funding, node₂, hf, h₂⟩ := RpcM.bind_eq_ok h₁
  obtain ⟨hfund, rfl⟩ := getInputTransaction_eq_ok env hf
  obtain ⟨pathToFile, node₃, hp, h₃⟩ := RpcM.bind_eq_ok h₂
  obtain ⟨hpath, rfl⟩ := RpcM.liftExcept_eq_ok hp
  obtain ⟨strAddress, node₄, ha, h₄⟩ := RpcM.bind_eq_ok h₃
  obtain ⟨haddr, rfl⟩ := RpcM.liftExcept_eq_ok ha
  obtain ⟨dest, node₅, hd, h₅⟩ := RpcM.bind_eq_ok h₄
  obtain ⟨hdest, rfl⟩ := decodeDestination_eq_ok env hd
  obtain ⟨data, node₆, hdata, h₆⟩ := RpcM.bind_eq_ok h₅
  obtain ⟨hparse, rfl⟩ := RpcM.liftExcept_eq_ok hdata
  obtain ⟨signedValue, node₇, hs, h₇⟩ := RpcM.bind_eq_ok h₆
  obtain ⟨rfl, T, rfl, hT⟩ := signrawtokentransaction_hexStr env _ hs
  obtain ⟨hashTx, node₈, hsub, h₈⟩ := RpcM.bind_eq_ok h₇
  obtain ⟨rfl, hrel⟩ := inittokenSubmit_hexStr env hsub
  obtain ⟨hr, rfl⟩ := RpcM.liftExcept_eq_ok h₈
  cases hpath
  cases haddr
  rw [CreateToken_getObj, ok_bind] at hparse
  obtain rfl := ParseHexV_hexStr_eq_ok hparse
  rw [inittokenResult, CreateToken_getObj] at hr
  cases hr
  simp only [CMutableTransaction.skeleton, tokenTransaction, Prod.mk.injEq] at hT
  refine ⟨inputtxid, node₇, funding, dest, _, T, _, _, hin, hfund, hdest, ?_, hT.2.2.1, rfl,
    hrel⟩
  simpa using congrArg (List.map Prod.fst) hT.2.2.2

end Mint

/-- `inittoken` mints on `mintEnv`, and what it mints is as `inittoken_token_transaction` says. -/
theorem inittoken_token_transaction_on_mintEnv :
    ∃ r node', inittoken mintEnv [.str "d", .str "f"] false 0 {} = .ok r node' ∧
      ∃ inputtxid node₁ funding dest s tx pub priv,
        makeInputTransactionForToken mintEnv 1001 {} = .ok inputtxid node₁ ∧
        mintEnv.GetTransaction node₁ inputtxid = some funding ∧
        mintEnv.decodeAddress "d" = some dest ∧
        tx.vin.map (·.prevout) =
          [⟨inputtxid, BitVec.ofNat 32 (fundingOutputIndex funding.vout)⟩] ∧
        tx.vout =
          [⟨1000 * COIN, mintEnv.scriptForDestination dest⟩, ⟨0, OP_RETURN :: pushData s⟩] ∧
        r = .obj [("Token ID", .str (hexStr s)), ("Token public key", .str pub),
          ("Token private key", .str priv),
          ("transactionid", .str (getHex (mintEnv.GetHash tx)))] ∧
        node'.relayed.getLast? = some (mintEnv.GetHash tx) := by
  have hrun : inittoken mintEnv [.str "d", .str "f"] false 0 {} =
      .ok (.obj [("Token ID", .str (hexStr [0x30])), ("Token public key", .str (getHex 0)),
        ("Token private key", .str ""), ("transactionid", .str (getHex 0))])
        { relayed := [0] } := by
    let rawTx := tokenTransaction 0 0 [0x51] [0x30]
    have hsign : signVariants mintEnv (warmView (viewMemPool mintEnv.GetHash {}) rawTx.vin)
        ({} : Node).wallet.keystore SIGHASH_ALL (rawTx, []) = (rawTx, false) := by decide
    rw [inittoken, RpcM.checkUsage_bind (by simp),
      RpcM.bind_of_ok (rfl : makeInputTransactionForToken mintEnv 1001 {} = .ok 0 {}),
      RpcM.bind_of_ok (getInputTransaction_of_some mintEnv rfl)]
    simp only [List.getD_cons_zero, List.getD_cons_succ, Value.getStr]
    rw [RpcM.bind_of_ok (RpcM.liftExcept_ok _), RpcM.bind_of_ok (RpcM.liftExcept_ok _),
      RpcM.bind_of_ok (rfl : decodeDestination mintEnv "d" {} = .ok (.keyID 1) {}),
      CreateToken_getObj, ok_bind]
    have hpk : ParseHexO [("Token ID", .str (hexStr [0x30])),
        ("Token public key", .str (getHex 0)), ("Token private key", .str "")] "Token ID" =
        .ok [0x30] := by decide
    simp only [show ∀ k h, mintEnv.Sign k h = [0x30] from fun _ _ => rfl,
      show ∀ t, mintEnv.GetHash t = 0 from fun _ => rfl,
      show ∀ d, mintEnv.scriptForDestination d = [0x51] from fun _ => rfl,
      show ∀ k, mintEnv.pubKeyHash k = 0 from fun _ => rfl,
      show ∀ k, mintEnv.encodeSecret k = "" from fun _ => rfl,
      show fundingOutputIndex [⟨1001 * COIN, [0x51]⟩] = 0 from rfl]
    rw [hpk, RpcM.bind_of_ok (RpcM.liftExcept_ok _),
      RpcM.bind_of_ok (signrawtokentransaction_serializeTx mintEnv rawTx {} (by decide) rfl), hsign,
      RpcM.bind_of_ok (inittokenSubmit_serializeTx mintEnv (by decide)
        (@admitTransaction_accept mintEnv rawTx 0 false {} {} rfl rfl rfl))]
    rfl
  exact ⟨_, _, hrun, inittoken_token_transaction mintEnv "d" "f" 0 hrun⟩

section Mint

variable (env : Env)

/-! ## A destination that is not an address -/

/-- Once the funding transaction is sent and found, a destination that is not an address makes
`inittoken` fail, in the state the funding call left. -/
theorem inittoken_of_invalid_address {d path : String} {secret inputtxid : uint256}
    {node node₁ : Node} {funding : CTransaction}
    (hin : makeInputTransactionForToken env 1001 node = .ok inputtxid node₁)
    (hfund : env.GetTransaction node₁ inputtxid = some funding)
    (hd : env.decodeAddress d = none) :
    inittoken env [.str d, .str path] false secret node =
      .error (.json RPC_INVALID_ADDRESS_OR_KEY "Invalid smly address") node₁ := by
  rw [inittoken, RpcM.checkUsage_bind (by simp), RpcM.bind_of_ok hin,
    RpcM.bind_of_ok (getInputTransaction_of_some env hfund)]
  simp only [List.getD_cons_zero, List.getD_cons_succ, Value.getStr]
  rw [RpcM.bind_of_ok (RpcM.liftExcept_ok _), RpcM.bind_of_ok (RpcM.liftExcept_ok _),
    RpcM.bind_of_error (by rw [decodeDestination, hd]; rfl)]

end Mint

/-- **`inittoken` sends the funding transaction before it reads the destination.** Take any
node whose wallet send commits the funding transaction to the pool, as a wallet send does, and
a destination that is not an address: `inittoken` fails with "Invalid smly address", and the
pool it leaves holds the funding transaction it did not hold before. -/
theorem inittoken_invalid_address_keeps_funding (env : Env) (fundingTx : CTransaction)
    (secret : uint256) :
    let env' : Env := { env with
      AmountFromValue := fun _ => .ok (1001 * COIN),
      SendMoneyToDestination2 := fun node _ _ =>
        ("", fundingTx, { node with mempool := node.mempool ++ [fundingTx] }),
      GetTransaction := fun _ _ => some fundingTx,
      decodeAddress := fun _ => none }
    let node : Node := { wallet := { mapAddressBook := [.keyID 0] } }
    ∃ node', inittoken env' [.str "x", .str "f"] false secret node =
        .error (.json RPC_INVALID_ADDRESS_OR_KEY "Invalid smly address") node' ∧
      node.mempool = [] ∧ node'.mempool = [fundingTx] := by
  intro env' node
  exact ⟨_, inittoken_of_invalid_address env' rfl rfl rfl, rfl, rfl⟩

/-! ## The funding output -/

/-- **The funding goes to the least destination of the address book, whoever holds its key.**
A wallet with the one key whose id is 5, and whose address book holds a contact's address
`keyID 4` besides its own `keyID 5`, sends the 1001 coins to the contact, since the map iterates
`keyID 4` first; the output the token transaction spends is then the contact's, which the
wallet holds no key for. -/
theorem makeInputTransactionForToken_pays_first_book_entry (env : Env) :
    let key : CKey := ⟨1, false⟩
    let env' : Env := { env with
      pubKeyID := fun _ => 5,
      AmountFromValue := fun _ => .ok (1001 * COIN),
      SendMoneyToDestination2 := fun node dest amount =>
        ("", { vout := [⟨amount, env.scriptForDestination dest⟩] }, node) }
    let node : Node :=
      { wallet := { mapAddressBook := [.keyID 4, .keyID 5], keystore := { keys := [key] } } }
    let fundingTx : CTransaction :=
      { vout := [⟨1001 * COIN, env.scriptForDestination (.keyID 4)⟩] }
    makeInputTransactionForToken env' 1001 node = .ok (env.GetHash fundingTx) node ∧
      fundingOutputIndex fundingTx.vout = 0 ∧
      ∀ k ∈ node.wallet.keystore.keys, CTxDestination.keyID (env'.pubKeyID k) ≠ .keyID 4 := by
  intro key env' node fundingTx
  refine ⟨(makeInputTransactionForToken_of_send env' rfl rfl rfl).1, rfl, ?_⟩
  simp only [node, List.mem_singleton, forall_eq, env']
  decide

section Mint

variable (env : Env)

/-! ## The duplicated lines -/

/-- **The submission lines of both pairs are one.** `signrawtokentransaction h` returns the
`"hex"` member of what `signrawtransaction [h]` returns, with no hints, no keys and `ALL`, or
throws what it throws, in the same state; and the submission block of `inittoken` on a hex
string does what `sendrawtransaction [hex, false]` does: same error, same effects, same id. -/
theorem signrawtokentransaction_eq_signrawtransaction :
    (∀ h : String,
      signrawtokentransaction env h = signResultHex <$> signrawtransaction env [.str h] false) ∧
    ∀ signedHex : String, (fun hashTx => Value.str (getHex hashTx)) <$>
      inittokenSubmit env signedHex =
        sendrawtransaction env [.str signedHex, .bool false] false := by
  refine ⟨fun h => funext fun node => ?_, fun signedHex => funext fun node => ?_⟩
  · show _ = EStateM.map _ _ _
    simp [signrawtokentransaction, signrawtransaction, checkUsage, EStateM.map, bind,
      EStateM.bind, RPCTypeCheck, Value.type, givenKeystore, addPrevTxs, sigHashType]
    cases ParseHexV (.str h) "argument 1" with
    | error e => rfl
    | ok txData =>
      simp only [RpcM.liftExcept_ok]
      cases decodeTxVariants txData with
      | error e => rfl
      | ok v =>
        simp only [RpcM.liftExcept_ok]
        cases env.EnsureWalletIsUnlocked node with
        | error e => rfl
        | ok u => simp [signResultHex, findValue, hexParamText, Except.bind]
  · show EStateM.map _ _ _ = _
    simp [inittokenSubmit, sendrawtransaction, checkUsage, EStateM.map, bind, EStateM.bind,
      Value.getBool]
    cases ParseHexV (.str signedHex) "parameter" with
    | error e => rfl
    | ok txData =>
      simp only [RpcM.liftExcept_ok]

end Mint

end SmileyRawTx
