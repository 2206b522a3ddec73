import SmileyRawTx.Build.Decode

/-!
# The wallet's coins and the lottery

`listunspent` (lines 148–315) lists the outputs the wallet can spend: it reads a depth range and
an optional array of addresses, refuses an invalid or repeated address, and walks the wallet's
available outputs, skipping (`continue`) those out of the range and, when the address set is not
empty, those that pay none of its addresses. `lottery` (lines 837–865) sends an amount to a fixed
address from the wallet.

What the two calls use of the wallet beyond the node's own fields, its available outputs, the
names of its address book, its scripts and its send, is taken as the fields of an `RpcEnv`,
which extends the collaborators of the display calls: an `RpcEnv` holds every collaborator of
the file.

`listunspent` returns exactly when every address decodes and none repeats, and then lists, in
the wallet's order, the outputs whose depth lies in the range and that pay one of the addresses
when there are any (`listunspent_eq_ok_iff`). An empty address array filters nothing. Otherwise
it throws the error that names the first address it refuses, before it reads the wallet
(`listunspent_refuses_address`).
-/

namespace SmileyRawTx

/-- `COutput`: a wallet transaction, the index of one of its outputs and its depth in the chain.
`AvailableCoins` builds it with an index in range, which `out.tx->vout[out.i]` relies on. -/
structure COutput where
  tx : CTransaction
  i : Nat
  nDepth : Int
  hi : i < tx.vout.length

/-- `out.tx->vout[out.i]`. -/
def COutput.txout (out : COutput) : CTxOut := out.tx.vout.get ⟨out.i, out.hi⟩

/-- Every collaborator of the file's calls: those of the display calls, and the wallet's. -/
structure RpcEnv extends ViewEnv where
  /-- `pwalletMain->AvailableCoins(vecOutputs, false)`. -/
  AvailableCoins : Node → List COutput
  /-- `ExtractDestination(script, address)`: the address when it returns true. -/
  ExtractDestination : CScript → Option CTxDestination
  /-- `pwalletMain->mapAddressBook[address].name`. -/
  accountName : Node → CTxDestination → String
  /-- `pwalletMain->GetCScript(hash, redeemScript)`: the script when it returns true. -/
  GetCScript : Node → BitVec 160 → Option CScript
  /-- `pwalletMain->SendMoneyToDestination(dest, amount, wtx)`: the error text (empty on
  success), the transaction `wtx` and the node after the call. -/
  SendMoneyToDestination : Node → CTxDestination → BitVec 64 → String × CTransaction × Node

section Wallet

variable (env : RpcEnv)

/-! ## §1 `listunspent` -/

/-- The help text that `listunspent` throws on `help` or a wrong number of parameters. -/
def listunspentHelp : String :=
  "listunspent ( minconf maxconf  [\"address\",...] )\n" ++
  "\nReturns array of unspent transaction outputs\n" ++
  "with between minconf and maxconf (inclusive) confirmations.\n" ++
  "Optionally filter to only include txouts paid to specified addresses.\n" ++
  "Results are an array of Objects, each of which has:\n" ++
  "\x7btxid, vout, scriptPubKey, amount, confirmations\x7d\n" ++
  "\nArguments:\n" ++
  "1. minconf          (numeric, optional, default=1) The minimum confirmationsi to filter\n" ++
  "2. maxconf          (numeric, optional, default=9999999) The maximum confirmations to " ++
  "filter\n" ++
  "3. \"addresses\"    (string) A json array of smileycoin addresses to filter\n" ++
  "    [\n" ++
  "      \"address\"   (string) smileycoin address\n" ++
  "      ,...\n" ++
  "    ]\n" ++
  "\nResult\n" ++
  "[                   (array of json object)\n" ++
  "  \x7b\n" ++
  "    \"txid\" : \"txid\",        (string) the transaction id \n" ++
  "    \"vout\" : n,               (numeric) the vout value\n" ++
  "    \"address\" : \"address\",  (string) the smileycoin address\n" ++
  "    \"account\" : \"account\",  (string) The associated account, or \"\" for the default " ++
  "account\n" ++
  "    \"scriptPubKey\" : \"key\", (string) the script key\n" ++
  "    \"amount\" : x.xxx,         (numeric) the transaction amount in btc\n" ++
  "    \"confirmations\" : n       (numeric) The number of confirmations\n" ++
  "  \x7d\n" ++
  "  ,...\n" ++
  "]\n" ++
  "\nExamples\n" ++
  env.HelpExampleCli "listunspent" "" ++
  env.HelpExampleCli "listunspent"
    ("6 9999999 \"[\\\"1PGFqEzfmQch1gKD3ra4k18PNj3tTUUSqg\\\",\\\"1LtvqCaApEdUGFkpKMM4MstjcaL" ++
     "4dKg8SP\\\"]\"") ++
  env.HelpExampleRpc "listunspent"
    ("6, 9999999 \"[\\\"1PGFqEzfmQch1gKD3ra4k18PNj3tTUUSqg\\\",\\\"1LtvqCaApEdUGFkpKMM4Mstjca" ++
     "L4dKg8SP\\\"]\"")

/-- Lines 238–248: one entry of the address array, added to `setAddress` unless it is not a
valid address or is there already. -/
def addAddress (setAddress : List CTxDestination) (input : Value) :
    Except RpcError (List CTxDestination) := do
  let s ← input.getStr
  match env.decodeAddress s with
  | none => .error (.json RPC_INVALID_ADDRESS_OR_KEY ("Invalid Smileycoin address: " ++ s))
  | some address =>
    if address ∈ setAddress then
      .error (.json RPC_INVALID_PARAMETER ("Invalid parameter, duplicated address: " ++ s))
    else .ok (setAddress ++ [address])

/-- Lines 264–274: the loop skips an output out of the depth range, and, when `setAddress` is
not empty, one whose script has no destination or one outside the set. -/
def listunspentSkips (nMinDepth nMaxDepth : Int) (setAddress : List CTxDestination)
    (out : COutput) : Bool :=
  out.nDepth < nMinDepth || out.nDepth > nMaxDepth ||
    (setAddress != [] &&
      !(env.ExtractDestination out.txout.scriptPubKey).any (setAddress.contains ·))

/-- Lines 276–304: the entry of an output the loop lists. `boost::get<CScriptID>` throws on a
pay-to-script-hash script whose destination is not a script hash. -/
def unspentEntry (node : Node) (out : COutput) : Except RpcError Value := do
  let pk := out.txout.scriptPubKey
  let addressPart : List (String × Value) :=
    match env.ExtractDestination pk with
    | some address => ("address", .str (env.encodeAddress address)) ::
        if address ∈ node.wallet.mapAddressBook then
          [("account", .str (env.accountName node address))] else []
    | none => []
  let redeemPart ← if env.IsPayToScriptHash pk then
      match env.ExtractDestination pk with
      | some (.scriptID hash) => .ok (match env.GetCScript node hash with
        | some redeemScript => [("redeemScript", .str (hexStr redeemScript))]
        | none => [])
      | some _ => .error (.runtime "boost::bad_get: failed value get using boost::get")
      | none => .ok []
    else .ok []
  .ok (.obj ([("txid", .str (getHex (env.GetHash out.tx))), ("vout", .int out.i)] ++
    addressPart ++ [("scriptPubKey", .str (hexStr pk))] ++ redeemPart ++
    [("amount", env.ValueFromAmount out.txout.nValue), ("confirmations", .int out.nDepth)]))

/-- One pass of the loop over `vecOutputs` (lines 262–305). -/
def listunspentStep (node : Node) (nMinDepth nMaxDepth : Int) (setAddress : List CTxDestination)
    (results : List Value) (out : COutput) : Except RpcError (List Value) :=
  if listunspentSkips env nMinDepth nMaxDepth setAddress out then .ok results
  else (unspentEntry env node out).map (results ++ [·])

/-- `listunspent(params, fHelp)`. -/
def listunspent (params : List Value) (fHelp : Bool) : RpcM Value := do
  checkUsage (fHelp || params.length > 3) (listunspentHelp env)
  liftExcept (RPCTypeCheck params [.int, .int, .array] false)
  let nMinDepth ← liftExcept <|
    if params.length > 0 then (params.getD 0 .null).getInt else .ok 1
  let nMaxDepth ← liftExcept <|
    if params.length > 1 then (params.getD 1 .null).getInt else .ok 9999999
  let setAddress ← liftExcept <|
    if params.length > 2 then do
      let inputs ← (params.getD 2 .null).getArray
      inputs.foldlM (addAddress env) []
    else .ok []
  let node ← get
  let results ← liftExcept <|
    (env.AvailableCoins node).foldlM (listunspentStep env node nMinDepth nMaxDepth setAddress) []
  pure (.array results)

/-! ## §2 The loops of `listunspent` -/

/-- One entry of the address array is added exactly when it is a string that decodes to an
address not in the set yet. -/
theorem addAddress_eq_ok_iff {acc set : List CTxDestination} {input : Value} :
    addAddress env acc input = .ok set ↔
      ∃ s a, input = .str s ∧ env.decodeAddress s = some a ∧ a ∉ acc ∧ set = acc ++ [a] := by
  cases input <;> simp [addAddress, Value.getStr, checkType, Value.type]
  split
  · simp [*]
  · split_ifs <;> simp [*, eq_comm]

/-- The address loop, from a set without repeats, returns exactly when every entry decodes and
no two decode to the same address; it then appends the addresses in order. -/
theorem foldlM_addAddress_eq_ok_iff {inputs : List Value} {acc set : List CTxDestination}
    (h : acc.Nodup) :
    inputs.foldlM (addAddress env) acc = .ok set ↔
      ∃ new, List.Forall₂ (fun input a => ∃ s, input = .str s ∧ env.decodeAddress s = some a)
        inputs new ∧ set = acc ++ new ∧ set.Nodup := by
  induction inputs generalizing acc with
  | nil =>
    simp only [List.foldlM_nil, List.forall₂_nil_left_iff, exists_eq_left, List.append_nil]
    exact ⟨fun h' => by cases h'; exact ⟨rfl, h⟩, fun ⟨h₁, _⟩ => h₁ ▸ rfl⟩
  | cons input inputs ih =>
    rw [List.foldlM_cons, bind_eq_ok]
    constructor
    · rintro ⟨acc', hstep, hrest⟩
      obtain ⟨s, a, rfl, ha, hna, rfl⟩ := (addAddress_eq_ok_iff env).mp hstep
      have h₁ : (acc ++ [a]).Nodup := List.nodup_append.mpr ⟨h, List.nodup_singleton a,
        fun x hx hy => hna (by rw [List.mem_singleton.mp hy] at hx; exact hx)⟩
      obtain ⟨new, hnew, rfl, hnd⟩ := (ih h₁).mp hrest
      exact ⟨a :: new, .cons ⟨s, rfl, ha⟩ hnew, by simp, hnd⟩
    · rintro ⟨_ | ⟨a, new⟩, hnew, rfl, hnd⟩
      · cases hnew
      · obtain ⟨⟨s, rfl, ha⟩, hnew'⟩ := List.forall₂_cons.mp hnew
        have hnd' : (acc ++ [a] ++ new).Nodup := by rwa [List.append_assoc, List.singleton_append]
        have h₁ : (acc ++ [a]).Nodup := hnd'.sublist (List.sublist_append_left _ _)
        have hna : a ∉ acc := fun hm => (List.nodup_append.mp h₁).2.2 hm (List.mem_singleton_self a)
        exact ⟨_, (addAddress_eq_ok_iff env).mpr ⟨s, a, rfl, ha, hna, rfl⟩,
          (ih h₁).mpr ⟨new, hnew', by simp, hnd⟩⟩

/-- Whether `listunspent` lists an output, as its help text says: its depth lies between
`minconf` and `maxconf` inclusive, and, when addresses are given, it pays one of them. -/
def UnspentSelected (nMinDepth nMaxDepth : Int) (setAddress : List CTxDestination)
    (out : COutput) : Prop :=
  nMinDepth ≤ out.nDepth ∧ out.nDepth ≤ nMaxDepth ∧
    (setAddress = [] ∨ ∃ a ∈ setAddress, env.ExtractDestination out.txout.scriptPubKey = some a)

instance (nMinDepth nMaxDepth : Int) (setAddress : List CTxDestination) (out : COutput) :
    Decidable (UnspentSelected env nMinDepth nMaxDepth setAddress out) :=
  inferInstanceAs (Decidable (_ ∧ _ ∧ (_ ∨ _)))

theorem not_listunspentSkips (nMinDepth nMaxDepth : Int) (setAddress : List CTxDestination)
    (out : COutput) :
    (!listunspentSkips env nMinDepth nMaxDepth setAddress out) =
      decide (UnspentSelected env nMinDepth nMaxDepth setAddress out) := by
  rw [Bool.eq_iff_iff, Bool.not_eq_true', decide_eq_true_iff, listunspentSkips, UnspentSelected]
  cases env.ExtractDestination out.txout.scriptPubKey <;>
    simp [Option.any, and_assoc, or_iff_not_imp_left]

/-- The loop over the outputs, whose `continue`s skip an output and whose body can throw, lists
the outputs it does not skip, in order, after those it started with. -/
theorem foldlM_listunspentStep (node : Node) (nMinDepth nMaxDepth : Int)
    (setAddress : List CTxDestination) (coins : List COutput) (acc : List Value) :
    coins.foldlM (listunspentStep env node nMinDepth nMaxDepth setAddress) acc =
      ((coins.filter fun out => !listunspentSkips env nMinDepth nMaxDepth setAddress out).mapM
        (unspentEntry env node)).map (acc ++ ·) := by
  induction coins generalizing acc with
  | nil =>
    rw [List.foldlM_nil, List.filter_nil, List.mapM_nil]
    exact congrArg Except.ok (List.append_nil acc).symm
  | cons out coins ih =>
    rw [List.foldlM_cons, listunspentStep]
    cases hs : listunspentSkips env nMinDepth nMaxDepth setAddress out
    · rw [if_neg (by simp), List.filter_cons_of_pos (by simp [hs]), List.mapM_cons]
      cases he : unspentEntry env node out with
      | error e => rfl
      | ok entry =>
        rw [show (Except.ok entry : Except RpcError Value).map (acc ++ [·]) = .ok (acc ++ [entry])
          from rfl, ok_bind, ih, ok_bind]
        cases (coins.filter _).mapM (unspentEntry env node) <;> simp [Except.map, pure, Except.pure]
    · rw [if_pos rfl, ok_bind, ih, List.filter_cons_of_neg (by simp [hs])]

theorem listunspent_keeps (params : List Value) (fHelp : Bool) :
    (listunspent env params fHelp).Keeps :=
  .bind (RpcM.keeps_checkUsage _ _) fun _ => .bind (RpcM.keeps_liftExcept _) fun _ =>
    .bind (RpcM.keeps_liftExcept _) fun _ => .bind (RpcM.keeps_liftExcept _) fun _ =>
      .bind (RpcM.keeps_liftExcept _) fun _ => .bind RpcM.keeps_get fun _ =>
        .bind (RpcM.keeps_liftExcept _) fun _ => RpcM.keeps_pure _

/-- **`listunspent` lists exactly the selected outputs.** Called with a depth range and an array
of addresses, it returns exactly when every entry of the array is a string that decodes to an
address and no two decode to the same one, and when the entry of every selected output can be
built. The range is read by `get_int`. It then returns those entries in the order of the
wallet's available outputs, and leaves the node as it was. An empty array selects by depth
alone. -/
theorem listunspent_eq_ok_iff (nMin nMax : Int) (addrs : List Value) (node : Node) {r : Value}
    {node' : Node} :
    listunspent env [.int nMin, .int nMax, .array addrs] false node = .ok r node' ↔
      ∃ setAddress entries,
        List.Forall₂ (fun input a => ∃ s, input = .str s ∧ env.decodeAddress s = some a)
          addrs setAddress ∧ setAddress.Nodup ∧
        ((env.AvailableCoins node).filter fun out => UnspentSelected env
          (BitVec.ofInt 32 nMin).toInt (BitVec.ofInt 32 nMax).toInt setAddress out).mapM
            (unspentEntry env node) = .ok entries ∧
        r = .array entries ∧ node' = node := by
  have hT : RPCTypeCheck [.int nMin, .int nMax, .array addrs] [.int, .int, .array] false =
    .ok () := rfl
  rw [listunspent, RpcM.checkUsage_bind (by simp), hT, RpcM.bind_of_ok (RpcM.liftExcept_ok ()),
    if_pos (by simp), if_pos (by simp), if_pos (by simp)]
  simp only [List.getD_cons_zero, List.getD_cons_succ, Value.getInt, Value.getArray, ok_bind]
  rw [RpcM.bind_of_ok (RpcM.liftExcept_ok _), RpcM.bind_of_ok (RpcM.liftExcept_ok _)]
  cases hset : addrs.foldlM (addAddress env) [] with
  | error e =>
    refine iff_of_false
      (by rw [RpcM.bind_of_error (RpcM.liftExcept_error e)]; exact fun h => by cases h)
      fun ⟨set, _, hset', hnd, _⟩ => ?_
    rw [(foldlM_addAddress_eq_ok_iff env List.nodup_nil).mpr ⟨set, hset', rfl, hnd⟩] at hset
    cases hset
  | ok set =>
    obtain ⟨new, hnew, rfl, hnd⟩ := (foldlM_addAddress_eq_ok_iff env List.nodup_nil).mp hset
    rw [RpcM.bind_of_ok (RpcM.liftExcept_ok _), RpcM.bind_of_ok RpcM.get_apply,
      foldlM_listunspentStep]
    simp only [not_listunspentSkips, List.nil_append]
    have huniq : ∀ set', List.Forall₂ (fun input a => ∃ s, input = .str s ∧
        env.decodeAddress s = some a) addrs set' → set' = set := fun _ h' =>
      List.right_unique_forall₂' (fun _ _ _ ⟨_, hs, hb⟩ ⟨_, hs', hc⟩ => by
        cases hs.symm.trans hs'
        exact Option.some.inj (hb.symm.trans hc)) h' hnew
    cases hent : ((env.AvailableCoins node).filter fun out => UnspentSelected env
        (BitVec.ofInt 32 nMin).toInt (BitVec.ofInt 32 nMax).toInt set out).mapM
          (unspentEntry env node) with
    | error e =>
      refine iff_of_false (fun h => by cases h) fun ⟨set', entries, h', _, hm, _⟩ => ?_
      rw [huniq set' h', hent] at hm
      cases hm
    | ok entries =>
      rw [show Except.map (fun x => x) (.ok entries : Except RpcError (List Value)) = .ok entries
        from rfl, RpcM.bind_of_ok (RpcM.liftExcept_ok _), RpcM.pure_apply, EStateM.Result.ok.injEq]
      constructor
      · rintro ⟨rfl, rfl⟩
        exact ⟨set, entries, hnew, hnd, hent, rfl, rfl⟩
      · rintro ⟨set', entries', h', -, hm, rfl, rfl⟩
        rw [huniq set' h', hent] at hm
        cases hm
        exact ⟨rfl, rfl⟩

/-- **`listunspent` names the first address it refuses.** When the entries of the address array
before a string `s` decode to distinct addresses, and `s` does not decode or decodes to one of
them, `listunspent` throws the error that names `s`, whatever follows it in the array and
whatever the wallet holds, and leaves the node as it was. -/
theorem listunspent_refuses_address (nMin nMax : Int) {pre : List Value} (post : List Value)
    {set : List CTxDestination} (s : String) (node : Node)
    (hpre : List.Forall₂ (fun input a => ∃ s, input = .str s ∧ env.decodeAddress s = some a)
      pre set) (hnd : set.Nodup) (hs : ∀ a, env.decodeAddress s = some a → a ∈ set) :
    listunspent env [.int nMin, .int nMax, .array (pre ++ .str s :: post)] false node =
      .error (match env.decodeAddress s with
        | none => .json RPC_INVALID_ADDRESS_OR_KEY ("Invalid Smileycoin address: " ++ s)
        | some _ => .json RPC_INVALID_PARAMETER ("Invalid parameter, duplicated address: " ++ s))
        node := by
  have hT : RPCTypeCheck [.int nMin, .int nMax, .array (pre ++ .str s :: post)]
      [.int, .int, .array] false = .ok () := rfl
  have hfold : pre.foldlM (addAddress env) [] = .ok set :=
    (foldlM_addAddress_eq_ok_iff env List.nodup_nil).mpr ⟨set, hpre, rfl, hnd⟩
  have hstep : addAddress env set (.str s) = .error (match env.decodeAddress s with
      | none => .json RPC_INVALID_ADDRESS_OR_KEY ("Invalid Smileycoin address: " ++ s)
      | some _ => .json RPC_INVALID_PARAMETER
        ("Invalid parameter, duplicated address: " ++ s)) := by
    rw [addAddress, show (Value.str s).getStr = .ok s from rfl, ok_bind]
    cases ha : env.decodeAddress s with
    | none => rfl
    | some a => exact if_pos (hs a ha)
  rw [listunspent, RpcM.checkUsage_bind (by simp), hT, RpcM.bind_of_ok (RpcM.liftExcept_ok ()),
    if_pos (by simp), if_pos (by simp), if_pos (by simp)]
  simp only [List.getD_cons_zero, List.getD_cons_succ, Value.getInt, Value.getArray, ok_bind,
    List.foldlM_append, hfold, List.foldlM_cons, hstep, error_bind]
  rw [RpcM.bind_of_ok (RpcM.liftExcept_ok _), RpcM.bind_of_ok (RpcM.liftExcept_ok _),
    RpcM.bind_of_error (RpcM.liftExcept_error _)]

/-- Wallet collaborators over `viewEnv`: no coins and no destinations, and the wallet's send of
`mintEnv`. -/
def walletEnv : RpcEnv :=
  { viewEnv with
    AvailableCoins := fun _ => []
    ExtractDestination := fun _ => none
    accountName := fun _ _ => ""
    GetCScript := fun _ _ => none
    SendMoneyToDestination := mintEnv.SendMoneyToDestination2 }

/-- On `walletEnv` every string decodes to the same address, so a second address is refused as
a repeat of the first. -/
theorem listunspent_refuses_duplicate :
    List.Forall₂ (fun input a => ∃ s, input = .str s ∧ walletEnv.decodeAddress s = some a)
      [Value.str "a"] [CTxDestination.keyID 1] ∧ [CTxDestination.keyID 1].Nodup ∧
    (∀ a, walletEnv.decodeAddress "b" = some a → a ∈ [CTxDestination.keyID 1]) ∧
    listunspent walletEnv [.int 1, .int 9, .array ([.str "a"] ++ [.str "b"])] false {} =
      .error (.json RPC_INVALID_PARAMETER ("Invalid parameter, duplicated address: " ++ "b")) {} :=
  have hpre : List.Forall₂ (fun input a => ∃ s, input = .str s ∧
      walletEnv.decodeAddress s = some a) [Value.str "a"] [CTxDestination.keyID 1] :=
    .cons ⟨"a", rfl, rfl⟩ .nil
  have hs : ∀ a, walletEnv.decodeAddress "b" = some a → a ∈ [CTxDestination.keyID 1] :=
    fun _ h => by cases h; exact List.mem_singleton_self _
  ⟨hpre, List.nodup_singleton _, hs,
    listunspent_refuses_address walletEnv 1 9 [] "b" {} hpre (List.nodup_singleton _) hs⟩

/-! ## §3 `lottery` -/

/-- The help text that `lottery` throws on `help` or a wrong number of parameters. -/
def lotteryHelp : String :=
  "lottery \"amount\"\nSend an amount to the lottery. The amount must be greater than 1000" ++
  " to get in the lottery." ++
  "\nArguments:\n" ++
  "1. \"amount\"       (numeric, required) The amount in smly to send to the lottery\n" ++
  "Result:\n" ++
  "\"transactionid\" (string) The transaction id.\n" ++
  "\nExamples\n" ++
  env.HelpExampleCli "lottery" "1000"

/-- The lottery address of line 852. -/
def lotteryAddress : String := "BE8svSuyAuFFm1RFC8CGWXxyHCKjKBEYQW"

/-- `lottery(params, fHelp)`: `address.Get()` is no destination when the address is invalid. -/
def lottery (params : List Value) (fHelp : Bool) : RpcM Value := do
  checkUsage (fHelp || params.length < 1 || params.length > 1) (lotteryHelp env)
  let nAmount ← liftExcept (env.AmountFromValue (params.getD 0 .null))
  liftExcept (env.EnsureWalletIsUnlocked (← get))
  let (strError, wtx, node) := env.SendMoneyToDestination (← get)
    ((env.decodeAddress lotteryAddress).getD .noDestination) nAmount
  set node
  if strError ≠ "" then throw (.json RPC_WALLET_ERROR strError)
  else pure (.str (getHex (env.GetHash wtx)))

/-- `lottery` leaves the node it found, or the node the wallet's send to the lottery address
left, whether it then returns or throws. -/
theorem lottery_resultNode (params : List Value) (fHelp : Bool) (node : Node) :
    resultNode (lottery env params fHelp node) = node ∨
      ∃ nAmount, resultNode (lottery env params fHelp node) =
        (env.SendMoneyToDestination node ((env.decodeAddress lotteryAddress).getD .noDestination)
          nAmount).2.2 := by
  cases hu : (fHelp || params.length < 1 || params.length > 1)
  · rw [lottery, RpcM.checkUsage_bind hu]
    cases ha : env.AmountFromValue (params.getD 0 .null) with
    | error e => exact .inl (by rw [RpcM.bind_of_error (RpcM.liftExcept_error e)]; rfl)
    | ok nAmount =>
      rw [RpcM.bind_of_ok (RpcM.liftExcept_ok _), RpcM.bind_of_ok RpcM.get_apply]
      cases hE : env.EnsureWalletIsUnlocked node with
      | error e => exact .inl (by rw [RpcM.bind_of_error (RpcM.liftExcept_error e)]; rfl)
      | ok u =>
        rw [RpcM.bind_of_ok (RpcM.liftExcept_ok _), RpcM.bind_of_ok RpcM.get_apply]
        refine .inr ⟨nAmount, ?_⟩
        dsimp only
        rw [RpcM.bind_of_ok RpcM.set_apply]
        split_ifs <;> rfl
  · exact .inl (by rw [lottery, hu]; rfl)

end Wallet

end SmileyRawTx
