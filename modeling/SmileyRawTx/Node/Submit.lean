import SmileyRawTx.Node.State

/-!
# Submitting a transaction

`sendrawtransaction` (lines 796–834) decodes one transaction and, unless the pool or the chain
has it already, asks `AcceptToMemoryPool` to admit it; a transaction the chain has is refused,
and any other is relayed. `inittoken` repeats the same lines (1265–1295) with
`fOverrideFees = false`: both run `submitRawTransaction`.
-/

namespace SmileyRawTx

section Submit

variable (env : Env)

/-- The help text that `sendrawtransaction` throws on `help` or a wrong number of parameters. -/
def sendrawtransactionHelp : String :=
  "sendrawtransaction \"hexstring\" ( allowhighfees )\n" ++
  "\nSubmits raw transaction (serialized, hex-encoded) to local node and network.\n" ++
  "\nAlso see createrawtransaction and signrawtransaction calls.\n" ++
  "\nArguments:\n" ++
  "1. \"hexstring\"    (string, required) The hex string of the raw transaction)\n" ++
  "2. allowhighfees    (boolean, optional, default=false) Allow high fees\n" ++
  "\nResult:\n" ++
  "\"hex\"             (string) The transaction hash in hex\n" ++
  "\nExamples:\n" ++
  "\nCreate a transaction\n" ++
  env.HelpExampleCli "createrawtransaction"
    ("\"[\x7b\\\"txid\\\" : \\\"mytxid\\\",\\\"vout\\\":0\x7d]\" " ++
     "\"\x7b\\\"myaddress\\\":0.01\x7d\"") ++
  "Sign the transaction, and get back the hex\n" ++
  env.HelpExampleCli "signrawtransaction" "\"myhex\"" ++
  "\nSend the transaction (signed hex)\n" ++
  env.HelpExampleCli "sendrawtransaction" "\"signedhex\"" ++
  "\nAs a json rpc call\n" ++
  env.HelpExampleRpc "sendrawtransaction" "\"signedhex\""

/-- `ssData >> tx` on the front of the decoded parameter; the rest of the stream is ignored. -/
def decodeTx (txData : Bytes) : Except RpcError CTransaction :=
  match unserializeTx txData with
  | .ok (tx, _) => .ok tx
  | .error _ => .error txDecodeFailed

/-- `view.GetCoins(hashTx, existingCoins) && existingCoins.nHeight < 1000000000` on
`*pcoinsTip`. -/
def Node.haveChain (node : Node) (hashTx : uint256) : Bool :=
  match node.coinsTip hashTx with
  | some existingCoins => decide (existingCoins.nHeight < 1000000000)
  | none => false

/-- The error `sendrawtransaction` reports for a refused transaction. -/
def rejectError (state : CValidationState) : RpcError :=
  if state.fInvalid then
    .json RPC_TRANSACTION_REJECTED (toString state.rejectCode.toNat ++ ": " ++ state.rejectReason)
  else .json RPC_TRANSACTION_ERROR state.rejectReason

/-- Lines 814–827: ask `AcceptToMemoryPool` to admit a transaction that neither the pool nor
the chain has, and refuse one the chain has. -/
def admitTransaction (tx : CTransaction) (hashTx : uint256) (fOverrideFees : Bool) :
    RpcM Unit := do
  let node ← get
  let fHaveMempool := node.mempoolExists env.GetHash hashTx
  let fHaveChain := node.haveChain hashTx
  if !fHaveMempool && !fHaveChain then
    match env.AcceptToMemoryPool node tx !fOverrideFees with
    | .ok node => set (env.SyncWithWallets node hashTx tx)
    | .error state => throw (rejectError state)
  else if fHaveChain then
    throw (.json RPC_TRANSACTION_ALREADY_IN_CHAIN "transaction already in block chain")

/-- The lines shared by `sendrawtransaction` and `inittoken`, from decoding the transaction to
relaying it: the id of the transaction. -/
def submitRawTransaction (txData : Bytes) (fOverrideFees : Bool) : RpcM uint256 := do
  let tx ← liftExcept (decodeTx txData)
  let hashTx := env.GetHash tx
  admitTransaction env tx hashTx fOverrideFees
  modify (·.RelayTransaction hashTx)
  pure hashTx

/-- A submission that decodes `tx` is the admission of `tx` under its id, then the relay. -/
theorem submitRawTransaction_of_decode {txData : Bytes} {fOverrideFees : Bool} {tx : CTransaction}
    (hd : decodeTx txData = .ok tx) :
    submitRawTransaction env txData fOverrideFees =
      (admitTransaction env tx (env.GetHash tx) fOverrideFees >>= fun _ =>
        modify (·.RelayTransaction (env.GetHash tx)) >>= fun _ => pure (env.GetHash tx)) := by
  rw [submitRawTransaction, hd]
  rfl

/-- The transaction a submission decodes from an encoded transaction is that transaction. -/
theorem decodeTx_serializeTx {t tx : CTransaction} (h : decodeTx (serializeTx t) = .ok tx) :
    tx = t := by
  rw [decodeTx, ← List.append_nil (serializeTx t), unserializeTx_serializeTx] at h
  split_ifs at h
  cases h
  rfl

/-- A submission that returns has decoded a transaction, returns its id and relayed it last. -/
theorem submitRawTransaction_ok {txData : Bytes} {fOverrideFees : Bool} {node node' : Node}
    {hashTx : uint256} (h : submitRawTransaction env txData fOverrideFees node = .ok hashTx node') :
    ∃ tx, decodeTx txData = .ok tx ∧ hashTx = env.GetHash tx ∧
      node'.relayed.getLast? = some hashTx := by
  cases hdec : decodeTx txData with
  | error e => rw [submitRawTransaction, RpcM.bind_of_error (by rw [hdec]; rfl)] at h; cases h
  | ok tx =>
    rw [submitRawTransaction, RpcM.bind_of_ok (by rw [hdec]; rfl)] at h
    obtain ⟨u, node₂, -, h⟩ := RpcM.bind_eq_ok h
    rw [RpcM.bind_of_ok (RpcM.modify_apply _)] at h
    cases h
    exact ⟨tx, rfl, rfl, by simp [Node.RelayTransaction]⟩

/-- A transaction that neither the pool nor the chain has, and that `AcceptToMemoryPool`
admits, is admitted and announced to the wallets. -/
theorem admitTransaction_accept {tx : CTransaction} {hashTx : uint256} {fOverrideFees : Bool}
    {node node₁ : Node} (hm : node.mempoolExists env.GetHash hashTx = false)
    (hc : node.haveChain hashTx = false)
    (ha : env.AcceptToMemoryPool node tx (!fOverrideFees) = .ok node₁) :
    admitTransaction env tx hashTx fOverrideFees node =
      .ok () (env.SyncWithWallets node₁ hashTx tx) := by
  rw [admitTransaction, RpcM.bind_of_ok RpcM.get_apply]
  simp only [hm, hc, Bool.not_false, Bool.and_self, if_true, ha]
  rfl

/-- **Every way admission goes.** A transaction that neither the pool nor the chain has is
admitted, and announced to the wallets, or refused with `AcceptToMemoryPool`'s reason; one the
chain has is refused; and one the pool has (and the chain does not) is let through untouched.
Only the first case changes the node. -/
theorem admitTransaction_cases (tx : CTransaction) (hashTx : uint256) (fOverrideFees : Bool)
    (node : Node) :
    (node.mempoolExists env.GetHash hashTx = false ∧ node.haveChain hashTx = false ∧
      ((∃ node₁, env.AcceptToMemoryPool node tx (!fOverrideFees) = .ok node₁ ∧
          admitTransaction env tx hashTx fOverrideFees node =
            .ok () (env.SyncWithWallets node₁ hashTx tx)) ∨
        ∃ state, env.AcceptToMemoryPool node tx (!fOverrideFees) = .error state ∧
          admitTransaction env tx hashTx fOverrideFees node = .error (rejectError state) node)) ∨
    (node.haveChain hashTx = true ∧ admitTransaction env tx hashTx fOverrideFees node =
      .error (.json RPC_TRANSACTION_ALREADY_IN_CHAIN "transaction already in block chain") node) ∨
    (node.mempoolExists env.GetHash hashTx = true ∧ node.haveChain hashTx = false ∧
      admitTransaction env tx hashTx fOverrideFees node = .ok () node) := by
  rw [admitTransaction, RpcM.bind_of_ok RpcM.get_apply]
  cases hm : node.mempoolExists env.GetHash hashTx <;> cases hc : node.haveChain hashTx
  · refine .inl ⟨rfl, rfl, ?_⟩
    cases ha : env.AcceptToMemoryPool node tx (!fOverrideFees) with
    | ok node₁ => exact .inl ⟨node₁, rfl, rfl⟩
    | error state => exact .inr ⟨state, rfl, rfl⟩
  · exact .inr (.inl ⟨rfl, rfl⟩)
  · exact .inr (.inr ⟨rfl, rfl, rfl⟩)
  · exact .inr (.inl ⟨rfl, rfl⟩)

/-- **Every way a submission goes.** It throws and leaves the node as it was, or it returns the
id of the transaction it decoded and relays that id from a node whose pool held a transaction
of that id before, or from the node admission and the wallets left. -/
theorem submitRawTransaction_cases (txData : Bytes) (fOverrideFees : Bool) (node : Node) :
    (∃ e, submitRawTransaction env txData fOverrideFees node = .error e node) ∨
    ∃ tx node₁, decodeTx txData = .ok tx ∧
      submitRawTransaction env txData fOverrideFees node =
        .ok (env.GetHash tx) (node₁.RelayTransaction (env.GetHash tx)) ∧
      (node₁ = node ∧ node.mempoolExists env.GetHash (env.GetHash tx) = true ∨
        ∃ node₂, env.AcceptToMemoryPool node tx (!fOverrideFees) = .ok node₂ ∧
          node₁ = env.SyncWithWallets node₂ (env.GetHash tx) tx) := by
  cases hdec : decodeTx txData with
  | error e => exact .inl ⟨_, by rw [submitRawTransaction, hdec]; rfl⟩
  | ok tx =>
    rw [submitRawTransaction_of_decode env hdec]
    rcases admitTransaction_cases env tx (env.GetHash tx) fOverrideFees node with
      ⟨-, -, ⟨node₁, ha, hadm⟩ | ⟨state, -, hadm⟩⟩ | ⟨-, hadm⟩ | ⟨hm, -, hadm⟩
    · exact .inr ⟨tx, _, rfl, by rw [RpcM.bind_of_ok hadm]; rfl, .inr ⟨node₁, ha, rfl⟩⟩
    · exact .inl ⟨_, RpcM.bind_of_error hadm⟩
    · exact .inl ⟨_, RpcM.bind_of_error hadm⟩
    · exact .inr ⟨tx, node, rfl, by rw [RpcM.bind_of_ok hadm]; rfl, .inl ⟨rfl, hm⟩⟩

theorem submitRawTransaction_atomic (txData : Bytes) (fOverrideFees : Bool) :
    (submitRawTransaction env txData fOverrideFees).Atomic := by
  intro node e node' h
  rcases submitRawTransaction_cases env txData fOverrideFees node with ⟨e', he⟩ | ⟨_, _, _, he, _⟩
  · rw [he] at h; cases h; rfl
  · rw [he] at h; cases h

/-- **A pooled transaction is relayed again.** Submitting a transaction that the pool has and
the chain does not skips admission, relays its id once more and returns it. -/
theorem submitRawTransaction_pooled {txData : Bytes} {fOverrideFees : Bool} {node : Node}
    {tx : CTransaction} (hd : decodeTx txData = .ok tx)
    (hm : node.mempoolExists env.GetHash (env.GetHash tx) = true)
    (hc : node.haveChain (env.GetHash tx) = false) :
    submitRawTransaction env txData fOverrideFees node =
      .ok (env.GetHash tx) (node.RelayTransaction (env.GetHash tx)) := by
  have hadm : admitTransaction env tx (env.GetHash tx) fOverrideFees node = .ok () node := by
    rw [admitTransaction, RpcM.bind_of_ok RpcM.get_apply]
    simp only [hm, hc, Bool.not_true, Bool.false_and, if_false, Bool.false_eq_true]
    rfl
  rw [submitRawTransaction_of_decode env hd, RpcM.bind_of_ok hadm]
  rfl

/-- Submitting an encoded transaction that fits and is admitted relays it and returns its id. -/
theorem submitRawTransaction_serializeTx {T : CTransaction} {fOverrideFees : Bool}
    {node node₁ : Node} (hfits : txCodec.fits T)
    (hadm : admitTransaction env T (env.GetHash T) fOverrideFees node = .ok () node₁) :
    submitRawTransaction env (serializeTx T) fOverrideFees node =
      .ok (env.GetHash T) (node₁.RelayTransaction (env.GetHash T)) := by
  have hd : decodeTx (serializeTx T) = .ok T := by
    rw [decodeTx, ← List.append_nil (serializeTx T), unserializeTx_serializeTx, if_pos hfits]
  rw [submitRawTransaction, hd, RpcM.bind_of_ok (RpcM.liftExcept_ok T), RpcM.bind_of_ok hadm]
  rfl

/-- `sendrawtransaction(params, fHelp)`. -/
def sendrawtransaction (params : List Value) (fHelp : Bool) : RpcM Value := do
  checkUsage (fHelp || params.length < 1 || params.length > 2) (sendrawtransactionHelp env)
  let txData ← liftExcept (ParseHexV (params.getD 0 .null) "parameter")
  let fOverrideFees ←
    if params.length > 1 then liftExcept (params.getD 1 .null).getBool else pure false
  let hashTx ← submitRawTransaction env txData fOverrideFees
  pure (.str (getHex hashTx))

/-- The parameters alone decide, whatever the node, whether `sendrawtransaction` throws before
it submits, and what it submits. -/
theorem sendrawtransaction_submits (params : List Value) (fHelp : Bool) :
    (∃ e, ∀ node, sendrawtransaction env params fHelp node = .error e node) ∨
    ∃ txData fOverrideFees, ∀ node, sendrawtransaction env params fHelp node =
      (submitRawTransaction env txData fOverrideFees >>= fun hashTx =>
        pure (.str (getHex hashTx))) node := by
  cases hu : (fHelp || params.length < 1 || params.length > 2)
  · cases hp : ParseHexV (params.getD 0 .null) "parameter" with
    | error e =>
      refine .inl ⟨e, fun node => ?_⟩
      rw [sendrawtransaction, RpcM.checkUsage_bind hu, hp]
      rfl
    | ok txData =>
      by_cases hl : params.length > 1
      · cases hb : (params.getD 1 .null).getBool with
        | error e =>
          refine .inl ⟨e, fun node => ?_⟩
          rw [sendrawtransaction, RpcM.checkUsage_bind hu, hp,
            RpcM.bind_of_ok (RpcM.liftExcept_ok _), if_pos hl, hb]
          rfl
        | ok b =>
          refine .inr ⟨txData, b, fun node => ?_⟩
          rw [sendrawtransaction, RpcM.checkUsage_bind hu, hp,
            RpcM.bind_of_ok (RpcM.liftExcept_ok _), if_pos hl, hb,
            RpcM.bind_of_ok (RpcM.liftExcept_ok _)]
      · refine .inr ⟨txData, false, fun node => ?_⟩
        rw [sendrawtransaction, RpcM.checkUsage_bind hu, hp, RpcM.bind_of_ok (RpcM.liftExcept_ok _),
          if_neg hl, RpcM.bind_of_ok (RpcM.pure_apply _)]
  · exact .inl ⟨_, fun node => by rw [sendrawtransaction, hu]; rfl⟩

/-- A failed `sendrawtransaction` leaves the node as it found it. -/
theorem sendrawtransaction_atomic (params : List Value) (fHelp : Bool) :
    (sendrawtransaction env params fHelp).Atomic := by
  have hsubmit : ∀ (x : RpcM Bool) (txData : Bytes), x.Keeps → (x >>= fun fOverrideFees =>
      submitRawTransaction env txData fOverrideFees >>= fun hashTx =>
        pure (Value.str (getHex hashTx))).Atomic :=
    fun _ _ hx => .bind_of_keeps hx fun _ => (submitRawTransaction_atomic env _ _).bind_pure _
  exact .bind_of_keeps (RpcM.keeps_checkUsage _ _) fun _ =>
    .bind_of_keeps (RpcM.keeps_liftExcept _) fun _ =>
      .ite (hsubmit _ _ (RpcM.keeps_liftExcept _)) (hsubmit _ _ (RpcM.keeps_pure _))

/-- `sendrawtransaction` on the hex of one transaction, when it returns, has relayed that
transaction's id last and returns it. -/
theorem sendrawtransaction_serializeTx (t : CTransaction) {node node' : Node} {r : Value}
    (h : sendrawtransaction env [.str (hexStr (serializeTx t))] false node = .ok r node') :
    r = .str (getHex (env.GetHash t)) ∧ node'.relayed.getLast? = some (env.GetHash t) := by
  rw [sendrawtransaction, RpcM.checkUsage_bind (by simp), List.getD_cons_zero,
    ParseHexV_hexStr _ _ (serializeTx_ne_nil t), RpcM.bind_of_ok (RpcM.liftExcept_ok _),
    if_neg (by simp), RpcM.bind_of_ok (RpcM.pure_apply false)] at h
  obtain ⟨hashTx, node₁, hs, h⟩ := RpcM.bind_eq_ok h
  cases h
  obtain ⟨tx, hd, rfl, hr⟩ := submitRawTransaction_ok env hs
  rw [decodeTx_serializeTx hd] at hr ⊢
  exact ⟨rfl, hr⟩

end Submit

end SmileyRawTx
