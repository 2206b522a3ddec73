import SmileyRawTx.Node.Wallet
import SmileyRawTx.Token.Mint

/-!
# The node across calls

Of the calls of the file, `sendrawtransaction`, `lottery` and `inittoken` change the node; the
other seven only read it. Each call runs on the node the call before it left, whether that one
returned or threw, so the node after a session is decided by those three calls alone
(`session_filter_readsOnly`).

What the node's own code does on the calls' behalf is assumed in `Env.NodeContract` and
`RpcEnv.WalletContract`: admission puts the transaction in the pool, keeps what the pool held and
relays nothing; the wallets' notification touches neither the pool nor the relay log; and the
wallet's two sends only add to the pool and relay only ids of pooled transactions. Under them
every session keeps `NodeInv`: the pool and the relay log only grow, and every id the node has
relayed is the id of a transaction in its pool. The calls rely on the dedup check of
`sendrawtransaction` for the last part: the id it relays is of a transaction it has just
admitted, or of one the pool already held. When `GetTransaction` finds pooled transactions,
`getrawtransaction` therefore answers every id the node has relayed.

A failed call leaves the node as it was, except `lottery` and `inittoken`, whose sends stay sent.

The calls also compose as the spec's data flow says: what `createrawtransaction` builds,
`signrawtransaction` signs without changing anything but unlocking scripts, and
`sendrawtransaction` relays the id of the signed transaction.

The dedup check of `sendrawtransaction` refuses only what the chain has: submitting a
transaction a second time returns again and relays its id again, without admitting it twice
(`sendrawtransaction_resubmit`).
-/

namespace SmileyRawTx

/-- What the calls assume of the node's own code. -/
structure Env.NodeContract (env : Env) : Prop where
  /-- `AcceptToMemoryPool` puts the transaction it admits in the pool, -/
  admit_mem : ∀ {node tx b node'}, env.AcceptToMemoryPool node tx b = .ok node' →
    tx ∈ node'.mempool
  /-- keeps the transactions the pool held, -/
  admit_pool : ∀ {node tx b node'}, env.AcceptToMemoryPool node tx b = .ok node' →
    node.mempool ⊆ node'.mempool
  /-- and relays nothing. -/
  admit_relayed : ∀ {node tx b node'}, env.AcceptToMemoryPool node tx b = .ok node' →
    node'.relayed = node.relayed
  /-- `SyncWithWallets` changes only the wallets. -/
  sync_mempool : ∀ node h tx, (env.SyncWithWallets node h tx).mempool = node.mempool
  sync_relayed : ∀ node h tx, (env.SyncWithWallets node h tx).relayed = node.relayed
  /-- `SendMoneyToDestination2` only adds to the pool, -/
  send_pool : ∀ node dest amount,
    node.mempool ⊆ (env.SendMoneyToDestination2 node dest amount).2.2.mempool
  /-- and relays ids of pooled transactions only. -/
  send_relayed : ∀ node dest amount, ∃ new,
    (env.SendMoneyToDestination2 node dest amount).2.2.relayed = node.relayed ++ new ∧
      ∀ h ∈ new, ∃ tx ∈ (env.SendMoneyToDestination2 node dest amount).2.2.mempool,
        env.GetHash tx = h

/-- What `lottery` assumes of the wallet's other send, as `Env.NodeContract` does of
`SendMoneyToDestination2`. -/
structure RpcEnv.WalletContract (env : RpcEnv) : Prop where
  /-- `SendMoneyToDestination` only adds to the pool, -/
  send_pool : ∀ node dest amount,
    node.mempool ⊆ (env.SendMoneyToDestination node dest amount).2.2.mempool
  /-- and relays ids of pooled transactions only. -/
  send_relayed : ∀ node dest amount, ∃ new,
    (env.SendMoneyToDestination node dest amount).2.2.relayed = node.relayed ++ new ∧
      ∀ h ∈ new, ∃ tx ∈ (env.SendMoneyToDestination node dest amount).2.2.mempool,
        env.GetHash tx = h

/-- What `getrawtransaction` assumes of `GetTransaction`: under the id of a pooled transaction it
finds a transaction with that id, not always the same one when two share it. -/
def ViewEnv.FindsPooled (env : ViewEnv) : Prop :=
  ∀ node h, (∃ tx ∈ node.mempool, env.GetHash tx = h) →
    ∃ tx hashBlock, env.GetTransactionSlow node h = some (tx, hashBlock) ∧ env.GetHash tx = h

/-- What every session keeps of the node it started on: the pool and the relay log have only
grown, and every relayed id is the id of a pooled transaction. -/
structure NodeInv (GetHash : CTransaction → uint256) (start node : Node) : Prop where
  pool_grows : start.mempool ⊆ node.mempool
  relayed_grows : start.relayed <+: node.relayed
  relays_pooled : ∀ h ∈ node.relayed, ∃ tx ∈ node.mempool, GetHash tx = h

section Inv

variable {GetHash : CTransaction → uint256} {start node node' : Node}

theorem NodeInv.init (h : ∀ h ∈ start.relayed, ∃ tx ∈ start.mempool, GetHash tx = h) :
    NodeInv GetHash start start :=
  ⟨List.Subset.refl _, List.prefix_refl _, h⟩

/-- The one way the invariant moves: the pool grows, and the relay log grows by ids of pooled
transactions. -/
theorem NodeInv.extend (hi : NodeInv GetHash start node) (hp : node.mempool ⊆ node'.mempool)
    {new : List uint256} (hr : node'.relayed = node.relayed ++ new)
    (hnew : ∀ h ∈ new, ∃ tx ∈ node'.mempool, GetHash tx = h) : NodeInv GetHash start node' where
  pool_grows := List.Subset.trans hi.pool_grows hp
  relayed_grows := hr ▸ hi.relayed_grows.trans (List.prefix_append _ _)
  relays_pooled h hh := by
    rw [hr, List.mem_append] at hh
    rcases hh with hh | hh
    · obtain ⟨tx, htx, rfl⟩ := hi.relays_pooled h hh
      exact ⟨tx, hp htx, rfl⟩
    · exact hnew h hh

theorem NodeInv.relay (hi : NodeInv GetHash start node) {h : uint256}
    (hpool : ∃ tx ∈ node.mempool, GetHash tx = h) :
    NodeInv GetHash start (node.RelayTransaction h) :=
  hi.extend (List.Subset.refl _) rfl (by simpa using hpool)

end Inv

section Calls

variable {env : Env} (hc : env.NodeContract) (start : Node)
include hc

theorem NodeInv.accept {node node₁ : Node} (hi : NodeInv env.GetHash start node)
    {tx : CTransaction} {b : Bool} (ha : env.AcceptToMemoryPool node tx b = .ok node₁)
    (h : uint256) : NodeInv env.GetHash start (env.SyncWithWallets node₁ h tx) :=
  hi.extend (by rw [hc.sync_mempool]; exact hc.admit_pool ha)
    (by rw [hc.sync_relayed, hc.admit_relayed ha, List.append_nil]) (by simp)

theorem submitRawTransaction_nodeInv (txData : Bytes) (fOverrideFees : Bool) :
    (submitRawTransaction env txData fOverrideFees).Preserves (NodeInv env.GetHash start) := by
  intro node hi
  rcases submitRawTransaction_cases env txData fOverrideFees node with
    ⟨e, he⟩ | ⟨tx, node₁, -, he, ⟨rfl, hm⟩ | ⟨node₂, ha, rfl⟩⟩
  · rwa [he]
  · rw [he]
    exact hi.relay (by simpa [Node.mempoolExists] using hm)
  · rw [he]
    exact (hi.accept hc start ha _).relay ⟨tx, by rw [hc.sync_mempool]; exact hc.admit_mem ha, rfl⟩

theorem sendrawtransaction_nodeInv (params : List Value) (fHelp : Bool) :
    (sendrawtransaction env params fHelp).Preserves (NodeInv env.GetHash start) := by
  have hsubmit : ∀ (x : RpcM Bool) (txData : Bytes), x.Keeps → (x >>= fun fOverrideFees =>
      submitRawTransaction env txData fOverrideFees >>= fun hashTx =>
        pure (Value.str (getHex hashTx))).Preserves (NodeInv env.GetHash start) :=
    fun _ _ hx => hx.preserves.bind fun _ =>
      (submitRawTransaction_nodeInv hc start _ _).bind fun _ => (RpcM.keeps_pure _).preserves
  exact (RpcM.keeps_checkUsage _ _).preserves.bind fun _ =>
    (RpcM.keeps_liftExcept _).preserves.bind fun _ =>
      .ite (hsubmit _ _ (RpcM.keeps_liftExcept _)) (hsubmit _ _ (RpcM.keeps_pure _))

theorem makeInputTransactionForToken_nodeInv (am : Int) :
    (makeInputTransactionForToken env am).Preserves (NodeInv env.GetHash start) := by
  intro node hi
  rw [makeInputTransactionForToken, RpcM.bind_of_ok RpcM.get_apply]
  cases ha : env.AmountFromValue (.int am) with
  | error e => rwa [RpcM.bind_of_error (RpcM.liftExcept_error _)]
  | ok amount =>
    rw [RpcM.bind_of_ok (RpcM.liftExcept_ok _)]
    obtain ⟨new, hr, hnew⟩ :=
      hc.send_relayed node (node.wallet.mapAddressBook.headD env.addressBookEnd) amount
    have hi' := hi.extend (hc.send_pool _ _ _) hr hnew
    revert hi'
    rcases env.SendMoneyToDestination2 node _ amount with ⟨strError, wtx, node₁⟩
    intro hi'
    dsimp only
    rw [RpcM.bind_of_ok RpcM.set_apply]
    split_ifs <;> exact hi'

theorem inittoken_nodeInv (params : List Value) (fhelp : Bool) (secret : uint256) :
    (inittoken env params fhelp secret).Preserves (NodeInv env.GetHash start) :=
  (RpcM.keeps_checkUsage _ _).preserves.bind fun _ =>
    (makeInputTransactionForToken_nodeInv hc start _).bind fun _ =>
      (getInputTransaction_keeps env _).preserves.bind fun _ =>
        (RpcM.keeps_liftExcept _).preserves.bind fun _ =>
          (RpcM.keeps_liftExcept _).preserves.bind fun _ =>
            (decodeDestination_keeps env _).preserves.bind fun _ =>
              (RpcM.keeps_liftExcept _).preserves.bind fun _ =>
                (signrawtokentransaction_keeps env _).preserves.bind fun _ =>
                  ((RpcM.keeps_liftExcept _).preserves.bind fun _ =>
                    submitRawTransaction_nodeInv hc start _ _).bind fun _ =>
                      (RpcM.keeps_liftExcept _).preserves

end Calls

theorem lottery_nodeInv {env : RpcEnv} (hw : env.WalletContract) (start : Node)
    (params : List Value) (fHelp : Bool) :
    (lottery env params fHelp).Preserves (NodeInv env.GetHash start) := by
  intro node hi
  rcases lottery_resultNode env params fHelp node with h | ⟨nAmount, h⟩
  · rwa [h]
  · obtain ⟨new, hr, hnew⟩ := hw.send_relayed node _ nAmount
    rw [h]
    exact hi.extend (hw.send_pool _ _ _) hr hnew

/-- A node whose own code keeps the contract: admission appends the transaction to the pool, and
the wallet's send pools its transaction and relays its id. -/
def poolEnv : Env :=
  { mintEnv with
    AcceptToMemoryPool := fun node tx _ => .ok { node with mempool := node.mempool ++ [tx] }
    SendMoneyToDestination2 := fun node _ amount =>
      let wtx : CTransaction := { vout := [⟨amount, [0x51]⟩] }
      ("", wtx, { node with mempool := node.mempool ++ [wtx], relayed := node.relayed ++ [0] }) }

theorem poolEnv_nodeContract : poolEnv.NodeContract where
  admit_mem h := by cases h; simp
  admit_pool h := by cases h; simp
  admit_relayed h := by cases h; rfl
  sync_mempool _ _ _ := rfl
  sync_relayed _ _ _ := rfl
  send_pool _ _ _ := by simp [poolEnv]
  send_relayed _ _ _ := ⟨[0], rfl, by simp [poolEnv, mintEnv]⟩

/-- `walletEnv` over `poolEnv`, whose `SendMoneyToDestination` sends as its
`SendMoneyToDestination2` does. -/
def rpcEnv : RpcEnv :=
  { walletEnv with
    toEnv := poolEnv
    SendMoneyToDestination := poolEnv.SendMoneyToDestination2 }

theorem rpcEnv_nodeContract : rpcEnv.NodeContract := poolEnv_nodeContract

theorem rpcEnv_walletContract : rpcEnv.WalletContract where
  send_pool := poolEnv_nodeContract.send_pool
  send_relayed := poolEnv_nodeContract.send_relayed

theorem rpcEnv_findsPooled : rpcEnv.FindsPooled := by
  rintro node _ ⟨tx, hmem, rfl⟩
  cases hf : node.mempool.find? fun t => mintEnv.GetHash t == mintEnv.GetHash tx with
  | none => exact absurd (beq_self_eq_true _) (List.find?_eq_none.mp hf tx hmem)
  | some t =>
    have hp := List.find?_some hf
    exact ⟨t, 0, congrArg (Option.map (·, 0)) hf, beq_iff_eq.mp hp⟩

/-! ## From the builder to the relay -/

/-- **Signing keeps what the builder built.** What `createrawtransaction` returns is the hex of
a transaction with no unlocking script. Given that hex alone, `signrawtransaction` returns the
hex of a transaction with the same version, lock time and outputs, and the same outpoints and
sequences in its inputs, in order: only unlocking scripts change. Neither call changes the
node. -/
theorem createrawtransaction_signrawtransaction (env : Env) {params : List Value}
    {fHelp : Bool} {node₁ node₂ node₃ : Node} {hex v : Value}
    (hc : createrawtransaction env params fHelp node₁ = .ok hex node₂)
    (hs : signrawtransaction env [hex] false node₂ = .ok v node₃) :
    node₃ = node₁ ∧ ∃ (T T' : CMutableTransaction) (fComplete : Bool),
      (∀ txin ∈ T.vin, txin.scriptSig = []) ∧ hex = .str (hexStr (serializeTx T)) ∧
      v = .obj [("hex", .str (hexStr (serializeTx T'))), ("complete", .bool fComplete)] ∧
      T'.skeleton = T.skeleton := by
  obtain ⟨rfl, T, rfl, hT⟩ := createrawtransaction_ok env hc
  obtain ⟨rfl, T', fComplete, rfl, hsk⟩ := signrawtransaction_hexStr env T hs
  exact ⟨rfl, T, T', fComplete, hT, rfl, rfl, hsk⟩

/-- **The node relays what the builder built.** Building with `createrawtransaction`, signing
the hex alone with `signrawtransaction` and sending the signed hex with `sendrawtransaction`
returns, and relays last, the id of a transaction with the built transaction's skeleton. -/
theorem createrawtransaction_sign_send (env : Env) {params : List Value} {fHelp : Bool}
    {node₁ node₂ node₃ node₄ : Node} {hex v r : Value}
    (hc : createrawtransaction env params fHelp node₁ = .ok hex node₂)
    (hs : signrawtransaction env [hex] false node₂ = .ok v node₃)
    (hsend : sendrawtransaction env [.str (signResultHex v)] false node₃ = .ok r node₄) :
    ∃ T T' : CMutableTransaction, hex = .str (hexStr (serializeTx T)) ∧
      T'.skeleton = T.skeleton ∧ r = .str (getHex (env.GetHash T')) ∧
      node₄.relayed.getLast? = some (env.GetHash T') := by
  obtain ⟨-, T, T', fComplete, -, rfl, rfl, hsk⟩ :=
    createrawtransaction_signrawtransaction env hc hs
  have hhex : signResultHex (.obj [("hex", .str (hexStr (serializeTx T'))),
      ("complete", .bool fComplete)]) = hexStr (serializeTx T') := by
    simp [signResultHex, hexParamText]
  rw [hhex] at hsend
  exact ⟨T, T', rfl, hsk, sendrawtransaction_serializeTx env T' hsend⟩

/-- On `poolEnv`, a transaction spending output 0 of transaction `7` and paying 1001 coins to
an address is built, signed (incomplete: the node has no such output), and sent. -/
theorem createrawtransaction_sign_send_spend :
    let T : CMutableTransaction :=
      { vin := [{ prevout := ⟨7, 0⟩ }], vout := [⟨1001 * COIN, [0x51]⟩] }
    let v : Value := .obj [("hex", .str (hexStr (serializeTx T))), ("complete", .bool false)]
    createrawtransaction poolEnv [.array [.obj [("txid", .str (getHex 7)), ("vout", .int 0)]],
        .obj [("a", .int 1)]] false {} = .ok (.str (hexStr (serializeTx T))) {} ∧
      signrawtransaction poolEnv [.str (hexStr (serializeTx T))] false {} = .ok v {} ∧
      sendrawtransaction poolEnv [.str (signResultHex v)] false {} =
        .ok (.str (getHex 0)) { mempool := [T], relayed := [0] } ∧
      ∃ T₀ T' : CMutableTransaction, Value.str (hexStr (serializeTx T)) =
          .str (hexStr (serializeTx T₀)) ∧
        T'.skeleton = T₀.skeleton ∧ Value.str (getHex 0) = .str (getHex (poolEnv.GetHash T')) ∧
        ({ mempool := [T], relayed := [0] } : Node).relayed.getLast? =
          some (poolEnv.GetHash T') := by
  intro T v
  have hin : parseInput (.obj [("txid", .str (getHex 7)), ("vout", .int 0)]) =
      .ok { prevout := ⟨7, 0⟩ } :=
    parseInput_eq_ok_iff.mpr ⟨_, rfl, ParseHashV_getHex 7 "txid", ⟨0, rfl, by decide, rfl⟩, rfl,
      .inr ⟨by decide, rfl⟩⟩
  have hc : createrawtransaction poolEnv [.array [.obj [("txid", .str (getHex 7)),
      ("vout", .int 0)]], .obj [("a", .int 1)]] false {} =
      .ok (.str (hexStr (serializeTx T))) {} := by
    rw [createrawtransaction_obj]
    simp only [List.mapM_cons, List.mapM_nil, hin]
    rfl
  have hT : RPCTypeCheck [.str (hexStr (serializeTx T))] [.str, .array, .array, .str] true =
      .ok () := rfl
  have hs : signrawtransaction poolEnv [.str (hexStr (serializeTx T))] false {} = .ok v {} := by
    rw [signrawtransaction, RpcM.checkUsage_bind (by simp), hT,
      RpcM.bind_of_ok (RpcM.liftExcept_ok ()), List.getD_cons_zero,
      ParseHexV_hexStr _ _ (serializeTx_ne_nil _), RpcM.bind_of_ok (RpcM.liftExcept_ok _),
      decodeTxVariants_serializeTx, if_pos (by rfl)]
    rfl
  have hadm : admitTransaction poolEnv T (poolEnv.GetHash T) false {} = .ok () { mempool := [T] } :=
    rfl
  have hsend : sendrawtransaction poolEnv [.str (signResultHex v)] false {} =
      .ok (.str (getHex 0)) { mempool := [T], relayed := [0] } := by
    rw [show signResultHex v = hexStr (serializeTx T) from rfl, sendrawtransaction,
      RpcM.checkUsage_bind (by simp), List.getD_cons_zero,
      ParseHexV_hexStr _ _ (serializeTx_ne_nil T), RpcM.bind_of_ok (RpcM.liftExcept_ok _),
      if_neg (by simp), RpcM.bind_of_ok (RpcM.pure_apply false)]
    beta_reduce
    rw [RpcM.bind_of_ok (submitRawTransaction_serializeTx poolEnv (by rfl) hadm)]
    rfl
  exact ⟨hc, hs, hsend, createrawtransaction_sign_send poolEnv hc hs hsend⟩

/-! ## Sessions -/

/-- Modelled from the spec ("each caller-initiated operation executes as a single synchronous
unit of work"): a call of this file a client makes, with the key `MakeNewKey` draws for it. -/
inductive Call where
  | getrawtransaction (params : List Value) (fHelp : Bool)
  | listunspent (params : List Value) (fHelp : Bool)
  | createrawtransaction (params : List Value) (fHelp : Bool)
  | decoderawtransaction (params : List Value) (fHelp : Bool)
  | decodescript (params : List Value) (fHelp : Bool)
  | signrawtransaction (params : List Value) (fHelp : Bool)
  | sendrawtransaction (params : List Value) (fHelp : Bool)
  | lottery (params : List Value) (fHelp : Bool)
  | createtoken (params : List Value) (fhelp : Bool) (secret : uint256)
  | inittoken (params : List Value) (fhelp : Bool) (secret : uint256)

def Call.run (env : RpcEnv) : Call → RpcM Value
  | .getrawtransaction params fHelp => SmileyRawTx.getrawtransaction env.toViewEnv params fHelp
  | .listunspent params fHelp => SmileyRawTx.listunspent env params fHelp
  | .createrawtransaction params fHelp => SmileyRawTx.createrawtransaction env.toEnv params fHelp
  | .decoderawtransaction params fHelp =>
    SmileyRawTx.decoderawtransaction env.toViewEnv params fHelp
  | .decodescript params fHelp => SmileyRawTx.decodescript env.toViewEnv params fHelp
  | .signrawtransaction params fHelp => SmileyRawTx.signrawtransaction env.toEnv params fHelp
  | .sendrawtransaction params fHelp => SmileyRawTx.sendrawtransaction env.toEnv params fHelp
  | .lottery params fHelp => SmileyRawTx.lottery env params fHelp
  | .createtoken params fhelp secret => SmileyRawTx.createtoken env.toEnv params fhelp secret
  | .inittoken params fhelp secret => SmileyRawTx.inittoken env.toEnv params fhelp secret

/-- The calls that only read the node: all but `sendrawtransaction`, `lottery` and
`inittoken`. -/
def Call.readsOnly : Call → Bool
  | .sendrawtransaction .. | .lottery .. | .inittoken .. => false
  | _ => true

/-- The calls that send from the wallet and can still fail after: `lottery` and `inittoken`. -/
def Call.sendsFirst : Call → Bool
  | .lottery .. | .inittoken .. => true
  | _ => false

/-- Modelled from the spec: the node after a session of calls, each run on the node the one
before it left, whether that one returned or threw. -/
def session (env : RpcEnv) (node : Node) (calls : List Call) : Node :=
  calls.foldl (fun node c => resultNode (c.run env node)) node

@[simp] theorem session_nil (env : RpcEnv) (node : Node) : session env node [] = node := rfl

@[simp] theorem session_cons (env : RpcEnv) (node : Node) (c : Call) (calls : List Call) :
    session env node (c :: calls) = session env (resultNode (c.run env node)) calls := rfl

/-- A call that only reads the node never changes it. -/
theorem Call.run_keeps (env : RpcEnv) : ∀ c : Call, c.readsOnly = true → (c.run env).Keeps
  | .getrawtransaction params fHelp, _ => getrawtransaction_keeps env.toViewEnv params fHelp
  | .listunspent params fHelp, _ => listunspent_keeps env params fHelp
  | .createrawtransaction params fHelp, _ => createrawtransaction_keeps env.toEnv params fHelp
  | .decoderawtransaction params fHelp, _ =>
    decoderawtransaction_keeps env.toViewEnv params fHelp
  | .decodescript params fHelp, _ => decodescript_keeps env.toViewEnv params fHelp
  | .signrawtransaction params fHelp, _ => signrawtransaction_keeps env.toEnv params fHelp
  | .createtoken params fhelp secret, _ => createtoken_keeps env.toEnv params fhelp secret
  | .sendrawtransaction .., h | .lottery .., h | .inittoken .., h => absurd h Bool.false_ne_true

/-- The calls that change the node are `sendrawtransaction`, `lottery` and `inittoken`. -/
theorem Call.readsOnly_eq_false : ∀ {c : Call}, c.readsOnly = false →
    (∃ params fHelp, c = .sendrawtransaction params fHelp) ∨
      (∃ params fHelp, c = .lottery params fHelp) ∨
      ∃ params fhelp secret, c = .inittoken params fhelp secret
  | .sendrawtransaction _ _, _ => .inl ⟨_, _, rfl⟩
  | .lottery _ _, _ => .inr (.inl ⟨_, _, rfl⟩)
  | .inittoken _ _ _, _ => .inr (.inr ⟨_, _, _, rfl⟩)
  | .getrawtransaction .., h | .listunspent .., h | .createrawtransaction .., h
  | .decoderawtransaction .., h | .decodescript .., h | .signrawtransaction .., h
  | .createtoken .., h => absurd h.symm Bool.false_ne_true

/-- **Only three calls decide the node.** The node after any session is the node after the same
session with every call that only reads the node left out. -/
theorem session_filter_readsOnly (env : RpcEnv) (node : Node) (calls : List Call) :
    session env node calls = session env node (calls.filter fun c => !c.readsOnly) := by
  induction calls generalizing node with
  | nil => rfl
  | cons c calls ih =>
    cases hr : c.readsOnly
    · rw [List.filter_cons_of_pos (by rw [hr]; rfl), session_cons, session_cons]
      exact ih _
    · rw [List.filter_cons_of_neg (by rw [hr]; decide), session_cons,
        Call.run_keeps env c hr node]
      exact ih node

section Session

variable {env : RpcEnv} (hc : env.NodeContract) (hw : env.WalletContract)
include hc hw

/-- Every call keeps the invariant. -/
theorem Call.run_nodeInv (start : Node) (c : Call) :
    (c.run env).Preserves (NodeInv env.GetHash start) := by
  cases hr : c.readsOnly
  · rcases Call.readsOnly_eq_false hr with
      ⟨params, fHelp, rfl⟩ | ⟨params, fHelp, rfl⟩ | ⟨params, fhelp, secret, rfl⟩
    · exact sendrawtransaction_nodeInv hc start params fHelp
    · exact lottery_nodeInv hw start params fHelp
    · exact inittoken_nodeInv hc start params fhelp secret
  · exact (Call.run_keeps env c hr).preserves

/-- The invariant, once it holds, holds after any session. -/
theorem session_preserves_nodeInv {start node : Node} (hi : NodeInv env.GetHash start node)
    (calls : List Call) : NodeInv env.GetHash start (session env node calls) := by
  induction calls generalizing node with
  | nil => exact hi
  | cons c calls ih => exact ih (Call.run_nodeInv hc hw start c node hi)

end Session

/-- **Sessions keep the pool and the relay log consistent.** From a node on which every relayed
id is the id of a pooled transaction, any session of the file's calls leaves a node whose pool
and relay log have only grown, and on which every relayed id is still the id of a pooled
transaction. -/
theorem session_nodeInv {env : RpcEnv} (hc : env.NodeContract) (hw : env.WalletContract)
    (start : Node) (hstart : ∀ h ∈ start.relayed, ∃ tx ∈ start.mempool, env.GetHash tx = h)
    (calls : List Call) :
    NodeInv env.GetHash start (session env start calls) :=
  session_preserves_nodeInv hc hw (.init hstart) calls

/-- A session that sends the empty transaction, plays the lottery and looks the first id up. -/
def rpcSession : List Call :=
  [.sendrawtransaction [.str (hexStr (serializeTx {}))] false, .lottery [.int 5] false,
    .getrawtransaction [.str (getHex 0)] false]

theorem session_nodeInv_on_rpcEnv : NodeInv rpcEnv.GetHash {} (session rpcEnv {} rpcSession) :=
  session_nodeInv rpcEnv_nodeContract rpcEnv_walletContract {} (fun _ h => absurd h (by simp))
    rpcSession

/-- **Every relayed id can be looked up.** When `GetTransaction` finds pooled transactions, after
any session from a node on which every relayed id is the id of a pooled transaction,
`getrawtransaction` on any id the node has relayed returns the hex of a transaction with that id,
and changes nothing. -/
theorem session_getrawtransaction {env : RpcEnv} (hc : env.NodeContract)
    (hw : env.WalletContract) (hl : env.FindsPooled) (start : Node)
    (hstart : ∀ h ∈ start.relayed, ∃ tx ∈ start.mempool, env.GetHash tx = h) (calls : List Call)
    {h : uint256} (hh : h ∈ (session env start calls).relayed) :
    ∃ tx, env.GetHash tx = h ∧
      getrawtransaction env.toViewEnv [.str (getHex h)] false (session env start calls) =
        .ok (.str (hexStr (serializeTx tx))) (session env start calls) :=
  have ⟨tx, _, hg, hid⟩ :=
    hl _ h ((session_preserves_nodeInv hc hw (.init hstart) calls).relays_pooled h hh)
  ⟨tx, hid, getrawtransaction_of_found env.toViewEnv hg⟩

/-- The session relays 0 twice: once for the empty transaction and once for the lottery's. -/
theorem session_getrawtransaction_on_rpcEnv :
    (0 : uint256) ∈ (session rpcEnv {} rpcSession).relayed ∧ ∃ tx, rpcEnv.GetHash tx = 0 ∧
      getrawtransaction rpcEnv.toViewEnv [.str (getHex 0)] false (session rpcEnv {} rpcSession) =
        .ok (.str (hexStr (serializeTx tx))) (session rpcEnv {} rpcSession) :=
  have hr : (session rpcEnv {} rpcSession).relayed = [0, 0] := by rfl
  have hh : (0 : uint256) ∈ (session rpcEnv {} rpcSession).relayed :=
    hr ▸ List.mem_cons_self _ _
  ⟨hh, session_getrawtransaction rpcEnv_nodeContract rpcEnv_walletContract rpcEnv_findsPooled {}
    (fun _ h => absurd h (by simp)) rpcSession hh⟩

/-- A failed call other than `lottery` and `inittoken` leaves the node as it found it. -/
theorem Call.run_atomic (env : RpcEnv) (c : Call) (h : c.sendsFirst = false) :
    (c.run env).Atomic := by
  cases hr : c.readsOnly
  · rcases Call.readsOnly_eq_false hr with ⟨params, fHelp, rfl⟩ | ⟨_, _, rfl⟩ | ⟨_, _, _, rfl⟩
    · exact sendrawtransaction_atomic env.toEnv params fHelp
    · cases h
    · cases h
  · exact (Call.run_keeps env c hr).atomic

theorem Call.run_atomic_sendrawtransaction :
    (Call.sendrawtransaction [] false).sendsFirst = false ∧
      ((Call.sendrawtransaction [] false).run rpcEnv).Atomic :=
  ⟨rfl, Call.run_atomic rpcEnv _ rfl⟩

/-! ## Submitting twice

`sendrawtransaction` refuses a transaction the chain has, but one the pool has it relays again:
after a submission that returns, the same call returns the same id again, admits nothing and
relays the id once more. This needs admission and the wallets' notification to leave the
confirmed coins alone (`Env.ChainContract`).
-/

/-- What the calls assume of the node's own code about the confirmed coins: admission and the
wallets' notification leave them as they are. -/
structure Env.ChainContract (env : Env) : Prop where
  admit_coinsTip : ∀ {node tx b node'}, env.AcceptToMemoryPool node tx b = .ok node' →
    node'.coinsTip = node.coinsTip
  sync_coinsTip : ∀ node h tx, (env.SyncWithWallets node h tx).coinsTip = node.coinsTip

theorem poolEnv_chainContract : poolEnv.ChainContract where
  admit_coinsTip h := by cases h; rfl
  sync_coinsTip _ _ _ := rfl

section Twice

variable {env : Env} (hc : env.NodeContract) (hk : env.ChainContract)
include hc hk

/-- After a submission that returns, the pool has the transaction, and the chain still does not. -/
theorem submitRawTransaction_pools {txData : Bytes} {fOverrideFees : Bool} {node node₁ : Node}
    {hashTx : uint256} (h : submitRawTransaction env txData fOverrideFees node = .ok hashTx node₁) :
    ∃ tx, decodeTx txData = .ok tx ∧ hashTx = env.GetHash tx ∧
      node₁.mempoolExists env.GetHash hashTx = true ∧ node₁.haveChain hashTx = false := by
  cases hd : decodeTx txData with
  | error e => rw [submitRawTransaction, RpcM.bind_of_error (by rw [hd]; rfl)] at h; cases h
  | ok tx =>
    rw [submitRawTransaction_of_decode env hd] at h
    rcases admitTransaction_cases env tx (env.GetHash tx) fOverrideFees node with
      ⟨-, hc₀, ⟨node₂, ha, hadm⟩ | ⟨state, -, hadm⟩⟩ | ⟨-, hadm⟩ | ⟨hm, hc₀, hadm⟩
    · rw [RpcM.bind_of_ok hadm] at h
      cases h
      refine ⟨tx, rfl, rfl, ?_, ?_⟩
      · simpa [Node.mempoolExists, Node.RelayTransaction, hc.sync_mempool] using
          ⟨tx, hc.admit_mem ha, rfl⟩
      · simpa [Node.haveChain, Node.RelayTransaction, hk.sync_coinsTip, hk.admit_coinsTip ha]
          using hc₀
    · rw [RpcM.bind_of_error hadm] at h; cases h
    · rw [RpcM.bind_of_error hadm] at h; cases h
    · rw [RpcM.bind_of_ok hadm] at h
      cases h
      exact ⟨tx, rfl, rfl, hm, hc₀⟩

/-- **A second `sendrawtransaction` returns too.** Whatever the parameters and the node, once
`sendrawtransaction` has returned the id of a transaction, calling it again with the same
parameters on the node it left returns the same id. It finds the transaction in the pool,
admits nothing, and relays the id again. -/
theorem sendrawtransaction_resubmit {params : List Value} {fHelp : Bool} {node node₁ : Node}
    {r : Value} (h : sendrawtransaction env params fHelp node = .ok r node₁) :
    ∃ hashTx, r = .str (getHex hashTx) ∧
      sendrawtransaction env params fHelp node₁ = .ok r (node₁.RelayTransaction hashTx) := by
  rcases sendrawtransaction_submits env params fHelp with ⟨e, he⟩ | ⟨txData, fOverrideFees, he⟩
  · rw [he] at h; cases h
  · rw [he] at h ⊢
    obtain ⟨hashTx, node₂, hs, h⟩ := RpcM.bind_eq_ok h
    cases h
    obtain ⟨tx, hd, rfl, hm, hch⟩ := submitRawTransaction_pools hc hk hs
    rw [RpcM.bind_of_ok (submitRawTransaction_pooled env hd hm hch)]
    exact ⟨_, rfl, rfl⟩

end Twice

/-- On `poolEnv`, the empty transaction is admitted and relayed by the first call, and relayed
again by the second. -/
theorem sendrawtransaction_resubmit_on_poolEnv :
    ∃ r node₁, sendrawtransaction poolEnv [.str (hexStr (serializeTx {}))] false {} = .ok r node₁ ∧
      ∃ hashTx, r = .str (getHex hashTx) ∧
        sendrawtransaction poolEnv [.str (hexStr (serializeTx {}))] false node₁ =
          .ok r (node₁.RelayTransaction hashTx) := by
  have h1 : sendrawtransaction poolEnv [.str (hexStr (serializeTx {}))] false {} =
      .ok (.str (getHex 0)) { mempool := [{}], relayed := [0] } := by
    rfl
  exact ⟨_, _, h1, sendrawtransaction_resubmit poolEnv_nodeContract poolEnv_chainContract h1⟩

/-- The empty transaction sent twice on `poolEnv`: the second call, which finds it in the pool,
returns its id again and relays it once more. -/
theorem sendrawtransaction_twice_relays :
    sendrawtransaction poolEnv [.str (hexStr (serializeTx {}))] false {} =
        .ok (.str (getHex 0)) { mempool := [{}], relayed := [0] } ∧
      sendrawtransaction poolEnv [.str (hexStr (serializeTx {}))] false
          { mempool := [{}], relayed := [0] } =
        .ok (.str (getHex 0)) { mempool := [{}], relayed := [0, 0] } :=
  ⟨rfl, rfl⟩

end SmileyRawTx
