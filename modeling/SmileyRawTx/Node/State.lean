import SmileyRawTx.Sign.Merge
import SmileyRawTx.Sign.Variants

/-!
# The node the calls run against

The RPC calls of `rpcrawtransaction.cpp` read and change global state: the confirmed coins
(`pcoinsTip`), the pending pool (`mempool`) and the wallet (`pwalletMain`); `sendrawtransaction`
and `inittoken` also relay. A call is a program of `RpcM`, a state monad over `Node` with
exceptions, in which a `throw` keeps every effect made before it, as a C++ exception does.

What the file does not contain is taken as the fields of an `Env`: hashing, keys and addresses,
the script interpreter, admission to the pool and the wallet's own operations. The node is
built with `ENABLE_WALLET` and has a wallet, so `pwalletMain` is never null.
-/

namespace SmileyRawTx

/-- `CTxDestination`: no destination, the hash of a key, or the hash of a script. -/
inductive CTxDestination where
  | noDestination
  | keyID (id : BitVec 160)
  | scriptID (id : BitVec 160)
deriving DecidableEq, Repr

/-- `CValidationState` after `AcceptToMemoryPool` refused a transaction. -/
structure CValidationState where
  /-- `IsInvalid()`: the transaction itself is invalid, as opposed to an error. -/
  fInvalid : Bool
  /-- `GetRejectCode()`, an `unsigned char`. -/
  rejectCode : BitVec 8
  /-- `GetRejectReason()`. -/
  rejectReason : String
deriving DecidableEq, Repr

/-- `operator<` of the `boost::variant` `CTxDestination`: by alternative first, then by hash, a
`uint160` compared as the number it holds. -/
def CTxDestination.blt : CTxDestination → CTxDestination → Bool
  | .noDestination, .keyID _ | .noDestination, .scriptID _ | .keyID _, .scriptID _ => true
  | .keyID a, .keyID b | .scriptID a, .scriptID b => a.ult b
  | _, _ => false

/-- The part of `*pwalletMain` the calls read. -/
structure CWallet where
  /-- The destinations of `mapAddressBook`, in the map's order. -/
  mapAddressBook : List CTxDestination := []
  /-- A `std::map` holds each key once and iterates them in increasing order, so `begin()` is the
  least destination of the book. -/
  sorted : mapAddressBook.Pairwise (fun a b => a.blt b) := by decide
  /-- The wallet as the `CKeyStore` signing uses. -/
  keystore : CBasicKeyStore := {}

/-- `mapAddressBook.begin()` is below every other destination of the book. -/
theorem CWallet.blt_of_mapAddressBook {wallet : CWallet} {first : CTxDestination}
    {rest : List CTxDestination} (h : wallet.mapAddressBook = first :: rest) :
    ∀ d ∈ rest, first.blt d := by
  have hs := wallet.sorted
  rw [h] at hs
  exact fun d => List.rel_of_pairwise_cons hs

/-- The global state. -/
structure Node where
  /-- `*pcoinsTip`: the confirmed coins. -/
  coinsTip : CCoinsView := viewDummy
  /-- `mempool`: the pending transactions. -/
  mempool : List CTransaction := []
  /-- `*pwalletMain`. -/
  wallet : CWallet := {}
  /-- The ids `RelayTransaction` has announced, oldest first. -/
  relayed : List uint256 := []

/-- The collaborators of the calls: code outside `rpcrawtransaction.cpp`. -/
structure Env where
  /-- `CTransaction::GetHash()`. -/
  GetHash : CTransaction → uint256
  /-- `SignSignature`, `CombineSignatures` and `VerifyScript`. -/
  interp : ScriptInterpreter
  /-- What `txv.vin[i]` finds past the end of a variant with fewer inputs. -/
  readPastEnd : CMutableTransaction → Nat → CScript
  /-- `CScript::IsPayToScriptHash()`. -/
  IsPayToScriptHash : CScript → Bool
  /-- `CScript::ToString()`. -/
  scriptToString : CScript → String
  /-- `CBitcoinSecret::SetString`, then `GetKey()` when it succeeded. -/
  decodeSecret : String → Option CKey
  /-- `CBitcoinSecret(key).ToString()`. -/
  encodeSecret : CKey → String
  /-- `CBitcoinAddress(str).Get()` when `IsValid()`. -/
  decodeAddress : String → Option CTxDestination
  /-- `CScript::SetDestination`. -/
  scriptForDestination : CTxDestination → CScript
  /-- `key.GetPubKey().GetHash()`. -/
  pubKeyHash : CKey → uint256
  /-- `key.GetPubKey().GetID()`, the key hash a `keyID` destination names. -/
  pubKeyID : CKey → BitVec 160
  /-- `key.Sign(hash, signature)`: the signature. -/
  Sign : CKey → uint256 → Bytes
  /-- `CHashWriter(1, 1)`, written the given bytes, then `GetHash()`. -/
  hashWriter : Bytes → uint256
  /-- The content of the file at a path. -/
  readFile : String → Bytes
  /-- The stack bytes after a file's `buffer`, which `string(buffer)` reads when the buffer holds
  no zero byte. -/
  pastBuffer : Bytes
  /-- The bytes after a string's terminating zero, which `write(&filestring[0], 64)` reads when
  the string is shorter than 64. -/
  pastString : Bytes
  /-- `AmountFromValue`. -/
  AmountFromValue : Value → Except RpcError (BitVec 64)
  /-- `EnsureWalletIsUnlocked()`. -/
  EnsureWalletIsUnlocked : Node → Except RpcError Unit
  /-- What `mapAddressBook.begin()->first` reads on an empty address book. -/
  addressBookEnd : CTxDestination
  /-- `GetTransaction(hash, tx, hashBlock, false)`. -/
  GetTransaction : Node → uint256 → Option CTransaction
  /-- `pwalletMain->SendMoneyToDestination2(dest, amount, wtx)`: the error text (empty on
  success), the transaction `wtx` and the node after the call. -/
  SendMoneyToDestination2 : Node → CTxDestination → BitVec 64 → String × CTransaction × Node
  /-- `AcceptToMemoryPool(mempool, state, tx, false, NULL, fRejectInsaneFee)`: the node with
  the transaction admitted, or the state of the refusal. -/
  AcceptToMemoryPool : Node → CTransaction → Bool → Except CValidationState Node
  /-- `SyncWithWallets(hash, tx, NULL)`. -/
  SyncWithWallets : Node → uint256 → CTransaction → Node
  /-- `HelpExampleCli(methodname, args)`, the command-line example of a help text. -/
  HelpExampleCli : String → String → String
  /-- `HelpExampleRpc(methodname, args)`, the JSON-RPC example of a help text. -/
  HelpExampleRpc : String → String → String
  /-- `HelpRequiringPassphrase()`, the wallet-lock note of a help text. -/
  HelpRequiringPassphrase : String

/-- A call: reads and changes the node, and may throw, keeping what it changed before. -/
abbrev RpcM := EStateM RpcError Node

/-- `if (fHelp || <wrong number of parameters>) throw runtime_error(<help>)`. -/
def checkUsage (fail : Bool) (help : String) : RpcM Unit :=
  if fail then throw (.runtime help) else pure ()

/-- `MEMPOOL_HEIGHT`, the height given to coins of a pending transaction. -/
def MEMPOOL_HEIGHT : Nat := 0x7FFFFFFF

/-- Modelled from the spec: `CCoinsViewMemPool(viewChain, mempool)`, the confirmed view
overlaid with the pending pool, where a pending transaction's outputs are its coins. -/
def viewMemPool (GetHash : CTransaction → uint256) (node : Node) : CCoinsView := fun txid =>
  match node.mempool.find? (GetHash · == txid) with
  | some tx => some { vout := tx.vout, nHeight := MEMPOOL_HEIGHT }
  | none => node.coinsTip txid

/-- `mempool.exists(hash)`. -/
def Node.mempoolExists (node : Node) (GetHash : CTransaction → uint256) (hash : uint256) : Bool :=
  node.mempool.any (GetHash · == hash)

/-- Modelled from the spec: `RelayTransaction(tx, hash)` announces the transaction to the peers,
fire and forget; the node records the id it announced. -/
def Node.RelayTransaction (node : Node) (hash : uint256) : Node :=
  { node with relayed := node.relayed ++ [hash] }

/-! ## Running a call -/

section Run

variable {α β : Type} {x : RpcM α} {f : α → RpcM β} {s s' : Node}

theorem RpcM.bind_of_ok {a : α} (h : x s = .ok a s') : (x >>= f) s = f a s' := by
  show EStateM.bind x f s = _
  simp only [EStateM.bind, h]

theorem RpcM.bind_of_error {e : RpcError} (h : x s = .error e s') :
    (x >>= f) s = .error e s' := by
  show EStateM.bind x f s = _
  simp only [EStateM.bind, h]

/-- A call that returns ran each of its two parts to a return. -/
theorem RpcM.bind_eq_ok {b : β} {s'' : Node} (h : (x >>= f) s = .ok b s'') :
    ∃ a s', x s = .ok a s' ∧ f a s' = .ok b s'' := by
  cases hx : x s with
  | ok a s' => exact ⟨a, s', rfl, (RpcM.bind_of_ok hx).symm.trans h⟩
  | error e s' => rw [RpcM.bind_of_error hx] at h; cases h

@[simp] theorem RpcM.liftExcept_ok (a : α) :
    (liftExcept (.ok a : Except RpcError α) : RpcM α) s = .ok a s := rfl

@[simp] theorem RpcM.liftExcept_error (e : RpcError) :
    (liftExcept (.error e) : RpcM α) s = .error e s := rfl

@[simp] theorem RpcM.pure_apply (a : α) : (pure a : RpcM α) s = .ok a s := rfl

@[simp] theorem RpcM.throw_apply (e : RpcError) : (throw e : RpcM α) s = .error e s := rfl

@[simp] theorem RpcM.get_apply : (get : RpcM Node) s = .ok s s := rfl

@[simp] theorem RpcM.set_apply : (set s' : RpcM PUnit) s = .ok ⟨⟩ s' := rfl

@[simp] theorem RpcM.modify_apply (g : Node → Node) :
    (modify g : RpcM PUnit) s = .ok ⟨⟩ (g s) := rfl

theorem RpcM.liftExcept_eq_ok {y : Except RpcError α} {a : α}
    (h : (liftExcept y : RpcM α) s = .ok a s') : y = .ok a ∧ s' = s := by
  cases y with
  | error e => cases h
  | ok b => cases h; exact ⟨rfl, rfl⟩

theorem RpcM.checkUsage_eq_ok {fail : Bool} {help : String} {u : Unit}
    (h : checkUsage fail help s = .ok u s') : fail = false ∧ s' = s := by
  cases fail with
  | true => cases h
  | false => cases h; exact ⟨rfl, rfl⟩

theorem RpcM.checkUsage_bind {fail : Bool} {help : String} {f : Unit → RpcM β}
    (h : fail = false) : (checkUsage fail help >>= f) s = f () s := by
  subst h
  rfl

end Run

/-! ## What a call does to the node

A call either returns or throws, and in both cases leaves a node behind. A property of nodes is
kept by a call when every node that has it is left as one that has it, and a call keeps the node
when it never changes it. Both are closed under `>>=`, so a call's effect on the node is
assembled from its parts'. -/

/-- The node a call leaves, whether it returned or threw. -/
def resultNode {α : Type} : EStateM.Result RpcError Node α → Node
  | .ok _ s => s
  | .error _ s => s

/-- The call keeps `P`: from a node with `P` it leaves a node with `P`, returning or throwing. -/
def RpcM.Preserves {α : Type} (P : Node → Prop) (x : RpcM α) : Prop :=
  ∀ s, P s → P (resultNode (x s))

/-- The call never changes the node. -/
def RpcM.Keeps {α : Type} (x : RpcM α) : Prop :=
  ∀ s, resultNode (x s) = s

/-- A call that throws leaves the node as it found it. -/
def RpcM.Atomic {α : Type} (x : RpcM α) : Prop :=
  ∀ s e s', x s = .error e s' → s' = s

section Effects

variable {α β : Type} {P : Node → Prop} {x y : RpcM α} {f : α → RpcM β}

theorem RpcM.Preserves.bind (hx : x.Preserves P) (hf : ∀ a, (f a).Preserves P) :
    (x >>= f).Preserves P := by
  intro s hs
  have hxs := hx s hs
  cases h : x s with
  | ok a s' => rw [RpcM.bind_of_ok h]; rw [h] at hxs; exact hf a s' hxs
  | error e s' => rw [RpcM.bind_of_error h]; rwa [h] at hxs

theorem RpcM.Keeps.preserves (h : x.Keeps) : x.Preserves P := fun s hs => (h s).symm ▸ hs

theorem RpcM.Keeps.bind (hx : x.Keeps) (hf : ∀ a, (f a).Keeps) : (x >>= f).Keeps := fun s =>
  (RpcM.Preserves.bind hx.preserves fun a => (hf a).preserves : (x >>= f).Preserves (· = s)) s rfl

theorem RpcM.Keeps.ite {c : Prop} [Decidable c] (hx : x.Keeps) (hy : y.Keeps) :
    (if c then x else y).Keeps := by
  split
  · exact hx
  · exact hy

theorem RpcM.Preserves.ite {c : Prop} [Decidable c] (hx : x.Preserves P) (hy : y.Preserves P) :
    (if c then x else y).Preserves P := by
  split
  · exact hx
  · exact hy

theorem RpcM.keeps_pure (a : α) : (pure a : RpcM α).Keeps := fun _ => rfl

theorem RpcM.keeps_throw (e : RpcError) : (throw e : RpcM α).Keeps := fun _ => rfl

theorem RpcM.keeps_get : (get : RpcM Node).Keeps := fun _ => rfl

theorem RpcM.keeps_liftExcept (y : Except RpcError α) : (liftExcept y : RpcM α).Keeps := by
  intro s
  cases y <;> rfl

theorem RpcM.keeps_checkUsage (fail : Bool) (help : String) : (checkUsage fail help).Keeps := by
  intro s
  cases fail <;> rfl

theorem RpcM.Keeps.ok_state (hx : x.Keeps) {s s' : Node} {a : α}
    (h : x s = .ok a s') : s' = s := by
  simpa [h, resultNode] using hx s

theorem RpcM.Keeps.atomic (hx : x.Keeps) : x.Atomic := fun s _ _ h => by
  simpa [h, resultNode] using hx s

theorem RpcM.Atomic.ite {c : Prop} [Decidable c] (hx : x.Atomic) (hy : y.Atomic) :
    (if c then x else y).Atomic := by
  split
  · exact hx
  · exact hy

/-- A call that keeps the node, then one that throws only from the node it found. -/
theorem RpcM.Atomic.bind_of_keeps (hx : x.Keeps) (hf : ∀ a, (f a).Atomic) :
    (x >>= f).Atomic := by
  intro s e s' h
  cases hxs : x s with
  | ok a s₁ =>
    obtain rfl := hx.ok_state hxs
    rw [RpcM.bind_of_ok hxs] at h
    exact hf a _ e _ h
  | error e' s₁ => rw [RpcM.bind_of_error hxs] at h; cases h; exact hx.atomic s _ _ hxs

/-- A call that throws only from the node it found, then a result computed from its value. -/
theorem RpcM.Atomic.bind_pure (hx : x.Atomic) (g : α → β) :
    (x >>= fun a => pure (g a)).Atomic := by
  intro s e s' h
  cases hxs : x s with
  | ok a s₁ => rw [RpcM.bind_of_ok hxs] at h; cases h
  | error e' s₁ => rw [RpcM.bind_of_error hxs] at h; cases h; exact hx s _ _ hxs

end Effects

/-! ## Collaborators for examples -/

/-- Collaborators under which the calls go through: the wallet is unlocked, every string is a
valid address (all the same one), admission accepts, and the funding transaction of `inittoken`
pays the 1001 coins in its only output. -/
def mintEnv : Env where
  GetHash _ := 0
  interp := ⟨fun _ _ _ _ _ => [], fun _ _ _ _ s => s, fun _ _ _ _ _ _ => true⟩
  readPastEnd _ _ := []
  IsPayToScriptHash _ := false
  scriptToString _ := ""
  decodeSecret _ := none
  encodeSecret _ := ""
  decodeAddress _ := some (.keyID 1)
  scriptForDestination _ := [0x51]
  pubKeyHash _ := 0
  pubKeyID _ := 1
  Sign _ _ := [0x30]
  hashWriter _ := 0
  readFile _ := []
  pastBuffer := []
  pastString := []
  AmountFromValue _ := .ok (1001 * COIN)
  EnsureWalletIsUnlocked _ := .ok ()
  addressBookEnd := .noDestination
  GetTransaction _ _ := some { vout := [⟨1001 * COIN, [0x51]⟩] }
  SendMoneyToDestination2 node _ amount := ("", { vout := [⟨amount, [0x51]⟩] }, node)
  AcceptToMemoryPool node _ _ := .ok node
  SyncWithWallets node _ _ := node
  HelpExampleCli _ _ := ""
  HelpExampleRpc _ _ := ""
  HelpRequiringPassphrase := ""

end SmileyRawTx
