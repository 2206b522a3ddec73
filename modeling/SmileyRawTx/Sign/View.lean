import SmileyRawTx.Rpc.Json

/-!
# The coins view of `signrawtransaction`

`signrawtransaction` resolves previous outputs through a `CCoinsViewCache` stacked on a
backend. It first points the cache at the chain-plus-mempool view and asks it for every
transaction the inputs spend, which copies what the backend has into the cache (the warming
pass); it then points the cache back at the empty `CCoinsView` and lets the caller's
`prevtxs` hints write into the cache. From then on a lookup only sees the cache.

This file models the cache, the warming pass and one hint (`addPrevOut`), and proves what the
hint loop leaves in the view: hints only add or overwrite the output they name, and a hint
whose output number is below `INT_MAX` fails exactly when it contradicts a script already
available. At `INT_MAX` the `int` sum `nOut + 1` wraps and `resize` throws.
-/

namespace SmileyRawTx

/-- A coins view, as the function `GetCoins` computes on it. -/
abbrev CCoinsView := uint256 → Option CCoins

/-- The base `CCoinsView`, whose `GetCoins` always fails. -/
def viewDummy : CCoinsView := fun _ => none

/-- `CCoinsViewCache`: cached entries over a backend view. -/
structure CCoinsViewCache where
  cacheCoins : uint256 → Option CCoins
  base : CCoinsView

/-- `CCoinsViewCache view(viewDummy)`: an empty cache on the empty view. -/
def CCoinsViewCache.empty : CCoinsViewCache := ⟨fun _ => none, viewDummy⟩

/-- `CCoinsViewCache::GetCoins`: the cached entry, else the backend's, which is then cached. -/
def CCoinsViewCache.GetCoins (view : CCoinsViewCache) (txid : uint256) :
    Option CCoins × CCoinsViewCache :=
  match view.cacheCoins txid with
  | some coins => (some coins, view)
  | none =>
    match view.base txid with
    | some coins =>
      (some coins, { view with cacheCoins := Function.update view.cacheCoins txid coins })
    | none => (none, view)

/-- `CCoinsViewCache::SetCoins`. -/
def CCoinsViewCache.SetCoins (view : CCoinsViewCache) (txid : uint256) (coins : CCoins) :
    CCoinsViewCache :=
  { view with cacheCoins := Function.update view.cacheCoins txid coins }

/-- `CCoinsViewCache::SetBackend`. -/
def CCoinsViewCache.SetBackend (view : CCoinsViewCache) (base : CCoinsView) : CCoinsViewCache :=
  { view with base := base }

/-- The output a lookup finds at `(txid, n)`: `GetCoins` succeeds and `IsAvailable(n)`. -/
def CCoinsViewCache.availableOut (view : CCoinsViewCache) (txid : uint256) (n : Nat) :
    Option CTxOut :=
  (view.GetCoins txid).1.bind (·.availableOut n)

/-- The output a coins view itself holds at `(txid, n)`. -/
def CCoinsView.availableOut (v : CCoinsView) (txid : uint256) (n : Nat) : Option CTxOut :=
  (v txid).bind (·.availableOut n)

/-- On the empty backend a lookup is a read of the cache and leaves the view as it was. -/
theorem GetCoins_of_base_dummy {view : CCoinsViewCache} (h : view.base = viewDummy)
    (txid : uint256) : view.GetCoins txid = (view.cacheCoins txid, view) := by
  unfold CCoinsViewCache.GetCoins
  cases view.cacheCoins txid <;> simp [h, viewDummy]

/-! ## The warming pass -/

/-- Lines 618–633: switch the cache to the chain-plus-mempool `backend`, fetch the transaction
of every input, switch back to `viewDummy`. -/
def warmView (backend : CCoinsView) (vin : List CTxIn) : CCoinsViewCache :=
  let view := CCoinsViewCache.empty.SetBackend backend
  let view := vin.foldl (fun view txin => (view.GetCoins txin.prevout.hash).2) view
  view.SetBackend viewDummy

theorem warmView_base (backend : CCoinsView) (vin : List CTxIn) :
    (warmView backend vin).base = viewDummy := rfl

theorem GetCoins_base (view : CCoinsViewCache) (txid : uint256) :
    (view.GetCoins txid).2.base = view.base := by
  unfold CCoinsViewCache.GetCoins
  split <;> [rfl; split <;> rfl]

/-- One fetch copies the backend's entry into an empty cache slot and changes nothing else. -/
theorem GetCoins_cacheCoins (view : CCoinsViewCache) (txid t : uint256) :
    (view.GetCoins txid).2.cacheCoins t =
      if t = txid ∧ view.cacheCoins t = none then view.base t else view.cacheCoins t := by
  unfold CCoinsViewCache.GetCoins
  by_cases ht : t = txid
  · subst ht
    rcases hc : view.cacheCoins t with _ | c
    · rcases hb : view.base t with _ | b <;> simp [hc, hb]
    · simp [hc]
  · rcases view.cacheCoins txid with _ | c
    · rcases view.base txid with _ | b <;> simp [ht, Function.update_noteq ht]
    · simp [ht]

/-- A run of fetches fills exactly the empty slots of the fetched transactions. -/
theorem foldl_GetCoins_cacheCoins (vin : List CTxIn) (view : CCoinsViewCache) (t : uint256) :
    (vin.foldl (fun view txin => (view.GetCoins txin.prevout.hash).2) view).cacheCoins t =
      if vin.any (·.prevout.hash == t) ∧ view.cacheCoins t = none then view.base t
      else view.cacheCoins t := by
  induction vin generalizing view with
  | nil => simp
  | cons txin vin ih =>
    rw [List.foldl_cons, ih, GetCoins_cacheCoins, GetCoins_base]
    by_cases h₁ : t = txin.prevout.hash
    · subst h₁
      cases hc : view.cacheCoins txin.prevout.hash <;> simp [hc]
    · by_cases h₂ : vin.any (·.prevout.hash == t) <;>
        cases hc : view.cacheCoins t <;> simp [h₁, Ne.symm h₁, h₂, hc]

/-- What the warmed cache holds: the backend's entry for every transaction an input spends,
nothing for any other. -/
theorem warmView_cacheCoins (backend : CCoinsView) (vin : List CTxIn) (t : uint256) :
    (warmView backend vin).cacheCoins t =
      if vin.any (·.prevout.hash == t) then backend t else none := by
  simp [warmView, CCoinsViewCache.SetBackend, foldl_GetCoins_cacheCoins, CCoinsViewCache.empty]

/-- On the empty backend, a lookup in the warmed view is the backend's own lookup for every
transaction an input spends, and finds nothing for any other. -/
theorem warmView_availableOut (backend : CCoinsView) (vin : List CTxIn) (t : uint256) (n : Nat) :
    (warmView backend vin).availableOut t n =
      if vin.any (·.prevout.hash == t) then backend.availableOut t n else none := by
  rw [CCoinsViewCache.availableOut, GetCoins_of_base_dummy (warmView_base backend vin),
    warmView_cacheCoins]
  split_ifs <;> rfl

/-! ## Prevout hints -/

/-- One entry of `prevtxs` once parsed: `txid`, `vout` (already checked non-negative) and
`scriptPubKey`. -/
structure PrevTx where
  txid : uint256
  nOut : Nat
  scriptPubKey : CScript
deriving DecidableEq, Repr

/-- The `std::length_error` that libstdc++'s `vector::resize` throws for a size past
`max_size()`; the RPC server reports an exception by its `what()`. -/
def vectorLengthError : RpcError := .runtime "vector::_M_default_append"

/-- `coins.vout.resize(n)` for an `int` `n` no smaller than the size: the new outputs are null,
and a negative `n`, converted to `size_t`, is past `max_size()`. -/
def CCoins.resize (coins : CCoins) (n : Int) : Except RpcError CCoins :=
  if n < 0 then .error vectorLengthError
  else .ok { coins with
    vout := coins.vout ++ List.replicate (n.toNat - coins.vout.length) CTxOut.null }

/-- Lines 688–691: grow `vout` to `nOut + 1` if needed, then give output `nOut` the hinted
script and the value 0 ("we don't know the actual output value"). `nOut + 1` is an `int` sum,
which wraps to `INT_MIN` at `nOut = 2147483647`. -/
def CCoins.setOut (coins : CCoins) (nOut : Nat) (script : CScript) : Except RpcError CCoins := do
  let coins ← if coins.vout.length ≤ nOut then coins.resize (BitVec.ofNat 32 nOut + 1).toInt
    else pure coins
  pure { coins with vout := coins.vout.set nOut ⟨0, script⟩ }

/-- What lines 688–691 leave when `nOut + 1` fits an `int`. -/
def CCoins.writeOut (coins : CCoins) (nOut : Nat) (script : CScript) : CCoins :=
  let vout :=
    if coins.vout.length ≤ nOut then
      coins.vout ++ List.replicate (nOut + 1 - coins.vout.length) CTxOut.null
    else coins.vout
  { coins with vout := vout.set nOut ⟨0, script⟩ }

/-- Below `INT_MAX` the `int` sum `nOut + 1` does not wrap. -/
theorem int32_succ_toInt {nOut : Nat} (h : nOut + 1 < 2 ^ 31) :
    (BitVec.ofNat 32 nOut + 1).toInt = nOut + 1 := by
  have h1 : (BitVec.ofNat 32 nOut + 1).toNat = nOut + 1 := by
    rw [BitVec.toNat_add, BitVec.toNat_ofNat]
    show (nOut % 2 ^ 32 + 1) % 2 ^ 32 = nOut + 1
    omega
  rw [BitVec.toInt_eq_toNat_cond, h1, if_pos (by omega)]
  rfl

theorem CCoins.setOut_of_lt (coins : CCoins) (script : CScript) {nOut : Nat}
    (h : nOut + 1 < 2 ^ 31) : coins.setOut nOut script = .ok (coins.writeOut nOut script) := by
  unfold CCoins.setOut CCoins.writeOut
  split_ifs with hl
  · rw [CCoins.resize, int32_succ_toInt h, if_neg (by omega)]
    rfl
  · rfl

/-- At `nOut = 2147483647`, past the outputs the coins hold, the sum wraps negative and
`resize` throws. -/
theorem CCoins.setOut_intMax (coins : CCoins) (script : CScript)
    (h : coins.vout.length ≤ 2147483647) :
    coins.setOut 2147483647 script = .error vectorLengthError := by
  rw [CCoins.setOut, if_pos h, CCoins.resize, if_pos (by decide)]
  rfl

theorem CCoins.availableOut_writeOut (coins : CCoins) (nOut n : Nat) (script : CScript) :
    (coins.writeOut nOut script).availableOut n =
      if n = nOut then some ⟨0, script⟩ else coins.availableOut n := by
  unfold CCoins.writeOut CCoins.availableOut
  dsimp only
  by_cases hn : n = nOut
  · subst hn
    have hlen : n < (if coins.vout.length ≤ n then
        coins.vout ++ List.replicate (n + 1 - coins.vout.length) CTxOut.null
        else coins.vout).length := by
      split_ifs <;> first | omega | (simp; omega)
    rw [if_pos rfl, List.getElem?_set_self hlen]
    rfl
  · rw [if_neg hn, List.getElem?_set_ne (Ne.symm hn)]
    split_ifs with h
    · by_cases hl : n < coins.vout.length
      · rw [List.getElem?_append_left hl]
      · rw [List.getElem?_append_right (by omega), List.getElem?_replicate,
          @List.getElem?_eq_none _ coins.vout n (by omega)]
        split_ifs <;> rfl
    · rfl

/-- The error of line 684; `toString` is `CScript::ToString`. -/
def scriptMismatchError (toString : CScript → String) (old new : CScript) : RpcError :=
  .json RPC_DESERIALIZATION_ERROR
    ("Previous output scriptPubKey mismatch:\n" ++ toString old ++ "\nvs:\n" ++ toString new)

/-- Lines 678–692: check one hint against the view (an available output of another script is
refused), then install it. -/
def addPrevOut (toString : CScript → String) (view : CCoinsViewCache) (p : PrevTx) :
    Except RpcError CCoinsViewCache := do
  let (coins, view) := view.GetCoins p.txid
  match coins.bind (·.availableOut p.nOut) with
  | some o =>
    throwIf (o.scriptPubKey ≠ p.scriptPubKey)
      (scriptMismatchError toString o.scriptPubKey p.scriptPubKey)
  | none => pure ()
  let coins ← (coins.getD {}).setOut p.nOut p.scriptPubKey
  pure (view.SetCoins p.txid coins)

/-- What lines 688–692 leave for a hint whose `nOut + 1` fits an `int`: the hint installed,
whatever the view holds for it. -/
def installPrevOut (view : CCoinsViewCache) (p : PrevTx) : CCoinsViewCache :=
  let found := view.GetCoins p.txid
  found.2.SetCoins p.txid ((found.1.getD {}).writeOut p.nOut p.scriptPubKey)

/-- The hint loop on parsed hints. -/
def addPrevOuts (toString : CScript → String) (view : CCoinsViewCache) (hints : List PrevTx) :
    Except RpcError CCoinsViewCache :=
  hints.foldlM (addPrevOut toString) view

/-- Install hints whose `nOut + 1` fits an `int`, one after the other, without checking them. -/
def installPrevOuts (view : CCoinsViewCache) (hints : List PrevTx) : CCoinsViewCache :=
  hints.foldl installPrevOut view

/-- A hint contradicts the view: its output is available there with another script. -/
def Conflicts (view : CCoinsViewCache) (p : PrevTx) : Prop :=
  ∃ o, view.availableOut p.txid p.nOut = some o ∧ o.scriptPubKey ≠ p.scriptPubKey

/-- Some hint contradicts the view as the hints before it left it. -/
def HintConflict (view : CCoinsViewCache) (hints : List PrevTx) : Prop :=
  ∃ pre p post, hints = pre ++ p :: post ∧ Conflicts (installPrevOuts view pre) p

/-- Hints whose `nOut + 1` fits an `int`. -/
def HintsFit (hints : List PrevTx) : Prop := ∀ p ∈ hints, p.nOut + 1 < 2 ^ 31

theorem HintsFit.cons {p : PrevTx} {ps : List PrevTx} (h : HintsFit (p :: ps)) :
    p.nOut + 1 < 2 ^ 31 ∧ HintsFit ps :=
  ⟨h p (List.mem_cons_self _ _), fun q hq => h q (List.mem_cons_of_mem _ hq)⟩

/-- The script of the last hint naming output `n` of `t`. -/
def hintedScript : List PrevTx → uint256 → Nat → Option CScript
  | [], _, _ => none
  | p :: ps, t, n =>
    match hintedScript ps t n with
    | some s => some s
    | none => if t = p.txid ∧ n = p.nOut then some p.scriptPubKey else none

/-- A hint either fails on a conflict, with the mismatch error, or goes on to `setOut` on what
the view holds for it. -/
theorem addPrevOut_cases (toString : CScript → String) (view : CCoinsViewCache) (p : PrevTx) :
    (∃ o, view.availableOut p.txid p.nOut = some o ∧ o.scriptPubKey ≠ p.scriptPubKey ∧
        addPrevOut toString view p =
          .error (scriptMismatchError toString o.scriptPubKey p.scriptPubKey)) ∨
      (¬ Conflicts view p ∧ addPrevOut toString view p =
        (((view.GetCoins p.txid).1.getD {}).setOut p.nOut p.scriptPubKey).map
          ((view.GetCoins p.txid).2.SetCoins p.txid)) := by
  unfold addPrevOut Conflicts
  rw [CCoinsViewCache.availableOut]
  rcases view.GetCoins p.txid with ⟨coins, view'⟩
  dsimp only
  rcases coins.bind (·.availableOut p.nOut) with _ | o
  · refine .inr ⟨by simp, ?_⟩
    cases (coins.getD {}).setOut p.nOut p.scriptPubKey <;> rfl
  · by_cases ho : o.scriptPubKey = p.scriptPubKey
    · refine .inr ⟨by simp [ho], ?_⟩
      simp only [ho, ne_eq, not_true_eq_false, decide_False, throwIf_false, ok_bind]
      cases (coins.getD {}).setOut p.nOut p.scriptPubKey <;> rfl
    · exact .inl ⟨o, rfl, ho, by simp [ho, throwIf]⟩

/-- A hint whose `nOut + 1` fits an `int` either fails on a conflict or installs itself. -/
theorem addPrevOut_of_lt (toString : CScript → String) (view : CCoinsViewCache) {p : PrevTx}
    (h : p.nOut + 1 < 2 ^ 31) :
    (∃ o, view.availableOut p.txid p.nOut = some o ∧ o.scriptPubKey ≠ p.scriptPubKey ∧
        addPrevOut toString view p =
          .error (scriptMismatchError toString o.scriptPubKey p.scriptPubKey)) ∨
      (¬ Conflicts view p ∧ addPrevOut toString view p = .ok (installPrevOut view p)) := by
  rcases addPrevOut_cases toString view p with hc | ⟨hc, he⟩
  · exact .inl hc
  · exact .inr ⟨hc, by rw [he, CCoins.setOut_of_lt _ _ h]; rfl⟩

/-- A hint for output 2147483647 of a transaction the view knows fewer outputs of, with no
conflict, throws the length error of `resize`. -/
theorem addPrevOut_intMax (toString : CScript → String) (view : CCoinsViewCache) {p : PrevTx}
    (hn : p.nOut = 2147483647) (hc : ¬ Conflicts view p)
    (hl : ((view.GetCoins p.txid).1.getD {}).vout.length ≤ 2147483647) :
    addPrevOut toString view p = .error vectorLengthError := by
  rcases addPrevOut_cases toString view p with ⟨o, ho, hne, -⟩ | ⟨-, he⟩
  · exact absurd ⟨o, ho, hne⟩ hc
  · rw [he, hn, CCoins.setOut_intMax _ _ hl]
    rfl

theorem installPrevOut_base (view : CCoinsViewCache) (p : PrevTx) :
    (installPrevOut view p).base = view.base := by
  simp [installPrevOut, CCoinsViewCache.SetCoins, GetCoins_base]

theorem installPrevOut_cacheCoins {view : CCoinsViewCache} (h : view.base = viewDummy)
    (p : PrevTx) :
    (installPrevOut view p).cacheCoins = Function.update view.cacheCoins p.txid
      (((view.cacheCoins p.txid).getD {}).writeOut p.nOut p.scriptPubKey) := by
  simp [installPrevOut, GetCoins_of_base_dummy h, CCoinsViewCache.SetCoins]

/-- On the empty backend a hint makes its output available with its script and value 0, and
leaves every other output as it was. -/
theorem installPrevOut_availableOut {view : CCoinsViewCache} (h : view.base = viewDummy)
    (p : PrevTx) (t : uint256) (n : Nat) :
    (installPrevOut view p).availableOut t n =
      if t = p.txid ∧ n = p.nOut then some ⟨0, p.scriptPubKey⟩
      else view.availableOut t n := by
  have h' : (installPrevOut view p).base = viewDummy := (installPrevOut_base view p).trans h
  rw [CCoinsViewCache.availableOut, GetCoins_of_base_dummy h', installPrevOut_cacheCoins h,
    CCoinsViewCache.availableOut, GetCoins_of_base_dummy h]
  by_cases ht : t = p.txid
  · rw [ht]
    rcases hc : view.cacheCoins p.txid with _ | c <;>
      simp only [hc, Function.update_same, Option.getD_none, Option.getD_some, Option.some_bind,
        Option.none_bind, CCoins.availableOut_writeOut, true_and]
    rfl
  · simp [Function.update_noteq ht, ht]

theorem installPrevOuts_base (view : CCoinsViewCache) (hints : List PrevTx) :
    (installPrevOuts view hints).base = view.base := by
  induction hints generalizing view with
  | nil => rfl
  | cons p ps ih => exact (ih _).trans (installPrevOut_base view p)

/-- **Hints only add or overwrite.** On the empty backend, after the hints every output named
by a hint is available with the script of the last hint naming it, and every other output is
as the view had it. -/
theorem installPrevOuts_availableOut {view : CCoinsViewCache} (h : view.base = viewDummy)
    (hints : List PrevTx) (t : uint256) (n : Nat) :
    (installPrevOuts view hints).availableOut t n =
      match hintedScript hints t n with
      | some s => some ⟨0, s⟩
      | none => view.availableOut t n := by
  induction hints generalizing view with
  | nil => rfl
  | cons p ps ih =>
    rw [installPrevOuts, List.foldl_cons, ← installPrevOuts,
      ih ((installPrevOut_base view p).trans h), installPrevOut_availableOut h, hintedScript]
    rcases hintedScript ps t n with _ | s
    · split_ifs <;> rfl
    · rfl

/-- When no hint contradicts the view and none overflows, the loop installs them all. -/
theorem addPrevOuts_of_not_conflict (toString : CScript → String) {view : CCoinsViewCache}
    {hints : List PrevTx} (hfit : HintsFit hints) (h : ¬ HintConflict view hints) :
    addPrevOuts toString view hints = .ok (installPrevOuts view hints) := by
  induction hints generalizing view with
  | nil => rfl
  | cons p ps ih =>
    have hp : ¬ Conflicts view p := fun hc => h ⟨[], p, ps, rfl, hc⟩
    have hps : ¬ HintConflict (installPrevOut view p) ps := fun ⟨pre, q, post, he, hc⟩ =>
      h ⟨p :: pre, q, post, by simp [he], hc⟩
    rcases addPrevOut_of_lt toString view hfit.cons.1 with ⟨o, ho, hne, -⟩ | ⟨-, hok⟩
    · exact absurd ⟨o, ho, hne⟩ hp
    · rw [addPrevOuts, List.foldlM_cons, hok, ok_bind]
      exact ih hfit.cons.2 hps

/-- When some hint contradicts the view as the hints before it left it, the loop fails with
the mismatch error, naming two different scripts. -/
theorem addPrevOuts_of_conflict (toString : CScript → String) {view : CCoinsViewCache}
    {hints : List PrevTx} (hfit : HintsFit hints) (h : HintConflict view hints) :
    ∃ old new, old ≠ new ∧
      addPrevOuts toString view hints = .error (scriptMismatchError toString old new) := by
  induction hints generalizing view with
  | nil => obtain ⟨pre, p, post, he, -⟩ := h; simp at he
  | cons p ps ih =>
    rcases addPrevOut_of_lt toString view hfit.cons.1 with ⟨o, -, hne, herr⟩ | ⟨hp, hok⟩
    · exact ⟨_, _, hne, by rw [addPrevOuts, List.foldlM_cons, herr, error_bind]⟩
    · obtain ⟨pre, q, post, he, hc⟩ := h
      rcases pre with _ | ⟨r, pre⟩
      · cases he; exact absurd hc hp
      · cases he
        obtain ⟨old, new, hne, herr⟩ := ih hfit.cons.2 ⟨pre, q, post, rfl, hc⟩
        exact ⟨old, new, hne, by rw [addPrevOuts, List.foldlM_cons, hok, ok_bind]; exact herr⟩

/-- **The hint loop over the warmed view.** For hints whose `nOut + 1` fits an `int`, the loop
fails exactly when some hint names an output that is available, in the warmed view or from an
earlier hint, with another script, and it then fails with the mismatch error. Otherwise every
hinted output is available with its hinted script, every other output is as warming left it,
and so the output each input spends is the hinted one or else the one the chain-plus-mempool
backend held at warming time. -/
theorem addPrevOuts_warmView (toString : CScript → String) (backend : CCoinsView)
    (vin : List CTxIn) {hints : List PrevTx} (hfit : HintsFit hints) :
    ((∃ e, addPrevOuts toString (warmView backend vin) hints = .error e) ↔
        HintConflict (warmView backend vin) hints) ∧
      (∀ e, addPrevOuts toString (warmView backend vin) hints = .error e →
        ∃ old new, old ≠ new ∧ e = scriptMismatchError toString old new) ∧
      ∀ view, addPrevOuts toString (warmView backend vin) hints = .ok view →
        view.base = viewDummy ∧
        (∀ t n, view.availableOut t n =
          match hintedScript hints t n with
          | some s => some ⟨0, s⟩
          | none => (warmView backend vin).availableOut t n) ∧
        ∀ txin ∈ vin, view.availableOut txin.prevout.hash txin.prevout.n.toNat =
          match hintedScript hints txin.prevout.hash txin.prevout.n.toNat with
          | some s => some ⟨0, s⟩
          | none => backend.availableOut txin.prevout.hash txin.prevout.n.toNat := by
  have hbase := warmView_base backend vin
  have hok : ∀ view, addPrevOuts toString (warmView backend vin) hints = .ok view →
      view = installPrevOuts (warmView backend vin) hints := fun view h => by
    by_cases hc : HintConflict (warmView backend vin) hints
    · obtain ⟨_, _, -, herr⟩ := addPrevOuts_of_conflict toString hfit hc
      rw [herr] at h; cases h
    · rw [addPrevOuts_of_not_conflict toString hfit hc] at h; cases h; rfl
  refine ⟨⟨fun ⟨e, he⟩ => ?_, fun hc => ?_⟩, fun e he => ?_, fun view hv => ?_⟩
  · by_contra hc
    rw [addPrevOuts_of_not_conflict toString hfit hc] at he; cases he
  · obtain ⟨old, new, -, herr⟩ := addPrevOuts_of_conflict toString hfit hc
    exact ⟨_, herr⟩
  · by_cases hc : HintConflict (warmView backend vin) hints
    · obtain ⟨old, new, hne, herr⟩ := addPrevOuts_of_conflict toString hfit hc
      rw [herr] at he; cases he
      exact ⟨old, new, hne, rfl⟩
    · rw [addPrevOuts_of_not_conflict toString hfit hc] at he; cases he
  · obtain rfl := hok view hv
    refine ⟨(installPrevOuts_base _ _).trans hbase, installPrevOuts_availableOut hbase hints,
      fun txin hin => ?_⟩
    rw [installPrevOuts_availableOut hbase, warmView_availableOut,
      if_pos (List.any_eq_true.mpr ⟨txin, hin, by simp⟩)]

end SmileyRawTx
