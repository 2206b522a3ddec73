import SmileyRawTx.Rpc.Json

/-!
# Decoding the transaction variants

`signrawtransaction` and `signrawtokentransaction` read their hex argument as transactions
written back to back, the variants of one transaction whose signatures are to be merged:

    while (!ssData.empty()) { CMutableTransaction tx; ssData >> tx; txVariants.push_back(tx); }

An exception of the stream (a truncated transaction, a count over `MAX_SIZE`) becomes
"TX decode failed"; a buffer that yields no transaction at all is "Missing transaction".
The loop stops on every buffer because each transaction read takes at least one byte.
-/

namespace SmileyRawTx

def txDecodeFailed : RpcError := .json RPC_DESERIALIZATION_ERROR "TX decode failed"

def missingTransaction : RpcError := .json RPC_DESERIALIZATION_ERROR "Missing transaction"

/-- The `while (!ssData.empty())` loop. -/
def readTxVariants (bs : Bytes) : Except RpcError (List CMutableTransaction) :=
  if bs = [] then .ok [] else
  match h : unserializeTx bs with
  | .error _ => .error txDecodeFailed
  | .ok (tx, rest) => do
    let txs ← readTxVariants rest
    .ok (tx :: txs)
termination_by bs.length
decreasing_by exact unserializeTx_shrinks h

/-- The loop and the `txVariants.empty()` check after it: the first variant, which the merge
starts from (`mergedTx(txVariants[0])`), and the others. -/
def decodeTxVariants (txData : Bytes) :
    Except RpcError (CMutableTransaction × List CMutableTransaction) := do
  match ← readTxVariants txData with
  | [] => .error missingTransaction
  | tx :: txs => .ok (tx, txs)

/-! ## One pass of the loop -/

theorem readTxVariants_nil : readTxVariants [] = .ok [] := by
  rw [readTxVariants, if_pos rfl]

/-- Every transaction is written as at least its four version bytes. -/
theorem serializeTx_ne_nil (t : CMutableTransaction) : serializeTx t ≠ [] := by
  show putLE 4 t.nVersion.toNat ++ _ ≠ []
  simp [putLE]

/-- A pass on a nonempty buffer: one transaction read, or the error. -/
theorem readTxVariants_of_ne_nil {bs : Bytes} (hbs : bs ≠ []) :
    readTxVariants bs = match unserializeTx bs with
      | .error _ => .error txDecodeFailed
      | .ok (tx, rest) => readTxVariants rest >>= fun txs => .ok (tx :: txs) := by
  rw [readTxVariants, if_neg hbs]
  split <;> simp only [*]

/-- A pass on an encoded transaction: it reads back unless a count is over `MAX_SIZE`. -/
theorem readTxVariants_serializeTx_append (t : CMutableTransaction) (rest : Bytes) :
    readTxVariants (serializeTx t ++ rest) =
      if txCodec.fits t then readTxVariants rest >>= fun txs => .ok (t :: txs)
      else .error txDecodeFailed := by
  rw [readTxVariants_of_ne_nil (by simp [serializeTx_ne_nil]), unserializeTx_serializeTx]
  split_ifs <;> rfl

/-- Whatever the buffer, the loop fails with "TX decode failed" or returns a list of
transactions, nonempty for a nonempty buffer. -/
theorem readTxVariants_cases (bs : Bytes) :
    readTxVariants bs = .error txDecodeFailed ∨
      ∃ txs, readTxVariants bs = .ok txs ∧ (bs ≠ [] → txs ≠ []) := by
  induction bs using readTxVariants.induct with
  | case1 => exact .inr ⟨[], readTxVariants_nil, fun h => absurd rfl h⟩
  | case2 bs hbs e h =>
    rw [readTxVariants_of_ne_nil hbs, h]
    exact .inl rfl
  | case3 bs hbs tx rest h ih =>
    rw [readTxVariants_of_ne_nil hbs, h]
    rcases ih with ih | ⟨txs, ih, -⟩ <;> simp [ih]

/-- Encoded transactions written back to back read back as themselves, exactly when each fits
the `MAX_SIZE` bound on counts. -/
theorem readTxVariants_flatMap (ts : List CMutableTransaction) :
    readTxVariants (ts.flatMap serializeTx) =
      if ts.all txCodec.fits then .ok ts else .error txDecodeFailed := by
  induction ts with
  | nil => exact readTxVariants_nil
  | cons t ts ih =>
    rw [List.flatMap_cons, readTxVariants_serializeTx_append, ih]
    by_cases ht : txCodec.fits t <;> by_cases hts : ts.all txCodec.fits <;> simp [ht, hts]

/-! ## The decoded variants -/

/-- One encoded transaction decodes as the only variant, unless a count is over `MAX_SIZE`. -/
theorem decodeTxVariants_serializeTx (t : CMutableTransaction) :
    decodeTxVariants (serializeTx t) =
      if txCodec.fits t then .ok (t, []) else .error txDecodeFailed := by
  rw [decodeTxVariants, ← List.append_nil (serializeTx t), readTxVariants_serializeTx_append,
    readTxVariants_nil]
  split_ifs <;> rfl

theorem decodeTxVariants_eq (bs : Bytes) :
    decodeTxVariants bs = readTxVariants bs >>= fun
      | [] => .error missingTransaction
      | tx :: txs => .ok (tx, txs) := rfl

/-- **The variants of a buffer.** Transactions written back to back decode as themselves, the
first one being the merge target, unless one of them has a count or a script over `MAX_SIZE`;
every transaction read takes a byte, so the loop stops; and on any buffer the call fails with
"TX decode failed", fails with "Missing transaction" exactly on the empty buffer, or returns the
variants. -/
theorem decodeTxVariants_flatMap_serializeTx :
    (∀ t ts, decodeTxVariants ((t :: ts).flatMap serializeTx) =
      if (t :: ts).all txCodec.fits then .ok (t, ts) else .error txDecodeFailed) ∧
    (∀ bs tx rest, unserializeTx bs = .ok (tx, rest) → rest.length < bs.length) ∧
    ∀ bs, (decodeTxVariants bs = .error missingTransaction ↔ bs = []) ∧
      (decodeTxVariants bs = .error txDecodeFailed ∨ bs = [] ∨
        ∃ t ts, decodeTxVariants bs = .ok (t, ts)) := by
  refine ⟨fun t ts => ?_, fun _ _ _ => unserializeTx_shrinks, fun bs => ?_⟩
  · rw [decodeTxVariants_eq, readTxVariants_flatMap]
    split_ifs <;> rfl
  · have hne : txDecodeFailed ≠ missingTransaction := by decide
    rcases readTxVariants_cases bs with h | ⟨txs, h, htxs⟩
    · have hbs : bs ≠ [] := by rintro rfl; simp [readTxVariants_nil] at h
      simp [decodeTxVariants_eq, h, hne, hbs]
    · by_cases hbs : bs = []
      · subst hbs
        cases readTxVariants_nil ▸ h
        simp [decodeTxVariants_eq, readTxVariants_nil]
      · obtain ⟨t, ts, rfl⟩ := List.exists_cons_of_ne_nil (htxs hbs)
        simp [decodeTxVariants_eq, h, hbs]

/-- A transaction with an unlocking script of `MAX_SIZE + 1` bytes is written out, but reading
it back stops at the script's count. -/
theorem decodeTxVariants_oversized_scriptSig :
    let t : CMutableTransaction :=
      { vin := [{ prevout := ⟨0, 0⟩, scriptSig := List.replicate (MAX_SIZE + 1) 0 }] }
    decodeTxVariants ([t].flatMap serializeTx) = .error txDecodeFailed := by
  intro t
  have hfits : txCodec.fits t = false := by
    simp [t, txCodec, Codec.map, Codec.prod, Codec.vector, txInCodec, Codec.bytes]
  rw [decodeTxVariants_eq, List.flatMap_cons, List.flatMap_nil, readTxVariants_serializeTx_append,
    hfits]
  rfl

end SmileyRawTx
