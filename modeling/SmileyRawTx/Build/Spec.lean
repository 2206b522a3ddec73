import SmileyRawTx.Build.Create
import Mathlib.Data.List.Forall2
import Mathlib.Data.List.Nodup

/-!
# `createrawtransaction` against its description

The help text and the spec describe the call entry by entry. Each entry of the input array is
an outpoint with an optional sequence (`InputSpec`). Each member of the output object is an
output on its own (`OutputSpec`): `"data"` pushes hex bytes after `OP_RETURN`, and an address is
paid `AmountFromValue` of its value. The addresses of the address members must be pairwise
distinct (`sendToAddresses`).

This module proves that the call's two loops compute that description. The input loop reads
each entry on its own (`mapM_parseInput_eq_ok_iff`). The `setAddress` loop returns the members'
outputs in order exactly when the addresses are distinct, which `setAddress` checks one member
at a time (`foldlM_addSendTo_eq_ok_iff`). So the call returns the hex of the transaction the
description gives, or throws; it returns whenever every entry and member is acceptable, with
any number of `"data"` members; and a repeated address throws the duplicated-address error
when everything before it is accepted (`createrawtransaction_builds`).

Two points are as the code has them, not as a reader of the help text might expect:
* `get_int` keeps the low 32 bits of a JSON integer, so a `"vout"` of `4294967296` spends
  output 0;
* the loops stop at the first failing entry, so a bad member before a repeated address
  reports its own error (`createrawtransaction_vout_wraps`).
-/

namespace SmileyRawTx

/-- A loop over a list in `Except` returns exactly when each element returns, with their
results in order. -/
theorem mapM_eq_ok_iff {ε α β : Type} {f : α → Except ε β} {xs : List α} {ys : List β} :
    xs.mapM f = .ok ys ↔ List.Forall₂ (fun x y => f x = .ok y) xs ys := by
  induction xs generalizing ys with
  | nil => rw [List.mapM_nil]; cases ys <;> simp [pure, Except.pure, List.forall₂_nil_left_iff]
  | cons x xs ih =>
    rw [List.mapM_cons]
    simp only [bind_eq_ok, ih, pure, Except.pure, Except.ok.injEq]
    cases ys <;> simp [List.forall₂_nil_right_iff]

/-- The first part of a list split at `c` is what stands before the first `c`. -/
theorem splitOn_getD_zero (l : List Char) (c : Char) :
    (l.splitOn c).getD 0 [] = l.takeWhile (· != c) := by
  induction l with
  | nil => rfl
  | cons x xs ih =>
    simp only [List.splitOn] at ih ⊢
    rw [List.splitOnP_cons]
    by_cases hx : x = c
    · simp [hx]
    · obtain ⟨h, t, ht⟩ := List.exists_cons_of_ne_nil (List.splitOnP_ne_nil (· == c) xs)
      rw [ht] at ih ⊢
      simp [hx, ← ih, List.takeWhile_cons]

/-! ## The input array -/

/-- An entry of the input array as the loop of lines 365–387 reads it, and the input it stands
for. The entry is an object with a hash under `"txid"` and an integer under `"vout"` that is not
negative as the C `int` `get_int` makes of it. The input spends that output of `txid`, as the
`int` converts to `unsigned int`, and has an empty unlocking script. Its sequence is the integer
under `"sequence"`, read the same way and not negative, or `0xFFFFFFFF` when no integer is
there. -/
def InputSpec (input : Value) (txin : CTxIn) : Prop :=
  ∃ o, input = .obj o ∧ ParseHashO o "txid" = .ok txin.prevout.hash ∧
    (∃ n, findValue o "vout" = .int n ∧ 0 ≤ (BitVec.ofInt 32 n).toInt ∧
      txin.prevout.n = BitVec.ofInt 32 n) ∧
    txin.scriptSig = [] ∧
    ((∃ s, findValue o "sequence" = .int s ∧ 0 ≤ (BitVec.ofInt 32 s).toInt ∧
        txin.nSequence = BitVec.ofInt 32 s) ∨
      ((findValue o "sequence").type ≠ .int ∧ txin.nSequence = 0xFFFFFFFF))

/-- `parseInput` returns exactly the input an entry describes. -/
theorem parseInput_eq_ok_iff {input : Value} {txin : CTxIn} :
    parseInput input = .ok txin ↔ InputSpec input txin := by
  constructor
  · intro h
    simp only [parseInput, bind_eq_ok, ok_bind, Value.getObj_eq_ok, throwIf_eq_ok,
      decide_eq_false_iff_not, Int.not_lt] at h
    obtain ⟨o, rfl, txid, htxid, u, -, nOutput, hget, u', hpos, h⟩ := h
    obtain ⟨n, hn, rfl⟩ := Value.getInt_eq_ok.mp hget
    have hvout : ∃ n', findValue o "vout" = .int n' ∧ 0 ≤ (BitVec.ofInt 32 n').toInt ∧
        BitVec.ofInt 32 (BitVec.ofInt 32 n).toInt = BitVec.ofInt 32 n' :=
      ⟨n, hn, hpos, ofInt_toInt _⟩
    split at h
    · simp only [bind_eq_ok, ok_bind, throwIf_eq_ok, decide_eq_false_iff_not, Int.not_lt] at h
      obtain ⟨s', hs, u'', hspos, h⟩ := h
      obtain ⟨s, hseq, rfl⟩ := Value.getInt_eq_ok.mp hs
      cases h
      exact ⟨o, rfl, htxid, hvout, rfl, .inl ⟨s, hseq, hspos, ofInt_toInt _⟩⟩
    · cases h
      exact ⟨o, rfl, htxid, hvout, rfl, .inr ⟨‹_›, rfl⟩⟩
  · rintro ⟨o, rfl, htxid, ⟨n, hn, hpos, hnout⟩, hsig, hseq⟩
    obtain ⟨⟨hash, m⟩, sig, seq⟩ := txin
    dsimp only at htxid hnout hsig hseq
    subst hnout hsig
    have hty : ∀ k, (Value.int k).type = .int := fun _ => rfl
    have hget : ∀ k, (Value.int k).getInt = .ok (BitVec.ofInt 32 k).toInt := fun _ => rfl
    simp only [parseInput, Value.getObj, ok_bind, htxid, hn, hty, hget, ne_eq, not_true_eq_false,
      decide_False, throwIf_false, Int.not_lt.mpr hpos, ofInt_toInt]
    rcases hseq with ⟨s, hs, hspos, rfl⟩ | ⟨hs, rfl⟩
    · simp only [hs, hty, hget, if_true, ok_bind, Int.not_lt.mpr hspos, decide_False,
        throwIf_false, ofInt_toInt]
    · simp only [hs, if_false]

theorem mapM_parseInput_eq_ok_iff {inputs : List Value} {vin : List CTxIn} :
    inputs.mapM parseInput = .ok vin ↔ List.Forall₂ InputSpec inputs vin := by
  simp only [mapM_eq_ok_iff, parseInput_eq_ok_iff]

/-! ## The output object -/

/-- The bytes of a `"data"` member are the hex before its first colon. -/
theorem dataOutput_eq_ok {hexdata : String} {out : CTxOut} (h : dataOutput hexdata = .ok out) :
    ∃ data, ParseHexV (.str ⟨hexdata.toList.takeWhile (· != ':')⟩) "Data" = .ok data ∧
      out.scriptPubKey = OP_RETURN :: pushData data := by
  simp only [dataOutput, bind_eq_ok] at h
  obtain ⟨data, hdata, h⟩ := h
  cases h
  have hfirst : ((hexdata.toList.splitOn ':').map String.mk).getD 0 "" =
      ⟨hexdata.toList.takeWhile (· != ':')⟩ := by
    rw [← splitOn_getD_zero]
    cases hexdata.toList.splitOn ':' <;> rfl
  exact ⟨data, by rwa [hfirst] at hdata, rfl⟩

section Outputs

variable (env : Env)

/-- A member of the output object read on its own, and the output it stands for (lines
396–424). It is either `"data"` with a string whose text up to the first colon is hex, and the
output pushes those bytes after `OP_RETURN`, with the amount of `dataOutput_amount`; or a valid
address with a value `AmountFromValue` accepts, and the output pays that amount to the address's
script. -/
def OutputSpec (s : String × Value) (out : CTxOut) : Prop :=
  if s.1 = "data" then
    ∃ hexdata, s.2 = .str hexdata ∧ dataOutput hexdata = .ok out ∧
      ∃ data, ParseHexV (.str ⟨hexdata.toList.takeWhile (· != ':')⟩) "Data" = .ok data ∧
        out.scriptPubKey = OP_RETURN :: pushData data
  else
    ∃ address, env.decodeAddress s.1 = some address ∧
      env.AmountFromValue s.2 = .ok out.nValue ∧ out.scriptPubKey = env.scriptForDestination address

/-- The addresses the address members decode to, in order; an invalid one is left out. -/
def sendToAddresses (sendTo : List (String × Value)) : List CTxDestination :=
  (sendTo.filter (·.1 != "data")).filterMap (env.decodeAddress ·.1)

theorem sendToAddresses_cons (s : String × Value) (sendTo : List (String × Value)) :
    sendToAddresses env (s :: sendTo) = sendToAddresses env [s] ++ sendToAddresses env sendTo := by
  by_cases h : s.1 = "data"
  · simp [sendToAddresses, List.filter_cons, h]
  · simp only [sendToAddresses, List.filter_cons, List.filter_nil, h, bne_iff_ne, ne_eq,
      not_false_eq_true, decide_True, if_true]
    exact List.filterMap_append [s] _ _

theorem nodup_sendToAddresses_singleton (s : String × Value) :
    (sendToAddresses env [s]).Nodup := by
  by_cases hd : s.1 = "data"
  · simp [sendToAddresses, hd]
  · cases hdec : env.decodeAddress s.1 <;> simp [sendToAddresses, hd, hdec]

/-- One step of the `setAddress` loop: the member's output is appended, and its address, if it
has one, is added unless it is there already. -/
theorem addSendTo_eq_ok_iff {addrs : List CTxDestination} {outs : List CTxOut}
    {s : String × Value} {st : List CTxDestination × List CTxOut} :
    addSendTo env (addrs, outs) s = .ok st ↔
      ∃ out, OutputSpec env s out ∧ (∀ a ∈ sendToAddresses env [s], a ∉ addrs) ∧
        st = (addrs ++ sendToAddresses env [s], outs ++ [out]) := by
  by_cases hd : s.1 = "data"
  · have hA : sendToAddresses env [s] = [] := by simp [sendToAddresses, hd]
    simp only [addSendTo, if_pos hd, OutputSpec, hA, bind_eq_ok, Value.getStr_eq_ok,
      List.append_nil, List.not_mem_nil, false_implies, implies_true, true_and, Except.ok.injEq]
    constructor
    · rintro ⟨hexdata, hs, out, hout, rfl⟩
      exact ⟨out, ⟨hexdata, hs, hout, dataOutput_eq_ok hout⟩, rfl⟩
    · rintro ⟨out, ⟨hexdata, hs, hout, -⟩, rfl⟩
      exact ⟨hexdata, hs, out, hout, rfl⟩
  · cases hdec : env.decodeAddress s.1 with
    | none => simp [addSendTo, hd, hdec, OutputSpec]
    | some a =>
      have hA : sendToAddresses env [s] = [a] := by simp [sendToAddresses, hd, hdec]
      by_cases ha : a ∈ addrs
      · simp [addSendTo, hd, hdec, ha, OutputSpec, hA]
      · simp only [addSendTo, if_neg hd, hdec, if_neg ha, OutputSpec, hA, bind_eq_ok,
          Option.some.injEq, exists_eq_left', List.mem_singleton, forall_eq, ha,
          not_false_eq_true, true_and, Except.ok.injEq, if_false]
        constructor
        · rintro ⟨nAmount, hn, rfl⟩
          exact ⟨⟨nAmount, _⟩, ⟨hn, rfl⟩, rfl⟩
        · rintro ⟨⟨nAmount, script⟩, ⟨hn, rfl⟩, rfl⟩
          exact ⟨nAmount, hn, rfl⟩

/-- **The `setAddress` loop computes the members' outputs.** From addresses without repeats, the
loop returns exactly when every member is acceptable on its own and the addresses stay pairwise
distinct; it then returns the members' outputs in order, after those it started with. -/
theorem foldlM_addSendTo_eq_ok_iff {sendTo : List (String × Value)} {addrs : List CTxDestination}
    {outs : List CTxOut} {addrs' : List CTxDestination} {outs' : List CTxOut} (h : addrs.Nodup) :
    sendTo.foldlM (addSendTo env) (addrs, outs) = .ok (addrs', outs') ↔
      ∃ new, List.Forall₂ (OutputSpec env) sendTo new ∧ outs' = outs ++ new ∧
        addrs' = addrs ++ sendToAddresses env sendTo ∧ addrs'.Nodup := by
  induction sendTo generalizing addrs outs with
  | nil =>
    simp only [List.foldlM_nil, pure, Except.pure, Except.ok.injEq, Prod.mk.injEq,
      List.forall₂_nil_left_iff, exists_eq_left, List.append_nil, sendToAddresses,
      List.filter_nil, List.filterMap_nil]
    constructor
    · rintro ⟨rfl, rfl⟩
      exact ⟨rfl, rfl, h⟩
    · rintro ⟨rfl, rfl, -⟩
      exact ⟨rfl, rfl⟩
  | cons s sendTo ih =>
    have hcons : addrs ++ sendToAddresses env (s :: sendTo) =
        addrs ++ sendToAddresses env [s] ++ sendToAddresses env sendTo := by
      rw [sendToAddresses_cons, List.append_assoc]
    rw [List.foldlM_cons, bind_eq_ok, hcons]
    constructor
    · rintro ⟨⟨a₁, o₁⟩, hstep, hrest⟩
      obtain ⟨out, hout, hdisj, hst⟩ := (addSendTo_eq_ok_iff env).mp hstep
      obtain ⟨rfl, rfl⟩ := Prod.mk.inj hst
      have h₁ : (addrs ++ sendToAddresses env [s]).Nodup :=
        List.nodup_append.mpr ⟨h, nodup_sendToAddresses_singleton env s,
          fun a ha hb => hdisj a hb ha⟩
      obtain ⟨new, hnew, rfl, rfl, hnd⟩ := (ih h₁).mp hrest
      exact ⟨out :: new, .cons hout hnew, by simp, rfl, hnd⟩
    · rintro ⟨_ | ⟨out, new⟩, hnew, rfl, rfl, hnd⟩
      · cases hnew
      · obtain ⟨hout, hnew⟩ := List.forall₂_cons.mp hnew
        have h₁ : (addrs ++ sendToAddresses env [s]).Nodup :=
          hnd.sublist (List.sublist_append_left _ _)
        have hdisj : ∀ a ∈ sendToAddresses env [s], a ∉ addrs :=
          fun a ha hmem => (List.nodup_append.mp h₁).2.2 hmem ha
        exact ⟨_, (addSendTo_eq_ok_iff env).mpr ⟨out, hout, hdisj, rfl⟩,
          (ih h₁).mpr ⟨new, hnew, by simp, rfl, hnd⟩⟩

/-- A repeated address, after members that are all accepted, stops the loop with the
duplicated-address error. -/
theorem foldlM_addSendTo_duplicate {pre post : List (String × Value)} {k : String} {v : Value}
    {a : CTxDestination} {outs : List CTxOut} (hpre : List.Forall₂ (OutputSpec env) pre outs)
    (hnd : (sendToAddresses env pre).Nodup) (hk : k ≠ "data") (ha : env.decodeAddress k = some a)
    (hdup : a ∈ sendToAddresses env pre) :
    (pre ++ (k, v) :: post).foldlM (addSendTo env) ([], []) =
      .error (.json RPC_INVALID_PARAMETER ("Invalid parameter, duplicated address: " ++ k)) := by
  rw [List.foldlM_append, (foldlM_addSendTo_eq_ok_iff env List.nodup_nil).mpr
    ⟨outs, hpre, rfl, rfl, by simpa using hnd⟩, ok_bind, List.foldlM_cons]
  simp [addSendTo, hk, ha, hdup]

/-- `createrawtransaction` on an array and an object is the input loop, then the output loop. -/
theorem createrawtransaction_obj (inputs : List Value) (sendTo : List (String × Value))
    (node : Node) :
    createrawtransaction env [.array inputs, .obj sendTo] false node =
      match inputs.mapM parseInput, sendTo.foldlM (addSendTo env) ([], []) with
      | .ok vin, .ok (_, vout) => .ok (.str (hexStr (serializeTx { vin, vout }))) node
      | .error e, _ => .error e node
      | .ok _, .error e => .error e node := by
  rw [createrawtransaction, RpcM.checkUsage_bind (by simp)]
  have hT : RPCTypeCheck [.array inputs, .obj sendTo] [.array, .obj] false = .ok () := rfl
  simp only [List.getD_cons_zero, List.getD_cons_succ, Value.getArray, Value.getObj, hT]
  rw [RpcM.bind_of_ok (RpcM.liftExcept_ok ()), RpcM.bind_of_ok (RpcM.liftExcept_ok inputs),
    RpcM.bind_of_ok (RpcM.liftExcept_ok sendTo)]
  cases inputs.mapM parseInput <;> cases sendTo.foldlM (addSendTo env) ([], []) <;> rfl

/-- **`createrawtransaction` builds what its arguments describe.** Called with an array of inputs
and an object of outputs, it either throws or returns the hex of the transaction whose inputs
are the entries (`InputSpec`) and whose outputs are the members (`OutputSpec`), in order, the
addresses of the address members being pairwise distinct; the node is unchanged either way.
Conversely it returns whenever such a transaction exists, whatever the number of `"data"`
members. A repeated address after inputs and members that are all accepted throws the
duplicated-address error for its key. -/
theorem createrawtransaction_builds (inputs : List Value) (sendTo : List (String × Value))
    (node : Node) :
    ((∃ e, createrawtransaction env [.array inputs, .obj sendTo] false node = .error e node) ∨
      ∃ vin vout, createrawtransaction env [.array inputs, .obj sendTo] false node =
          .ok (.str (hexStr (serializeTx { vin, vout }))) node ∧
        List.Forall₂ InputSpec inputs vin ∧ List.Forall₂ (OutputSpec env) sendTo vout ∧
        (sendToAddresses env sendTo).Nodup) ∧
    (∀ vin vout, List.Forall₂ InputSpec inputs vin → List.Forall₂ (OutputSpec env) sendTo vout →
      (sendToAddresses env sendTo).Nodup →
      createrawtransaction env [.array inputs, .obj sendTo] false node =
        .ok (.str (hexStr (serializeTx { vin, vout }))) node) ∧
    (∀ pre k v post a, sendTo = pre ++ (k, v) :: post → k ≠ "data" →
      (∃ vin, List.Forall₂ InputSpec inputs vin) →
      (∃ outs, List.Forall₂ (OutputSpec env) pre outs) → (sendToAddresses env pre).Nodup →
      env.decodeAddress k = some a → a ∈ sendToAddresses env pre →
      createrawtransaction env [.array inputs, .obj sendTo] false node =
        .error (.json RPC_INVALID_PARAMETER ("Invalid parameter, duplicated address: " ++ k))
          node) := by
  refine ⟨?_, fun vin vout hin hout hnd => ?_, ?_⟩
  · rw [createrawtransaction_obj]
    cases h₁ : inputs.mapM parseInput with
    | error e => exact .inl ⟨e, rfl⟩
    | ok vin =>
      rcases h₂ : sendTo.foldlM (addSendTo env) ([], []) with e | ⟨addrs, vout⟩
      · exact .inl ⟨e, rfl⟩
      · obtain ⟨new, hnew, rfl, rfl, hnd⟩ := (foldlM_addSendTo_eq_ok_iff env List.nodup_nil).mp h₂
        exact .inr ⟨vin, _, rfl, mapM_parseInput_eq_ok_iff.mp h₁, hnew, hnd⟩
  · rw [createrawtransaction_obj, mapM_parseInput_eq_ok_iff.mpr hin,
      (foldlM_addSendTo_eq_ok_iff env List.nodup_nil).mpr
        ⟨vout, hout, (List.nil_append _).symm, rfl, by simpa using hnd⟩]
  · rintro pre k v post a rfl hk ⟨vin, hin⟩ ⟨outs, hpre⟩ hnd ha hdup
    rw [createrawtransaction_obj, mapM_parseInput_eq_ok_iff.mpr hin,
      foldlM_addSendTo_duplicate env hpre hnd hk ha hdup]

end Outputs

/-- A `"vout"` of `2^32` is read by `get_int` as 0, so the input spends output 0 of the
transaction. A `"data"` member that is not hex, before two members that decode to the same
address (every string does on `mintEnv`), stops the loop with its own error. -/
theorem createrawtransaction_vout_wraps :
    createrawtransaction mintEnv
        [.array [.obj [("txid", .str (getHex 7)), ("vout", .int 4294967296)]], .obj []] false {} =
      .ok (.str (hexStr (serializeTx { vin := [{ prevout := ⟨7, 0⟩ }] }))) {} ∧
    createrawtransaction mintEnv
        [.array [], .obj [("data", .str "zz"), ("a", .int 1), ("b", .int 1)]] false {} =
      .error (.json RPC_INVALID_PARAMETER "Data must be hexadecimal string (not 'zz')") {} := by
  constructor
  · rw [createrawtransaction_obj]
    have hin : parseInput (.obj [("txid", .str (getHex 7)), ("vout", .int 4294967296)]) =
        .ok { prevout := ⟨7, 0⟩ } :=
      parseInput_eq_ok_iff.mpr ⟨_, rfl, ParseHashV_getHex 7 "txid",
        ⟨4294967296, rfl, by decide, by decide⟩, rfl, .inr ⟨by decide, rfl⟩⟩
    simp only [List.mapM_cons, List.mapM_nil, hin]
    rfl
  · rfl
end SmileyRawTx
