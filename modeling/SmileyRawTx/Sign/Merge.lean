import SmileyRawTx.Sign.View

/-!
# The sign-and-merge loop

Lines 735–761 of `signrawtransaction` (and 924–950 of `signrawtokentransaction`, the same
loop): every input of the merge target is looked up in the view; an input whose previous
output is unavailable makes the result incomplete and is left alone; any other has its
unlocking script cleared, signed, merged with the same input of every variant and verified.

`SignSignature`, `CombineSignatures` and `VerifyScript` live in `script.cpp` and are taken as
the fields of a `ScriptInterpreter`. `SignSignature` is modelled by the unlocking script it
leaves at input `nIn`, the only part of the transaction it writes.

`txv.vin[i]` is an unchecked `std::vector` access: a variant with fewer inputs than the merge
target is read past its end. The model makes that read explicit: `past txv i` is whatever the
program finds there.
-/

namespace SmileyRawTx

/-- `CKey`: a secret and whether its public key is compressed. -/
structure CKey where
  secret : uint256
  fCompressed : Bool
deriving DecidableEq, Repr

/-- `CBasicKeyStore`: the keys and redeem scripts a signer may use. -/
structure CBasicKeyStore where
  keys : List CKey := []
  scripts : List CScript := []
deriving DecidableEq, Repr

/-- The script functions of `script.cpp` that the loop calls. -/
structure ScriptInterpreter where
  /-- `SignSignature(keystore, fromPubKey, txTo, nIn, nHashType)`: the unlocking script it
  leaves at input `nIn`. -/
  signSignature :
    CBasicKeyStore → CScript → CMutableTransaction → Nat → BitVec 32 → CScript
  /-- `CombineSignatures(scriptPubKey, txTo, nIn, scriptSig1, scriptSig2)`. -/
  combineSignatures : CScript → CMutableTransaction → Nat → CScript → CScript → CScript
  /-- `VerifyScript(scriptSig, scriptPubKey, txTo, nIn, flags, nHashType)`. -/
  verifyScript :
    CScript → CScript → CMutableTransaction → Nat → BitVec 32 → BitVec 32 → Bool

/-! `script.h` constants. -/

def SIGHASH_ALL : BitVec 32 := 1
def SIGHASH_NONE : BitVec 32 := 2
def SIGHASH_SINGLE : BitVec 32 := 3
def SIGHASH_ANYONECANPAY : BitVec 32 := 0x80
def SCRIPT_VERIFY_P2SH : BitVec 32 := 1
def SCRIPT_VERIFY_STRICTENC : BitVec 32 := 2

/-- Line 735: the selector is `SINGLE`, with or without `ANYONECANPAY`. -/
def hashSingle (nHashType : BitVec 32) : Bool :=
  (nHashType &&& ~~~SIGHASH_ANYONECANPAY) == SIGHASH_SINGLE

/-! ## Writing one unlocking script -/

/-- `mergedTx.vin[i].scriptSig = s`. -/
def CMutableTransaction.setScriptSig (tx : CMutableTransaction) (i : Nat) (s : CScript) :
    CMutableTransaction :=
  { tx with vin := tx.vin.modify (fun txin => { txin with scriptSig := s }) i }

/-- `mergedTx.vin[i].scriptSig`, for an `i` in range. -/
def CMutableTransaction.scriptSigAt (tx : CMutableTransaction) (i : Nat) : CScript :=
  (tx.vin[i]?.map (·.scriptSig)).getD []

section SetScriptSig

variable (tx : CMutableTransaction) (i j : Nat) (s s' : CScript)

@[simp] theorem setScriptSig_nVersion : (tx.setScriptSig i s).nVersion = tx.nVersion := rfl
@[simp] theorem setScriptSig_nLockTime : (tx.setScriptSig i s).nLockTime = tx.nLockTime := rfl
@[simp] theorem setScriptSig_vout : (tx.setScriptSig i s).vout = tx.vout := rfl

@[simp] theorem setScriptSig_vin_length : (tx.setScriptSig i s).vin.length = tx.vin.length :=
  List.length_modify ..

theorem setScriptSig_vin_self : (tx.setScriptSig i s).vin[i]? =
    tx.vin[i]?.map fun txin => { txin with scriptSig := s } :=
  List.getElem?_modify_eq ..

theorem setScriptSig_vin_ne {i j : Nat} (h : i ≠ j) :
    (tx.setScriptSig i s).vin[j]? = tx.vin[j]? :=
  List.getElem?_modify_ne _ _ h

@[simp] theorem setScriptSig_setScriptSig :
    (tx.setScriptSig i s).setScriptSig i s' = tx.setScriptSig i s' := by
  simp only [CMutableTransaction.setScriptSig, CMutableTransaction.mk.injEq, and_true, true_and]
  apply List.ext_getElem?
  intro j
  simp only [List.getElem?_modify]
  cases tx.vin[j]? <;> simp
  split_ifs <;> rfl

theorem scriptSigAt_setScriptSig {i : Nat} (h : i < tx.vin.length) :
    (tx.setScriptSig i s).scriptSigAt i = s := by
  simp [CMutableTransaction.scriptSigAt, setScriptSig_vin_self, List.getElem?_eq_getElem h]

end SetScriptSig

/-! ## Rewriting unlocking scripts from some input on -/

/-- `tx'` is `tx` with the unlocking scripts of some inputs from `i` on rewritten. -/
inductive SigsRewrittenFrom (i : Nat) (tx : CMutableTransaction) : CMutableTransaction → Prop
  | refl : SigsRewrittenFrom i tx tx
  | set {tx' : CMutableTransaction} (j : Nat) (s : CScript) :
      i ≤ j → SigsRewrittenFrom i tx tx' → SigsRewrittenFrom i tx (tx'.setScriptSig j s)

/-- The parts of a transaction no unlocking script touches. -/
def CMutableTransaction.skeleton (tx : CMutableTransaction) :
    BitVec 32 × BitVec 32 × List CTxOut × List (COutPoint × BitVec 32) :=
  (tx.nVersion, tx.nLockTime, tx.vout, tx.vin.map fun txin => (txin.prevout, txin.nSequence))

/-- `VerifyScript` at input `i` does not read the unlocking script of any other input: the
signature hash of input `i` blanks them all. -/
def VerifyIgnoresOtherSigs (interp : ScriptInterpreter) : Prop :=
  ∀ scriptSig scriptPubKey tx i flags nHashType j s, j ≠ i →
    interp.verifyScript scriptSig scriptPubKey (tx.setScriptSig j s) i flags nHashType =
      interp.verifyScript scriptSig scriptPubKey tx i flags nHashType

@[simp] theorem skeleton_setScriptSig (tx : CMutableTransaction) (i : Nat) (s : CScript) :
    (tx.setScriptSig i s).skeleton = tx.skeleton := by
  simp only [CMutableTransaction.skeleton, setScriptSig_nVersion, setScriptSig_nLockTime,
    setScriptSig_vout, Prod.mk.injEq, true_and]
  apply List.ext_getElem?
  intro j
  simp only [List.getElem?_map, CMutableTransaction.setScriptSig, List.getElem?_modify]
  cases tx.vin[j]? <;> simp
  split_ifs <;> exact ⟨rfl, rfl⟩

namespace SigsRewrittenFrom

variable {i : Nat} {tx tx' tx'' : CMutableTransaction}

theorem trans (h₁ : SigsRewrittenFrom i tx tx') (h₂ : SigsRewrittenFrom i tx' tx'') :
    SigsRewrittenFrom i tx tx'' := by
  induction h₂ with
  | refl => exact h₁
  | set j s hj _ ih => exact .set j s hj ih

theorem mono {i' : Nat} (hi : i ≤ i') (h : SigsRewrittenFrom i' tx tx') :
    SigsRewrittenFrom i tx tx' := by
  induction h with
  | refl => exact .refl
  | set j s hj _ ih => exact .set j s (le_trans hi hj) ih

theorem skeleton_eq (h : SigsRewrittenFrom i tx tx') : tx'.skeleton = tx.skeleton := by
  induction h with
  | refl => rfl
  | set j s _ _ ih => rw [skeleton_setScriptSig, ih]

theorem vin_length (h : SigsRewrittenFrom i tx tx') : tx'.vin.length = tx.vin.length := by
  have := congrArg (fun k => k.2.2.2.length) h.skeleton_eq
  simpa [CMutableTransaction.skeleton] using this

/-- Inputs before `i` are untouched. -/
theorem vin_of_lt {j : Nat} (hj : j < i) (h : SigsRewrittenFrom i tx tx') :
    tx'.vin[j]? = tx.vin[j]? := by
  induction h with
  | refl => rfl
  | set k s hk _ ih => rw [setScriptSig_vin_ne _ _ (by omega), ih]

/-- Verification of an input before `i` gives what it gave on `tx`. -/
theorem verifyScript_of_lt {interp : ScriptInterpreter} (hI : VerifyIgnoresOtherSigs interp)
    {j : Nat} (hj : j < i) (h : SigsRewrittenFrom i tx tx') (scriptSig scriptPubKey : CScript)
    (flags nHashType : BitVec 32) :
    interp.verifyScript scriptSig scriptPubKey tx' j flags nHashType =
      interp.verifyScript scriptSig scriptPubKey tx j flags nHashType := by
  induction h with
  | refl => rfl
  | set k s hk _ ih => rw [hI _ _ _ _ _ _ _ _ (by omega), ih]

end SigsRewrittenFrom

/-! ## The loop -/

section Loop

variable (interp : ScriptInterpreter) (past : CMutableTransaction → Nat → CScript)
  (view : CCoinsViewCache) (keystore : CBasicKeyStore) (nHashType : BitVec 32)
  (txVariants : List CMutableTransaction)

/-- `txv.vin[i].scriptSig`; when `i` is out of range the read goes past the end of `txv.vin`
and returns `past txv i`. -/
def variantScriptSig (txv : CMutableTransaction) (i : Nat) : CScript :=
  match txv.vin[i]? with
  | some txin => txin.scriptSig
  | none => past txv i

/-- Lines 755–758: merge the unlocking script of input `i` of every variant into the target. -/
def combineVariants (prevPubKey : CScript) (i : Nat) (mergedTx : CMutableTransaction) :
    CMutableTransaction :=
  txVariants.foldl (fun mergedTx txv =>
    mergedTx.setScriptSig i (interp.combineSignatures prevPubKey mergedTx i
      (mergedTx.scriptSigAt i) (variantScriptSig past txv i))) mergedTx

/-- The flags of line 759. -/
def signFlags : BitVec 32 := SCRIPT_VERIFY_P2SH ||| SCRIPT_VERIFY_STRICTENC

/-- The loop body at input `i` (lines 740–760). -/
def signInput (st : CMutableTransaction × Bool) (i : Nat) : CMutableTransaction × Bool :=
  match st.1.vin[i]? with
  | none => st
  | some txin =>
    match view.availableOut txin.prevout.hash txin.prevout.n.toNat with
    | none => (st.1, false)
    | some coin =>
      let prevPubKey := coin.scriptPubKey
      let mergedTx := st.1.setScriptSig i []
      let mergedTx :=
        if !hashSingle nHashType || decide (i < mergedTx.vout.length) then
          mergedTx.setScriptSig i (interp.signSignature keystore prevPubKey mergedTx i nHashType)
        else mergedTx
      let mergedTx := combineVariants interp past txVariants prevPubKey i mergedTx
      (mergedTx, st.2 && interp.verifyScript (mergedTx.scriptSigAt i) prevPubKey mergedTx i
        signFlags 0)

/-- `for (i = start; i < start + count; i++)` over the loop body. -/
def signFrom : Nat → Nat → CMutableTransaction × Bool → CMutableTransaction × Bool
  | _, 0, st => st
  | i, k + 1, st =>
    signFrom (i + 1) k (signInput interp past view keystore nHashType txVariants st i)

/-- Lines 738–761, run from `mergedTx = txVariants[0]` and `fComplete = true`: the merged
transaction and the completeness flag. -/
def signWhatWeCan (mergedTx : CMutableTransaction) : CMutableTransaction × Bool :=
  signFrom interp past view keystore nHashType txVariants 0 mergedTx.vin.length (mergedTx, true)

theorem combineVariants_setScriptSig (prevPubKey : CScript) (i : Nat) (tx : CMutableTransaction)
    (s₀ : CScript) : ∃ s, combineVariants interp past txVariants prevPubKey i
      (tx.setScriptSig i s₀) = tx.setScriptSig i s := by
  induction txVariants generalizing s₀ with
  | nil => exact ⟨s₀, rfl⟩
  | cons txv rest ih =>
    simp only [combineVariants, List.foldl_cons, setScriptSig_setScriptSig]
    exact ih _

theorem combineVariants_vin_length (prevPubKey : CScript) (i : Nat) (tx : CMutableTransaction) :
    (combineVariants interp past txVariants prevPubKey i tx).vin.length = tx.vin.length := by
  induction txVariants generalizing tx with
  | nil => rfl
  | cons txv rest ih =>
    simp only [combineVariants, List.foldl_cons] at ih ⊢
    rw [ih, setScriptSig_vin_length]

/-- The merged unlocking script is the last variant's combined into what the others left. -/
theorem combineVariants_append_scriptSigAt (prevPubKey : CScript) {i : Nat}
    {tx : CMutableTransaction} (h : i < tx.vin.length) (txv : CMutableTransaction) :
    ∃ tx' s, (combineVariants interp past (txVariants ++ [txv]) prevPubKey i tx).scriptSigAt i =
      interp.combineSignatures prevPubKey tx' i s (variantScriptSig past txv i) := by
  rw [combineVariants, List.foldl_append, List.foldl_cons, List.foldl_nil]
  refine ⟨_, _, scriptSigAt_setScriptSig _ _ ?_⟩
  rw [← combineVariants, combineVariants_vin_length]
  exact h

/-- **What one pass can do.** Input `i` is out of range and nothing happens; or its previous
output is unavailable and only the flag drops; or the pass writes input `i`'s unlocking script
and the flag becomes the verification of that script in the transaction as written. -/
theorem signInput_cases (st : CMutableTransaction × Bool) (i : Nat) :
    (st.1.vin[i]? = none ∧ signInput interp past view keystore nHashType txVariants st i = st) ∨
    (∃ txin, st.1.vin[i]? = some txin ∧
      view.availableOut txin.prevout.hash txin.prevout.n.toNat = none ∧
      signInput interp past view keystore nHashType txVariants st i = (st.1, false)) ∨
    (∃ txin coin s, st.1.vin[i]? = some txin ∧
      view.availableOut txin.prevout.hash txin.prevout.n.toNat = some coin ∧
      signInput interp past view keystore nHashType txVariants st i =
        (st.1.setScriptSig i s, st.2 && interp.verifyScript s coin.scriptPubKey
          (st.1.setScriptSig i s) i signFlags 0)) := by
  unfold signInput
  rcases hv : st.1.vin[i]? with _ | txin
  · exact .inl ⟨rfl, rfl⟩
  · dsimp only
    rcases hc : view.availableOut txin.prevout.hash txin.prevout.n.toNat with _ | coin
    · exact .inr (.inl ⟨txin, rfl, hc, rfl⟩)
    · have hi : i < st.1.vin.length := by
        by_contra h; rw [List.getElem?_eq_none (by omega)] at hv; cases hv
      right; right
      dsimp only
      split_ifs
      all_goals
        obtain ⟨s, hs⟩ := combineVariants_setScriptSig interp past txVariants
          coin.scriptPubKey i st.1 _
        refine ⟨txin, coin, s, rfl, hc, ?_⟩
      · rw [setScriptSig_setScriptSig, hs, scriptSigAt_setScriptSig _ _ hi]
      · rw [hs, scriptSigAt_setScriptSig _ _ hi]

/-- A pass at input `i` rewrites at most input `i`'s unlocking script. -/
theorem signInput_rewrites (st : CMutableTransaction × Bool) (i : Nat) :
    SigsRewrittenFrom i st.1 (signInput interp past view keystore nHashType txVariants st i).1 := by
  rcases signInput_cases interp past view keystore nHashType txVariants st i with
    ⟨_, h⟩ | ⟨_, _, _, h⟩ | ⟨_, _, s, _, _, h⟩ <;> rw [h]
  · exact .refl
  · exact .refl
  · exact .set i s le_rfl .refl

/-- **Run frame.** The loop from input `i` on rewrites only unlocking scripts of inputs from
`i` on. -/
theorem signFrom_rewrites (i k : Nat) (st : CMutableTransaction × Bool) :
    SigsRewrittenFrom i st.1
      (signFrom interp past view keystore nHashType txVariants i k st).1 := by
  induction k generalizing i st with
  | zero => exact .refl
  | succ k ih =>
    exact (signInput_rewrites interp past view keystore nHashType txVariants st i).trans
      ((ih (i + 1) _).mono (Nat.le_succ i))

/-- An input whose previous output is unavailable is never written. -/
theorem signFrom_vin_of_unavailable (i k : Nat) (st : CMutableTransaction × Bool) {j : Nat}
    {txin : CTxIn} (hj : st.1.vin[j]? = some txin)
    (hu : view.availableOut txin.prevout.hash txin.prevout.n.toNat = none) :
    (signFrom interp past view keystore nHashType txVariants i k st).1.vin[j]? = some txin := by
  induction k generalizing i st with
  | zero => exact hj
  | succ k ih =>
    apply ih
    rcases signInput_cases interp past view keystore nHashType txVariants st i with
      ⟨-, h⟩ | ⟨-, -, -, h⟩ | ⟨t, c, s, ht, hc, h⟩ <;> rw [h]
    · exact hj
    · exact hj
    · have hij : i ≠ j := by rintro rfl; rw [hj] at ht; cases ht; rw [hu] at hc; cases hc
      rw [setScriptSig_vin_ne _ _ hij, hj]

/-- Input `j` of `tx` is resolved in the view and its unlocking script verifies in `tx`. -/
def InputVerifies (tx : CMutableTransaction) (j : Nat) : Prop :=
  ∃ txin coin, tx.vin[j]? = some txin ∧
    view.availableOut txin.prevout.hash txin.prevout.n.toNat = some coin ∧
    interp.verifyScript txin.scriptSig coin.scriptPubKey tx j signFlags 0 = true

/-- The visited range `[i, i + k + 1)` is input `i` and the range `[i + 1, i + 1 + k)`. -/
theorem forall_range_succ {i k n : Nat} (P : Nat → Prop) :
    (∀ j, i ≤ j → j < i + (k + 1) → j < n → P j) ↔
      ((i < n → P i) ∧ ∀ j, i + 1 ≤ j → j < i + 1 + k → j < n → P j) := by
  constructor
  · intro h
    exact ⟨fun hi => h i le_rfl (by omega) hi,
      fun j h₁ h₂ h₃ => h j (by omega) (by omega) h₃⟩
  · rintro ⟨h₀, h⟩ j h₁ h₂ h₃
    rcases Nat.eq_or_lt_of_le h₁ with rfl | h₁
    · exact h₀ h₃
    · exact h j h₁ (by omega) h₃

/-- **Run completeness.** The flag a run ends with is the flag it started with, and-ed with the
verification, in the final transaction, of every input the run visited. -/
theorem signFrom_snd (hI : VerifyIgnoresOtherSigs interp) (i k : Nat)
    (st : CMutableTransaction × Bool) :
    (signFrom interp past view keystore nHashType txVariants i k st).2 = true ↔
      st.2 = true ∧ ∀ j, i ≤ j → j < i + k → j < st.1.vin.length →
        InputVerifies interp view
          (signFrom interp past view keystore nHashType txVariants i k st).1 j := by
  induction k generalizing i st with
  | zero =>
    simp only [signFrom]
    exact ⟨fun h => ⟨h, fun j h₁ h₂ => by omega⟩, And.left⟩
  | succ k ih =>
    rw [signFrom, ih, forall_range_succ,
      (signInput_rewrites interp past view keystore nHashType txVariants st i).vin_length]
    have hT := signFrom_rewrites interp past view keystore nHashType txVariants (i + 1) k
      (signInput interp past view keystore nHashType txVariants st i)
    rcases signInput_cases interp past view keystore nHashType txVariants st i with
      ⟨hn, h⟩ | ⟨txin, hv, hu, h⟩ | ⟨txin, coin, s, hv, hc, h⟩ <;> rw [h] at hT ⊢
    · have : ¬ i < st.1.vin.length := fun hi => by
        rw [List.getElem?_eq_getElem hi] at hn; cases hn
      simp only [this, false_implies, true_and]
    · simp only [Bool.false_eq_true, false_and, false_iff, not_and]
      intro _ hi _
      obtain ⟨t, c, ht, hc, -⟩ := hi (List.getElem?_eq_some_iff.mp hv).1
      rw [hT.vin_of_lt (Nat.lt_succ_self i), hv] at ht
      cases ht; rw [hu] at hc; cases hc
    · have hi : i < st.1.vin.length := (List.getElem?_eq_some_iff.mp hv).1
      have hvi : InputVerifies interp view
          (signFrom interp past view keystore nHashType txVariants (i + 1) k
            (st.1.setScriptSig i s, st.2 && interp.verifyScript s coin.scriptPubKey
              (st.1.setScriptSig i s) i signFlags 0)).1 i ↔
          interp.verifyScript s coin.scriptPubKey (st.1.setScriptSig i s) i signFlags 0 = true := by
        rw [InputVerifies, hT.vin_of_lt (Nat.lt_succ_self i), setScriptSig_vin_self, hv]
        simp only [Option.map_some', Option.some.injEq,
          hT.verifyScript_of_lt hI (Nat.lt_succ_self i)]
        constructor
        · rintro ⟨t, c, rfl, hc', hv'⟩
          rw [hc] at hc'; cases hc'; exact hv'
        · exact fun hv' => ⟨_, coin, rfl, hc, hv'⟩
      simp only [Bool.and_eq_true, hvi, setScriptSig_vin_length, hi, true_implies]
      tauto

/-! ## What the loop returns -/

/-- **The merged transaction keeps the target's frame.** Run on the variants `t0 :: rest`
with `t0` as merge target, the loop returns `t0`'s version, lock time and outputs, and every
input's previous output and sequence; an input whose previous output is unavailable comes
back exactly as `t0` had it. -/
theorem signWhatWeCan_frame (t0 : CMutableTransaction) (rest : List CMutableTransaction) :
    let T := (signWhatWeCan interp past view keystore nHashType (t0 :: rest) t0).1
    T.nVersion = t0.nVersion ∧ T.nLockTime = t0.nLockTime ∧ T.vout = t0.vout ∧
      T.vin.map (fun txin => (txin.prevout, txin.nSequence)) =
        t0.vin.map (fun txin => (txin.prevout, txin.nSequence)) ∧
      ∀ (i : Nat) (txin : CTxIn), t0.vin[i]? = some txin →
        view.availableOut txin.prevout.hash txin.prevout.n.toNat = none →
          T.vin[i]? = some txin := by
  have hsk := (signFrom_rewrites interp past view keystore nHashType (t0 :: rest) 0
    t0.vin.length (t0, true)).skeleton_eq
  simp only [CMutableTransaction.skeleton, Prod.mk.injEq] at hsk
  exact ⟨hsk.1, hsk.2.1, hsk.2.2.1, hsk.2.2.2, fun i txin hi hu =>
    signFrom_vin_of_unavailable interp past view keystore nHashType _ 0 _ (t0, true) hi hu⟩

/-- **Completeness is verification of the returned transaction.** When `VerifyScript` at an
input ignores the other inputs' unlocking scripts, the loop reports `complete` exactly when
every input of the transaction it returns has an available previous output whose locking
script its unlocking script satisfies, in that transaction, under `P2SH | STRICTENC`. -/
theorem signWhatWeCan_complete_iff (hI : VerifyIgnoresOtherSigs interp)
    (t0 : CMutableTransaction) (rest : List CMutableTransaction) :
    let r := signWhatWeCan interp past view keystore nHashType (t0 :: rest) t0
    r.2 = true ↔ ∀ i < r.1.vin.length, ∃ txin coin, r.1.vin[i]? = some txin ∧
      view.availableOut txin.prevout.hash txin.prevout.n.toNat = some coin ∧
      interp.verifyScript txin.scriptSig coin.scriptPubKey r.1 i signFlags 0 = true := by
  have hlen := (signFrom_rewrites interp past view keystore nHashType (t0 :: rest) 0
    t0.vin.length (t0, true)).vin_length
  show (signWhatWeCan interp past view keystore nHashType (t0 :: rest) t0).2 = true ↔ _
  rw [signWhatWeCan, signFrom_snd interp past view keystore nHashType _ hI, hlen]
  simp only [true_and, Nat.zero_le, true_implies, Nat.zero_add]
  exact ⟨fun h i hi => h i hi hi, fun h i hi _ => h i hi⟩

end Loop

/-- An interpreter whose signer writes the locking script as the unlocking script, and whose
`VerifyScript` accepts exactly an unlocking script equal to the locking script, ignores the
other inputs. On a one-input target whose previous output a hint makes available, the loop
signs the input and reports the transaction complete, as verification of it says. -/
theorem signWhatWeCan_complete_iff_hinted :
    let interp : ScriptInterpreter :=
      ⟨fun _ prevPubKey _ _ _ => prevPubKey, fun _ _ _ scriptSig1 _ => scriptSig1,
        fun scriptSig scriptPubKey _ _ _ _ => scriptSig == scriptPubKey⟩
    let t0 : CMutableTransaction := { vin := [{ prevout := ⟨7, 0⟩ }] }
    let view := installPrevOuts (warmView viewDummy t0.vin) [⟨7, 0, [0x51]⟩]
    let r := signWhatWeCan interp (fun _ _ => []) view {} SIGHASH_ALL [t0] t0
    VerifyIgnoresOtherSigs interp ∧ r.2 = true ∧
      (r.2 = true ↔ ∀ i < r.1.vin.length, ∃ txin coin, r.1.vin[i]? = some txin ∧
        view.availableOut txin.prevout.hash txin.prevout.n.toNat = some coin ∧
        interp.verifyScript txin.scriptSig coin.scriptPubKey r.1 i signFlags 0 = true) := by
  intro interp t0 view r
  have hI : VerifyIgnoresOtherSigs interp := fun _ _ _ _ _ _ _ _ _ => rfl
  have hv : view.availableOut 7 0 = some ⟨0, [0x51]⟩ := by
    rw [installPrevOuts_availableOut (warmView_base _ _)]
    rfl
  have hr : r.2 = true := by
    show (signInput interp _ view {} SIGHASH_ALL [t0] (t0, true) 0).2 = true
    rw [signInput]
    simp only [show t0.vin[0]? = some { prevout := ⟨7, 0⟩ } from rfl, hv]
    decide
  exact ⟨hI, hr, signWhatWeCan_complete_iff interp _ _ _ _ hI t0 []⟩

/-- **A shorter variant is read past its end.** The merge target spends output 0 of
transaction `7`, made available by a prevout hint, and the second variant has no inputs. The
unlocking script the loop leaves at input 0 is what `CombineSignatures` makes of `past`, the
bytes after the end of the second variant's input vector. -/
theorem signWhatWeCan_reads_past_short_variant (interp : ScriptInterpreter)
    (past : CMutableTransaction → Nat → CScript) (keystore : CBasicKeyStore)
    (nHashType : BitVec 32) :
    let t0 : CMutableTransaction := { vin := [{ prevout := ⟨7, 0⟩ }] }
    let t1 : CMutableTransaction := {}
    let view := installPrevOuts (warmView viewDummy t0.vin) [⟨7, 0, [0x51]⟩]
    t1.vin.length ≤ 0 ∧ ∃ tx s,
      (signWhatWeCan interp past view keystore nHashType [t0, t1] t0).1.scriptSigAt 0 =
        interp.combineSignatures [0x51] tx 0 s (past t1 0) := by
  intro t0 t1 view
  have hv : view.availableOut 7 0 = some ⟨0, [0x51]⟩ := by
    rw [installPrevOuts_availableOut (warmView_base _ _)]
    rfl
  refine ⟨le_rfl, ?_⟩
  -- one input, so the loop is one pass, which finds the hinted output and merges both variants
  show ∃ tx s, (signInput interp past view keystore nHashType [t0, t1] (t0, true) 0).1.scriptSigAt 0
    = _
  rw [signInput]
  simp only [show t0.vin[0]? = some { prevout := ⟨7, 0⟩ } from rfl, hv]
  split_ifs <;>
    exact combineVariants_append_scriptSigAt interp past [t0] _ (by simp [t0]) t1

end SmileyRawTx
