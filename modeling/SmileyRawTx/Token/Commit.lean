import SmileyRawTx.Node.State

/-!
# Token identifiers

`createtoken` (lines 1036–1092) and `CreateToken` (lines 1095–1139), which `inittoken` calls,
turn a file and the id of an earlier transaction into a token. They read the file into a `char`
array, make a `string` of it and append the id, hash the first 64 bytes of that string with
`CHashWriter(1, 1)`, sign the hash with a fresh key, and return the signature in hex as the
token's id, with the hash of the fresh public key and the key itself.

`string filestring(buffer)` reads `buffer` as a C string: it stops at the file's first zero
byte, and on a file with no zero byte it goes on past the array into whatever the stack holds.
The write of 64 bytes reads past the string's end when the string is shorter. Both reads past
an end are modelled by the bytes `Env.pastBuffer` and `Env.pastString`.
-/

namespace SmileyRawTx

/-! ## `GetHexStringFromBytes` -/

/-- The `if (half == 0) s = s + "0"; … else if (half == 15) s = s + "f";` chains of lines
962–1030: the digit of `half` when it is one of `0 … 15`, nothing otherwise. -/
def appendHalf (s : String) (half : BitVec 32) : String :=
  if half.toNat < 16 then s.push (hexChar half.toNat) else s

/-- `GetHexStringFromBytes(c)` (lines 957–1034). The loop reads each byte as a `char`, which is
signed, so `character >> 4` shifts the byte sign-extended to `int`. -/
def GetHexStringFromBytes (c : Bytes) : String :=
  c.foldl (fun s character =>
    let firstHalf := (character.signExtend 32).sshiftRight 4 &&& 0x0F
    let secondHalf := character.signExtend 32 &&& 0x0F
    appendHalf (appendHalf s firstHalf) secondHalf) ""

/-- The halves the loop computes are the byte's two digits, whatever its sign. -/
theorem halves_signExtend : ∀ b : BitVec 8,
    ((b.signExtend 32).sshiftRight 4 &&& 0x0F).toNat = b.toNat / 16 ∧
      (b.signExtend 32 &&& 0x0F).toNat = b.toNat % 16 := by decide

theorem GetHexStringFromBytes_eq_hexStr (c : Bytes) : GetHexStringFromBytes c = hexStr c := by
  suffices h : ∀ s : String, c.foldl (fun s character =>
      appendHalf (appendHalf s ((character.signExtend 32).sshiftRight 4 &&& 0x0F))
        (character.signExtend 32 &&& 0x0F)) s = ⟨s.data ++ c.flatMap hexPair⟩ from h ""
  induction c with
  | nil => intro s; simp
  | cons b c ih =>
    intro s
    obtain ⟨h₁, h₂⟩ := halves_signExtend b
    have hb : b.toNat / 16 < 16 := by omega
    rw [List.foldl_cons, ih]
    simp only [appendHalf, h₁, h₂, hb, Nat.mod_lt _ (by decide : 16 > 0), if_true, String.push,
      List.flatMap_cons, hexPair, List.append_assoc, List.singleton_append, List.cons_append,
      List.nil_append]

/-- **`GetHexStringFromBytes` writes `HexStr`.** For every byte vector, bytes from `0x80` up
included, whose `character >> 4` shifts in ones: two characters per byte, the lowercase digits
of its high and low halves at positions `2k` and `2k + 1`, so `ParseHex` reads the bytes back. -/
theorem GetHexStringFromBytes_digits (v : Bytes) :
    GetHexStringFromBytes v = hexStr v ∧ (GetHexStringFromBytes v).length = 2 * v.length ∧
      (∀ k (hk : k < v.length),
        (GetHexStringFromBytes v).data[2 * k]? = some (hexChar (v[k].toNat / 16)) ∧
        (GetHexStringFromBytes v).data[2 * k + 1]? = some (hexChar (v[k].toNat % 16))) ∧
      parseHex (GetHexStringFromBytes v).data = v := by
  rw [GetHexStringFromBytes_eq_hexStr]
  refine ⟨rfl, length_hexPairs v, fun k hk => ?_, parseHex_hexStr v⟩
  simpa [List.getElem?_eq_getElem hk] using getElem?_hexPairs v k

/-! ## The hashed window -/

/-- The bytes of a `std::string` holding JSON text: its UTF-8 encoding. -/
def stringBytes (s : String) : Bytes :=
  s.toList.flatMap fun c => (String.utf8EncodeChar c).map fun b => BitVec.ofNat 8 b.toNat

/-- `string(buffer)`: the bytes before the first zero. -/
def cString (mem : Bytes) : Bytes := mem.takeWhile (· ≠ 0)

/-- Lines 1099–1117 (and 1044–1063 of `createtoken`): the 64 bytes written to the hash writer,
taken from the C string of the file's buffer followed by the id. -/
def hashWindow (buffer : Bytes) (previousTxId : String) (pastBuffer pastString : Bytes) :
    Bytes :=
  let filestring := cString (buffer ++ pastBuffer) ++ stringBytes previousTxId
  (filestring ++ 0 :: pastString).take 64

/-- Hex digits are one byte each in UTF-8, none of them zero. -/
theorem utf8EncodeChar_hexChar : ∀ v : Fin 16,
    ((String.utf8EncodeChar (hexChar v)).map fun b => BitVec.ofNat 8 b.toNat) =
      [BitVec.ofNat 8 (hexChar v).toNat] ∧ BitVec.ofNat 8 (hexChar v).toNat ≠ 0 := by decide

theorem stringBytes_hexStr (bs : Bytes) :
    stringBytes (hexStr bs) = (bs.flatMap hexPair).map fun c => BitVec.ofNat 8 c.toNat := by
  have h : ∀ c ∈ bs.flatMap hexPair, ((String.utf8EncodeChar c).map fun b =>
      BitVec.ofNat 8 b.toNat) = [BitVec.ofNat 8 c.toNat] := by
    intro c hc
    simp only [List.mem_flatMap, hexPair, List.mem_cons, List.mem_singleton,
      List.not_mem_nil, or_false] at hc
    obtain ⟨b, -, rfl | rfl⟩ := hc
    · exact (utf8EncodeChar_hexChar ⟨b.toNat / 16, by omega⟩).1
    · exact (utf8EncodeChar_hexChar ⟨b.toNat % 16, by omega⟩).1
  simp only [stringBytes, hexStr, String.toList]
  rw [List.flatMap_congr h, List.map_eq_flatMap]

/-- A file whose first byte is zero is hashed as the id alone. -/
theorem hashWindow_zero_cons (post : Bytes) (previousTxId : String)
    (pastBuffer pastString : Bytes) :
    hashWindow (0 :: post) previousTxId pastBuffer pastString =
      (stringBytes previousTxId ++ 0 :: pastString).take 64 := by
  rw [hashWindow, cString, List.cons_append, List.takeWhile_cons_of_neg (by simp), List.nil_append]

/-- The text of a hash starts with a byte that is not zero. -/
theorem stringBytes_getHex (h : uint256) :
    ∃ x rest, stringBytes (getHex h) = x :: rest ∧ x ≠ 0 := by
  obtain ⟨b, bs, hb⟩ : ∃ b bs, (putLE 32 h.toNat).reverse = b :: bs :=
    List.exists_cons_of_ne_nil (List.reverse_eq_nil_iff.not.mpr (List.cons_ne_nil _ _))
  rw [getHex, hb, stringBytes_hexStr]
  exact ⟨_, _, rfl, (utf8EncodeChar_hexChar ⟨b.toNat / 16, by omega⟩).2⟩

/-! ## The token -/

/-- The object both calls return. -/
def tokenObject (tokenId pubKeyString privateKeyHex : String) : Value :=
  .obj [("Token ID", .str tokenId), ("Token public key", .str pubKeyString),
    ("Token private key", .str privateKeyHex)]

section Token

variable (env : Env)

/-- What `createtoken` and `CreateToken` do once the file is read: hash the window, sign the
hash with the fresh key and describe the token. -/
def commitToken (buffer : Bytes) (previousTxId : String) (key : CKey) : Value :=
  let hash := env.hashWriter (hashWindow buffer previousTxId env.pastBuffer env.pastString)
  let signature := env.Sign key hash
  tokenObject (GetHexStringFromBytes signature) (getHex (env.pubKeyHash key))
    (env.encodeSecret key)

/-- `CreateToken(pathToFile, previousTxId)`; `secret` is what `MakeNewKey(false)` draws. -/
def CreateToken (pathToFile previousTxId : String) (secret : uint256) : Value :=
  commitToken env (env.readFile pathToFile) previousTxId ⟨secret, false⟩

/-- The token `CreateToken` describes: its id is the hex of the signature of the hashed window. -/
theorem CreateToken_getObj (pathToFile previousTxId : String) (secret : uint256) :
    (CreateToken env pathToFile previousTxId secret).getObj = .ok
      [("Token ID", .str (hexStr (env.Sign ⟨secret, false⟩ (env.hashWriter (hashWindow
          (env.readFile pathToFile) previousTxId env.pastBuffer env.pastString))))),
        ("Token public key", .str (getHex (env.pubKeyHash ⟨secret, false⟩))),
        ("Token private key", .str (env.encodeSecret ⟨secret, false⟩))] := by
  rw [CreateToken, commitToken, GetHexStringFromBytes_eq_hexStr]
  rfl

/-- The help text that `createtoken` throws on `help` or a wrong number of parameters. -/
def createtokenHelp : String :=
  "createtoken \"absolute_path_to_file\" \"previous_tx_id\" " ++
  "\ncreate a token from file specified and an output from the transactions with id: " ++
  "transaction_id needs to be used in creation" ++
  "\nArguments:\n" ++
  "1. \"absolute_path_to_file\"       (string, required) Absolute path to file to be " ++
  "tokenized\n" ++
  "2. \"previous_tx_id\" (string, required) In order for the token to be valid output from " ++
  "this transaction needs to be used for creating the token" ++
  "Result:\n" ++
  "\"tokenid\" (string) The token id.\n" ++
  "\nExamples\n" ++
  env.HelpExampleCli "lottery" "1000"

/-- `createtoken(params, fhelp)`; `secret` is what `MakeNewKey(false)` draws. -/
def createtoken (params : List Value) (fhelp : Bool) (secret : uint256) : RpcM Value := do
  checkUsage (fhelp || params.length < 2 || params.length > 2) (createtokenHelp env)
  let pathToFile ← liftExcept (params.getD 0 .null).getStr
  let previousTxId ← liftExcept (params.getD 1 .null).getStr
  pure (commitToken env (env.readFile pathToFile) previousTxId ⟨secret, false⟩)

theorem createtoken_keeps (params : List Value) (fhelp : Bool) (secret : uint256) :
    (createtoken env params fhelp secret).Keeps :=
  .bind (RpcM.keeps_checkUsage _ _) fun _ => .bind (RpcM.keeps_liftExcept _) fun _ =>
    .bind (RpcM.keeps_liftExcept _) fun _ => RpcM.keeps_pure _

/-- Two files that differ only after a leading zero byte are hashed through the same window,
the bytes of the id, and give the same token; that window is not the files' first bytes
followed by the id. -/
theorem commitToken_zero_led_files (inputtxid : uint256) (key : CKey) :
    let F₁ : Bytes := [0, 0x41]
    let F₂ : Bytes := [0, 0x42]
    let A := getHex inputtxid
    hashWindow F₁ A env.pastBuffer env.pastString =
        hashWindow F₂ A env.pastBuffer env.pastString ∧
      hashWindow F₁ A env.pastBuffer env.pastString ≠ (F₁ ++ stringBytes A).take 64 ∧
      commitToken env F₁ A key = commitToken env F₂ A key := by
  intro F₁ F₂ A
  have h₁ := hashWindow_zero_cons [0x41] A env.pastBuffer env.pastString
  have h₂ := hashWindow_zero_cons [0x42] A env.pastBuffer env.pastString
  obtain ⟨x, rest, hA, hx⟩ := stringBytes_getHex inputtxid
  refine ⟨h₁.trans h₂.symm, fun h => hx ?_, by simp only [commitToken, h₁, h₂]⟩
  rw [h₁, hA] at h
  exact Option.some.inj (congrArg List.head? h)

end Token

end SmileyRawTx
