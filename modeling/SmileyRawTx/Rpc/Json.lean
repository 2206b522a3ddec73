import SmileyRawTx.Core.Transaction

/-!
# JSON parameters and RPC errors

The RPC calls take `json_spirit` values and report failure by throwing. A call is modelled as
a function into `Except RpcError`: `JSONRPCError(code, message)` and `std::runtime_error` are
the two constructors of `RpcError`, with the codes of `rpcprotocol.h`.

The parameter helpers declared in `rpcserver.h` (`RPCTypeCheck`, `ParseHashV`, `ParseHexV` and
their object forms) are defined in `rpcserver.cpp`, which is not under src/; they follow the
header's comments: a type check that throws on a parameter of the wrong type and ignores missing
ones, and hex parsers that throw unless the value is a hex string.
-/

namespace SmileyRawTx

/-- `json_spirit::Value`. A real is kept as `mantissa / 10 ^ scale`. -/
inductive Value where
  | obj (o : List (String × Value))
  | array (a : List Value)
  | str (s : String)
  | bool (b : Bool)
  | int (i : Int)
  | real (mantissa : Int) (scale : Nat)
  | null

/-- `json_spirit::Value_type`, in its declaration order. -/
inductive ValueType where
  | obj | array | str | bool | int | real | null
deriving DecidableEq, Repr

def Value.type : Value → ValueType
  | .obj _ => .obj
  | .array _ => .array
  | .str _ => .str
  | .bool _ => .bool
  | .int _ => .int
  | .real _ _ => .real
  | .null => .null

/-- `Value_type_name`. -/
def ValueType.name : ValueType → String
  | .obj => "obj"
  | .array => "array"
  | .str => "str"
  | .bool => "bool"
  | .int => "int"
  | .real => "real"
  | .null => "null"

/-- How an RPC call ends when it throws. -/
inductive RpcError where
  /-- `JSONRPCError(code, message)` -/
  | json (code : Int) (message : String)
  /-- A `std::exception` whose `what()` is `message`, which the server reports as such: a
  `std::runtime_error`, among them the help text of a call used the wrong way, or the
  `std::length_error` of a vector grown past its maximum size -/
  | runtime (message : String)
deriving DecidableEq, Repr

/-! Error codes of `rpcprotocol.h`. -/

def RPC_TYPE_ERROR : Int := -3
def RPC_WALLET_ERROR : Int := -4
def RPC_INVALID_ADDRESS_OR_KEY : Int := -5
def RPC_INVALID_PARAMETER : Int := -8
def RPC_DESERIALIZATION_ERROR : Int := -22
def RPC_TRANSACTION_ERROR : Int := -25
def RPC_TRANSACTION_REJECTED : Int := -26
def RPC_TRANSACTION_ALREADY_IN_CHAIN : Int := -27

/-- `if (fail) throw error;` -/
def throwIf (fail : Bool) (error : RpcError) : Except RpcError Unit :=
  if fail then .error error else .ok ()

@[simp] theorem throwIf_false (error : RpcError) : throwIf false error = .ok () := rfl

@[simp] theorem throwIf_eq_ok {fail : Bool} {error : RpcError} {u : Unit} :
    throwIf fail error = .ok u ↔ fail = false := by
  cases fail <;> simp [throwIf]

/-! ## `json_spirit` accessors -/

/-- `check_type`: the `std::runtime_error` a `get_*` of the wrong type throws. -/
def checkType (v : Value) (t : ValueType) : Except RpcError Unit :=
  if v.type = t then .ok ()
  else .error (.runtime ("value type is " ++ v.type.name ++ ", expected " ++ t.name))

def Value.getStr : Value → Except RpcError String
  | .str s => .ok s
  | v => do checkType v .str; .ok ""

/-- `get_int()`: the stored `int64` cast to `int`, that is its low 32 bits as a signed number. -/
def Value.getInt : Value → Except RpcError Int
  | .int i => .ok (BitVec.ofInt 32 i).toInt
  | v => do checkType v .int; .ok 0

def Value.getBool : Value → Except RpcError Bool
  | .bool b => .ok b
  | v => do checkType v .bool; .ok false

def Value.getArray : Value → Except RpcError (List Value)
  | .array a => .ok a
  | v => do checkType v .array; .ok []

def Value.getObj : Value → Except RpcError (List (String × Value))
  | .obj o => .ok o
  | v => do checkType v .obj; .ok []

/-! Each accessor returns exactly on a value of its type. -/

theorem Value.getStr_eq_ok {v : Value} {s : String} : v.getStr = .ok s ↔ v = .str s := by
  cases v <;> simp [Value.getStr, checkType, Value.type, bind, Except.bind]

theorem Value.getInt_eq_ok {v : Value} {i : Int} :
    v.getInt = .ok i ↔ ∃ n, v = .int n ∧ (BitVec.ofInt 32 n).toInt = i := by
  cases v <;> simp [Value.getInt, checkType, Value.type, bind, Except.bind]

theorem Value.getObj_eq_ok {v : Value} {o : List (String × Value)} :
    v.getObj = .ok o ↔ v = .obj o := by
  cases v <;> simp [Value.getObj, checkType, Value.type, bind, Except.bind]

/-- Bits read as a signed number and stored back are the bits they came from. -/
theorem ofInt_toInt {w : Nat} (x : BitVec w) : BitVec.ofInt w x.toInt = x := by
  apply BitVec.eq_of_toNat_eq
  rw [BitVec.toNat_ofInt, BitVec.toInt_eq_toNat_bmod, Int.bmod_emod,
    Int.emod_eq_of_lt (Int.ofNat_nonneg _) (by exact_mod_cast x.isLt), Int.toNat_ofNat]

/-- `find_value`: the first member of that name, `Value::null` when there is none. -/
def findValue (o : List (String × Value)) (name : String) : Value :=
  match o.find? (·.1 == name) with
  | some p => p.2
  | none => .null

@[simp] theorem findValue_nil (name : String) : findValue [] name = .null := rfl

@[simp] theorem findValue_cons (name k : String) (v : Value) (o : List (String × Value)) :
    findValue ((k, v) :: o) name = if k = name then v else findValue o name := by
  by_cases h : k = name <;> simp [findValue, List.find?_cons, h]

/-! ## Parameter checks of `rpcserver.h` -/

/-- `RPCTypeCheck(params, typesExpected, fAllowNull)`: each parameter that is present has its
expected type (or is null, when allowed); missing ones are not checked. -/
def RPCTypeCheck (params : List Value) (typesExpected : List ValueType) (fAllowNull : Bool) :
    Except RpcError Unit :=
  match typesExpected, params with
  | t :: ts, v :: vs =>
    if v.type = t || (fAllowNull && v.type = .null) then RPCTypeCheck vs ts fAllowNull
    else .error (.json RPC_TYPE_ERROR ("Expected type " ++ t.name ++ ", got " ++ v.type.name))
  | _, _ => .ok ()

/-- `RPCTypeCheck(object, typesExpected, fAllowNull)`; `typesExpected` is a `std::map`, so it is
walked in key order. -/
def RPCTypeCheckObj (o : List (String × Value)) (typesExpected : List (String × ValueType))
    (fAllowNull : Bool) : Except RpcError Unit :=
  match typesExpected with
  | [] => .ok ()
  | (name, t) :: ts =>
    let v := findValue o name
    if !fAllowNull && v.type = .null then
      .error (.json RPC_TYPE_ERROR ("Missing " ++ name))
    else if v.type = t || (fAllowNull && v.type = .null) then RPCTypeCheckObj o ts fAllowNull
    else .error (.json RPC_TYPE_ERROR
      ("Expected type " ++ t.name ++ " for " ++ name ++ ", got " ++ v.type.name))

/-- The string a hex parameter is read from: the value's text when it is a string, else empty. -/
def hexParamText : Value → String
  | .str s => s
  | _ => ""

/-- `ParseHexV(v, strName)`. -/
def ParseHexV (v : Value) (strName : String) : Except RpcError Bytes :=
  let strHex := hexParamText v
  if isHex strHex then .ok (parseHex strHex.toList)
  else .error (.json RPC_INVALID_PARAMETER
    (strName ++ " must be hexadecimal string (not '" ++ strHex ++ "')"))

/-- `ParseHexO(o, strKey)`. -/
def ParseHexO (o : List (String × Value)) (strKey : String) : Except RpcError Bytes :=
  ParseHexV (findValue o strKey) strKey

/-- `uint256::SetHex` on a string of digits: the number they spell, most significant first. -/
def setHex (s : String) : uint256 :=
  BitVec.ofNat 256 (s.toList.foldl (fun acc c => 16 * acc + (hexDigit c).getD 0) 0)

/-- `ParseHashV(v, strName)`. -/
def ParseHashV (v : Value) (strName : String) : Except RpcError uint256 :=
  let strHex := hexParamText v
  if isHex strHex then .ok (setHex strHex)
  else .error (.json RPC_INVALID_PARAMETER
    (strName ++ " must be hexadecimal string (not '" ++ strHex ++ "')"))

/-- `ParseHashO(o, strKey)`. -/
def ParseHashO (o : List (String × Value)) (strKey : String) : Except RpcError uint256 :=
  ParseHashV (findValue o strKey) strKey

/-- A hex parameter written by `HexStr` parses back to its bytes. -/
theorem ParseHexV_hexStr (bs : Bytes) (strName : String) (h : bs ≠ []) :
    ParseHexV (.str (hexStr bs)) strName = .ok bs := by
  cases bs with
  | nil => exact absurd rfl h
  | cons b bs => simp [ParseHexV, hexParamText, isHex_hexStr, parseHex_hexStr]

/-- A parameter written by `HexStr` reads back as its bytes, when it reads at all. -/
theorem ParseHexV_hexStr_eq_ok {bs data : Bytes} {strName : String}
    (h : ParseHexV (.str (hexStr bs)) strName = .ok data) : data = bs := by
  cases bs with
  | nil => simp [ParseHexV, hexParamText, isHex_hexStr] at h
  | cons b bs => rw [ParseHexV_hexStr _ _ (List.cons_ne_nil b bs)] at h; cases h; rfl

/-- Digits read most significant first spell the big-endian value of the bytes they print. -/
theorem foldl_hexDigit_hexPairs (bs : Bytes) (acc : Nat) :
    (bs.flatMap hexPair).foldl (fun acc c => 16 * acc + (hexDigit c).getD 0) acc =
      bs.foldl (fun acc b => 256 * acc + b.toNat) acc := by
  induction bs generalizing acc with
  | nil => rfl
  | cons b bs ih =>
    have hb := b.isLt
    rw [List.flatMap_cons, List.foldl_append, List.foldl_cons, ih]
    simp only [hexPair, List.foldl_cons, List.foldl_nil,
      hexDigit_hexChar_of_lt (show b.toNat / 16 < 16 by omega),
      hexDigit_hexChar_of_lt (show b.toNat % 16 < 16 by omega), Option.getD_some]
    congr 1
    omega

/-- The little-endian bytes of `n`, reversed, have the big-endian value `n` (modulo their range). -/
theorem foldl_reverse_putLE (k n : Nat) :
    (putLE k n).reverse.foldl (fun acc b => 256 * acc + b.toNat) 0 = n % 256 ^ k := by
  rw [List.foldl_reverse]
  induction k generalizing n with
  | zero => simp [putLE, Nat.mod_one]
  | succ k ih =>
    rw [putLE, List.foldr_cons, ih, BitVec.toNat_ofNat,
      show 256 ^ (k + 1) = 256 * 256 ^ k from Nat.pow_succ', Nat.mod_mul]
    omega

/-- `SetHex` reads back what `GetHex` prints. -/
theorem setHex_getHex (h : uint256) : setHex (getHex h) = h := by
  show BitVec.ofNat 256 (((putLE 32 h.toNat).reverse.flatMap hexPair).foldl _ 0) = h
  rw [foldl_hexDigit_hexPairs, foldl_reverse_putLE]
  exact BitVec.eq_of_toNat_eq (by simp [Nat.mod_eq_of_lt h.isLt])

theorem ParseHashV_getHex (h : uint256) (strName : String) :
    ParseHashV (.str (getHex h)) strName = .ok h := by
  have hne : (putLE 32 h.toNat).reverse ≠ [] :=
    List.reverse_eq_nil_iff.not.mpr (List.cons_ne_nil _ _)
  have hhex : isHex (getHex h) = true := by simp [getHex, isHex_hexStr, hne]
  simp only [ParseHashV, hexParamText, hhex, if_true, setHex_getHex]

/-- `get_int()` of a number that fits an `int`. -/
theorem Value.getInt_of_lt {n : Nat} (h : n < 2 ^ 31) : (Value.int n).getInt = .ok n := by
  rw [Value.getInt, BitVec.toInt_ofInt, Int.bmod_pos _ _ (by omega),
    Int.emod_eq_of_lt (by omega) (by omega)]

end SmileyRawTx
