import SmileyRawTx.Core.Codec
import SmileyRawTx.Core.Hex
import SmileyRawTx.Core.Transaction
import SmileyRawTx.Rpc.Json
import SmileyRawTx.Sign.View
import SmileyRawTx.Sign.Merge
import SmileyRawTx.Sign.Variants
import SmileyRawTx.Node.State
import SmileyRawTx.Node.Submit
import SmileyRawTx.Node.Sign
import SmileyRawTx.Build.Create
import SmileyRawTx.Build.Spec
import SmileyRawTx.Build.Decode
import SmileyRawTx.Token.Commit
import SmileyRawTx.Token.Mint
import SmileyRawTx.Node.Wallet
import SmileyRawTx.Node.Session
