import Arbitrage.Exchange.Session
import Arbitrage.Data.Access

namespace Arbitrage

def accountVenue : String := "bithumb"

/-- The account venue's script: its credentials and accounts, and the refusals of reading
either. -/
structure AccountScript where
  credentials : Value
  credentialsRefusal : Option Value
  accounts : Value
  accountsRefusal : Option Value
  deriving Inhabited

/-- The failure of handing the balances on under the won balance's name. -/
def balanceMisuse : Fault :=
  .badCall "QuoteBalances.__init__() got an unexpected keyword argument 'krw'"

/-- The capital form of a currency code: ASCII letters are raised, and so are the few other
letters whose capitals are ASCII (dotless i, long s, sharp s and the Latin ligatures); any
other character is kept, and keeping it cannot make a code equal to an ASCII one. -/
def capitalCode (s : String) : String :=
  String.join (s.toList.map fun c =>
    if 'a' ≤ c && c ≤ 'z' then (Char.ofNat (c.toNat - 32)).toString
    else match c.toNat with
      | 0x131 => "I"
      | 0x17F => "S"
      | 0xDF => "SS"
      | 0xFB00 => "FF"
      | 0xFB01 => "FI"
      | 0xFB02 => "FL"
      | 0xFB03 => "FFI"
      | 0xFB04 => "FFL"
      | 0xFB05 => "ST"
      | 0xFB06 => "ST"
      | _ => c.toString)

/-- What an account makes available: its balance less what is locked, and zero for a missing
account or a negative difference. -/
def available : Option Record → Except Fault Float
  | none => pure 0.0
  | some acct => do
    let balance ← (← acct.attr "balance").toDouble
    let locked ← (← acct.attr "locked").toDouble
    let free := balance - locked
    return if free < 0.0 then 0.0 else free

namespace AccountScript

/-- Opens the account venue: reads the credentials, a mapping whose missing keys are null, and
connects with them. Credentials of another kind have no lookup by key. -/
def connect (a : AccountScript) : SessionM Unit := do
  Session.note ⟨accountVenue, "load_credentials", [], []⟩
  if let some r := a.credentialsRefusal then throw (.exchangeRefused r.text)
  let creds ← match a.credentials with
    | .dict kvs => pure kvs
    | v => throw (.noAttribute v.typeName "get")
  let key := (Value.lookup creds (.str "access_key")).getD .null
  let secret := (Value.lookup creds (.str "secret_key")).getD .null
  Session.note ⟨accountVenue, "new", [], [("access_key", key), ("secret_key", secret)]⟩

def close (_ : AccountScript) : SessionM Unit :=
  Session.note ⟨accountVenue, "aclose", [], []⟩

/-- Reads the accounts and the available won, bitcoin and tether; always ends in a fault. -/
def fetchBalances (a : AccountScript) : SessionM Unit := do
  Session.note ⟨accountVenue, "get_accounts", [], []⟩
  if let some r := a.accountsRefusal then throw (.exchangeRefused r.text)
  let accounts ← Session.ofExcept a.accounts.members
  let mut byCode : List (String × Record) := []
  for v in accounts do
    let acct := Record.ofValue "_Account" v
    let code ← match ← Session.ofExcept (acct.attr "currency") with
      | .str s => pure (capitalCode s)
      | c => throw (.noAttribute c.typeName "upper")
    byCode := if byCode.any (·.1 == code) then
      byCode.map fun e => if e.1 == code then (code, acct) else e
    else byCode ++ [(code, acct)]
  for code in ["KRW", "BTC", "USDT"] do
    let _ ← Session.ofExcept (available ((byCode.find? (·.1 == code)).map (·.2)))
  throw balanceMisuse

end AccountScript

end Arbitrage
