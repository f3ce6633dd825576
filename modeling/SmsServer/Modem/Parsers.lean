import SmsServer.Library.Decimal
import SmsServer.Modem.Types

/-!
# Parsers of AT responses

`modem/parsers.rs`. Every parser finds the first line of the accumulated response whose trimmed
text starts with the prefix of its command, strips the prefix, and reads the fields that follow.
Errors carry the texts of the source.
-/

namespace SmsServer

open RustStd

/-- `Option::ok_or_else` with an error text. -/
def okOr {A : Type} (value : Option A) (message : String) : Except Str A :=
  value.elim (.error message.toList) .ok

@[simp] theorem okOr_some {A : Type} (a : A) (message : String) : okOr (some a) message = .ok a :=
  rfl

@[simp] theorem ok_bind {A B : Type} (a : A) (f : A → Except Str B) : (.ok a >>= f) = f a := rfl

theorem okOr_eq_ok_iff {A : Type} {value : Option A} {message : String} {a : A} :
    okOr value message = .ok a ↔ value = some a := by
  cases value <;> simp [okOr]

theorem bind_eq_ok_iff {A B : Type} {x : Except Str A} {f : A → Except Str B} {b : B} :
    (x >>= f) = .ok b ↔ ∃ a, x = .ok a ∧ f a = .ok b := by
  cases x with
  | error e => exact iff_of_false (fun h => nomatch h) fun ⟨_, h, _⟩ => nomatch h
  | ok a => simp

/-- The first line whose trimmed text starts with the prefix. -/
def findLine (header response : Str) : Option Str :=
  (lines response).find? fun line => startsWith (trim line) header

/-- The text after the prefix, for the parsers that strip it: `name` is the command's name in
the error texts. -/
def responseData (name header : String) (response : Str) : Except Str Str := do
  let line ← okOr (findLine header.toList response) s!"No {name} response found in buffer"
  let data ← okOr (stripPrefix (trim line) header.toList) s!"Malformed {name} response"
  return trim data

/-- `parts.next()`, trimmed and parsed. -/
def parseField {A : Type} (missing invalid : String) (parse : Str → Option A) (parts : List Str) :
    Except Str (A × List Str) := do
  let field ← okOr parts.head? missing
  let value ← okOr (parse (trim field)) invalid
  return (value, parts.tail)

def parseCmgsResult (response : Str) : Except Str UInt8 := do
  let data ← responseData "CMGS" "+CMGS:" response
  okOr (parseU8 data) "Invalid CMGS message reference number"

def parseCregResponse (response : Str) : Except Str (UInt8 × UInt8) := do
  let data ← responseData "CREG" "+CREG:" response
  let (registration, parts) ←
    parseField "Missing registration status" "Invalid registration status" parseU8 (split ',' data)
  let (technology, _) ←
    parseField "Missing technology status" "Invalid technology status" parseU8 parts
  return (registration, technology)

def parseCsqResponse (response : Str) : Except Str (Int32 × Int32) := do
  let data ← responseData "CSQ" "+CSQ:" response
  let (rssi, parts) ←
    parseField "Missing RSSI value" "Invalid RSSI value" parseI32 (split ',' data)
  let (ber, _) ← parseField "Missing BER value" "Invalid BER value" parseI32 parts
  return (rssi, ber)

def parseCopsResponse (response : Str) : Except Str (UInt8 × UInt8 × Str) := do
  let data ← responseData "COPS" "+COPS:" response
  let (status, parts) ←
    parseField "Missing operator status" "Invalid operator status" parseU8 (split ',' data)
  let (format, parts) ←
    parseField "Missing operator format" "Invalid operator format" parseU8 parts
  let (operator, _) ←
    parseField "Missing operator name" "Operator name not properly quoted"
      (fun name => (stripPrefix name ['"']).bind fun rest => stripSuffix rest ['"']) parts
  return (status, format, operator)

def parseCspnResponse (response : Str) : Except Str Str := do
  let data ← responseData "CSPN" "+CSPN:" response
  let quoteStart ← okOr (data.findIdx? (· == '"')) "Missing opening quote for operator name"
  let quoteEnd ← okOr (rposition (· == '"') data) "Missing closing quote for operator name"
  if quoteEnd ≤ quoteStart then .error "Invalid quoted operator name".toList
  else return (data.drop (quoteStart + 1)).take (quoteEnd - (quoteStart + 1))

def parseCbcResponse (response : Str) : Except Str (UInt8 × UInt8 × Float32) := do
  let data ← responseData "CBC" "+CBC:" response
  let (status, parts) ←
    parseField "Missing battery status" "Invalid battery status" parseU8 (split ',' data)
  let (charge, parts) ←
    parseField "Missing battery charge" "Invalid battery charge" parseU8 parts
  let (voltageRaw, _) ←
    parseField "Missing battery voltage" "Invalid battery voltage" parseU32 parts
  return (status, charge, voltageRaw.toFloat32 / 1000.0)

/-- The data of a GNSS line, which is found by its prefix but split at `": "`. -/
def gnssData (header : String) (notFound missing : String) (response : Str) : Except Str Str := do
  let line ← okOr (findLine header.toList response) notFound
  okOr ((splitOnce ": ".toList line).map fun halves => trim halves.2) missing

def parseCgpsstatusResponse {X : Crates} (response : Str) : Except Str X.FixStatus := do
  let status ←
    gnssData "+CGPSSTATUS:" "No CGPSSTATUS response found in buffer" "Missing CGPS status" response
  X.fixStatusTryFrom status

def parseCgnsinfResponse {X : Crates} (response : Str) (unsolicited : Bool) :
    Except Str X.PositionReport := do
  let header := if unsolicited then "+UGNSINF" else "+CGNSINF"
  let data ← gnssData header "No CGNSINF response found in buffer" "Missing CGNSINF data" response
  X.positionReport (split ',' data)

/-! ### The operator name of `+CSPN` -/

/-- The name is what stands between the first and the last quote, quotes in it included. -/
theorem parseCspnResponse_of_data {response operator rest : Str}
    (hdata : responseData "CSPN" "+CSPN:" response = .ok ('"' :: operator ++ '"' :: rest))
    (hrest : '"' ∉ rest) : parseCspnResponse response = .ok operator := by
  have hopen : ('"' :: operator ++ '"' :: rest).findIdx? (· == '"') = some 0 := by
    rw [List.cons_append, List.findIdx?_cons]
    rfl
  have hclose : rposition (· == '"') ('"' :: operator ++ '"' :: rest) =
      some (operator.length + 1) := by
    refine rposition_append (by decide) fun c hc => ?_
    exact beq_eq_false_iff_ne.mpr fun hq => hrest (hq ▸ hc)
  have hname : (('"' :: operator ++ '"' :: rest).drop (0 + 1)).take
      (operator.length + 1 - (0 + 1)) = operator := by
    rw [List.cons_append, List.drop_succ_cons, List.drop_zero, Nat.zero_add, Nat.add_sub_cancel,
      List.take_left]
  simp only [parseCspnResponse, hdata, ok_bind, hopen, hclose, okOr_some, hname]
  rw [if_neg (by omega)]
  rfl

end SmsServer
