import ReceivingLink.Bytes
import ReceivingLink.Config
import ReceivingLink.Config.Magnitude

/-!
# Settings as a JSON document

A document is an object with any of the five known keys, or an array with the first few values in
the order of the settings. Other keys are skipped, whatever they hold. Reading goes from left to
right and the first problem met decides what is reported, so the value of a known key is judged
as soon as it has been read.
-/

namespace ReceivingLink.Config

/-- What can be wrong with a document. -/
inductive Problem where
  /-- The document ends too early. -/
  | truncated
  /-- The document is not JSON, or goes on behind its end. -/
  | malformed
  /-- A value has the wrong type or range, or a known key is given twice. -/
  | mistyped
  deriving DecidableEq

namespace Document

abbrev Reader := StateT Bytes (Except Problem)

/-- The next byte, left in place. -/
def peek : Reader (Option UInt8) := return (← get).head?

def advance : Reader Unit := modify List.tail

def next : Reader (Option UInt8) := do
  let b ← peek
  advance
  return b

def ascii (c : Char) : UInt8 := .ofNat c.toNat

def isBlank (b : UInt8) : Bool :=
  b = ascii ' ' || b = ascii '\t' || b = ascii '\n' || b = ascii '\r'

/-- The first byte that is no blank, left in place. -/
def peekToken : Reader (Option UInt8) := do
  modify (·.dropWhile isBlank)
  peek

def isDigit (b : UInt8) : Bool := ascii '0' ≤ b && b ≤ ascii '9'

/-- All digits that follow, as their values. -/
def digits : Reader (List Nat) := do
  let s ← get
  set (s.dropWhile isDigit)
  return (s.takeWhile isDigit).map fun b => (b - ascii '0').toNat

def decimal (ds : List Nat) : Nat := ds.foldl (fun n d => 10 * n + d) 0

def literal (expected : Bytes) : Reader Unit :=
  expected.forM fun e => do
    match ← next with
    | none => throw .truncated
    | some b => if b ≠ e then throw .malformed

/-- The digits before a point: one zero, or digits that start with another one. -/
def wholeDigits (atEnd : Problem) : Reader (List Nat) := do
  match ← peek with
  | none => throw atEnd
  | some b =>
    if !isDigit b then throw .malformed
    let ds ← digits
    if ds.length > 1 && ds.head? = some 0 then throw .malformed
    return ds

/-- The digits behind a point or an exponent mark, of which there is at least one. -/
def someDigits (atEnd : Problem) : Reader (List Nat) := do
  match ← peek with
  | none => throw atEnd
  | some b => if isDigit b then digits else throw .malformed

/-- A point and its digits, if there is a point. -/
def fractionDigits (atEnd : Problem) : Reader (Option (List Nat)) := do
  if (← peek) = some (ascii '.') then
    advance
    return some (← someDigits atEnd)
  return none

/-- An exponent, if there is one. -/
def exponent (atEnd : Problem) : Reader (Option Int) := do
  let mark ← peek
  if mark = some (ascii 'e') || mark = some (ascii 'E') then
    advance
    let sign ← peek
    if sign = some (ascii '+') || sign = some (ascii '-') then advance
    let n := decimal (← someDigits atEnd)
    return some (if sign = some (ascii '-') then -n else n)
  return none

/-- Reads a number behind its sign. The answer is the number if it is an integer of 64 bits and
written as one. -/
def number (negative : Bool) : Reader (Option Int) := do
  let whole ← wholeDigits .truncated
  let fraction ← fractionDigits .truncated
  let power ← exponent .truncated
  let n := decimal whole
  if fraction.isNone && power.isNone then
    if !negative && n < 1 <<< 64 then return some n
    if negative && 0 < n && n ≤ 1 <<< 63 then return some (-n)
  if Magnitude.refused whole (fraction.getD []) (power.getD 0) then throw .malformed
  return none

/-- Reads past a number behind its sign, whatever its size. -/
def skipNumber : Reader Unit := do
  discard (wholeDigits .malformed)
  discard (fractionDigits .malformed)
  discard (exponent .malformed)

def hexWord : Reader Nat := do
  match ← get with
  | a :: b :: c :: d :: rest =>
    set rest
    match [a, b, c, d].mapM fun x => Bytes.hexValue? (Char.ofNat x.toNat) with
    | some values => return values.foldl (fun n v => 16 * n + v) 0
    | none => throw .malformed
  | _ => throw .truncated

def insideString (b : UInt8) : Reader Unit := do
  match ← peek with
  | none => throw .truncated
  | some x => if x = b then advance else throw .malformed

/-- The character behind `\u`. With `paired`, surrogates have to come in pairs; without, each
stands for itself and the answer is of no use. -/
def unicodeEscape (paired : Bool) : Reader Bytes := do
  let high ← hexWord
  if !paired || high < 0xD800 || 0xDFFF < high then
    return Bytes.ofText (Char.ofNat high).toString
  if 0xDC00 ≤ high then throw .malformed
  insideString (ascii '\\')
  insideString (ascii 'u')
  let low ← hexWord
  if low < 0xDC00 || 0xDFFF < low then throw .malformed
  return Bytes.ofText (Char.ofNat (0x10000 + (high - 0xD800) * 0x400 + (low - 0xDC00))).toString

/-- The bytes that an escape stands for, behind its backslash. -/
def escape (paired : Bool) : Reader Bytes := do
  match ← next with
  | none => throw .truncated
  | some b =>
    if b = ascii '"' || b = ascii '\\' || b = ascii '/' then return [b]
    else if b = ascii 'b' then return [8]
    else if b = ascii 'f' then return [12]
    else if b = ascii 'n' then return [10]
    else if b = ascii 'r' then return [13]
    else if b = ascii 't' then return [9]
    else if b = ascii 'u' then unicodeEscape paired
    else throw .malformed

/-- The rest of a string, behind at most `fuel` characters and `taken` in reverse. -/
def stringRest (paired : Bool) : (fuel : Nat) → (taken : Bytes) → Reader Bytes
  | 0, _ => throw .truncated
  | fuel + 1, taken => do
    match ← next with
    | none => throw .truncated
    | some b =>
      if b = ascii '"' then return taken.reverse
      else if b = ascii '\\' then stringRest paired fuel ((← escape paired).reverse ++ taken)
      else if b < 32 then throw .malformed
      else stringRest paired fuel (b :: taken)

/-- A string, behind its opening quote. Each round takes a byte, so the bytes left bound their
number. -/
def string (paired : Bool) : Reader Bytes := do
  stringRest paired ((← get).length + 1) []

mutual

def skipValue : (fuel : Nat) → Reader Unit
  | 0 => throw .malformed
  | fuel + 1 => do
    match ← peekToken with
    | none => throw .truncated
    | some b =>
      advance
      if b = ascii 'n' then literal (Bytes.ofText "ull")
      else if b = ascii 't' then literal (Bytes.ofText "rue")
      else if b = ascii 'f' then literal (Bytes.ofText "alse")
      else if b = ascii '-' then skipNumber
      else if isDigit b then
        modify (b :: ·)
        skipNumber
      else if b = ascii '"' then discard (string false)
      else if b = ascii '[' then
        if (← peekToken) = some (ascii ']') then advance else skipItems fuel
      else if b = ascii '{' then
        if (← peekToken) = some (ascii '}') then advance else skipMembers fuel
      else throw .malformed

/-- Reads past the values of an array, of which there is at least one. -/
def skipItems : (fuel : Nat) → Reader Unit
  | 0 => throw .malformed
  | fuel + 1 => do
    if (← peekToken).isNone then throw .truncated
    skipValue fuel
    match ← peekToken with
    | none => throw .truncated
    | some b =>
      advance
      if b = ascii ',' then skipItems fuel
      else if b ≠ ascii ']' then throw .malformed

/-- Reads past the members of an object, of which there is at least one. -/
def skipMembers : (fuel : Nat) → Reader Unit
  | 0 => throw .malformed
  | fuel + 1 => do
    match ← peekToken with
    | none => throw .truncated
    | some quote =>
      if quote ≠ ascii '"' then throw .malformed
      advance
    discard (string false)
    match ← peekToken with
    | none => throw .truncated
    | some colon =>
      if colon ≠ ascii ':' then throw .malformed
      advance
    skipValue fuel
    match ← peekToken with
    | none => throw .truncated
    | some b =>
      advance
      if b = ascii ',' then skipMembers fuel
      else if b ≠ ascii '}' then throw .malformed

end

/-- Reads past a value. Each level of nesting, each item and each member takes a byte, and passes
the fuel on at most twice. -/
def skip : Reader Unit := do
  skipValue (2 * (← get).length + 2)

/-- A value of the wrong type: its first part is still read, and a problem there comes first. -/
def wrongType : Reader Unit := do
  match ← peek with
  | none => throw .malformed
  | some b =>
    if b = ascii 'n' then literal (Bytes.ofText "null")
    else if b = ascii 't' then literal (Bytes.ofText "true")
    else if b = ascii 'f' then literal (Bytes.ofText "false")
    else if b = ascii '-' then
      advance
      discard (number true)
    else if isDigit b then discard (number false)
    else if b = ascii '"' then
      advance
      discard (string true)
    else if b ≠ ascii '[' && b ≠ ascii '{' then throw .malformed
    throw .mistyped

/-- An integer between `least` and `most`. -/
def integer (least most : Int) : Reader Int := do
  match ← peekToken with
  | none => throw .truncated
  | some b =>
    if b = ascii '-' || isDigit b then
      if b = ascii '-' then advance
      match ← number (b = ascii '-') with
      | some n => if least ≤ n ∧ n ≤ most then return n else throw .mistyped
      | none => throw .mistyped
    else
      wrongType
      return least

def word : Reader UInt32 := return .ofNat (← integer 0 (1 <<< 32 - 1)).toNat

def truth : Reader Bool := do
  match ← peekToken with
  | none => throw .truncated
  | some b =>
    if b = ascii 't' then
      literal (Bytes.ofText "true")
      return true
    else if b = ascii 'f' then
      literal (Bytes.ofText "false")
      return false
    else
      wrongType
      return false

inductive Field where
  | refillCredits
  | lowCreditThreshold
  | minLargeMessageSize
  | useModified
  | duplicateDetection
  deriving DecidableEq

namespace Field

/-- All fields, in the order of an array. -/
def all : List Field :=
  [refillCredits, lowCreditThreshold, minLargeMessageSize, useModified, duplicateDetection]

def key : Field → String
  | refillCredits => "refillCredits"
  | lowCreditThreshold => "lowCreditThreshold"
  | minLargeMessageSize => "minLargeMessageSize"
  | useModified => "useModifiedForTransientDeliveryErrors"
  | duplicateDetection => "duplicateDetection"

def ofKey? (key : Bytes) : Option Field := all.find? fun f => Bytes.ofText f.key = key

def read (f : Field) (c : Config) : Reader Config := do
  match f with
  | refillCredits => return c.withRefill (← word)
  | lowCreditThreshold => return c.withThreshold (← word)
  | minLargeMessageSize =>
    return { c with minLargeMessageSize := ← integer (-1 <<< 31) (1 <<< 31 - 1) }
  | useModified => return { c with useModified := ← truth }
  | duplicateDetection => return { c with duplicateDetection := ← truth }

end Field

/-- The items of an array, one for each of the fields left. -/
def items : (first : Bool) → List Field → Config → Reader Config
  | _, [], c => do
    match ← peekToken with
    | none => throw .truncated
    | some b => if b = ascii ']' then advance; return c else throw .malformed
  | first, f :: rest, c => do
    match ← peekToken with
    | none => throw .truncated
    | some b =>
      if b = ascii ']' then
        advance
        return c
      if !first then
        if b ≠ ascii ',' then throw .malformed
        advance
        match ← peekToken with
        | none => throw .truncated
        | some close => if close = ascii ']' then throw .malformed
      items false rest (← f.read c)

/-- The colon between a key and its value. -/
def colon : Reader Unit := do
  match ← peekToken with
  | none => throw .truncated
  | some b => if b = ascii ':' then advance else throw .malformed

/-- The members of an object; `seen` holds the known keys that have come. -/
def members : (fuel : Nat) → (first : Bool) → (seen : List Field) → Config → Reader Config
  | 0, _, _, _ => throw .malformed
  | fuel + 1, first, seen, c => do
    match ← peekToken with
    | none => throw .truncated
    | some b =>
      if b = ascii '}' then
        advance
        return c
      if !first then
        if b ≠ ascii ',' then throw .malformed
        advance
      match ← peekToken with
      | none => throw .truncated
      | some quote => if quote ≠ ascii '"' then throw .malformed
      advance
      match Field.ofKey? (← string true) with
      | none =>
        colon
        skip
        members fuel false seen c
      | some f =>
        if f ∈ seen then throw .mistyped
        colon
        members fuel false (f :: seen) (← f.read c)

/-- A document, over the settings it need not give. -/
def document (c : Config) : Reader Config := do
  match ← peekToken with
  | none => throw .truncated
  | some b =>
    if b = ascii '[' then
      advance
      items true Field.all c
    else if b = ascii '{' then
      advance
      members ((← get).length + 1) true [] c
    else
      wrongType
      return c

end Document

/-- Reads a document; a setting it does not give has its default. -/
def read (text : String) : Except Problem Config := do
  let (config, rest) ← (Document.document {}).run (Bytes.ofText text)
  if rest.dropWhile Document.isBlank = [] then return config else throw .malformed

end ReceivingLink.Config
