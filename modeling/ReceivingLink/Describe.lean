import ReceivingLink.Endpoint

/-!
# Descriptions

A value is described on one line by the name of its kind and its fields. Some fields may be left
out, which two dots at the end show.
-/

namespace ReceivingLink

namespace Describe

/-- A kind with its fields; `partly` shows that there are more. -/
def fields (kind : String) (entries : List (String × String)) (partly : Bool) : String :=
  let shown := entries.map fun (name, value) => name ++ ": " ++ value
  let all := if partly then shown ++ [".."] else shown
  kind ++ " \x7b " ++ String.intercalate ", " all ++ " \x7d"

def wrapped (kind value : String) : String := kind ++ "(" ++ value ++ ")"

def optional {α : Type} (f : α → String) : Option α → String
  | none => "None"
  | some a => wrapped "Some" (f a)

def truth (b : Bool) : String := toString b

def byteList (bytes : Bytes) : String :=
  "[" ++ String.intercalate ", " (bytes.map fun b => toString b.toNat) ++ "]"

def context (duplicateDetection : Bool) : String :=
  fields "RoutingContext" [("duplicate_detection", truth duplicateDetection)] false

def txn (t : TxnId) : String :=
  fields "Transaction" [("id", wrapped "TxnId" (Text.quotedBytes t.bytes))] false

def policy (p : CreditPolicy) : String :=
  fields "CreditPolicy"
    [("refill", toString p.refill.toNat), ("threshold", toString p.threshold.toNat)] false

/-- How much of a spool a description shows. -/
inductive Depth where
  /-- That there is one. -/
  | outline
  /-- Its record, and what storage lets fail. -/
  | full

def faults (f : StorageFaults) : String :=
  fields "Faults"
    [("generate", truth f.generateId), ("append", truth f.append),
      ("append_panics", truth f.appendPanics), ("finish", truth f.finish),
      ("delete", truth f.delete)] false

def spoolRecord (r : SpoolRecord) : String :=
  fields "SpoolRecord"
    [("bytes", byteList r.bytes), ("appends", toString r.appends),
      ("finished", truth r.finished), ("deleted", truth r.deleted)] false

def spool (depth : Depth) (storage : Storage) (s : Spool) : String :=
  match depth with
  | .outline => "Spool"
  | .full =>
    let record := storage.record s
    let held := fields "Mutex"
      [("data", spoolRecord record), ("poisoned", truth record.poisoned)] true
    fields "MemorySpool" [("record", held), ("faults", faults storage.faults)] false

def message (depth : Depth) (storage : Storage) : Message → String
  | .standard m =>
    wrapped "Standard" (fields "StandardMessage"
      [("message_format", toString m.format.toNat), ("payload", Text.quotedBytes m.payload)] false)
  | .large m =>
    wrapped "Large" (fields "LargeMessage"
      [("id", m.id.describe), ("message_format", toString m.format.toNat),
        ("header_present", truth m.headerPresent), ("size", toString m.size),
        ("spool", spool depth storage m.spool)] false)

def handoff (depth : Depth) (storage : Storage) (h : Handoff) : String :=
  fields "Handoff"
    [("message", message depth storage h.message), ("delivery", h.delivery.describe),
      ("link", Text.quoted h.link), ("transaction", optional txn h.transaction),
      ("context", context h.duplicateDetection)] true

/-- An owner's count of unsettled deliveries. -/
def tracker (e : Endpoint) (o : Owner) : String :=
  fields "SettlementTracker"
    [("pending", toString (e.pending.get o)), ("handler", e.mailbox.handler.describe)] false

/-- The handle by which routing settles the receiver's deliveries. -/
def settleHandle (e : Endpoint) : String :=
  fields "SettleHandle" [("tracker", tracker e .receiver)] true

/-- What tops up the link's credit, for an owner if one is given. -/
def replenisher (e : Endpoint) (o : Option Owner) : String :=
  fields "CreditReplenisher"
    [("policy", policy e.config.policy), ("link", Text.quoted e.link.name),
      ("tracker", optional (tracker e) o)] false

def receiver (e : Endpoint) : String :=
  fields "ReceiverCore"
    [("link", Text.quoted e.link.name), ("state", e.lifecycle.text),
      ("pending_settles", toString (e.unsettled .receiver).toNat),
      ("large_message",
        optional (fun a => a.id.describe) (e.reassembler.get .receiver).slot),
      ("routing", context e.config.duplicateDetection)] true

end Describe

end ReceivingLink
