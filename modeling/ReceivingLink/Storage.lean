import ReceivingLink.Failure
import ReceivingLink.Identity

/-!
# Storage for large messages

A spool is where the bytes of one large message are written as they come. Storage keeps a record
of every spool it ever opened, in memory, and can be told to let calls fail. A broker without
storage for large messages has none of this: it still gives out ids but opens no spool.
-/

namespace ReceivingLink

/-- A spool as storage hands it out: the message it is for and the place of its record. -/
structure Spool where
  id : LargeMessageId
  place : Nat
  deriving DecidableEq, Inhabited

/-- What became of a spool. -/
structure SpoolRecord where
  id : LargeMessageId
  bytes : Bytes := []
  appends : Nat := 0
  finished : Bool := false
  deleted : Bool := false
  /-- A write broke off while it held the record, and nobody can use it any more. -/
  poisoned : Bool := false
  deriving DecidableEq, Inhabited

/-- The panic of whoever uses a poisoned record. -/
def SpoolRecord.poisonedPanic : Panic := .text "spool poisoned: PoisonError \x7b .. \x7d"

structure StorageFaults where
  generateId : Bool := false
  append : Bool := false
  appendPanics : Bool := false
  finish : Bool := false
  delete : Bool := false
  deriving DecidableEq

/-- Storage with the table of the records it keeps. -/
structure Storage where
  /-- There are spools at all. -/
  hasSpools : Bool := true
  /-- Large messages are to be spooled. -/
  persistent : Bool := true
  nextId : Nat := 100
  /-- The records of all spools, in the order they were opened. -/
  records : List SpoolRecord := []
  /-- The large messages registered, with their message formats. -/
  registered : List (LargeMessageId × UInt32) := []
  faults : StorageFaults := {}
  /-- A look at a poisoned record broke off while it held the table of records, and nobody can
  use the table any more. -/
  poisoned : Bool := false

namespace Storage

/-- The panic of whoever uses a poisoned table. -/
def poisonedPanic : Panic := .text "spools poisoned: PoisonError \x7b .. \x7d"

def memory : Storage := {}

/-- Storage that could keep large messages and says that it does not. -/
def transient : Storage := { persistent := false }

/-- No storage: ids are counted from one. -/
def absent : Storage := { hasSpools := false, persistent := false, nextId := 1 }

def issue (s : Storage) : Storage := { s with nextId := s.nextId + 1 }

/-- The spool that is opened next for a message. -/
def newSpool (s : Storage) (id : LargeMessageId) : Spool := ⟨id, s.records.length⟩

/-- Opens a spool. A spool opened earlier for the same message keeps its record. -/
def opened (s : Storage) (id : LargeMessageId) : Storage :=
  { s with records := s.records ++ [{ id }] }

def record (s : Storage) (spool : Spool) : SpoolRecord :=
  s.records.getD spool.place { id := spool.id }

def change (s : Storage) (spool : Spool) (f : SpoolRecord → SpoolRecord) : Storage :=
  { s with records := s.records.modify spool.place f }

/-- Writes bytes behind those that are there. -/
def append (s : Storage) (spool : Spool) (bytes : Bytes) : Storage :=
  s.change spool fun r => { r with bytes := r.bytes ++ bytes, appends := r.appends + 1 }

def finish (s : Storage) (spool : Spool) : Storage :=
  s.change spool fun r => { r with finished := true }

def delete (s : Storage) (spool : Spool) : Storage :=
  s.change spool fun r => { r with deleted := true }

def poison (s : Storage) (spool : Spool) : Storage :=
  s.change spool fun r => { r with poisoned := true }

/-- Records a large message with its format; without spools nothing is recorded. -/
def register (s : Storage) (id : LargeMessageId) (format : UInt32) : Storage :=
  if s.hasSpools then { s with registered := s.registered ++ [(id, format)] } else s

/-- The record of the spool opened last for a message. -/
def latest? (s : Storage) (id : LargeMessageId) : Option SpoolRecord :=
  s.records.reverse.find? (·.id = id)

/-- The ids for which spools were opened, each once, in ascending order. -/
def ids (s : Storage) : List LargeMessageId :=
  ((s.records.map (·.id.number)).eraseDups.mergeSort).map .mk

/-- The records of the spools opened last for each message, by id. -/
def snapshot (s : Storage) : List SpoolRecord := s.ids.filterMap s.latest?

/-- The snapshot, if neither the table nor a record in it is poisoned. -/
def inventory (s : Storage) : Except Panic (List SpoolRecord) :=
  if s.poisoned then .error poisonedPanic
  else if s.snapshot.any (·.poisoned) then .error SpoolRecord.poisonedPanic
  else .ok s.snapshot

section Lemmas

variable (s : Storage) {spool spool' : Spool} {f : SpoolRecord → SpoolRecord}

theorem record_change_self (h : spool.place < s.records.length) :
    (s.change spool f).record spool = f (s.record spool) := by
  simp [change, record, h]

theorem record_change_ne (h : spool'.place ≠ spool.place) :
    (s.change spool f).record spool' = s.record spool' := by
  simp [change, record, Ne.symm h]

/-- What a change of a record leaves alone is the same of every record. -/
theorem record_change {β : Type} {g : SpoolRecord → β} (hg : ∀ r, g (f r) = g r) (spool' : Spool) :
    g ((s.change spool f).record spool') = g (s.record spool') := by
  by_cases h : spool'.place = spool.place
  · simp only [change, record, h, List.getD_eq_getElem?_getD, List.getElem?_modify_eq]
    cases s.records[spool.place]? with
    | none => rfl
    | some r => exact hg r
  · rw [s.record_change_ne h]

theorem record_opened (h : spool.place < s.records.length) (id : LargeMessageId) :
    (s.opened id).record spool = s.record spool := by
  simp [opened, record, List.getElem?_append_left h]

/-- Nothing was written yet where no spool was opened. -/
theorem record_of_le (h : s.records.length ≤ spool.place) :
    s.record spool = { id := spool.id } := by
  simp [record, List.getElem?_eq_none h]

theorem record_opened_or (id : LargeMessageId) (spool : Spool) :
    (s.opened id).record spool = s.record spool ∨
      s.records.length ≤ spool.place ∧ (s.opened id).record spool = { id } := by
  rcases Nat.lt_trichotomy spool.place s.records.length with hlt | heq | hgt
  · exact .inl (s.record_opened hlt id)
  · exact .inr ⟨Nat.le_of_eq heq.symm, by simp [record, opened, heq]⟩
  · have hle : (s.opened id).records.length ≤ spool.place := by
      simpa [opened] using Nat.succ_le_of_lt hgt
    exact .inl ((record_of_le _ hle).trans (s.record_of_le (Nat.le_of_lt hgt)).symm)

theorem record_newSpool (id : LargeMessageId) : (s.opened id).record (s.newSpool id) = { id } := by
  simp [opened, record, newSpool]

@[simp] theorem register_records (id : LargeMessageId) (format : UInt32) :
    (s.register id format).records = s.records := by
  unfold register
  split <;> rfl

@[simp] theorem register_poisoned (id : LargeMessageId) (format : UInt32) :
    (s.register id format).poisoned = s.poisoned := by
  unfold register
  split <;> rfl

end Lemmas

end Storage

end ReceivingLink
