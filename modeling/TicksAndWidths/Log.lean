/-!
Results that carry a log.

Both tools explain what they do through log records.  A `Logged` result holds the records in the
order they were written, together with a value or the cause of a failure, so what was logged before
a failure is never lost.  After a success the records of two steps follow each other (`bind_of_ok`);
a failure stops the second step from running (`bind_of_error`).
-/

namespace TicksAndWidths

/-- How serious a log record is. -/
inductive Severity where
  | debug
  | info
  | warn
deriving DecidableEq, Repr

/-- The part of the program that a log record speaks for. -/
inductive Topic where
  /-- Reading rows and tables of rows. -/
  | rows
  /-- Opening the file of a table. -/
  | tableFile
  /-- The duration table as a whole. -/
  | durationTable
  /-- Decoding a font. -/
  | font
  /-- Measuring characters. -/
  | measuring
  /-- Reading fonts from disk. -/
  | disk
deriving DecidableEq, Repr

/-- One line of the log. -/
structure LogRecord where
  severity : Severity
  topic : Topic
  text : String
deriving DecidableEq, Repr

/-- A value or a failure, and what was logged on the way to it. -/
structure Logged (ε α : Type) where
  records : List LogRecord
  outcome : Except ε α

namespace Logged

variable {ε ε' α β : Type}

/-- Runs the second step on the value of the first; a failure of the first is final. -/
protected def bind (x : Logged ε α) (f : α → Logged ε β) : Logged ε β :=
  match x.outcome with
  | .error e => ⟨x.records, .error e⟩
  | .ok a =>
    let y := f a
    ⟨x.records ++ y.records, y.outcome⟩

instance : Monad (Logged ε) where
  pure a := ⟨[], .ok a⟩
  bind := Logged.bind

/-- Writes one record. -/
def write (severity : Severity) (topic : Topic) (text : String) : Logged ε Unit :=
  ⟨[⟨severity, topic, text⟩], .ok ()⟩

/-- Fails without a record. -/
def fail (e : ε) : Logged ε α :=
  ⟨[], .error e⟩

/-- A result that logs nothing. -/
def ofExcept (x : Except ε α) : Logged ε α :=
  ⟨[], x⟩

/-- States the cause of a failure in wider terms. -/
def mapError (f : ε → ε') (x : Logged ε α) : Logged ε' α :=
  ⟨x.records, x.outcome.mapError f⟩

/-! ### What each operation does to the records and to the outcome -/

@[simp] theorem records_pure (a : α) : (pure a : Logged ε α).records = [] := rfl

@[simp] theorem outcome_pure (a : α) : (pure a : Logged ε α).outcome = .ok a := rfl

@[simp] theorem records_write (s : Severity) (t : Topic) (text : String) :
    (write s t text : Logged ε Unit).records = [⟨s, t, text⟩] := rfl

@[simp] theorem outcome_write (s : Severity) (t : Topic) (text : String) :
    (write s t text : Logged ε Unit).outcome = .ok () := rfl

@[simp] theorem records_ofExcept (x : Except ε α) : (ofExcept x).records = [] := rfl

@[simp] theorem outcome_ofExcept (x : Except ε α) : (ofExcept x).outcome = x := rfl

/-- After a success the records of both steps follow each other. -/
theorem bind_of_ok {x : Logged ε α} {a : α} (h : x.outcome = .ok a) (f : α → Logged ε β) :
    x >>= f = ⟨x.records ++ (f a).records, (f a).outcome⟩ := by
  show Logged.bind x f = _
  simp only [Logged.bind, h]

/-- After a failure the second step neither runs nor logs. -/
theorem bind_of_error {x : Logged ε α} {e : ε} (h : x.outcome = .error e)
    (f : α → Logged ε β) : x >>= f = ⟨x.records, .error e⟩ := by
  show Logged.bind x f = _
  simp only [Logged.bind, h]

theorem records_bind_of_ok {x : Logged ε α} {a : α} (h : x.outcome = .ok a)
    (f : α → Logged ε β) : (x >>= f).records = x.records ++ (f a).records := by
  rw [bind_of_ok h]

theorem records_bind_of_error {x : Logged ε α} {e : ε} (h : x.outcome = .error e)
    (f : α → Logged ε β) : (x >>= f).records = x.records := by
  rw [bind_of_error h]

@[simp] theorem ok_bind (a : α) (f : α → Except ε β) : (Except.ok a >>= f) = f a := rfl

@[simp] theorem error_bind (e : ε) (f : α → Except ε β) : (Except.error e >>= f) = .error e := rfl

/-- The outcome of two steps does not depend on what they log. -/
@[simp] theorem outcome_bind (x : Logged ε α) (f : α → Logged ε β) :
    (x >>= f).outcome = x.outcome >>= fun a => (f a).outcome := by
  cases h : x.outcome with
  | ok a =>
    rw [bind_of_ok h]
    rfl
  | error e =>
    rw [bind_of_error h]
    rfl

end Logged

end TicksAndWidths
