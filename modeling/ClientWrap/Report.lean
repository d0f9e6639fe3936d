/-!
# Reports

A computation that notes events on its way and may fail. The events before a failure are kept. The
read-only part of the program is written in this form, so that nothing in it can touch a file.

Main statements:

* `outcome_bind`: the outcome of a sequence is that of its parts in turn.
-/

namespace ClientWrap

/-- How much attention an event deserves. -/
inductive Level where
  | warn
  | info
  | debug
  deriving DecidableEq, Repr

/-- Something that happened on the way. -/
inductive Event where
  | schemaLoaded (path : String) (interfaces : Nat)
  | clientFound (name type : String) (resources : Nat)
  | schemaWalked (root path : String)
  | targetLoaded (name : String) (clients resources : Nat)
  | formatting (command : List String)
  | unchanged (file : String)
  | updated (file : String)
  | finished (changed total : Nat)
  | unknownProperty (key : String)
  | settingsMissing (path : String)
  deriving DecidableEq, Repr

namespace Event

/-- The level of an event. -/
def level : Event → Level
  | schemaLoaded .. | clientFound .. | schemaWalked .. | formatting _ | unchanged _ => .debug
  | targetLoaded .. | updated _ | finished .. => .info
  | unknownProperty _ | settingsMissing _ => .warn

/-- The wording of an event. -/
def message : Event → String
  | schemaLoaded path interfaces => s!"Loaded schema {path} ({interfaces} interfaces)"
  | clientFound name type resources =>
    s!"Discovered client {name} ({type}) with {resources} resources"
  | schemaWalked root path => s!"Walked {root} from {path}"
  | targetLoaded name clients resources =>
    s!"Target {name}: {clients} clients, {resources} resources"
  | formatting command =>
    let line := " ".intercalate command
    s!"Formatting with {line}"
  | unchanged file => s!"{file} is up to date"
  | updated file => s!"{file} was not up to date, updated"
  | finished changed total => s!"{changed} of {total} generated files updated"
  | unknownProperty key => s!"Ignoring unknown dynamic property: {key}"
  | settingsMissing path => s!"{path} not found, using default walker settings"

end Event

/-- The name of a level. -/
def Level.name : Level → String
  | warn => "WARN"
  | info => "INFO"
  | debug => "DEBUG"

/-- Whether events of a level are shown when the user asked for `verbosity` steps beyond
warnings. -/
def Level.shownAt (verbosity : Nat) : Level → Bool
  | warn => true
  | info => 1 ≤ verbosity
  | debug => 2 ≤ verbosity

/-- The outcome of a computation with the events noted before it, oldest first. -/
structure Report (ε α : Type) where
  log : List Event
  outcome : Except ε α

namespace Report

variable {ε α β : Type}

/-- A result without events. -/
protected def pure (a : α) : Report ε α := ⟨[], .ok a⟩

/-- One computation after another. -/
protected def bind (r : Report ε α) (f : α → Report ε β) : Report ε β :=
  match r.outcome with
  | .ok a => ⟨r.log ++ (f a).log, (f a).outcome⟩
  | .error e => ⟨r.log, .error e⟩

instance : Monad (Report ε) where
  pure := Report.pure
  bind := Report.bind

/-- A note of one event. -/
def note (e : Event) : Report ε Unit := ⟨[e], .ok ()⟩

/-- An outcome without events. -/
def ofExcept (x : Except ε α) : Report ε α := ⟨[], x⟩

instance : MonadLift (Except ε) (Report ε) where
  monadLift := ofExcept

instance : MonadExceptOf ε (Report ε) where
  throw e := ⟨[], .error e⟩
  tryCatch r h :=
    match r.outcome with
    | .ok _ => r
    | .error e => ⟨r.log ++ (h e).log, (h e).outcome⟩

/-- The report with its failure put in other terms. -/
def mapError {ε' : Type} (f : ε → ε') (r : Report ε α) : Report ε' α :=
  ⟨r.log, r.outcome.mapError f⟩

/-- A result without events is what it reports. -/
@[simp]
theorem outcome_pure (a : α) :
  (pure a : Report ε α).outcome = .ok a
  := rfl

/-- An outcome without events is what it reports. -/
@[simp]
theorem outcome_ofExcept (x : Except ε α) :
  (ofExcept x).outcome = x
  := rfl

/-- The outcome of a sequence is that of its parts in turn. -/
theorem outcome_bind (r : Report ε α) (f : α → Report ε β) :
  (r >>= f).outcome = r.outcome >>= fun a => (f a).outcome
  := by
  change (Report.bind r f).outcome = _
  rw [Report.bind]
  cases r.outcome <;> rfl

instance : LawfulMonad (Report ε)
  := by
  refine LawfulMonad.mk' _ ?_ ?_ ?_
  · rintro α ⟨log, outcome⟩
    change Report.bind _ _ = _
    cases outcome <;> simp [Report.bind, Report.pure]
  · intro α β a f
    change Report.bind (Report.pure a) f = _
    simp [Report.bind, Report.pure]
  · rintro α β γ ⟨log, outcome⟩ f g
    change Report.bind (Report.bind _ f) g = Report.bind _ fun a => Report.bind (f a) g
    cases outcome with
    | error e => rfl
    | ok a => cases h : (f a).outcome <;> simp [Report.bind, h]

end Report

end ClientWrap
