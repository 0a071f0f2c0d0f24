/-
  Pseudocode.Trace — computations that note what they do.

  An `Event` is a step of an analysis worth noting; each has a level and a message. A `Traced`
  computation lists its events in order and ends with a value or a fault; the events before a
  fault are kept. `Traced` is a monad, and its `outcome` alone is the plain computation
  (`outcome_bind`), so what a computation decides does not depend on what it notes.
-/

import Pseudocode.Fault

namespace Pseudocode

/-- How much detail an event is. -/
inductive Level where
  | info
  | debug
  | trace
  deriving DecidableEq, Repr

def Level.name : Level → String
  | .info => "INFO"
  | .debug => "DEBUG"
  | .trace => "TRACE"

/-- A step worth noting. -/
inductive Event where
  | recordsRead (count : Nat)
  | sectionsFound (declarations body : Nat)
  | programNamed (lexeme : String) (line : Nat)
  | variableDeclared (type : ValueType) (lexeme : String) (address : Nat) (scope : String)
  | referenceResolved (lexeme : String) (line address : Nat)
  | conditionSpanned (construct : Construct) (first last : Nat)
  | untypedTargetAccepted (lexeme : String)
  | analysisComplete (symbols references : Nat)
  deriving DecidableEq, Repr

namespace Event

def level : Event → Level
  | analysisComplete .. => .info
  | recordsRead _ => .debug
  | sectionsFound .. => .debug
  | programNamed .. => .debug
  | variableDeclared .. => .debug
  | referenceResolved .. => .trace
  | conditionSpanned .. => .trace
  | untypedTargetAccepted _ => .trace

def message : Event → String
  | recordsRead n => s!"read {n} token records"
  | sectionsFound d b => s!"{d} declaration tokens, {b} body tokens"
  | programNamed lexeme line => s!"program '{lexeme}' on line {line}"
  | variableDeclared type lexeme address scope =>
    s!"declared {type.name} '{lexeme}' at address {address} in scope '{scope}'"
  | referenceResolved lexeme line address => s!"'{lexeme}' on line {line} -> {address}"
  | conditionSpanned construct first last =>
    s!"{construct.word} condition spans tokens {first}..={last}"
  | untypedTargetAccepted lexeme =>
    s!"leading statement has no typed target; '{lexeme}' accepted"
  | analysisComplete symbols references =>
    s!"semantic analysis complete: {symbols} symbols, {references} references resolved"

end Event

/-- A sequence succeeds when each part does. -/
theorem except_bind_eq_ok_iff {ε α β : Type} {x : Except ε α} {f : α → Except ε β} {b : β} :
    (x >>= f) = .ok b ↔ ∃ a, x = .ok a ∧ f a = .ok b := by
  cases x with
  | error e => exact ⟨fun h => (nomatch h), fun ⟨_, h, _⟩ => (nomatch h)⟩
  | ok a =>
    constructor
    · intro h
      exact ⟨a, rfl, h⟩
    · rintro ⟨_, ⟨⟩, h⟩
      exact h

/-- The events of a computation, in order, and what it ends with. -/
structure Traced (α : Type) where
  events : List Event
  outcome : Except Fault α

namespace Traced

variable {α β : Type}

protected def pure (a : α) : Traced α := ⟨[], .ok a⟩

protected def bind (x : Traced α) (f : α → Traced β) : Traced β :=
  match x.outcome with
  | .error fault => ⟨x.events, .error fault⟩
  | .ok a => ⟨x.events ++ (f a).events, (f a).outcome⟩

instance : Monad Traced where
  pure := Traced.pure
  bind := Traced.bind

/-- Notes one event. -/
def note (e : Event) : Traced Unit := ⟨[e], .ok ()⟩

/-- Ends with a fault. -/
def refuse (fault : Fault) : Traced α := ⟨[], .error fault⟩

/-- A plain computation, which notes nothing. -/
def lift (x : Except Fault α) : Traced α := ⟨[], x⟩

@[simp] theorem outcome_pure (a : α) : (pure a : Traced α).outcome = .ok a := rfl

@[simp] theorem outcome_note (e : Event) : (note e).outcome = .ok () := rfl

@[simp] theorem outcome_refuse (fault : Fault) : (refuse fault : Traced α).outcome = .error fault := rfl

@[simp] theorem outcome_lift (x : Except Fault α) : (lift x).outcome = x := rfl

/-- The outcome of a sequence is the sequence of the outcomes. -/
@[simp] theorem outcome_bind (x : Traced α) (f : α → Traced β) :
    (x >>= f).outcome = x.outcome >>= fun a => (f a).outcome := by
  show (Traced.bind x f).outcome = _
  unfold Traced.bind
  cases h : x.outcome <;> rfl

end Traced

end Pseudocode
