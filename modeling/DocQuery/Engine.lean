import DocQuery.Condition.Basic
import DocQuery.Registry

/-!
# Engines

An engine is what a query is compiled against: a registry of operators and a normalizer. A
context adds the settings of one query, and what changes while it is used.
-/

namespace DocQuery

/-- A registry of operators with a normalizer. -/
structure Engine where
  registry : Registry
  normalizer : Normalizer

namespace Engine

/-- The engine with the usual operators and rules. -/
def core : Engine := ⟨.core, .core⟩

/-- The engine without operators and rules. -/
def empty : Engine := ⟨.empty, .empty⟩

/-- Puts an operator under a key. -/
def register (e : Engine) (name key : String) (operator : Operator) : Engine :=
  { e with registry := e.registry.register name key operator }

/-- Adds a rule for records. -/
def addRule (e : Engine) (rule : Rule) : Engine :=
  { e with normalizer := { e.normalizer with records := e.normalizer.records.add rule } }

/-- Adds a rule for values in conditions. -/
def addConditionRule (e : Engine) (rule : Rule) : Engine :=
  { e with normalizer := { e.normalizer with conditions := e.normalizer.conditions.add rule } }

end Engine

/-- An engine with the settings of a query, whether values are converted when they are taken out
of a record, and the record that is being traced. -/
structure Context where
  engine : Engine
  config : Entries
  converting : Bool
  current : Option Value

namespace Context

/-- A new context of an engine with the given settings. -/
def new (engine : Engine) (config : Entries) : Context := ⟨engine, config, true, none⟩

/-- A new context with other settings. -/
def fork (c : Context) (config : Entries) : Context := new c.engine config

/-- What surrounds an evaluation in the context. -/
def surroundings (c : Context) : Surroundings := ⟨c.config, c.current⟩

/-- A value taken out of a record. -/
def taken (c : Context) (v : Value) : Value :=
  if c.converting then c.engine.normalizer.convertTop v else v

/-- The full text of a context. -/
def dump (c : Context) : String :=
  "Context \x7b config: " ++ c.config.dump ++ ", need_convert: " ++ truthText c.converting ++
    ", operators: " ++ toString c.engine.registry.size ++ ", .. \x7d"

end Context

end DocQuery
