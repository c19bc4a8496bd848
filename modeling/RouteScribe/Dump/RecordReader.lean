/-
Module: RouteScribe.Dump.RecordReader
Layer: Dump
Purpose: Reading records whose fields come in any order. A reader knows its keys, takes in one field after the
  other, and builds the record from what it has. Readers of single fields are put together to a reader
  of the record. What reading a field takes, and how it can fail, is left to a monad.
Imports: none
Trusted boundary: human-reviewed spec
Main exports: RecordReader, RecordReader.pure, RecordReader.required, RecordReader.optional, RecordReader.and
Open obligations: none
-/

namespace RouteScribe

/-- A reader of records of `α` whose fields are nodes of `ν`, which are read in `m`. -/
structure RecordReader (ν : Type) (m : Type → Type) (α : Type) where
  /-- What is known of the record while it is read. -/
  State : Type
  /-- The keys of the fields, in the order in which the record lists them. -/
  keys : List String
  /-- What is known at first. -/
  start : State
  /-- Whether the field of a key has been taken in. -/
  isSet : State → String → Bool
  /-- Take in the field of a key. -/
  set : State → String → ν → m State
  /-- Whether a record without the field of a key is refused. -/
  isRequired : String → Bool
  /-- The record, or the key of a field that is missing. -/
  finish : State → Except String α

namespace RecordReader

variable {ν α β : Type} {m : Type → Type} [Monad m]

/-- The record without any field. -/
def pure (a : α) : RecordReader ν m α where
  State := Unit
  keys := []
  start := ()
  isSet _ _ := false
  set s _ _ := Pure.pure s
  isRequired _ := false
  finish _ := .ok a

/-- A single field, with the value that stands when it is missing, if there is one. -/
def field (key : String) (read : ν → m α) (missing : Option α) : RecordReader ν m α where
  State := Option α
  keys := [key]
  start := none
  isSet s k := k == key && s.isSome
  set s k node := if k = key then some <$> read node else Pure.pure s
  isRequired k := k == key && missing.isNone
  finish s :=
    match s, missing with
    | some a, _ => .ok a
    | none, some a => .ok a
    | none, none => .error key

/-- A field that must be there. -/
def required (key : String) (read : ν → m α) : RecordReader ν m α := field key read none

/-- A field that may be missing. -/
def optional (key : String) (missing : α) (read : ν → m α) : RecordReader ν m α :=
  field key read (some missing)

/-- The fields of two readers, the first of which builds the record from what the second one reads. -/
def and (r : RecordReader ν m (α → β)) (q : RecordReader ν m α) : RecordReader ν m β where
  State := r.State × q.State
  keys := r.keys ++ q.keys
  start := (r.start, q.start)
  isSet s k := r.isSet s.1 k || q.isSet s.2 k
  set s k node :=
    if r.keys.contains k then (fun t => (t, s.2)) <$> r.set s.1 k node
    else (fun t => (s.1, t)) <$> q.set s.2 k node
  isRequired k := r.isRequired k || q.isRequired k
  finish s :=
    match r.finish s.1 with
    | .error key => .error key
    | .ok build => (q.finish s.2).map build

end RecordReader

end RouteScribe
