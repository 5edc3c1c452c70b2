import QueryGateway.Log.Record
import QueryGateway.Value.Key

/-!
# The invocation cache

A table from keys to values that lives as long as one invocation. Keys are values that are the same
when they are equal as numbers, texts, byte strings or tuples (`Value.Key`); a value that is no key is
refused before anything else happens. A stored null is not an absent entry.

`evict` empties the table and tells how many entries it dropped, unless there were none.
-/

namespace QueryGateway

/-- The entries of a cache, the oldest key first. No two keys are the same. -/
structure Cache where
  entries : List (Key × Value)
deriving Repr, Inhabited

namespace Cache

def empty : Cache := ⟨[]⟩

def size (c : Cache) : Nat := c.entries.length

def nonempty (c : Cache) : Bool := 0 < c.size

def get? (c : Cache) (k : Key) : Option Value := (c.entries.find? fun e => e.1.same k).map (·.2)

def contains (c : Cache) (k : Key) : Bool := c.entries.any fun e => e.1.same k

def insertInto (k : Key) (v : Value) : List (Key × Value) → List (Key × Value)
  | [] => [(k, v)]
  | (l, w) :: rest => if l.same k then (l, v) :: rest else (l, w) :: insertInto k v rest

def insert (c : Cache) (k : Key) (v : Value) : Cache := ⟨insertInto k v c.entries⟩

def logger : Text := "src.utils.invocation_cache"

/-- The record of an eviction. -/
def evictedRecord (entries : Nat) : Log.Record :=
  ⟨Log.debug, logger, "Invocation cache evicted", none,
    [("evicted_entries", .int entries)], none⟩

/-- The empty cache, and a record of what was dropped if anything was. -/
def evict (c : Cache) : Cache × List Log.Record :=
  if c.nonempty then (empty, [evictedRecord c.size]) else (c, [])

/-! ## Operations by value -/

def lookup (c : Cache) (key default : Value) : Except Failure Value :=
  match Key.ofValue key with
  | .error kind => .error (.unhashable kind)
  | .ok k => .ok ((c.get? k).getD default)

def has (c : Cache) (key : Value) : Except Failure Bool :=
  match Key.ofValue key with
  | .error kind => .error (.unhashable kind)
  | .ok k => .ok (c.contains k)

def store (c : Cache) (key v : Value) : Except Failure Cache :=
  match Key.ofValue key with
  | .error kind => .error (.unhashable kind)
  | .ok k => .ok (c.insert k v)

/-- What makes a missing value. It sees the cache and may change it, whether it succeeds or not. -/
abbrev Factory := Cache → Except Failure Value × Cache

/-- The value under a key, made and stored if it is missing. Tells whether the factory was run, the
outcome and the cache afterwards; what the factory stored under the key itself is overwritten. -/
def getOrMake (c : Cache) (key : Value) (make : Factory) : Bool × Except Failure Value × Cache :=
  match Key.ofValue key with
  | .error kind => (false, .error (.unhashable kind), c)
  | .ok k =>
    match c.get? k with
    | some v => (false, .ok v, c)
    | none =>
      match make c with
      | (.ok v, c) => (true, .ok v, c.insert k v)
      | (.error f, c) => (true, .error f, c)

/-! ## Runs -/

/-- One use of a cache. The factory of `getOrMake` may itself use the cache before it ends. -/
inductive Use where
  | get (key default : Value)
  | set (key v : Value)
  | contains (key : Value)
  | size
  | nonempty
  | evict
  | getOrMake (key : Value) (first : List Use) (outcome : Except Failure Value)

inductive Answer where
  | value (v : Value)
  | failed (f : Failure)
  | made (ran : Bool) (outcome : Except Failure Value)

def Answer.ofExcept : Except Failure Value → Answer
  | .ok v => .value v
  | .error f => .failed f

mutual

/-- The answer of one use, the cache after it and the records it left. -/
def use (c : Cache) : Use → Answer × Cache × List Log.Record
  | .get key default => (.ofExcept (c.lookup key default), c, [])
  | .set key v =>
    match c.store key v with
    | .ok c => (.value .null, c, [])
    | .error f => (.failed f, c, [])
  | .contains key => (.ofExcept ((c.has key).map .bool), c, [])
  | .size => (.value (.int c.size), c, [])
  | .nonempty => (.value (.bool c.nonempty), c, [])
  | .evict => (.value .null, c.evict.1, c.evict.2)
  | .getOrMake key first outcome =>
    let made := c.getOrMake key fun c => (outcome, (useAll c first).1)
    (.made made.1 made.2.1, made.2.2, if made.1 then (useAll c first).2 else [])

def useAll (c : Cache) : List Use → Cache × List Log.Record
  | [] => (c, [])
  | u :: rest =>
    let (_, c, logs) := use c u
    let (c, more) := useAll c rest
    (c, logs ++ more)

end

end Cache

end QueryGateway
