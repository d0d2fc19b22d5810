/-
**The record of a resource that was last fetched.**

A resource keeps the record of its last successful inspection.  A record that does not say which
resource it is about is kept but not handed out again.

* `InspectCache` — the record, and whether it was said that there is none yet;
* `InspectCache.hit?` — the record to hand out without a query;
* `InspectCache.needsWarning`, `InspectCache.warn`, `InspectCache.keep` — the steps of an
  inspection that queries;
* `InspectCache.inspect` — **one inspection**, with any way to query.
-/

set_option relaxedAutoImplicit false
set_option autoImplicit false

namespace DockerClient

/-- The record that was last fetched, and whether it was said that there is none yet. -/
structure InspectCache (α : Type) where
  record : Option α := none
  warned : Bool := false
deriving DecidableEq, Repr

namespace InspectCache

variable {α σ ε : Type}

/-- The record to hand out without a query. -/
def hit? (isNamed : α → Bool) (useCache : Bool) (c : InspectCache α) : Option α :=
  if useCache then c.record.filter isNamed else none

/-- Whether a query is the first for which no record was there. -/
def needsWarning (c : InspectCache α) : Bool := c.record.isNone && !c.warned

/-- It was said that no record is there yet, if none is. -/
def warn (c : InspectCache α) : InspectCache α :=
  if c.record.isNone then { c with warned := true } else c

/-- Keeps a record. -/
def keep (c : InspectCache α) (record : α) : InspectCache α := { c with record := some record }

/-- What an inspection leads to: a result, the cache, and what the query left. -/
structure Inspection (α σ ε : Type) where
  result : Except ε α
  cache : InspectCache α
  after : σ

/-- **One inspection**: a record is handed out, or the query decides and a success is kept. -/
def inspect (isNamed : α → Bool) (useCache : Bool) (query : σ → Except ε α × σ)
    (c : InspectCache α) (s : σ) : Inspection α σ ε :=
  match c.hit? isNamed useCache with
  | some record => ⟨.ok record, c, s⟩
  | none =>
      match query s with
      | (.ok record, after) => ⟨.ok record, c.warn.keep record, after⟩
      | (.error e, after) => ⟨.error e, c.warn, after⟩

@[simp] theorem record_warn (c : InspectCache α) : c.warn.record = c.record := by
  unfold warn; split <;> rfl

@[simp] theorem record_keep (c : InspectCache α) (record : α) :
    (c.keep record).record = some record := rfl

/-- A record that is handed out is the kept one, and says what it is about. -/
theorem hit?_eq_some_iff {isNamed : α → Bool} {useCache : Bool} {c : InspectCache α} {record : α} :
    c.hit? isNamed useCache = some record ↔
      useCache = true ∧ c.record = some record ∧ isNamed record = true := by
  unfold hit?
  cases useCache <;> simp [Option.filter_eq_some_iff]

end InspectCache

end DockerClient
