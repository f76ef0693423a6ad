/-
# FarmLedger.Proofs.Writers.Watch — who wrote a row first, and who last

A row that many puts go to remembers two of them: the first, which created it, and the last. To
say so of a whole run one has to watch the row: to keep, beside the run, the puts that went to it
since it was last taken out (`Ledger.putsTo`). A `Watch` says which row is watched, which puts go to
it, and what a row has of its first and of its last put.

A request spares the watched row, opens it, renews it or takes it out (`Turn`); that it does one of
these four is all that has to be shown for a watch (`Watch.Lawful`). What follows for runs is shown
here once: the row is as the puts tell (`Tells`), and as long as none of them comes and nothing
takes it out, it is the very same row (`Lawful.untouched`).
-/
import FarmLedger.Proofs.Ledger.Requests

namespace FarmLedger

open FarmLedger.Time

/-- A put that went through, and the id of its row. -/
structure Written (σ : Type) where
  id : Nat
  sample : σ

/-- A row that is watched, and what is put into it. -/
structure Watch (e : Entity) (σ : Type) where
  isIt : Stored e → Bool
  /-- What the request puts into the row, if it goes through. -/
  puts : Settings → Request → Database → List (Written σ)
  /-- The row has what it takes from the first put only. -/
  first : Row e → σ → Prop
  /-- The row has what it takes from each put. -/
  last : Row e → σ → Prop

namespace Watch

variable {e : Entity} {σ : Type}

section Log

variable (watch : Watch e σ) (settings : Settings)

def takesOut (request : Request) (database : Database) : Bool :=
  match request.call with
  | .delete other criterion =>
    decide (other = e) &&
      match Query.rows ({ criterion } : Query e) none database with
      | .ok found => found.any watch.isIt
      | .error _ => false
  | _ => false

/-- The puts into the row after a request: none if it is taken out. -/
def note (request : Request) (database : Database) (entries : List (Written σ)) :
    List (Written σ) :=
  if watch.takesOut request database then []
  else entries ++ watch.puts settings request database

def noteAll : List Request → Database → List (Written σ) → List (Written σ)
  | [], _, entries => entries
  | request :: requests, database, entries =>
    noteAll requests (request.apply settings database)
      (watch.note settings request database entries)

/-- One of the requests puts something into the row or takes it out. -/
def touched : List Request → Database → Bool
  | [], _ => false
  | request :: requests, database =>
    watch.takesOut request database || !(watch.puts settings request database).isEmpty ||
      touched requests (request.apply settings database)

end Log

/-- The rows tell what was put into the watched one: without a put there is none, and otherwise it
has the id and the fixed columns of the first put, and the other columns of the last. -/
def Tells (watch : Watch e σ) (rows : List (Stored e)) : List (Written σ) → Prop
  | [] => ∀ stored ∈ rows, watch.isIt stored = false
  | first :: later => ∃ stored ∈ rows, watch.isIt stored = true ∧ stored.id = first.id ∧
      watch.first stored.row first.sample ∧ watch.last stored.row (later.getLastD first).sample

/-- The watched row is the same among the rows as among the others. -/
def Same (watch : Watch e σ) (rows others : List (Stored e)) : Prop :=
  ∀ stored, watch.isIt stored = true → (stored ∈ rows ↔ stored ∈ others)

/-- At most one row is the watched one. -/
def Unique (watch : Watch e σ) (rows : List (Stored e)) : Prop :=
  ∀ a ∈ rows, ∀ b ∈ rows, watch.isIt a = true → watch.isIt b = true → a = b

/-- What a request means for the watched row. -/
inductive Turn (watch : Watch e σ) (before after : Database) : Bool → List (Written σ) → Prop
  | spared (same : watch.Same (after.rows e) (before.rows e)) : Turn watch before after false []
  | opened (stored : Stored e) {sample : σ}
      (fresh : ∀ old ∈ before.rows e, watch.isIt old = false) (mem : stored ∈ after.rows e)
      (own : watch.isIt stored = true) (first : watch.first stored.row sample)
      (last : watch.last stored.row sample) :
      Turn watch before after false [⟨stored.id, sample⟩]
  | renewed {old : Stored e} (stored : Stored e) {sample : σ} (oldMem : old ∈ before.rows e)
      (oldOwn : watch.isIt old = true) (mem : stored ∈ after.rows e)
      (own : watch.isIt stored = true) (id : stored.id = old.id)
      (first : ∀ sample, watch.first old.row sample → watch.first stored.row sample)
      (last : watch.last stored.row sample) :
      Turn watch before after false [⟨old.id, sample⟩]
  | takenOut (gone : ∀ stored ∈ after.rows e, watch.isIt stored = false) :
      Turn watch before after true []

/-- Where the invariant holds, there is at most one row to watch, and every request takes one of
the turns. -/
structure Lawful (watch : Watch e σ) (settings : Settings) (Good : Database → Prop) : Prop where
  unique {database : Database} (good : Good database) : watch.Unique (database.rows e)
  keeps {database : Database} (request : Request) (good : Good database) :
    Good (request.apply settings database)
  turn {database : Database} (request : Request) (good : Good database) :
    watch.Turn database (request.apply settings database) (watch.takesOut request database)
      (watch.puts settings request database)

variable {watch : Watch e σ} {settings : Settings} {request : Request} {requests : List Request}
  {before after database : Database} {entries new : List (Written σ)} {Good : Database → Prop}

/-! ## Turns -/

theorem Turn.kept (same : after.rows e = before.rows e) : watch.Turn before after false [] :=
  .spared fun stored _ => by rw [same]

theorem takesOut_eq_false (undeleted : ∀ criterion, request.call ≠ .delete e criterion) :
    watch.takesOut request database = false := by
  unfold takesOut
  split
  · next other criterion called =>
    have different : other ≠ e := by
      rintro rfl
      exact undeleted criterion called
    rw [decide_eq_false different, Bool.false_and]
  · rfl

/-- A deletion spares the watched row or takes it out. -/
theorem turn_delete {criterion : Criterion} (unique : watch.Unique (database.rows e))
    (called : request.call = .delete e criterion) :
    watch.Turn database (request.apply settings database) (watch.takesOut request database) [] := by
  have applied : request.apply settings database = (remove e criterion database).database := by
    unfold Request.apply
    rw [called]
    rfl
  rw [applied]
  simp only [takesOut, called, decide_true, Bool.true_and]
  cases asked : Query.rows ({ criterion } : Query e) none database with
  | error failure =>
    rw [remove_error (remove_failed asked)]
    exact .kept rfl
  | ok found =>
    show watch.Turn database _ (found.any watch.isIt) []
    cases hit : found.any watch.isIt with
    | true =>
      obtain ⟨victim, victimMem, own⟩ := List.any_eq_true.1 hit
      refine .takenOut fun stored mem => Bool.eq_false_iff.2 fun same => ?_
      obtain ⟨storedMem, spared⟩ := (mem_removed asked).1 mem
      have victimAmong := Database.read_subset asked victimMem
      -- There is no other row to watch than the one that is taken out.
      rw [unique stored storedMem victim victimAmong same own] at spared
      exact spared victimMem
    | false =>
      refine .spared fun stored own => ?_
      have spared : stored ∉ found := fun mem => by
        simpa [own] using List.any_eq_false.1 hit stored mem
      rw [mem_removed asked]
      exact and_iff_left spared

/-- An upsert whose row is not watched, neither as it was nor as it is, spares the watched row. -/
theorem Same.of_upserts {clause : Clause e} {create : Except Failure (Draft e)}
    {revise : Row e → Revising e} {upserted : Upserted}
    (upserts : Upserts clause create revise before upserted after)
    (other : ∀ stored ∈ before.rows e ++ after.rows e, stored.id = upserted.id →
      watch.isIt stored = false) : watch.Same (after.rows e) (before.rows e) := by
  intro stored own
  have apart (mem : stored ∈ before.rows e ++ after.rows e) : stored.id ≠ upserted.id := by
    intro same
    rw [other stored mem same] at own
    cases own
  cases upserts with
  | @created table draft row stands _ _ _ =>
    rw [Database.rows_of_table stands, Database.rows_put] at apart ⊢
    refine ⟨fun mem => ?_, fun mem => Table.mem_append.2 (.inl mem)⟩
    rcases Table.mem_append.1 mem with old | rfl
    · exact old
    · exact absurd rfl (apart (List.mem_append_right _ mem))
  | @revised table first revision row stands _ _ _ =>
    rw [Database.rows_of_table stands, Database.rows_put] at apart ⊢
    constructor
    · intro mem
      rcases Table.mem_replace mem with ⟨_, old⟩ | rfl
      · exact old
      · exact absurd rfl (apart (List.mem_append_right _ mem))
    · exact fun mem => Table.mem_replace_other row mem (apart (List.mem_append_left _ mem))

/-! ### What they mean for the puts -/

theorem Tells.congr {rows others : List (Stored e)} (same : watch.Same others rows)
    (tells : watch.Tells rows entries) : watch.Tells others entries := by
  cases entries with
  | nil =>
    intro stored mem
    refine Bool.eq_false_iff.2 fun own => ?_
    rw [tells stored ((same stored own).1 mem)] at own
    cases own
  | cons first later =>
    obtain ⟨stored, mem, own, rest⟩ := tells
    exact ⟨stored, (same stored own).2 mem, own, rest⟩

theorem Turn.tells {taken : Bool} (unique : watch.Unique (before.rows e))
    (turn : watch.Turn before after taken new) (tells : watch.Tells (before.rows e) entries) :
    watch.Tells (after.rows e) (if taken then [] else entries ++ new) := by
  cases turn with
  | spared same =>
    rw [if_neg Bool.false_ne_true, List.append_nil]
    exact tells.congr same
  | @opened stored sample fresh mem own first last =>
    rw [if_neg Bool.false_ne_true]
    cases entries with
    | nil => exact ⟨stored, mem, own, rfl, first, last⟩
    | cons earlier later =>
      obtain ⟨old, oldMem, oldOwn, _⟩ := tells
      rw [fresh old oldMem] at oldOwn
      cases oldOwn
  | @renewed old stored sample oldMem oldOwn mem own id first last =>
    rw [if_neg Bool.false_ne_true]
    cases entries with
    | nil =>
      rw [tells old oldMem] at oldOwn
      cases oldOwn
    | cons earlier later =>
      obtain ⟨told, toldMem, toldOwn, opened, began, _⟩ := tells
      obtain rfl : told = old := unique told toldMem old oldMem toldOwn oldOwn
      refine ⟨stored, mem, own, id.trans opened, first earlier.sample began, ?_⟩
      show watch.last stored.row
        ((later ++ [(⟨told.id, sample⟩ : Written σ)]).getLastD earlier).sample
      rw [List.getLastD_concat]
      exact last
  | takenOut gone => exact gone

/-! ## Runs -/

/-- What was put into the row, a request put into it. -/
theorem mem_noteAll {written : Written σ}
    (mem : written ∈ watch.noteAll settings requests database entries) :
    written ∈ entries ∨
      ∃ request ∈ requests, ∃ before, written ∈ watch.puts settings request before := by
  induction requests generalizing database entries with
  | nil => exact .inl mem
  | cons request requests ih =>
    rcases ih mem with noted | ⟨other, among, before, put⟩
    · unfold note at noted
      split at noted
      · cases noted
      · rcases List.mem_append.1 noted with earlier | put
        · exact .inl earlier
        · exact .inr ⟨request, List.mem_cons_self, database, put⟩
    · exact .inr ⟨other, List.mem_cons_of_mem _ among, before, put⟩

namespace Lawful

theorem noteAll_tells (lawful : watch.Lawful settings Good) (good : Good database)
    (tells : watch.Tells (database.rows e) entries) :
    watch.Tells ((Request.applyAll settings requests database).rows e)
      (watch.noteAll settings requests database entries) := by
  induction requests generalizing database entries with
  | nil => exact tells
  | cons request requests ih =>
    refine ih (lawful.keeps request good) ?_
    exact (lawful.turn request good).tells (lawful.unique good) tells

/-- **What is neither put nor taken out stays the same row.** -/
theorem untouched (lawful : watch.Lawful settings Good) (good : Good database)
    (spared : watch.touched settings requests database = false) :
    watch.Same ((Request.applyAll settings requests database).rows e) (database.rows e) := by
  induction requests generalizing database with
  | nil => exact fun _ _ => .rfl
  | cons request requests ih =>
    simp only [touched, Bool.or_eq_false_iff, Bool.not_eq_false', List.isEmpty_iff] at spared
    obtain ⟨⟨kept, silent⟩, later⟩ := spared
    have turn := lawful.turn request good
    rw [kept, silent] at turn
    cases turn with
    | spared same =>
      exact fun stored own => (ih (lawful.keeps request good) later stored own).trans
        (same stored own)

theorem applyAll_good (lawful : watch.Lawful settings Good) (good : Good database) :
    Good (Request.applyAll settings requests database) :=
  Request.applyAll_invariant good fun request _ _ good => lawful.keeps request good

end Lawful

end Watch

namespace Ledger

variable {e : Entity} {σ : Type}

/-- The puts that went to the watched row in a run, since it was last taken out. -/
def putsTo (ledger : Ledger) (steps : List Step) (watch : Watch e σ) : List (Written σ) :=
  watch.noteAll ledger.settings (ledger.requests steps) ledger.database []

/-- In the run something is put into the watched row, or it is taken out. -/
def touches (ledger : Ledger) (steps : List Step) (watch : Watch e σ) : Bool :=
  watch.touched ledger.settings (ledger.requests steps) ledger.database

/-- What holds of the watched row when these puts went to it. -/
structure WrittenBy (ledger : Ledger) (watch : Watch e σ) (entries : List (Written σ)) : Prop where
  /-- There is at most one such row. -/
  unique : watch.Unique (ledger.database.rows e)
  /-- The first put made it, and the last one renewed it. -/
  tells : watch.Tells (ledger.database.rows e) entries
  /-- Without a put and a deletion of it, it stays the same row. -/
  lasts : ∀ later, (∀ step ∈ later, step.isRequest = true) →
    ledger.touches later watch = false →
      watch.Same ((ledger.run later).1.database.rows e) (ledger.database.rows e)

theorem run_settings {ledger : Ledger} (steps : List Step) :
    (ledger.run steps).1.settings = ledger.settings := by
  induction steps generalizing ledger with
  | nil => rfl
  | cons step steps ih => exact ih.trans (ledger.step_settings step)

/-- **A watched row is as its first and its last put made it.** -/
theorem writtenBy {ledger : Ledger} {steps : List Step} {watch : Watch e σ}
    {Good : Database → Prop} (lawful : watch.Lawful ledger.settings Good)
    (good : Good ledger.database) (empty : ledger.database.rows e = [])
    (allowed : ∀ step ∈ steps, step.isRequest = true) :
    (ledger.run steps).1.WrittenBy watch (ledger.putsTo steps watch) := by
  have start : watch.Tells (ledger.database.rows e) [] := by
    rw [empty]
    exact List.forall_mem_nil _
  have reached : Good (ledger.run steps).1.database := by
    rw [run_requests allowed]
    exact lawful.applyAll_good good
  refine ⟨lawful.unique reached, ?_, fun later requests spared => ?_⟩
  · rw [run_requests allowed]
    exact lawful.noteAll_tells good start
  · rw [run_requests requests, run_settings]
    unfold touches at spared
    rw [run_settings] at spared
    exact lawful.untouched reached spared

end Ledger

end FarmLedger
