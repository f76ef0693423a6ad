/-
# FarmLedger.Proofs.Prices.History — a price row is the history of its accepted prices

The row of an asset is rebuilt, changed and written back with every price, over and over, while
other calls fail, rows are taken out and the clock goes forth and back. `chronicle` keeps, beside
a run, what no table keeps: for each row the prices that went to it since it was created and that
the guard accepted, each with its time. It asks the upsert which row it was (`routePrice`) and the
guard what it says (`admits`), and looks at no window.

`price_rows_retell` is the main result: however the run went, the window of every row is the last
of the windows into which its prices are cut greedily. `Chronicle.note_routed` is its step, from
what one price does to a row (`Quotes`); nothing else changes a row or its chronicle.
-/
import FarmLedger.Proofs.Prices.Put
import Mathlib.Logic.Function.Basic

namespace FarmLedger

open FarmLedger.Time

/-- The accepted prices of each row, by its id. -/
abbrev Chronicle : Type := Nat → List Observation

/-- The guard lets a price into the window of the row under an id. -/
def admits (settings : Settings) (database : Database) (id : Nat) (price : Float) : Bool :=
  match Guard.ofSetting settings.limit, (database.rowAt .tokenPrice id).map fun stored =>
      priceWindow stored.row with
  | .ok guard, some (.ok window) => (guard.judge (some window.standing) price).accepted
  | _, _ => false

namespace Chronicle

/-- The chronicle after a price: a new row begins with it, and a row that was there adds it if the
guard lets it in. -/
def notePrice (settings : Settings) (now : Timestamp) (sample : PriceSample) (database : Database)
    (chronicle : Chronicle) : Chronicle :=
  match (routePrice settings now sample database).result, Window.utc now with
  | .ok ⟨id, true⟩, .ok moment => Function.update chronicle id [⟨moment, sample.price⟩]
  | .ok ⟨id, false⟩, .ok moment =>
    if admits settings database id sample.price then
      Function.update chronicle id (chronicle id ++ [⟨moment, sample.price⟩])
    else chronicle
  | _, _ => chronicle

def note (settings : Settings) (request : Request) (database : Database) (chronicle : Chronicle) :
    Chronicle :=
  match request.call with
  | .putTokenPrice sample => chronicle.notePrice settings request.now sample database
  | _ => chronicle

def noteAll (settings : Settings) : List Request → Database → Chronicle → Chronicle
  | [], _, chronicle => chronicle
  | request :: requests, database, chronicle =>
    noteAll settings requests (request.apply settings database)
      (chronicle.note settings request database)

end Chronicle

/-- The accepted prices of each row after a run that begins without any. -/
def Ledger.chronicle (ledger : Ledger) (steps : List Step) : Chronicle :=
  Chronicle.noteAll ledger.settings (ledger.requests steps) ledger.database fun _ => []

/-- Every price row holds the last window of its prices. -/
def Retold (length : Duration) (database : Database) (chronicle : Chronicle) : Prop :=
  ∀ stored ∈ database.rows .tokenPrice, ∃ window,
    priceWindow stored.row = .ok window ∧ window.Retells length (chronicle stored.id)

variable {settings : Settings} {now : Timestamp} {sample : PriceSample} {guard : Guard}
  {length : Duration} {database after : Database} {chronicle : Chronicle} {upserted : Upserted}
  {old : Stored .tokenPrice} {row : Row .tokenPrice}

theorem admits_of_mem {window : Window} (price : Float)
    (limited : Guard.ofSetting settings.limit = .ok guard)
    (mem : old ∈ database.rows .tokenPrice) (held : priceWindow old.row = .ok window) :
    admits settings database old.id price =
      (guard.judge (some window.standing) price).accepted := by
  unfold admits
  rw [limited, Database.rowAt_of_mem mem, Option.map_some, held]

/-! ## One price -/

namespace Chronicle

/-- The rows that a price did not go to keep their samples. -/
theorem notePrice_other {id : Nat}
    (answered : (routePrice settings now sample database).result = .ok upserted)
    (different : id ≠ upserted.id) :
    chronicle.notePrice settings now sample database id = chronicle id := by
  obtain ⟨target, created⟩ := upserted
  unfold notePrice
  rw [answered]
  cases Window.utc now with
  | error _ => cases created <;> rfl
  | ok moment =>
    cases created with
    | true => exact Function.update_of_ne different _ _
    | false =>
      simp only
      split
      · exact Function.update_of_ne different _ _
      · rfl

theorem retold_created (created : upserted.created = true)
    (answered : (routePrice settings now sample database).result = .ok upserted)
    (quotes : Quotes guard length now sample none row) :
    ∃ window, priceWindow row = .ok window ∧
      window.Retells length (chronicle.notePrice settings now sample database upserted.id) := by
  obtain ⟨id, _⟩ := upserted
  obtain rfl : _ = true := created
  cases quotes with
  | created begun names shows keeps =>
    obtain ⟨kept, held, keeps⟩ := keeps
    obtain ⟨moment, _, read, _, _⟩ := Window.begin_ok begun
    refine ⟨kept, held, ?_⟩
    have noted : chronicle.notePrice settings now sample database id =
        [⟨moment, sample.price⟩] := by
      unfold notePrice
      rw [answered, read]
      exact Function.update_self _ _ _
    rw [noted]
    exact Window.Retells.begin read begun keeps

theorem retold_revised (created : upserted.created = false)
    (answered : (routePrice settings now sample database).result = .ok upserted)
    (limited : Guard.ofSetting settings.limit = .ok guard)
    (mem : old ∈ database.rows .tokenPrice) (same : old.id = upserted.id)
    (retold : ∃ window, priceWindow old.row = .ok window ∧
      window.Retells length (chronicle old.id))
    (quotes : Quotes guard length now sample (some old.row) row) :
    ∃ window, priceWindow row = .ok window ∧
      window.Retells length (chronicle.notePrice settings now sample database upserted.id) := by
  obtain ⟨id, _⟩ := upserted
  obtain rfl : _ = false := created
  obtain rfl : old.id = id := same
  obtain ⟨before, heldBefore, retells⟩ := retold
  cases quotes with
  | @accepted _ _ window update held judged observed names shows keeps =>
    obtain rfl : before = window := Except.ok.inj (heldBefore.symm.trans held)
    obtain ⟨kept, heldAfter, keeps⟩ := keeps
    obtain ⟨moment, read, _⟩ := Window.observeOrRollOver_ok observed
    refine ⟨kept, heldAfter, ?_⟩
    have noted : chronicle.notePrice settings now sample database old.id =
        chronicle old.id ++ [⟨moment, sample.price⟩] := by
      have admitted := (admits_of_mem sample.price limited mem held).trans judged
      unfold notePrice
      rw [answered, read]
      simp only [admitted, if_true]
      exact Function.update_self _ _ _
    rw [noted]
    have number := Number.not_isNaN_of_beq (Number.beq_symm shows.price)
    exact retells.next read observed keeps number
  | @rejected _ _ window held judged names shows keeps =>
    obtain rfl : before = window := Except.ok.inj (heldBefore.symm.trans held)
    refine ⟨before, keeps, ?_⟩
    have noted : chronicle.notePrice settings now sample database old.id = chronicle old.id := by
      have refused := (admits_of_mem sample.price limited mem held).trans judged
      unfold notePrice
      rw [answered]
      cases Window.utc now with
      | error _ => rfl
      | ok moment => simp only [refused, Bool.false_eq_true, if_false]
    rw [noted]
    exact retells

/-- A price that goes to a row leaves all rows retold. -/
theorem note_routed (retold : Retold length database chronicle)
    (answered : (routePrice settings now sample database).result = .ok upserted)
    (limited : Guard.ofSetting settings.limit = .ok guard)
    (routes : Routes guard length now sample database upserted after) :
    Retold length after (chronicle.notePrice settings now sample database) := by
  intro stored mem
  rcases routes.mem mem with
    ⟨different, oldMem⟩ | ⟨same, created, quotes⟩ | ⟨same, created, old, oldMem, id, quotes⟩
  · rw [notePrice_other answered different]
    exact retold stored oldMem
  · rw [same]
    exact retold_created created answered quotes
  · rw [same]
    exact retold_revised created answered limited oldMem id (retold old oldMem) quotes

/-- A price that fails is not noted. -/
theorem notePrice_failed {failure : Failure}
    (answered : (routePrice settings now sample database).result = .error failure) :
    chronicle.notePrice settings now sample database = chronicle := by
  unfold notePrice
  rw [answered]

/-! ## Requests and runs -/

theorem note_retold {request : Request} (retold : Retold settings.windowLength database chronicle) :
    Retold settings.windowLength (request.apply settings database)
      (chronicle.note settings request database) := by
  rcases apply_price_cases settings database request with
    ⟨sublist, failed⟩ | ⟨sample, upserted, guard, call, answered, limited, routes⟩
  · have noted : chronicle.note settings request database = chronicle := by
      unfold note
      split
      · next sample call =>
        obtain ⟨failure, answered⟩ := failed sample call
        exact notePrice_failed answered
      · rfl
    rw [noted]
    intro stored mem
    exact retold stored (sublist.subset mem)
  · have noted : chronicle.note settings request database =
        chronicle.notePrice settings request.now sample database := by
      simp only [note, call]
    rw [noted]
    exact note_routed retold answered limited routes

theorem noteAll_retold {requests : List Request}
    (retold : Retold settings.windowLength database chronicle) :
    Retold settings.windowLength (Request.applyAll settings requests database)
      (noteAll settings requests database chronicle) := by
  induction requests generalizing database chronicle with
  | nil => exact retold
  | cons request requests ih => exact ih (note_retold retold)

end Chronicle

/-- **Every price row holds the last window of its accepted prices.** The prices since the row was
created are cut into windows greedily, by the time at which each was put and the length that is
set. The row's list is the last of these windows item by item, its start is the time of the first
of them and its end lies one length later, its average is theirs, and the average of the last
period is that of the window before, or zero. -/
theorem price_rows_retell {ledger : Ledger} {steps : List Step} {stored : Stored .tokenPrice}
    (fresh : ledger.database = Database.fresh)
    (allowed : ∀ step ∈ steps, step.isRequest = true)
    (mem : stored ∈ (ledger.run steps).1.database.rows .tokenPrice) :
    ∃ earlier first inside window,
      windowsOf ledger.settings.windowLength (ledger.chronicle steps stored.id) =
        earlier ++ [first :: inside] ∧
      priceWindow stored.row = .ok window ∧
      window.Shows ledger.settings.windowLength earlier first inside := by
  have start : Retold ledger.settings.windowLength ledger.database fun _ => [] := by
    intro stored mem
    rw [fresh, Database.rows_fresh] at mem
    cases mem
  rw [Ledger.run_requests allowed] at mem
  obtain ⟨window, held, earlier, first, inside, cut, shows⟩ :=
    Chronicle.noteAll_retold start stored mem
  exact ⟨earlier, first, inside, window, cut, held, shows⟩

/-- Two prices of an asset, the second after the end of the window of the first. -/
def twoPrices : List Step := [
  .call (.putTokenPrice ⟨"RAY", "ORCA", 2.0, 0.0, 0.0, some "mint"⟩),
  .setClock afterWindow,
  .call (.putTokenPrice ⟨"RAY", "ORCA", 2.25, 0.0, 0.0, some "mint"⟩)]

/-- After two windows there is a row to speak of, and both of its prices are told apart. -/
theorem twoPrices_retell :
    ∃ stored ∈ (emptyLedger.run twoPrices).1.database.rows .tokenPrice,
      (emptyLedger.chronicle twoPrices stored.id).length = 2 ∧
      ∃ earlier first inside window,
        windowsOf emptyLedger.settings.windowLength (emptyLedger.chronicle twoPrices stored.id) =
          earlier ++ [first :: inside] ∧
        priceWindow stored.row = .ok window ∧
        window.Shows emptyLedger.settings.windowLength earlier first inside := by
  have two : ∃ stored ∈ (emptyLedger.run twoPrices).1.database.rows .tokenPrice,
      (emptyLedger.chronicle twoPrices stored.id).length = 2 := by
    decide +kernel
  obtain ⟨stored, mem, two⟩ := two
  exact ⟨stored, mem, two, price_rows_retell rfl (by simp [twoPrices, Step.isRequest]) mem⟩

end FarmLedger
