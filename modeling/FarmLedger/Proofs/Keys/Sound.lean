/-
# FarmLedger.Proofs.Keys.Sound — what the database watches over

Rows are written only if they pass the conditions of their table and share no natural key with
another row. So at all times the rows of a table keep its conditions, and no two of them have one
natural key (`Sound`): every write keeps this (`stable_sound`), hence every run does.
-/
import FarmLedger.Proofs.Keys.Natural
import FarmLedger.Proofs.Ledger.Stable

namespace FarmLedger

variable {e : Entity} {table : Table e} {rows others : List (Stored e)} {row : Row e}

/-- No two rows have one natural key. -/
def OnePerKey (rows : List (Stored e)) : Prop :=
  ∀ a ∈ rows, ∀ b ∈ rows, ∀ key,
    a.row.naturalKey? = some key → b.row.naturalKey? = some key → a = b

/-- If all rows that a clause selects have one natural key, then it selects one at most. -/
theorem OnePerKey.rest_eq_nil {clause : Clause e} {first : Stored e} {rest : List (Stored e)}
    {key : NaturalKey} (onePerKey : OnePerKey table.rows)
    (found : table.select clause = first :: rest)
    (keyed : ∀ stored ∈ table.select clause, stored.row.naturalKey? = some key) : rest = [] := by
  cases rest with
  | nil => rfl
  | cons second rest =>
    have within : table.select clause ⊆ table.rows := List.filter_sublist.subset
    have ascending : (table.select clause).Pairwise fun a b => a.id < b.id :=
      (List.pairwise_map.1 table.ascending).sublist List.filter_sublist
    have firstMem : first ∈ table.select clause := found ▸ List.mem_cons_self
    have secondMem : second ∈ table.select clause :=
      found ▸ List.mem_cons_of_mem _ List.mem_cons_self
    have same := onePerKey first (within firstMem) second (within secondMem) key
      (keyed first firstMem) (keyed second secondMem)
    rw [found] at ascending
    have less := (List.pairwise_cons.1 ascending).1 second List.mem_cons_self
    rw [same] at less
    exact absurd less (Nat.lt_irrefl _)

/-- The rows keep the conditions of their table, and no two of them have one natural key. -/
structure Sound (rows : List (Stored e)) : Prop where
  conditions : ∀ stored ∈ rows, stored.row.checkConditions = .ok ()
  onePerKey : OnePerKey rows

namespace Sound

theorem nil : Sound ([] : List (Stored e)) :=
  ⟨List.forall_mem_nil _, List.forall_mem_nil _⟩

theorem subset (sound : Sound rows) (within : others ⊆ rows) : Sound others :=
  ⟨fun stored mem => sound.conditions stored (within mem),
    fun a memA b memB => sound.onePerKey a (within memA) b (within memB)⟩

/-- A row joins sound rows that it may stand beside. -/
theorem join {id : Nat} (sound : Sound rows) (conditions : row.checkConditions = .ok ())
    (keys : row.checkKeys (rows.map Stored.row) = .ok ())
    (within : ∀ stored ∈ others, stored ∈ rows ∨ stored = ⟨id, row⟩) : Sound others := by
  have apart {stored : Stored e} (mem : stored ∈ rows) {key : NaturalKey}
      (ours : row.naturalKey? = some key) : stored.row.naturalKey? ≠ some key :=
    Row.checkKeys_iff.1 keys stored.row (List.mem_map_of_mem mem) key ours
  constructor
  · intro stored mem
    rcases within stored mem with old | rfl
    · exact sound.conditions stored old
    · exact conditions
  · intro a memA b memB key keyA keyB
    rcases within a memA with oldA | rfl <;> rcases within b memB with oldB | rfl
    · exact sound.onePerKey a oldA b oldB key keyA keyB
    · exact absurd keyA (apart oldA keyB)
    · exact absurd keyB (apart oldB keyA)
    · rfl

theorem append {entries : Entries e} (sound : Sound table.rows)
    (makes : entries.Makes (table.rows.map Stored.row) row) : Sound (table.append row).rows :=
  sound.join makes.conditions makes.keys fun _ mem => Table.mem_append.1 mem

theorem replace {entries : Entries e} {id : Nat} (sound : Sound table.rows)
    (makes : entries.Makes ((table.rows.filter fun other => other.id != id).map Stored.row) row) :
    Sound (table.replace id row).rows := by
  have rest : Sound (table.rows.filter fun other => other.id != id) :=
    sound.subset List.filter_sublist.subset
  have within : ∀ stored ∈ (table.replace id row).rows,
      stored ∈ (table.rows.filter fun other => other.id != id) ∨ stored = ⟨id, row⟩ := by
    intro stored mem
    rcases Table.mem_replace mem with ⟨different, old⟩ | same
    · exact .inl (List.mem_filter.2 ⟨old, bne_iff_ne.2 different⟩)
    · exact .inr same
  exact rest.join makes.conditions makes.keys within

end Sound

/-! ## Databases -/

/-- Another table does not matter, and this one does through its rows. -/
theorem sound_put {e other : Entity} {database : Database} {table : Table other}
    (sound : Sound (database.rows e)) (written : e = other → Sound table.rows) :
    Sound ((database.put other table).rows e) := by
  by_cases same : e = other
  · subst same
    rw [Database.rows_put]
    exact written rfl
  · rw [Database.rows_congr (Database.put_other table (Ne.symm same))]
    exact sound

/-- **The database watches over its rows**: every write leaves the rows of an entity sound. -/
theorem stable_sound (e : Entity) : Stable fun database => Sound (database.rows e) where
  insert inserted sound := by
    obtain ⟨table, row, stands, makes, rfl, _⟩ := Database.insert_iff.1 inserted
    refine sound_put sound ?_
    rintro rfl
    rw [Database.rows_of_table stands] at sound
    exact sound.append makes
  update updated sound := by
    obtain ⟨table, row, stands, makes, rfl⟩ := Database.update_iff.1 updated
    refine sound_put sound ?_
    rintro rfl
    rw [Database.rows_of_table stands] at sound
    exact sound.replace makes
  delete deleted sound := by
    obtain ⟨table, stands, rfl⟩ := Database.delete_ok deleted
    refine sound_put sound ?_
    rintro rfl
    rw [Database.rows_of_table stands] at sound
    exact sound.subset List.filter_sublist.subset

/-- **After any run the rows of an entity are sound**, if there were none to begin with. -/
theorem run_sound {ledger : Ledger} {steps : List Step}
    (allowed : ∀ step ∈ steps, step.isRequest = true) (none_ : ledger.database.rows e = []) :
    Sound ((ledger.run steps).1.database.rows e) := by
  refine Ledger.run_keeps (stable_sound e) allowed ?_
  rw [none_]
  exact Sound.nil

end FarmLedger
